import DataAccess.Url.Percent

/-!
# Paths

A path is a list of segments, each written after a slash. A segment of one dot stands for where it
is, one of two dots takes the segment before it away; a drive letter is never taken away. A path
that ends in such a segment ends in a slash.
-/

namespace DataAccess.Url

/-- A path: its encoded segments. -/
abbrev Path := List (List Char)

namespace Path

/-- Tabs and line ends, which are passed over wherever they stand in a URL. -/
def isPassedOver (c : Char) : Bool := c == '\t' || c == '\n' || c == '\r'

/-- A segment with every encoded dot written as a dot. -/
def plainDots : List Char → List Char
  | '%' :: '2' :: 'e' :: rest => '.' :: plainDots rest
  | '%' :: '2' :: 'E' :: rest => '.' :: plainDots rest
  | c :: rest => c :: plainDots rest
  | [] => []

/-- A segment that stands for where it is. -/
def isHere (segment : List Char) : Bool := plainDots segment == ['.']

/-- A segment that stands for the place above. -/
def isAbove (segment : List Char) : Bool := plainDots segment == ['.', '.']

/-- A segment that starts with a letter and a colon or bar, as drives do. -/
def isDrive : List Char → Bool
  | c :: d :: rest => c.isAlpha && (d == ':' || d == '|') &&
    match rest with
    | [] => true
    | e :: _ => e == '\\'
  | _ => false

/-- Go to the place above; segments are newest first. -/
def climb : List (List Char) → List (List Char)
  | [] => []
  | s :: rest => if isDrive s then s :: rest else rest

/-- Walk along segments, of which those before are newest first. -/
def walk (before : List (List Char)) : List (List Char) → List (List Char)
  | [] => before
  | [last] =>
    if isAbove last then [] :: climb before
    else if isHere last then [] :: before
    else last :: before
  | s :: rest =>
    if isAbove s then walk (climb before) rest
    else if isHere s then walk before rest
    else walk (s :: before) rest

/-- Read a path. The slash in front of the first segment may be missing; the empty text has no
segments. -/
def ofText (cs : List Char) : Path :=
  let cs := cs.filter (!isPassedOver ·)
  let segments := (cs.splitOn '/').map (Percent.encode Percent.inPath)
  match cs with
  | [] => []
  | '/' :: _ => (walk [] (segments.drop 1)).reverse
  | _ => (walk [] segments).reverse

/-- Write a path. -/
def text (p : Path) : List Char := p.flatMap fun s => '/' :: s

end Path

end DataAccess.Url
