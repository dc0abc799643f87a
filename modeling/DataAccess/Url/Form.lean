import DataAccess.Url.Percent

/-!
# Form encoding

A query is a list of pairs of texts, joined by `&` and each written as key, `=` and value. A space
is written as `+`; letters, digits and four marks stand for themselves, and all other bytes are
written as codes.
-/

namespace DataAccess.Url.Form

open Text

/-! ### Writing -/

/-- The characters that stand for themselves. -/
def isPlain (c : Char) : Bool := c.isAlphanum || "*-._".toList.contains c

/-- Write a character. -/
def encodeChar (c : Char) : List Char :=
  if c = ' ' then ['+'] else if isPlain c then [c] else (utf8 [c]).flatMap Percent.encodeByte

/-- Write a text. -/
def encode (cs : List Char) : List Char := cs.flatMap encodeChar

/-- Write a pair. -/
def encodePair (p : String × String) : List Char := encode p.1.toList ++ '=' :: encode p.2.toList

/-- Write pairs. -/
def encodePairs : List (String × String) → List Char
  | [] => []
  | [p] => encodePair p
  | p :: rest => encodePair p ++ '&' :: encodePairs rest

/-! ### Reading -/

/-- The bytes of a written text; a plus sign stands for a space. -/
def decodeBytes (cs : List Char) : List UInt8 :=
  Percent.decode (cs.map fun c => if c = '+' then ' ' else c)

/-- The character that stands for bytes that are not UTF-8. -/
def replacement : Char := '\ufffd'

/-- The text of some bytes, with a replacement for every longest run that starts a character and
does not end it. -/
def decodeLossy (bytes : List UInt8) : List Char :=
  match decodeUtf8 bytes with
  | .ok cs => cs
  | .error e =>
    let whole := match decodeUtf8 (bytes.take e.index) with
      | .ok cs => cs
      | .error _ => []
    match e.length with
    | none => whole ++ [replacement]
    | some n =>
      if _h : (bytes.drop (e.index + max n 1)).length < bytes.length then
        whole ++ replacement :: decodeLossy (bytes.drop (e.index + max n 1))
      else whole ++ [replacement]
termination_by bytes.length

/-- The text that a written text stands for. -/
def decode (cs : List Char) : String := String.ofList (decodeLossy (decodeBytes cs))

/-- Read a pair; one without `=` has an empty value. -/
def decodePair (cs : List Char) : String × String :=
  (decode (cs.takeWhile (· != '=')), decode ((cs.dropWhile (· != '=')).drop 1))

/-- Read pairs. Empty ones are skipped. -/
def decodePairs (cs : List Char) : List (String × String) :=
  ((cs.splitOn '&').filter (!·.isEmpty)).map decodePair

end DataAccess.Url.Form
