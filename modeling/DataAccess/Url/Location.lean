import DataAccess.Url.Basic

/-!
# Locations

A location is what the text of a URL stands for: a URL with a host, or a path on its own after the
scheme. The text is cut at its marks. The scheme ends at the first colon; the authority at the first
slash, question mark or hash after two slashes; the user in it at the last at sign; the user's name
and the host at a colon; the path at a question mark or hash, and the query at a hash. No scheme has
rules of its own.
-/

namespace DataAccess.Url

open Number

/-- What a URL text stands for. -/
inductive Location where
  /-- A URL with a host, whose name may be empty. -/
  | hosted (url : Url)
  /-- A path without a host. -/
  | bare (scheme path : List Char) (query fragment : Option (List Char))
deriving DecidableEq

namespace Location

/-! ### Cutting -/

/-- The text without the controls and spaces at its ends and without what is passed over. -/
def clean (cs : List Char) : List Char :=
  let blank (c : Char) : Bool := c.toNat ≤ 32
  ((cs.dropWhile blank).reverse.dropWhile blank).reverse.filter (!Path.isPassedOver ·)

/-- The characters of a scheme. -/
def inScheme (c : Char) : Bool := c.isAlphanum || "+-.".toList.contains c

/-- The scheme of a text, and what follows its colon. -/
def cutScheme? (cs : List Char) : Option (List Char × List Char) :=
  match cs.takeWhile inScheme, cs.dropWhile inScheme with
  | c :: scheme, ':' :: rest =>
    if c.isAlpha then some ((c :: scheme).map Char.toLower, rest) else none
  | _, _ => none

/-- A mark after which there is no authority any more. -/
def endsAuthority (c : Char) : Bool := c == '/' || c == '?' || c == '#'

/-- A mark after which there is no path any more. -/
def endsPath (c : Char) : Bool := c == '?' || c == '#'

/-- An authority cut at its last at sign, if it has one. -/
def cutUser (authority : List Char) : Option (List Char) × List Char :=
  match authority.reverse.dropWhile (· != '@') with
  | [] => (none, authority)
  | _ :: user => (some user.reverse, (authority.reverse.takeWhile (· != '@')).reverse)

/-- The host at the front of a text: up to the first colon that is not in brackets. -/
def hostText (inBrackets : Bool) : List Char → List Char
  | [] => []
  | c :: rest =>
    if c = ':' ∧ inBrackets = false then []
    else c :: hostText (c == '[' || (inBrackets && c != ']')) rest

/-! ### Parts -/

/-- The query and the fragment at the end of a text. -/
def tail (cs : List Char) : Option (List Char) × Option (List Char) :=
  let fragment : List Char → Option (List Char)
    | '#' :: rest => some (Percent.encode Percent.inFragment rest)
    | _ => none
  match cs with
  | '?' :: rest =>
    (some (Percent.encode Percent.inQuery (rest.takeWhile (· != '#'))),
      fragment (rest.dropWhile (· != '#')))
  | cs => (none, fragment cs)

/-- The path that a text starts with. -/
def pathText (cs : List Char) : List Char := (Path.ofText (cs.takeWhile (!endsPath ·))).text

/-- A user's name and password, both encoded. -/
def readUser (cs : List Char) : List Char × List Char :=
  let name := cs.takeWhile (· != ':')
  (Percent.encode Percent.inUserinfo name,
    Percent.encode Percent.inUserinfo (cs.drop (name.length + 1)))

/-- A port after its colon, and the rest, which a backslash may start. No digits are no port. -/
def readPort (cs : List Char) : Except Error (Option UInt16 × List Char) :=
  let digits := cs.takeWhile Char.isDigit
  let rest := cs.dropWhile Char.isDigit
  if UInt16.size ≤ natOfDigits digits then .error .invalidPort
  else if rest.head?.all (· == '\\') then
    .ok (if digits.isEmpty then none else some (UInt16.ofNat (natOfDigits digits)), rest)
  else .error .invalidPort

/-- A port where there may be none. A port needs a host. -/
def readPortAfter (host : Host) (cs : List Char) : Except Error (Option UInt16 × List Char) :=
  match cs with
  | [] => .ok (none, [])
  | _ :: rest => if host.isEmpty then .error .emptyHost else readPort rest

/-- What follows two slashes, for a scheme. -/
def readHosted (scheme cs : List Char) : Except Error Url := do
  let after := cs.dropWhile (!endsAuthority ·)
  let (user, place) := cutUser (cs.takeWhile (!endsAuthority ·))
  if user = some [] ∧ place = [] ∧ after ≠ [] then throw .emptyHost
  let (username, password) := readUser (user.getD [])
  let host ← Host.parse (hostText false place)
  let (port, rest) ← readPortAfter host (place.drop (hostText false place).length)
  if host.isEmpty ∧ (username ≠ [] ∨ password ≠ []) then throw .emptyHost
  let (query, fragment) := tail (after.dropWhile (!endsPath ·))
  let path := pathText (rest ++ after)
  return { scheme, username, password, host, port, path, query, fragment }

/-- What follows a scheme without two slashes. A path that starts with two slashes gets a dot in
front, so that they do not start an authority. -/
def readBare (scheme cs : List Char) : Location :=
  let path := match cs with
    | '/' :: _ =>
      match pathText cs with
      | '/' :: '/' :: rest => "/.//".toList ++ rest
      | path => path
    | cs => Percent.encode Percent.isControl (cs.takeWhile (!endsPath ·))
  let (query, fragment) := tail (cs.dropWhile (!endsPath ·))
  .bare scheme path query fragment

/-- Read the text of a URL. -/
def parse (cs : List Char) : Except Error Location :=
  match cutScheme? (clean cs) with
  | none => .error .missingScheme
  | some (scheme, '/' :: '/' :: rest) => (readHosted scheme rest).map .hosted
  | some (scheme, rest) => .ok (readBare scheme rest)

/-! ### Writing and reading parts -/

/-- The characters of a location. -/
def chars : Location → List Char
  | hosted u => u.chars
  | bare scheme path query fragment =>
    scheme ++ ':' :: path ++ marked '?' query ++ marked '#' fragment

/-- The URL of a location that has a host. -/
def url? : Location → Option Url
  | hosted u => some u
  | bare .. => none

/-- The path of a location. -/
def path : Location → List Char
  | hosted u => u.path
  | bare _ path _ _ => path

/-- The pairs of the query. -/
def queryPairs : Location → List (String × String)
  | hosted u => u.queryPairs
  | bare _ _ query _ => Form.decodePairs (query.getD [])

end Location

end DataAccess.Url
