import DataAccess.Number.Decimal
import DataAccess.Url.Form
import DataAccess.Url.Host
import DataAccess.Url.Path

/-!
# URLs

A URL names a place on a host: a scheme, a user with a password, a host with a port, a path, and a
query. The parts are kept in their encoded form, and every setter encodes what it is given, so that
no part can spill into another one.
-/

namespace DataAccess

open Number

/-- A URL with a host. -/
structure Url where
  scheme : List Char
  username : List Char
  /-- An empty password is none. -/
  password : List Char
  host : Url.Host
  port : Option UInt16
  /-- The path after the host, empty if there is none. -/
  path : List Char
  query : Option (List Char)
  fragment : Option (List Char)
deriving DecidableEq

namespace Url

/-- The URL of a scheme on the local host, with no other part. -/
def ofScheme (scheme : String) : Url :=
  { scheme := scheme.toList, username := [], password := [], host := .name "localhost".toList,
    port := none, path := [], query := none, fragment := none }

/-! ### Setting parts -/

/-- The part of a host text that counts: up to the first colon, unless the text is in brackets. -/
def hostPart (cs : List Char) : Except Error (List Char) :=
  if cs.head? = some '[' ∧ Host.endsInBracket cs then .ok cs
  else if cs.head? = some ':' then .error .invalidDomain
  else .ok (cs.takeWhile (· != ':'))

/-- Replace the host. -/
def setHost (u : Url) (cs : List Char) : Except Error Url :=
  match hostPart cs with
  | .error e => .error e
  | .ok cs =>
    match Host.parse cs with
    | .ok h => .ok { u with host := h }
    | .error e => .error e

/-- Replace the port, which needs a host. -/
def setPort? (u : Url) (port : UInt16) : Option Url :=
  if u.host.isEmpty then none else some { u with port := some port }

/-- Replace the user name, which needs a host. -/
def setUsername? (u : Url) (cs : List Char) : Option Url :=
  if u.host.isEmpty then none else some { u with username := Percent.encode Percent.inUserinfo cs }

/-- Replace the password, which needs a host. -/
def setPassword? (u : Url) (cs : List Char) : Option Url :=
  if u.host.isEmpty then none else some { u with password := Percent.encode Percent.inUserinfo cs }

/-- Replace the path. -/
def setPath (u : Url) (cs : List Char) : Url := { u with path := (Path.ofText cs).text }

/-- Add a pair to the end of the query. -/
def appendPair (u : Url) (key value : String) : Url :=
  match u.query with
  | none => { u with query := some (Form.encodePair (key, value)) }
  | some q => { u with query := some (q ++ '&' :: Form.encodePair (key, value)) }

/-- Add pairs to the end of the query. -/
def appendPairs (u : Url) (pairs : List (String × String)) : Url :=
  pairs.foldl (fun u p => u.appendPair p.1 p.2) u

/-! ### Reading parts -/

/-- The pairs of the query. -/
def queryPairs (u : Url) : List (String × String) :=
  match u.query with
  | none => []
  | some q => Form.decodePairs q

/-! ### Writing -/

/-- The user and the password as they stand before the host. -/
def userinfoText (u : Url) : List Char :=
  if u.username.isEmpty ∧ u.password.isEmpty then []
  else if u.password.isEmpty then u.username ++ ['@']
  else u.username ++ ':' :: (u.password ++ ['@'])

/-- The port as it stands after the host. -/
def portText (u : Url) : List Char :=
  match u.port with
  | none => []
  | some p => ':' :: natText p.toNat

/-- A part after its mark, nothing if there is none. -/
def marked (mark : Char) : Option (List Char) → List Char
  | none => []
  | some cs => mark :: cs

/-- The characters of a URL. -/
def chars (u : Url) : List Char :=
  u.scheme ++ "://".toList ++ u.userinfoText ++ u.host.text ++ u.portText ++ u.path ++
    marked '?' u.query ++ marked '#' u.fragment

/-- Write a URL. -/
def text (u : Url) : String := String.ofList u.chars

end Url

end DataAccess
