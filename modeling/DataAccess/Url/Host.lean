import DataAccess.Url.Address
import DataAccess.Url.Percent

/-!
# Hosts

A host is a name or an address in brackets. A name is kept as it is written, apart from characters
that have to be encoded; letter case and the form of numbers mean nothing to it.
-/

namespace DataAccess.Url

/-- Why a text is not a URL. -/
inductive Error where
  /-- A host with a character that no host may have. -/
  | invalidDomain
  /-- Brackets that do not hold an address. -/
  | invalidAddress
  /-- A port or a user without a host. -/
  | emptyHost
  /-- A port that is not a number of 16 bits. -/
  | invalidPort
  /-- A text that does not start with a scheme. -/
  | missingScheme
deriving DecidableEq

/-- The wording of an error. -/
def Error.message : Error → String
  | invalidDomain => "invalid domain character"
  | invalidAddress => "invalid IPv6 address"
  | emptyHost => "empty host"
  | invalidPort => "invalid port number"
  | missingScheme => "relative URL without a base"

/-- A host. -/
inductive Host where
  /-- A name, in its encoded form. -/
  | name (text : List Char)
  | address (address : Address)
deriving DecidableEq

namespace Host

/-- Characters that a host name must not have. -/
def isForbidden (c : Char) : Bool := "\x00\t\n\r #/:<>?@[\\]^|".toList.contains c

/-- The last character of a text is a closing bracket. -/
def endsInBracket (cs : List Char) : Bool := cs.getLast? == some ']'

/-- Read a host. The empty text is the empty name. -/
def parse (cs : List Char) : Except Error Host :=
  match cs with
  | '[' :: rest =>
    if endsInBracket rest then
      match Address.ofText? rest.dropLast with
      | some a => .ok (.address a)
      | none => .error .invalidAddress
    else .error .invalidAddress
  | cs =>
    if cs.any isForbidden then .error .invalidDomain
    else .ok (.name (Percent.encode Percent.isControl cs))

/-- Write a host. -/
def text : Host → List Char
  | name cs => cs
  | address a => '[' :: (a.text ++ [']'])

/-- Whether there is no host. -/
def isEmpty : Host → Bool
  | name cs => cs.isEmpty
  | address _ => false

end Host

end DataAccess.Url
