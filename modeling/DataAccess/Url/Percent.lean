import DataAccess.Number.Hex
import DataAccess.Text.Utf8

/-!
# Percent encoding

A byte that may not stand in a part of a URL is written as `%` and two hexadecimal digits. Each part
has its own set of characters that are encoded; characters beyond ASCII are encoded in every part. A
percent sign itself is not in these sets, so text that is already encoded stays as it is.
-/

namespace DataAccess.Url.Percent

open Number Text

/-! ### Encoding -/

/-- A hexadecimal digit in capitals. -/
def hexDigit (n : Nat) : Char := (Nat.digitChar n).toUpper

/-- The encoded form of a byte. -/
def encodeByte (b : UInt8) : List Char :=
  ['%', hexDigit (b.toNat / 16), hexDigit (b.toNat % 16)]

/-- Write a character, encoded if it is in `special` or beyond ASCII. -/
def encodeChar (special : Char → Bool) (c : Char) : List Char :=
  if special c || 128 ≤ c.toNat then (utf8 [c]).flatMap encodeByte else [c]

/-- Encode a text, given the set of its special characters. -/
def encode (special : Char → Bool) (cs : List Char) : List Char := cs.flatMap (encodeChar special)

/-! ### The sets -/

/-- ASCII control characters. -/
def isControl (c : Char) : Bool := c.toNat < 32 || c.toNat == 127

/-- What is encoded in a query: controls, the space, and what could end an attribute. -/
def inQuery (c : Char) : Bool := isControl c || " \"#<>".toList.contains c

/-- What is encoded in a fragment. -/
def inFragment (c : Char) : Bool := isControl c || " \"<>\x60".toList.contains c

/-- What is encoded in a path. -/
def inPath (c : Char) : Bool := inFragment c || "#?\x7b\x7d".toList.contains c

/-- What is encoded in a user name and in a password. -/
def inUserinfo (c : Char) : Bool := inPath c || "/:;=@[\\]^|".toList.contains c

/-! ### Decoding -/

/-- The bytes of an encoded text. A percent sign that starts no code stands for itself. -/
def decode : List Char → List UInt8
  | [] => []
  | '%' :: c :: d :: rest =>
    match hexByte? c d with
    | some b => b :: decode rest
    | none => utf8 ['%'] ++ decode (c :: d :: rest)
  | c :: rest => utf8 [c] ++ decode rest

/-- The text of an encoded text whose bytes are UTF-8. -/
def decodeText (cs : List Char) : Except Utf8Error (List Char) := decodeUtf8 (decode cs)

end DataAccess.Url.Percent
