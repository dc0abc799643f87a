/-!
# Hexadecimal digits

Reading takes digits in either case; writing gives lowercase ones. A byte is always two digits.
-/

namespace DataAccess.Number

/-- The value of a hexadecimal digit. -/
def hexValue? (c : Char) : Option Nat :=
  if c.isDigit then some (c.toNat - 48)
  else if 'a' ≤ c ∧ c ≤ 'f' then some (c.toNat - 87)
  else if 'A' ≤ c ∧ c ≤ 'F' then some (c.toNat - 55)
  else none

/-- Whether a character is a hexadecimal digit. -/
def isHexDigit (c : Char) : Bool := (hexValue? c).isSome

/-- A number without leading zeros. -/
def hexText (n : Nat) : List Char := Nat.toDigits 16 n

/-- A number in at least so many digits. -/
def hexPadded (width n : Nat) : List Char :=
  List.replicate (width - (hexText n).length) '0' ++ hexText n

/-- The byte that two digits write. -/
def hexByte? (c d : Char) : Option UInt8 :=
  match hexValue? c, hexValue? d with
  | some h, some l => some (UInt8.ofNat (16 * h + l))
  | _, _ => none

/-- Bytes in digits. -/
def bytesHex (bs : List UInt8) : List Char := bs.flatMap fun b => hexPadded 2 b.toNat

/-- The bytes that digits write, up to the first two characters that write none. -/
def hexBytes : List Char → List UInt8
  | a :: b :: rest =>
    match hexByte? a b with
    | some byte => byte :: hexBytes rest
    | none => []
  | _ => []

end DataAccess.Number
