import DataAccess.Number.Binary64

/-!
# Reading decimal numerals

A numeral is a natural number of digits times a power of ten. `Binary64.ofDecimal` is the double
nearest to it, for any exponent: one too far out to matter is answered without building the power.
-/

namespace DataAccess.Number

/-- A digit of the decimal system. -/
def isDigit (c : Char) : Bool := c.isDigit

/-- The value of a digit. -/
def digitValue (c : Char) : Nat := c.toNat - 48

/-- The natural number that a run of digits writes. -/
def natOfDigits (cs : List Char) : Nat := cs.foldl (fun n c => 10 * n + digitValue c) 0

/-- The natural number that a text of one or more digits writes. -/
def readNat? (cs : List Char) : Option Nat :=
  if cs.isEmpty || !cs.all isDigit then none else some (natOfDigits cs)

/-- The decimal digits of a natural number. -/
def natText (n : Nat) : List Char := Nat.toDigits 10 n

/-- The decimal text of an integer. -/
def intText (i : Int) : List Char := if i < 0 then '-' :: natText i.natAbs else natText i.natAbs

/-- Negative if `negative`, and `digits * 10 ^ exponent` in magnitude. -/
structure Decimal where
  negative : Bool
  digits : Nat
  exponent : Int

/-- The number of decimal digits of a natural number, none for zero. -/
def digitCount (n : Nat) : Nat := if n = 0 then 0 else (natText n).length

/-- The double nearest to a numeral. -/
def Binary64.ofDecimal (d : Decimal) : Binary64 :=
  let top := d.exponent + digitCount d.digits
  if d.digits = 0 ∨ top < -400 then ofOrdinal d.negative 0
  else if 400 < top then .infinity d.negative
  else if 0 ≤ d.exponent then ofRatio d.negative (d.digits * Nat.pow 10 d.exponent.toNat) 1
  else ofRatio d.negative d.digits (Nat.pow 10 (-d.exponent).toNat)

end DataAccess.Number
