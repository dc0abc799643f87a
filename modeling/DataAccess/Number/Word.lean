import DataAccess.Number.Decimal

/-!
# Decimal words

Reading a natural number below a fixed bound from decimal digits, with one plus sign allowed in
front. The first character at which reading goes wrong decides which fault it is.
-/

namespace DataAccess.Number

/-- Why a text is not such a number. -/
inductive WordFault where
  | empty
  | invalidDigit
  | tooLarge
deriving DecidableEq

/-- The wording of a fault. -/
def WordFault.message : WordFault → String
  | empty => "cannot parse integer from empty string"
  | invalidDigit => "invalid digit found in string"
  | tooLarge => "number too large to fit in target type"

/-- Read digits after a number that has been read already; numbers stay below `size`. -/
def readDigits (size n : Nat) : List Char → Except WordFault Nat
  | [] => .ok n
  | c :: rest =>
    if isDigit c = false then .error .invalidDigit
    else if 10 * n + digitValue c < size then readDigits size (10 * n + digitValue c) rest
    else .error .tooLarge

/-- Read a number below `size`. -/
def readWord (size : Nat) : List Char → Except WordFault Nat
  | [] => .error .empty
  | ['+'] => .error .invalidDigit
  | '+' :: rest => readDigits size 0 rest
  | cs => readDigits size 0 cs

/-- Read a number below `size`, if the text is one. -/
def readWord? (size : Nat) (cs : List Char) : Option Nat := (readWord size cs).toOption

end DataAccess.Number
