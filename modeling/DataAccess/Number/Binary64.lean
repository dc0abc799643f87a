import DataAccess.Number.Rounding

/-!
# Double-precision numbers

A finite double is a sign and an *ordinal*: its place in the increasing list of the finite
magnitudes, zero first. The ordinal is the bit pattern without the sign, so a number has one
representation, and a larger ordinal is a larger magnitude.

Every finite magnitude is a whole multiple of the smallest one, `2 ^ -1074`; `magnitude` counts
these units. Sums, products and quotients are therefore exact in the naturals up to one final
rounding, `ofUnits`.
-/

namespace DataAccess.Number

/-- The number of magnitudes with one exponent, `2 ^ 52`. -/
abbrev binade : Nat := 0x10000000000000

/-- The number of finite magnitudes: ordinals are below it. -/
abbrev ordinalCount : Nat := 2047 * binade

/-- A double-precision number. All not-a-number patterns are one value. -/
inductive Binary64 where
  | nan
  | infinity (negative : Bool)
  | finite (negative : Bool) (ordinal : Fin ordinalCount)
deriving DecidableEq

/-- How many units of `2 ^ -1074` the magnitude with this ordinal has. The formula goes on past the
largest finite magnitude, where overflow begins. -/
def magnitude (ordinal : Nat) : Nat :=
  if ordinal < binade then ordinal
  else (binade + ordinal % binade) <<< (ordinal / binade - 1)

/-- The ordinal of the magnitude nearest to `num / den` units, a tie going to the even one. A result
of `ordinalCount` or more is an overflow. -/
def nearestOrdinal (num den : Nat) : Nat :=
  let e := (num / den).log2 - 52
  e * binade + roundHalfEven num (den <<< e)

namespace Binary64

/-- The number of units in one: `1 = unitsPerOne * 2 ^ -1074`. -/
abbrev unitsPerOne : Nat := 1 <<< 1074

/-- The double with a sign and an ordinal; an ordinal past the last one is infinite. -/
def ofOrdinal (negative : Bool) (ordinal : Nat) : Binary64 :=
  if h : ordinal < ordinalCount then .finite negative ⟨ordinal, h⟩ else .infinity negative

/-- The double nearest to `num / den` units, with a sign. -/
def ofUnits (negative : Bool) (num den : Nat) : Binary64 :=
  ofOrdinal negative (nearestOrdinal num den)

/-- The double nearest to `num / den`. -/
def ofRatio (negative : Bool) (num den : Nat) : Binary64 :=
  ofUnits negative (num * unitsPerOne) den

/-- The double nearest to a natural number. -/
def ofNat (n : Nat) : Binary64 := ofRatio false n 1

/-- The double nearest to an integer. Zero is positive. -/
def ofInt (i : Int) : Binary64 := ofRatio (i < 0) i.natAbs 1

/-- Positive zero. -/
def zero : Binary64 := ofNat 0

/-- One. -/
def one : Binary64 := ofNat 1

/-- The sixty-four bits of the number, the sign first; a not-a-number has none of its own. -/
def bits? : Binary64 → Option Nat
  | .nan => none
  | .infinity s => some (s.toNat <<< 63 + ordinalCount)
  | .finite s k => some (s.toNat <<< 63 + k.val)

instance : Inhabited Binary64 := ⟨zero⟩

/-! ### Order and equality of values -/

/-- The value in units of `2 ^ -1074`, for a finite number. -/
def units? : Binary64 → Option Int
  | .finite s k => some (if s then -(magnitude k.val : Int) else magnitude k.val)
  | _ => none

/-- `x ≤ y` as numbers: the two zeros are equal, and a not-a-number is comparable to nothing. -/
def le : Binary64 → Binary64 → Bool
  | .nan, _ | _, .nan => false
  | .infinity true, _ => true
  | _, .infinity false => true
  | .infinity false, _ => false
  | _, .infinity true => false
  | .finite s k, .finite t l =>
    match s, t with
    | false, false => k.val ≤ l.val
    | true, true => l.val ≤ k.val
    | true, false => true
    | false, true => k.val == 0 && l.val == 0

/-- `x < y` as numbers. -/
def lt (x y : Binary64) : Bool := le x y && !le y x

/-- Equality as numbers: the zeros are equal, and a not-a-number equals nothing. -/
def same (x y : Binary64) : Bool := le x y && le y x

/-- A number below zero; negative zero is not. -/
def isNegative (x : Binary64) : Bool := lt x zero

/-- A number that is neither infinite nor a not-a-number. -/
def isFinite : Binary64 → Bool
  | .finite _ _ => true
  | _ => false

/-! ### Arithmetic -/

/-- The opposite number. -/
def neg : Binary64 → Binary64
  | .nan => .nan
  | .infinity s => .infinity (!s)
  | .finite s k => .finite (!s) k

/-- The sum, rounded once. An exact zero is positive unless both terms are negative. -/
def add : Binary64 → Binary64 → Binary64
  | .nan, _ | _, .nan => .nan
  | .infinity s, .infinity t => if s == t then .infinity s else .nan
  | .infinity s, _ | _, .infinity s => .infinity s
  | .finite s k, .finite t l =>
    let a := magnitude k.val
    let b := magnitude l.val
    if s == t then ofUnits s (a + b) 1
    else if b < a then ofUnits s (a - b) 1
    else if a < b then ofUnits t (b - a) 1
    else ofUnits false 0 1

/-- The product, rounded once. -/
def mul : Binary64 → Binary64 → Binary64
  | .nan, _ | _, .nan => .nan
  | .infinity s, .infinity t => .infinity (s != t)
  | .infinity s, .finite t l => if l.val == 0 then .nan else .infinity (s != t)
  | .finite s k, .infinity t => if k.val == 0 then .nan else .infinity (s != t)
  | .finite s k, .finite t l =>
    ofUnits (s != t) (magnitude k.val * magnitude l.val) unitsPerOne

/-- The quotient, rounded once. -/
def div : Binary64 → Binary64 → Binary64
  | .nan, _ | _, .nan => .nan
  | .infinity _, .infinity _ => .nan
  | .infinity s, .finite t _ => .infinity (s != t)
  | .finite s _, .infinity t => ofUnits (s != t) 0 1
  | .finite s k, .finite t l =>
    if l.val == 0 then (if k.val == 0 then .nan else .infinity (s != t))
    else ofUnits (s != t) (magnitude k.val * unitsPerOne) (magnitude l.val)

instance : Neg Binary64 := ⟨neg⟩
instance : Add Binary64 := ⟨add⟩
instance : Mul Binary64 := ⟨mul⟩
instance : Div Binary64 := ⟨div⟩

/-! ### Whole numbers -/

/-- The integer that a finite number is, when it has no fraction. Negative zero is zero. -/
def toInt? : Binary64 → Option Int
  | .finite s k =>
    let m := magnitude k.val
    if m % unitsPerOne == 0 then
      some (if s then -(m / unitsPerOne : Nat) else (m / unitsPerOne : Nat))
    else none
  | _ => none

/-! ### Single precision -/

/-- The value after a detour through single precision: 24 significant bits, no unit below
`2 ^ -149`, and overflow from `2 ^ 128` on. -/
def toSingle : Binary64 → Binary64
  | .finite s k =>
    let m := magnitude k.val
    let e := max (m.log2 - 23) 925
    let r := roundHalfEven m (1 <<< e) <<< e
    if r < unitsPerOne <<< 128 then ofUnits s r 1 else .infinity s
  | x => x

end Binary64

end DataAccess.Number
