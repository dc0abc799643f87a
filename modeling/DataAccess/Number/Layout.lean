import DataAccess.Number.Shortest

/-!
# Layouts of number text

A layout decides where the decimal point of the shortest digits is written and when an exponent
takes its place. The library writes numbers in three layouts: `plain` in its messages, `debug` in
the debug text of its values, and `json` where a number of a JSON tree is quoted.
-/

namespace DataAccess.Number

/-- The choices of one way to write a double. -/
structure Layout where
  /-- Who wins when two shortest numerals are equally near. -/
  tie : Tie
  /-- Places of the decimal point that are written without an exponent; none for all. -/
  positional : Option (Int × Int)
  /-- Whether a whole number ends in `.0`. -/
  pointZero : Bool
  /-- Whether a positive exponent carries its sign. -/
  exponentPlus : Bool

namespace Layout

/-- Never an exponent, and no point in a whole number. -/
def plain : Layout := ⟨.up, none, false, false⟩

/-- An exponent below `10 ^ -4` and from `10 ^ 16` on; whole numbers end in `.0`. -/
def debug : Layout := ⟨.up, some (-3, 16), true, false⟩

/-- An exponent below `10 ^ -5` and from `10 ^ 16` on, signed both ways; whole numbers end in
`.0`. -/
def json : Layout := ⟨.even, some (-4, 16), true, true⟩

/-- Digits with a decimal point after the first `point` of them, padded with zeros as needed. -/
def fixed (l : Layout) (ds : List Char) (point : Int) : List Char :=
  if point ≤ 0 then '0' :: '.' :: (List.replicate (-point).toNat '0' ++ ds)
  else if ds.length ≤ point.toNat then
    ds ++ List.replicate (point.toNat - ds.length) '0' ++ (if l.pointZero then ['.', '0'] else [])
  else ds.take point.toNat ++ '.' :: ds.drop point.toNat

/-- Digits with the point after the first one and an exponent. -/
def scientific (l : Layout) (ds : List Char) (point : Int) : List Char :=
  let mantissa := match ds with
    | [] => []
    | [d] => [d]
    | d :: rest => d :: '.' :: rest
  let e := point - 1
  let sign := if 0 ≤ e && l.exponentPlus then ['+'] else []
  mantissa ++ 'e' :: (sign ++ intText e)

/-- The magnitude with an ordinal, in a layout. -/
def magnitudeText (l : Layout) (ordinal : Nat) : List Char :=
  if ordinal = 0 then (if l.pointZero then ['0', '.', '0'] else ['0'])
  else
    let d := shortest l.tie ordinal
    let ds := natText d.digits
    match l.positional with
    | some (low, high) =>
      if low ≤ d.point && d.point ≤ high then l.fixed ds d.point else l.scientific ds d.point
    | none => l.fixed ds d.point

/-- A double in a layout. -/
def text (l : Layout) : Binary64 → String
  | .nan => "NaN"
  | .infinity s => if s then "-inf" else "inf"
  | .finite s k =>
    String.ofList ((if s then ['-'] else []) ++ l.magnitudeText k.val)

end Layout

end DataAccess.Number
