import DataAccess.Number.Layout

/-!
# Durations

A span of time in whole seconds and nanoseconds, what can go wrong in reading one, and its debug
text.
-/

namespace DataAccess

open Number

/-- A span of time: the seconds fit in a word, and the nanoseconds stay below one second. -/
structure Duration where
  seconds : Nat
  nanos : Nat
  seconds_lt : seconds < UInt64.size
  nanos_lt : nanos < 1_000_000_000
deriving DecidableEq

namespace Duration

/-- A number of seconds that fits in a word. -/
def ofWholeSeconds (n : UInt64) : Duration :=
  { seconds := n.toNat, nanos := 0, seconds_lt := n.toNat_lt_size, nanos_lt := by decide }

/-- No time at all. -/
def zero : Duration := ofWholeSeconds 0

instance : Inhabited Duration := ⟨zero⟩

/-- A number of seconds, if there is room for it. -/
def ofSeconds? (n : Nat) : Option Duration :=
  if n < UInt64.size then some (ofWholeSeconds (UInt64.ofNat n)) else none

/-- A number of milliseconds that fits in a word. -/
def ofMillis (n : UInt64) : Duration :=
  { seconds := n.toNat / 1000
    nanos := n.toNat % 1000 * 1_000_000
    seconds_lt := by have := n.toNat_lt_size; omega
    nanos_lt := by omega }

/-- The length in nanoseconds. -/
def inNanos (d : Duration) : Nat := d.seconds * 1_000_000_000 + d.nanos

/-- The length in whole milliseconds, the rest dropped. -/
def inMillis (d : Duration) : Nat := d.inNanos / 1_000_000

/-- Whether no time passes. -/
def isZero (d : Duration) : Bool := d.seconds == 0 && d.nanos == 0

/-! ### Errors -/

/-- Why a value is not a duration. -/
inductive Error where
  /-- A text of blanks only. -/
  | empty
  /-- A text that starts with a minus sign. -/
  | negativeText (text : String)
  /-- A place in the text where a number has to stand and none does. -/
  | numberExpected (text : String)
  /-- A number that no unit follows. -/
  | unitMissing (number text : String)
  /-- A word after a number that is no unit. -/
  | unitUnknown (unit text : String)
  /-- A number of seconds that is not a number. -/
  | notANumber
  /-- A negative number of seconds. -/
  | negativeSeconds (seconds : Binary64)
  /-- A negative whole number of seconds. -/
  | negativeCount (seconds : Int)
  /-- More seconds than a duration holds. -/
  | overflow (seconds : Binary64)
deriving DecidableEq

/-- The wording of an error. -/
def Error.message : Error → String
  | .empty => "empty duration string"
  | .negativeText t => "negative duration `" ++ t ++ "`"
  | .numberExpected t => "expected a number in `" ++ t ++ "`"
  | .unitMissing n t => "missing unit after `" ++ n ++ "` in `" ++ t ++ "`"
  | .unitUnknown u t => "unknown unit `" ++ u ++ "` in `" ++ t ++ "`"
  | .notANumber => "duration is not a number"
  | .negativeSeconds x => "negative duration " ++ Layout.plain.text x ++ "s"
  | .negativeCount i => "negative duration " ++ String.ofList (intText i) ++ "s"
  | .overflow x => "duration " ++ Layout.plain.text x ++
      "s overflows: cannot convert float seconds to Duration: value is either too big or NaN"

/-! ### Debug text -/

/-- A decimal fraction of `places` digits, without the zeros at its end and without the point when
nothing is left. -/
def fractionText (n places : Nat) : List Char :=
  let ds := natText n
  let padded := List.replicate (places - ds.length) '0' ++ ds
  match (padded.reverse.dropWhile (· == '0')).reverse with
  | [] => []
  | ds => '.' :: ds

/-- The largest unit of `s`, `ms`, `µs` and `ns` that fits in the span, with the rest as a
fraction. -/
def debugText (d : Duration) : String :=
  String.ofList <|
    if 0 < d.seconds then natText d.seconds ++ fractionText d.nanos 9 ++ ['s']
    else if 1_000_000 ≤ d.nanos then
      natText (d.nanos / 1_000_000) ++ fractionText (d.nanos % 1_000_000) 6 ++ ['m', 's']
    else if 1_000 ≤ d.nanos then
      natText (d.nanos / 1_000) ++ fractionText (d.nanos % 1_000) 3 ++ ['µ', 's']
    else natText d.nanos ++ ['n', 's']

end Duration

end DataAccess
