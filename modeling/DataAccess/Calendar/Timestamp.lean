import DataAccess.Number.Decimal
import DataAccess.Text.Utf8

/-!
# Timestamps

Points in time as texts of the form `2024-01-02T03:04:05.5+00:00`. Writing starts from nanoseconds
since the beginning of 1970; reading checks every part and says what is wrong with the first bad
one.
-/

namespace DataAccess.Calendar

open Number Text

/-- A point in time on the calendar, with the offset of its zone in minutes. -/
structure Timestamp where
  year : Nat
  month : Nat
  day : Nat
  hour : Nat
  minute : Nat
  second : Nat
  nanos : Nat
  offset : Int
deriving DecidableEq

namespace Timestamp

/-- Why a text is not a timestamp. -/
inductive Fault where
  | tooShort
  | invalid
  | outOfRange
  | tooLong
deriving DecidableEq

/-- The wording of a fault. -/
def Fault.message : Fault → String
  | tooShort => "premature end of input"
  | invalid => "input contains invalid characters"
  | outOfRange => "input is out of range"
  | tooLong => "trailing input"

/-! ### The calendar -/

/-- A year with a day more. -/
def isLeap (year : Nat) : Bool := year % 4 == 0 && (year % 100 != 0 || year % 400 == 0)

/-- The number of days of a month. -/
def daysIn (year month : Nat) : Nat :=
  if month = 2 then (if isLeap year then 29 else 28)
  else if [4, 6, 9, 11].contains month then 30 else 31

/-- A day that the calendar has. -/
def isDate (year month day : Nat) : Bool :=
  1 ≤ month && month ≤ 12 && 1 ≤ day && day ≤ daysIn year month

/-! ### Reading -/

/-- Read a number of exactly `n` digits. -/
def number (n : Nat) (cs : List Char) : Except Fault (Nat × List Char) :=
  match readNat? (cs.take n) with
  | some v => if (cs.take n).length = n then .ok (v, cs.drop n) else .error .invalid
  | none => .error .invalid

/-- Read one of some characters. -/
def mark (marks : List Char) : List Char → Except Fault (List Char)
  | c :: rest => if marks.contains c then .ok rest else .error .invalid
  | [] => .error .invalid

/-- Read the fraction of a second after its point. Digits beyond the ninth are dropped. -/
def fraction (cs : List Char) : Except Fault (Nat × List Char) :=
  let digits := cs.takeWhile isDigit
  let nine := digits.take 9
  if cs.isEmpty then .error .tooShort
  else if digits.isEmpty then .error .invalid
  else .ok (natOfDigits (nine ++ List.replicate (9 - nine.length) '0'), cs.drop digits.length)

/-- Read hours and minutes of an offset. -/
def offsetMinutes : List Char → Except Fault (Nat × List Char)
  | [] | [_] => .error .tooShort
  | a :: b :: rest =>
    if !(isDigit a && isDigit b) then .error .invalid
    else
      match rest with
      | [] => .error .tooShort
      | ':' :: c :: d :: rest =>
        if !(isDigit c && isDigit d) then .error .invalid
        else if '6' ≤ c then .error .outOfRange
        else .ok (natOfDigits [a, b] * 60 + natOfDigits [c, d], rest)
      | ':' :: _ => .error .tooShort
      | _ => .error .invalid

/-- Read the offset of a zone: `Z`, or a sign with hours and minutes. -/
def zone : List Char → Except Fault (Int × List Char)
  | [] => .error .tooShort
  | c :: rest =>
    if c = 'Z' ∨ c = 'z' then .ok (0, rest)
    else if c = '+' then (offsetMinutes rest).map fun r => ((r.1 : Int), r.2)
    else if c = '-' ∨ c = '−' then (offsetMinutes rest).map fun r => (-(r.1 : Int), r.2)
    else .error .invalid

/-- Read a day. -/
def date (cs : List Char) : Except Fault ((Nat × Nat × Nat) × List Char) := do
  let (year, cs) ← number 4 cs
  let cs ← mark ['-'] cs
  let (month, cs) ← number 2 cs
  let cs ← mark ['-'] cs
  let (day, cs) ← number 2 cs
  if isDate year month day then return ((year, month, day), cs) else throw .outOfRange

/-- Read a time of day; a second may be a leap second. -/
def clock (cs : List Char) : Except Fault ((Nat × Nat × Nat × Nat) × List Char) := do
  let (hour, cs) ← number 2 cs
  let cs ← mark [':'] cs
  let (minute, cs) ← number 2 cs
  let cs ← mark [':'] cs
  let (second, cs) ← number 2 cs
  let (nanos, cs) ← match cs with
    | '.' :: rest => fraction rest
    | cs => pure (0, cs)
  if hour < 24 ∧ minute < 60 ∧ second ≤ 60 then return ((hour, minute, second, nanos), cs)
  else throw .outOfRange

/-- Read a timestamp. -/
def parse (cs : List Char) : Except Fault Timestamp := do
  if (utf8 cs).length < 19 then throw .tooShort
  let ((year, month, day), cs) ← date cs
  let cs ← mark ['T', 't', ' '] cs
  let ((hour, minute, second, nanos), cs) ← clock cs
  let (offset, cs) ← zone cs
  if !cs.isEmpty then throw .tooLong
  if 24 * 60 ≤ offset.natAbs then throw .outOfRange
  return { year, month, day, hour, minute, second, nanos, offset }

/-! ### Writing -/

/-- A number in at least `n` digits. -/
def padded (n k : Nat) : List Char :=
  List.replicate (n - (natText k).length) '0' ++ natText k

/-- The year, month and day of a number of days since the beginning of 1970. Years are counted from
March, so that a leap day is the last day of its year. -/
def ofDays (days : Nat) : Nat × Nat × Nat :=
  let z := days + 719468
  let era := z / 146097
  let dayOfEra := z % 146097
  let yearOfEra := (dayOfEra - dayOfEra / 1460 + dayOfEra / 36524 - dayOfEra / 146096) / 365
  let dayOfYear := dayOfEra - (365 * yearOfEra + yearOfEra / 4 - yearOfEra / 100)
  let shifted := (5 * dayOfYear + 2) / 153
  let day := dayOfYear - (153 * shifted + 2) / 5 + 1
  let month := if shifted < 10 then shifted + 3 else shifted - 9
  (yearOfEra + era * 400 + (if month ≤ 2 then 1 else 0), month, day)

/-- The timestamp of a number of nanoseconds since the beginning of 1970. -/
def ofNanos (n : Nat) : Timestamp :=
  let seconds := n / 1_000_000_000
  let (year, month, day) := ofDays (seconds / 86400)
  let rest := seconds % 86400
  { year, month, day, hour := rest / 3600, minute := rest / 60 % 60, second := rest % 60,
    nanos := n % 1_000_000_000, offset := 0 }

/-- Write a timestamp. A fraction of zero is left out. -/
def text (t : Timestamp) : String :=
  let fraction := if t.nanos = 0 then [] else '.' :: padded 9 t.nanos
  let minutes := t.offset.natAbs
  let sign := if t.offset < 0 then '-' else '+'
  String.ofList (padded 4 t.year ++ '-' :: (padded 2 t.month ++ '-' :: (padded 2 t.day ++
    'T' :: (padded 2 t.hour ++ ':' :: (padded 2 t.minute ++ ':' :: (padded 2 t.second ++
      fraction ++ sign :: (padded 2 (minutes / 60) ++ ':' :: padded 2 (minutes % 60))))))))

end Timestamp

end DataAccess.Calendar
