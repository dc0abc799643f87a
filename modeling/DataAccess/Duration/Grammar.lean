import DataAccess.Duration.Seconds
import DataAccess.Text.Blank
import DataAccess.Text.Alphabetic

/-!
# The duration grammar

A duration text is a sequence of terms such as `1h 30m` or `1.5h`: a number with at most one
decimal point, directly followed by a unit, with blanks before any term. A plus sign may stand in
front, and a bare `0` needs no unit.

`Numeral.read` and `unitRun` split a text into its longest leading number and its longest leading
run of letters; `total` sums the terms from left to right in double precision.
-/

namespace DataAccess.Duration

open Number Text

/-! ### Units -/

/-- The units of a term. -/
inductive Unit where
  | nanosecond
  | microsecond
  | millisecond
  | second
  | minute
  | hour
deriving DecidableEq

/-- The unit with a name. The microsecond is written with the letter u, the micro sign or the Greek
letter mu. -/
def Unit.ofName? (name : List Char) : Option Unit :=
  match name with
  | ['n', 's'] => some .nanosecond
  | ['u', 's'] | ['\u00b5', 's'] | ['\u03bc', 's'] => some .microsecond
  | ['m', 's'] => some .millisecond
  | ['s'] => some .second
  | ['m'] => some .minute
  | ['h'] => some .hour
  | _ => none

/-- The length of a unit in seconds. -/
def Unit.seconds : Unit → Binary64
  | .nanosecond => .ofDecimal ⟨false, 1, -9⟩
  | .microsecond => .ofDecimal ⟨false, 1, -6⟩
  | .millisecond => .ofDecimal ⟨false, 1, -3⟩
  | .second => .ofNat 1
  | .minute => .ofNat 60
  | .hour => .ofNat 3600

/-! ### Numbers -/

/-- A number as it is written: digits, and the digits after a decimal point if there is one. -/
structure Numeral where
  whole : List Char
  fraction : Option (List Char)

namespace Numeral

/-- The longest number at the start of a text, and the rest of the text. -/
def read (cs : List Char) : Numeral × List Char :=
  match cs.dropWhile isDigit with
  | '.' :: rest => (⟨cs.takeWhile isDigit, some (rest.takeWhile isDigit)⟩, rest.dropWhile isDigit)
  | rest => (⟨cs.takeWhile isDigit, none⟩, rest)

/-- The text of a number. -/
def text (n : Numeral) : List Char :=
  match n.fraction with
  | none => n.whole
  | some ds => n.whole ++ '.' :: ds

/-- All digits of a number. -/
def digits (n : Numeral) : List Char := n.whole ++ n.fraction.getD []

/-- The double nearest to a number. -/
def value (n : Numeral) : Binary64 :=
  .ofDecimal ⟨false, natOfDigits n.digits, -((n.fraction.getD []).length : Int)⟩

/-- Nothing is lost in reading a number. -/
theorem read_append (cs : List Char) : (read cs).1.text ++ (read cs).2 = cs := by
  unfold read
  split
  · next rest h =>
    simp only [text, List.append_assoc, List.cons_append, List.takeWhile_append_dropWhile]
    rw [← h, List.takeWhile_append_dropWhile]
  · simp [text, List.takeWhile_append_dropWhile]

/-- A number that is not empty leaves less to read. -/
theorem length_read_lt {cs : List Char} (h : (read cs).1.digits ≠ []) :
    (read cs).2.length < cs.length := by
  have hd : 0 < (read cs).1.digits.length := List.length_pos_iff.2 h
  have ht : (read cs).1.digits.length ≤ (read cs).1.text.length := by
    unfold digits text
    cases (read cs).1.fraction <;> simp
  have hl := congrArg List.length (read_append cs)
  simp only [List.length_append] at hl
  omega

end Numeral

/-! ### Terms -/

/-- The longest run of letters at the start of a text. -/
def unitRun (cs : List Char) : List Char := cs.takeWhile isAlphabetic

/-- What follows the longest run of letters. -/
def afterUnit (cs : List Char) : List Char := cs.dropWhile isAlphabetic

/-- The terms of a text, left to right, until the text ends. `whole` is the text shown in errors. -/
def terms (whole : String) (cs : List Char) : Except Error (List (Numeral × Unit)) :=
  let start := cs.dropWhile isBlank
  if start.isEmpty then .ok []
  else
    let n := Numeral.read start
    if _h : n.1.digits = [] then .error (.numberExpected whole)
    else
      match unitRun n.2 with
      | [] => .error (.unitMissing (String.ofList n.1.text) whole)
      | name =>
        match Unit.ofName? name with
        | none => .error (.unitUnknown (String.ofList name) whole)
        | some u => (terms whole (afterUnit n.2)).map ((n.1, u) :: ·)
termination_by cs.length
decreasing_by
  have h1 : (Numeral.read (cs.dropWhile isBlank)).2.length < (cs.dropWhile isBlank).length :=
    Numeral.length_read_lt _h
  have h2 := (List.dropWhile_suffix (l := cs) isBlank).length_le
  have h3 := (List.dropWhile_suffix (l := (Numeral.read (cs.dropWhile isBlank)).2)
    isAlphabetic).length_le
  simp only [afterUnit]
  omega

/-- The length of a sequence of terms in seconds, each product and each sum rounded once. -/
def total (ts : List (Numeral × Unit)) : Binary64 :=
  ts.foldl (fun sum t => sum + t.1.value * t.2.seconds) .zero

/-- A plus sign in front is dropped. -/
def dropPlus : List Char → List Char
  | '+' :: rest => rest
  | cs => cs

/-- Read a duration text. -/
def parse (s : String) : Except Error Duration :=
  let trimmed := trimChars s.toList
  let whole := String.ofList trimmed
  match trimmed with
  | [] => .error .empty
  | '-' :: _ => .error (.negativeText whole)
  | _ =>
    let body := dropPlus trimmed
    if body = ['0'] then .ok zero
    else
      match terms whole body with
      | .error e => .error e
      | .ok [] => .error (.numberExpected whole)
      | .ok ts => ofSeconds (total ts)

end DataAccess.Duration
