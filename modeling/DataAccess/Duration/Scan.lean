import DataAccess.Duration.Grammar
import DataAccess.Number.Literal
import DataAccess.Text.Utf8

/-!
# Duration texts by offsets

The reader of duration texts as a walk over the characters and the offsets of their first bytes.
Numbers and units are cut out of the text between two offsets, which must lie between characters, and
a number that is cut out is read once more, as a literal. `Duration.parse` reads the same texts
without offsets.
-/

namespace DataAccess.Duration

open Number Text

/-! ### Offsets -/

/-- What ends the walk without a duration. -/
inductive ScanFault where
  /-- The text is refused. -/
  | refused (cause : Error)
  /-- A number that is no literal, in the text that is shown. -/
  | number (number whole : String)
  /-- A cut between two offsets that are not in order or not between characters. -/
  | cut (start stop : Nat)
deriving DecidableEq

/-- The characters of a text with the offsets of their first bytes, from an offset on. -/
def placed (offset : Nat) : List Char → List (Nat × Char)
  | [] => []
  | c :: cs => (offset, c) :: placed (offset + c.utf8Size) cs

/-- The characters before an offset and those from it on, if it lies between characters. -/
def splitBytes? : Nat → List Char → Option (List Char × List Char)
  | 0, cs => some ([], cs)
  | _ + 1, [] => none
  | n + 1, c :: cs =>
    if c.utf8Size ≤ n + 1 then
      (splitBytes? (n + 1 - c.utf8Size) cs).map fun parts => (c :: parts.1, parts.2)
    else none

/-- The characters between two offsets. -/
def cut (cs : List Char) (start stop : Nat) : Except ScanFault (List Char) :=
  if stop < start then .error (.cut start stop)
  else
    match (splitBytes? start cs).bind fun parts => splitBytes? (stop - start) parts.2 with
    | some parts => .ok parts.1
    | none => .error (.cut start stop)

/-! ### The walk -/

/-- The offset after the digits and the point ahead, and what follows them. -/
def numberEnd (stop : Nat) (seenPoint : Bool) : List (Nat × Char) → Nat × List (Nat × Char)
  | [] => (stop, [])
  | (i, c) :: rest =>
    if isDigit c || (c == '.' && !seenPoint) then
      numberEnd (i + c.utf8Size) (seenPoint || c == '.') rest
    else (stop, (i, c) :: rest)

/-- The offset after the letters ahead, and what follows them. -/
def unitEnd (stop : Nat) : List (Nat × Char) → Nat × List (Nat × Char)
  | [] => (stop, [])
  | (i, c) :: rest =>
    if isAlphabetic c then unitEnd (i + c.utf8Size) rest else (stop, (i, c) :: rest)

/-- One term that starts at an offset, and what follows it. -/
def scanTerm (whole : String) (body : List Char) (start : Nat) (chars : List (Nat × Char)) :
    Except ScanFault ((Binary64 × Unit) × List (Nat × Char)) := do
  let (stop, chars) := numberEnd start false chars
  let number ← cut body start stop
  if number = [] ∨ number = ['.'] then throw (.refused (.numberExpected whole))
  match Binary64.ofText? number with
  | none => throw (.number (String.ofList number) whole)
  | some value =>
    let (unitStop, chars) := unitEnd stop chars
    let name ← cut body stop unitStop
    match Unit.ofName? name with
    | some u => return ((value, u), chars)
    | none =>
      if name = [] then throw (.refused (.unitMissing (String.ofList number) whole))
      else throw (.refused (.unitUnknown (String.ofList name) whole))

theorem length_numberEnd_le (stop : Nat) (seenPoint : Bool) (chars : List (Nat × Char)) :
    (numberEnd stop seenPoint chars).2.length ≤ chars.length := by
  fun_induction numberEnd stop seenPoint chars with
  | case1 => exact Nat.le_refl _
  | case2 stop seenPoint i c rest _ ih => exact Nat.le_succ_of_le ih
  | case3 => exact Nat.le_refl _

/-- The walk over a number takes a character or leaves the offset where it is. -/
theorem numberEnd_takes (stop : Nat) (seenPoint : Bool) (chars : List (Nat × Char)) :
    (numberEnd stop seenPoint chars).2.length < chars.length ∨
      (numberEnd stop seenPoint chars).1 = stop := by
  cases chars with
  | nil => exact .inr rfl
  | cons first rest =>
    unfold numberEnd
    split
    · exact .inl (Nat.lt_succ_of_le (length_numberEnd_le _ _ rest))
    · exact .inr rfl

theorem length_unitEnd_le (stop : Nat) (chars : List (Nat × Char)) :
    (unitEnd stop chars).2.length ≤ chars.length := by
  fun_induction unitEnd stop chars with
  | case1 => exact Nat.le_refl _
  | case2 stop i c rest _ ih => exact Nat.le_succ_of_le ih
  | case3 => exact Nat.le_refl _

/-- No characters are between an offset and itself. -/
theorem eq_nil_of_cut {cs part : List Char} {i : Nat} (h : cut cs i i = .ok part) : part = [] := by
  unfold cut at h
  rw [if_neg (Nat.lt_irrefl i), Nat.sub_self] at h
  cases hsplit : splitBytes? i cs with
  | none =>
    rw [hsplit] at h
    cases h
  | some parts =>
    rw [hsplit, Option.bind_some, splitBytes?] at h
    cases h
    rfl

/-- A term takes at least one character. -/
theorem length_scanTerm_lt {whole : String} {body : List Char} {start : Nat}
    {chars next : List (Nat × Char)} {term : Binary64 × Unit}
    (h : scanTerm whole body start chars = .ok (term, next)) : next.length < chars.length := by
  unfold scanTerm at h
  simp only [bind, Except.bind, throw, throwThe, MonadExceptOf.throw, pure, Except.pure] at h
  split at h
  · cases h
  · next number hcut =>
    split at h
    · cases h
    · next hnumber =>
      have hunit := length_unitEnd_le (numberEnd start false chars).1 (numberEnd start false chars).2
      rcases numberEnd_takes start false chars with hlt | hstill
      · split at h
        · cases h
        · split at h
          · cases h
          · split at h
            · cases h
              exact Nat.lt_of_le_of_lt hunit hlt
            · split at h
              · cases h
              · cases h
      · rw [hstill] at hcut
        exact absurd (.inl (eq_nil_of_cut hcut)) hnumber

/-- The terms ahead, after `count` terms with a sum. -/
def scanTerms (whole : String) (body : List Char) (sum : Binary64) (count : Nat)
    (chars : List (Nat × Char)) : Except ScanFault Duration :=
  match chars with
  | [] =>
    if count = 0 then .error (.refused (.numberExpected whole))
    else (ofSeconds sum).mapError .refused
  | (start, c) :: rest =>
    if isBlank c then scanTerms whole body sum count rest
    else
      match _h : scanTerm whole body start ((start, c) :: rest) with
      | .error fault => .error fault
      | .ok ((value, u), next) =>
        scanTerms whole body (sum + value * u.seconds) (count + 1) next
termination_by chars.length
decreasing_by
  · exact Nat.lt_succ_self _
  · exact length_scanTerm_lt _h

/-- Read a duration text by offsets. -/
def scan (s : String) : Except ScanFault Duration := do
  let trimmed := trimChars s.toList
  let whole := String.ofList trimmed
  match utf8 trimmed with
  | [] => throw (.refused .empty)
  | b :: rest =>
    if b = '-'.toUInt8 then throw (.refused (.negativeText whole))
    else
      let body ← if b = '+'.toUInt8 then cut trimmed 1 (rest.length + 1) else pure trimmed
      if body = ['0'] then return zero
      else scanTerms whole body .zero 0 (placed 0 body)

end DataAccess.Duration
