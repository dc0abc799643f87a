import DataAccess.Number.Word
import DataAccess.Proofs.Number.Digits

/-!
# Decimal words read

A text is read as a number exactly if it is a run of digits of that number, with one plus sign or
none in front, and the number is below the bound: `readWord?_eq_some_iff`.
-/

namespace DataAccess.Number

variable {size n m : Nat} {cs : List Char}

/-- A text that writes a number: its digits, after one plus sign or none. -/
def Writes (cs : List Char) (n : Nat) : Prop :=
  ∃ digits, (cs = digits ∨ cs = '+' :: digits) ∧ digits ≠ [] ∧
    (∀ c ∈ digits, isDigit c = true) ∧ natOfDigits digits = n

/-- Digits after a number add up to a number that is not smaller. -/
theorem le_foldl_digits (n : Nat) (cs : List Char) :
    n ≤ cs.foldl (fun n c => 10 * n + digitValue c) n := by
  induction cs generalizing n with
  | nil => exact Nat.le_refl n
  | cons c cs ih => exact Nat.le_trans (by omega) (ih (10 * n + digitValue c))

theorem readDigits_eq_ok_iff (hn : n < size) :
    readDigits size n cs = .ok m ↔
      (∀ c ∈ cs, isDigit c = true) ∧ cs.foldl (fun n c => 10 * n + digitValue c) n = m ∧
        m < size := by
  induction cs generalizing n with
  | nil =>
    simp only [readDigits, Except.ok.injEq, List.not_mem_nil, false_implies, implies_true,
      List.foldl_nil, true_and]
    exact ⟨fun h => ⟨h, h ▸ hn⟩, fun h => h.1⟩
  | cons c cs ih =>
    rw [readDigits, List.forall_mem_cons, List.foldl_cons]
    split
    · next hc => simp [hc]
    · next hc =>
      split
      · next hlt => simp [ih hlt, hc]
      · next hlarge =>
        -- What is too large already stays so.
        have hle := le_foldl_digits (10 * n + digitValue c) cs
        simp only [reduceCtorEq, false_iff]
        omega

theorem isDigit_plus : isDigit '+' = false := by decide

/-- A plus sign is no digit, so that what follows it are the digits. -/
theorem writes_plus_iff :
    Writes ('+' :: cs) n ↔ cs ≠ [] ∧ (∀ c ∈ cs, isDigit c = true) ∧ natOfDigits cs = n := by
  constructor
  · rintro ⟨digits, rfl | heq, hne, hdigits, hnumber⟩
    · exact absurd (hdigits '+' List.mem_cons_self) (by simp [isDigit_plus])
    · obtain ⟨-, rfl⟩ := List.cons.inj heq
      exact ⟨hne, hdigits, hnumber⟩
  · rintro ⟨hne, hdigits, hnumber⟩
    exact ⟨cs, .inr rfl, hne, hdigits, hnumber⟩

theorem writes_iff_of_ne (h : cs.head? ≠ some '+') :
    Writes cs n ↔ cs ≠ [] ∧ (∀ c ∈ cs, isDigit c = true) ∧ natOfDigits cs = n := by
  constructor
  · rintro ⟨digits, rfl | rfl, hne, hdigits, hnumber⟩
    · exact ⟨hne, hdigits, hnumber⟩
    · exact absurd rfl h
  · rintro ⟨hne, hdigits, hnumber⟩
    exact ⟨cs, .inl rfl, hne, hdigits, hnumber⟩

/-- **A text is read as the number that it writes, if that is below the bound.** -/
theorem readWord?_eq_some_iff (hsize : 0 < size) :
    readWord? size cs = some n ↔ Writes cs n ∧ n < size := by
  have hread : ∀ digits, (readDigits size 0 digits).toOption = some n ↔
      ((∀ c ∈ digits, isDigit c = true) ∧ natOfDigits digits = n) ∧ n < size := by
    intro digits
    rw [and_assoc, natOfDigits, ← readDigits_eq_ok_iff hsize]
    cases readDigits size 0 digits <;> simp [Except.toOption]
  unfold readWord?
  fun_cases readWord size cs with
  | case1 =>
    have hempty : ¬ Writes [] n := by simp [@writes_iff_of_ne n [] (by simp)]
    simp [Except.toOption, hempty]
  | case2 => simp [Except.toOption, writes_plus_iff]
  | case3 rest hrest =>
    have hne : rest ≠ [] := fun hnil => hrest (hnil ▸ rfl)
    rw [hread, writes_plus_iff]
    simp [hne]
  | case4 hne _ hplus =>
    have hhead : cs.head? ≠ some '+' := by
      cases cs <;> simp_all
    rw [hread, writes_iff_of_ne hhead]
    simp_all

/-- The digits of a number write it. -/
theorem writes_natText (n : Nat) : Writes (natText n) n :=
  ⟨natText n, .inl rfl, natText_ne_nil n, fun _ => isDigit_of_mem_natText, natOfDigits_natText n⟩

end DataAccess.Number
