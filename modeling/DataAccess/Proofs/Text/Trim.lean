import DataAccess.Text.Blank
import Mathlib.Data.List.DropRight

/-!
# Runs, and texts without blanks at their ends

A run of characters of one kind ends where one of another kind follows (`takeWhile_run`,
`dropWhile_run`).

Trimming is done once (`trimChars_trimChars`), and it never gets past a character that is not blank:
a text that starts with one is trimmed at its end only, and from the last one on at most
(`trimEnd_mark`).
-/

namespace DataAccess.Text

variable {c : Char} {cs before : List Char}

/-! ## Runs -/

section

variable {p : Char → Bool} {run rest : List Char}

theorem takeWhile_run (hrun : ∀ c ∈ run, p c = true) (hrest : ∀ c ∈ rest.head?, p c = false) :
    (run ++ rest).takeWhile p = run := by
  rw [List.takeWhile_append_of_pos hrun]
  cases rest with
  | nil => simp
  | cons c rest => simp [hrest c rfl]

theorem dropWhile_run (hrun : ∀ c ∈ run, p c = true) (hrest : ∀ c ∈ rest.head?, p c = false) :
    (run ++ rest).dropWhile p = rest := by
  rw [List.dropWhile_append_of_pos hrun]
  cases rest with
  | nil => rfl
  | cons c rest => simp [hrest c rfl]

/-- What is left after a run does not go on with it. -/
theorem head_dropWhile (p : Char → Bool) (cs : List Char) :
    ∀ c ∈ (cs.dropWhile p).head?, p c = false := by
  intro c hc
  have hhead := List.head?_dropWhile_not p cs
  rw [Option.mem_def.mp hc] at hhead
  simpa using hhead

end

/-! ## The end of a text -/

theorem trimEnd_isPrefix (cs : List Char) : trimEnd cs <+: cs := List.rdropWhile_prefix isBlank cs

theorem trimEnd_trimEnd (cs : List Char) : trimEnd (trimEnd cs) = trimEnd cs :=
  List.rdropWhile_idempotent isBlank cs

/-- Nothing is trimmed before a character that is not blank. -/
theorem trimEnd_mark (hc : isBlank c = false) (before after : List Char) :
    trimEnd (before ++ c :: after) = before ++ c :: trimEnd after := by
  have hstop : (c :: before.reverse).dropWhile isBlank = c :: before.reverse :=
    List.dropWhile_cons_of_neg (by simp [hc])
  have hreverse : (before ++ c :: after).reverse = after.reverse ++ c :: before.reverse := by simp
  rw [trimEnd, trimEnd, hreverse, List.dropWhile_append, hstop]
  cases hafter : (after.reverse.dropWhile isBlank).isEmpty with
  | true =>
    have hnil := List.isEmpty_iff.mp hafter
    simp [hnil]
  | false => simp

/-! ## Both ends -/

/-- A text that starts with a character that is not blank is trimmed at its end only. -/
theorem trimChars_of_head (hc : isBlank c = false) : trimChars (c :: cs) = trimEnd (c :: cs) := by
  rw [trimChars, List.dropWhile_cons_of_neg (by simp [hc])]

theorem trimChars_trimChars (cs : List Char) : trimChars (trimChars cs) = trimChars cs := by
  cases hstart : cs.dropWhile isBlank with
  | nil =>
    have hnil : trimChars cs = [] := by rw [trimChars, hstart]; rfl
    rw [hnil]
    rfl
  | cons c rest =>
    have hc : isBlank c = false := head_dropWhile isBlank cs c (by rw [hstart]; rfl)
    have htrim : trimChars cs = c :: trimEnd rest := by
      rw [trimChars, hstart]
      exact trimEnd_mark hc [] rest
    rw [htrim, trimChars_of_head hc]
    exact (trimEnd_mark hc [] _).trans (by rw [trimEnd_trimEnd]; rfl)

theorem trimEnd_of_trimmed (h : trimChars cs = cs) : trimEnd cs = cs := by
  have htwice := trimEnd_trimEnd (cs.dropWhile isBlank)
  rw [trimChars] at h
  rwa [h] at htwice

/-- A trimmed text that is not empty has no blank in front. -/
theorem head_of_trimmed (h : trimChars (c :: cs) = c :: cs) : isBlank c = false := by
  by_contra hblank
  have hdrop : (c :: cs).dropWhile isBlank = cs.dropWhile isBlank :=
    List.dropWhile_cons_of_pos (by simpa using hblank)
  have hlength : (trimChars (c :: cs)).length ≤ cs.length := by
    rw [trimChars, hdrop]
    exact (trimEnd_isPrefix _).length_le.trans (List.dropWhile_suffix _).length_le
  rw [h, List.length_cons] at hlength
  omega

end DataAccess.Text
