import DataAccess.Proofs.Text.Ascii
import DataAccess.Proofs.Text.Trim
import DataAccess.Sql.Statement

/-!
# The first word of a statement

The kind of a raw statement is that of its first word. Blanks and comments in front of the word
(`Filler`) are passed over in any number and order, and nothing else is.

* `skipComments_append`: fillers in front of a text do not count;
* `parted`: every text is fillers, and then a text with none of them in front or a comment
  that does not end, so nothing is left out by the other statements;
* `exists_skips`: the scan stops after at most one pass for two characters;
* `infer_by_first_word`: all of it, with the words that write.
-/

namespace DataAccess.Sql

open Text

variable {cs rest text : List Char}

/-! ## What is passed over -/

/-- What may stand in front of the first word: a run of blanks, a comment with the end of its line,
or a block comment. -/
inductive Filler : List Char → Prop
  | blanks (cs : List Char) (h : ∀ c ∈ cs, isBlank c = true) : Filler cs
  | line (text : List Char) (h : '\n' ∉ text) : Filler ('-' :: '-' :: (text ++ ['\n']))
  | block (text : List Char) (h : ¬ ['*', '/'] <:+: text) :
    Filler ('/' :: '*' :: (text ++ ['*', '/']))

/-- A comment that does not end. -/
inductive Unclosed : List Char → Prop
  | line (text : List Char) (h : '\n' ∉ text) : Unclosed ('-' :: '-' :: text)
  | block (text : List Char) (h : ¬ ['*', '/'] <:+: text) : Unclosed ('/' :: '*' :: text)

/-- A text that starts with neither a blank nor a comment. -/
structure Bare (cs : List Char) : Prop where
  noBlank : ∀ c ∈ cs.head?, isBlank c = false
  noLine : ¬ ['-', '-'] <+: cs
  noBlock : ¬ ['/', '*'] <+: cs

theorem Bare.nil : Bare [] := ⟨nofun, by simp, by simp⟩

theorem Bare.dropWhile (h : Bare cs) : cs.dropWhile isBlank = cs :=
  dropWhile_run (List.forall_mem_nil _) h.noBlank

theorem isBlank_dash : isBlank '-' = false := rfl

theorem isBlank_slash : isBlank '/' = false := rfl

/-! ## Where comments end -/

theorem afterLine_append (h : '\n' ∉ text) (rest : List Char) :
    afterLine (text ++ '\n' :: rest) = rest := by
  induction text with
  | nil => rfl
  | cons c text ih =>
    rw [List.mem_cons, not_or] at h
    rw [List.cons_append, afterLine, if_neg (Ne.symm h.1)]
    exact ih h.2

theorem afterLine_of_not_mem (h : '\n' ∉ text) : afterLine text = [] := by
  induction text with
  | nil => rfl
  | cons c text ih =>
    rw [List.mem_cons, not_or] at h
    rw [afterLine, if_neg (Ne.symm h.1)]
    exact ih h.2

/-- The end of a line is in a text or the line goes on to the end of the text. -/
theorem afterLine_cases (cs : List Char) :
    (∃ text, '\n' ∉ text ∧ cs = text ++ '\n' :: afterLine cs) ∨ '\n' ∉ cs := by
  fun_induction afterLine cs with
  | case1 => exact .inr List.not_mem_nil
  | case2 rest => exact .inl ⟨[], List.not_mem_nil, rfl⟩
  | case3 c rest hc ih =>
    rcases ih with ⟨text, htext, heq⟩ | hnone
    · refine .inl ⟨c :: text, ?_, congrArg (c :: ·) heq⟩
      simp [htext, Ne.symm hc]
    · exact .inr (by simp [hnone, Ne.symm hc])

/-- No end of a comment starts with the first character of a text, and none is in the rest. -/
theorem not_infix_cons {c : Char} (hc : ¬ ['*', '/'] <+: c :: cs) (h : ¬ ['*', '/'] <:+: cs) :
    ¬ ['*', '/'] <:+: c :: cs := by
  rw [List.infix_cons_iff, not_or]
  exact ⟨hc, h⟩

theorem afterBlock_append (h : ¬ ['*', '/'] <:+: text) (rest : List Char) :
    afterBlock (text ++ '*' :: '/' :: rest) = rest := by
  induction text with
  | nil => rfl
  | cons c text ih =>
    rw [List.infix_cons_iff, not_or] at h
    -- The character after `c` is the next one of the text, or the star of the end.
    have hopen : ¬ ['*', '/'] <+: c :: (text ++ '*' :: '/' :: rest) := by
      rintro ⟨more, hmore⟩
      cases text with
      | nil => simp at hmore
      | cons d text =>
        obtain ⟨rfl, rfl, -⟩ : '*' = c ∧ '/' = d ∧ _ := by simpa using hmore
        exact h.1 ⟨text, rfl⟩
    obtain ⟨d, tail, htail⟩ : ∃ d tail, text ++ '*' :: '/' :: rest = d :: tail :=
      List.exists_cons_of_ne_nil (by simp)
    rw [List.cons_append]
    rw [htail] at hopen ⊢
    rw [afterBlock, if_neg, ← htail, ih h.2]
    rintro ⟨rfl, rfl⟩
    exact hopen ⟨tail, rfl⟩

theorem afterBlock_of_not_infix (h : ¬ ['*', '/'] <:+: text) : afterBlock text = [] := by
  fun_induction afterBlock text with
  | case1 => rfl
  | case2 => rfl
  | case3 c d rest hend => exact absurd ⟨[], rest, by rw [hend.1, hend.2]; rfl⟩ h
  | case4 c d rest _ ih =>
    rw [List.infix_cons_iff, not_or] at h
    exact ih h.2

/-- The end of a comment is in a text or the comment goes on to the end of the text. -/
theorem afterBlock_cases (cs : List Char) :
    (∃ text, ¬ ['*', '/'] <:+: text ∧ cs = text ++ '*' :: '/' :: afterBlock cs) ∨
      ¬ ['*', '/'] <:+: cs := by
  fun_induction afterBlock cs with
  | case1 => exact .inr (by simp)
  | case2 c => exact .inr fun h => by simpa using h.length_le
  | case3 c d rest hend =>
    obtain ⟨rfl, rfl⟩ := hend
    exact .inl ⟨[], by simp, rfl⟩
  | case4 c d rest hend ih =>
    have hopen : ¬ ['*', '/'] <+: c :: d :: rest := by
      rintro ⟨more, hmore⟩
      cases hmore
      exact hend ⟨rfl, rfl⟩
    rcases ih with ⟨text, htext, heq⟩ | hnone
    · refine .inl ⟨c :: text, not_infix_cons ?_ htext, congrArg (c :: ·) heq⟩
      have hstart : c :: text <+: c :: d :: rest := ⟨'*' :: '/' :: afterBlock (d :: rest), by
        rw [List.cons_append, ← heq]⟩
      exact fun hc => hopen (hc.trans hstart)
    · exact .inr (not_infix_cons hopen hnone)

/-! ## The scan -/

theorem skipComments_line (h : cs.dropWhile isBlank = '-' :: '-' :: rest) :
    skipComments cs = skipComments (afterLine rest) := by
  rw [skipComments]
  split
  · next h' =>
    rw [h] at h'
    cases h'
    rfl
  · next h' =>
    rw [h] at h'
    cases h'
  · next hline _ => exact absurd h (hline rest)

theorem skipComments_block (h : cs.dropWhile isBlank = '/' :: '*' :: rest) :
    skipComments cs = skipComments (afterBlock rest) := by
  rw [skipComments]
  split
  · next h' =>
    rw [h] at h'
    cases h'
  · next h' =>
    rw [h] at h'
    cases h'
    rfl
  · next hblock => exact absurd h (hblock rest)

theorem bare_dropWhile (hline : ∀ rest, cs.dropWhile isBlank ≠ '-' :: '-' :: rest)
    (hblock : ∀ rest, cs.dropWhile isBlank ≠ '/' :: '*' :: rest) :
    Bare (cs.dropWhile isBlank) where
  noBlank := head_dropWhile isBlank cs
  noLine := fun ⟨rest, h⟩ => hline rest h.symm
  noBlock := fun ⟨rest, h⟩ => hblock rest h.symm

/-- Where there is nothing to pass over but blanks, the scan stops. -/
theorem skipComments_stop (h : Bare (cs.dropWhile isBlank)) :
    skipComments cs = cs.dropWhile isBlank := by
  rw [skipComments]
  split
  · next rest h' => exact absurd ⟨rest, h'.symm⟩ h.noLine
  · next rest h' => exact absurd ⟨rest, h'.symm⟩ h.noBlock
  · rfl

theorem skipComments_of_bare (h : Bare cs) : skipComments cs = cs := by
  rw [skipComments_stop (h.dropWhile.symm ▸ h), h.dropWhile]

theorem skipComments_blanks (h : ∀ c ∈ cs, isBlank c = true) (rest : List Char) :
    skipComments (cs ++ rest) = skipComments rest := by
  have hdrop : (cs ++ rest).dropWhile isBlank = rest.dropWhile isBlank :=
    List.dropWhile_append_of_pos h
  fun_cases skipComments rest with
  | case1 text hrest => exact skipComments_line (hdrop.trans hrest)
  | case2 text hrest => exact skipComments_block (hdrop.trans hrest)
  | case3 hline hblock =>
    rw [skipComments_stop (hdrop ▸ bare_dropWhile hline hblock), hdrop]

theorem Filler.skip {f : List Char} (h : Filler f) (rest : List Char) :
    skipComments (f ++ rest) = skipComments rest := by
  cases h with
  | blanks _ hblanks => exact skipComments_blanks hblanks rest
  | line text htext =>
    have hstart : ('-' :: '-' :: (text ++ ['\n']) ++ rest).dropWhile isBlank =
        '-' :: '-' :: (text ++ '\n' :: rest) := by
      simp [isBlank_dash]
    rw [skipComments_line hstart, afterLine_append htext]
  | block text htext =>
    have hstart : ('/' :: '*' :: (text ++ ['*', '/']) ++ rest).dropWhile isBlank =
        '/' :: '*' :: (text ++ '*' :: '/' :: rest) := by
      simp [isBlank_slash]
    rw [skipComments_block hstart, afterBlock_append htext]

/-- **Fillers in front of a text do not count.** -/
theorem skipComments_append {fs : List (List Char)} (h : ∀ f ∈ fs, Filler f) (rest : List Char) :
    skipComments (fs.flatten ++ rest) = skipComments rest := by
  induction fs with
  | nil => rfl
  | cons f fs ih =>
    rw [List.forall_mem_cons] at h
    rw [List.flatten_cons, List.append_assoc, h.1.skip, ih h.2]

theorem Unclosed.skip (h : Unclosed cs) : skipComments cs = [] := by
  have hnil : skipComments [] = [] := skipComments_of_bare .nil
  cases h with
  | line text htext =>
    have hstart : ('-' :: '-' :: text).dropWhile isBlank = '-' :: '-' :: text := by
      simp [isBlank_dash]
    rw [skipComments_line hstart, afterLine_of_not_mem htext, hnil]
  | block text htext =>
    have hstart : ('/' :: '*' :: text).dropWhile isBlank = '/' :: '*' :: text := by
      simp [isBlank_slash]
    rw [skipComments_block hstart, afterBlock_of_not_infix htext, hnil]

/-- A text as what is passed over and what is not: fillers, and then a text with none in front or a
comment that does not end. -/
def Parted (cs : List Char) : Prop :=
  ∃ (fs : List (List Char)) (tail : List Char), (∀ f ∈ fs, Filler f) ∧
    (Bare tail ∨ Unclosed tail) ∧ cs = fs.flatten ++ tail

theorem Parted.of_tail (h : Bare cs ∨ Unclosed cs) : Parted cs :=
  ⟨[], cs, nofun, h, rfl⟩

theorem Parted.cons {f : List Char} (hf : Filler f) (h : Parted rest) : Parted (f ++ rest) := by
  obtain ⟨fs, tail, hfs, htail, rfl⟩ := h
  refine ⟨f :: fs, tail, List.forall_mem_cons.mpr ⟨hf, hfs⟩, htail, ?_⟩
  rw [List.flatten_cons, List.append_assoc]

/-- Blanks in front do not change that a text is parted. -/
theorem Parted.of_dropWhile (h : Parted (cs.dropWhile isBlank)) : Parted cs := by
  have hblanks : Filler (cs.takeWhile isBlank) := .blanks _ fun _ => List.mem_takeWhile_imp
  have hcs := Parted.cons hblanks h
  rwa [List.takeWhile_append_dropWhile] at hcs

/-- **Every text is parted** into what is passed over and what is not. -/
theorem parted (cs : List Char) : Parted cs := by
  fun_induction skipComments cs with
  | case1 cs rest h ih =>
    refine .of_dropWhile ?_
    rw [h]
    rcases afterLine_cases rest with ⟨text, htext, heq⟩ | hnone
    · have hparted := Parted.cons (.line text htext) ih
      rw [heq]
      simpa using hparted
    · exact .of_tail (.inr (.line rest hnone))
  | case2 cs rest h ih =>
    refine .of_dropWhile ?_
    rw [h]
    rcases afterBlock_cases rest with ⟨text, htext, heq⟩ | hnone
    · have hparted := Parted.cons (.block text htext) ih
      rw [heq]
      simpa using hparted
    · exact .of_tail (.inr (.block rest hnone))
  | case3 cs hline hblock => exact .of_dropWhile (.of_tail (.inl (bare_dropWhile hline hblock)))

/-- The scan of a text in passes, one for each comment: how many there are, and what is left. -/
inductive Skips : Nat → List Char → List Char → Prop
  | stop {cs : List Char} (h : Bare (cs.dropWhile isBlank)) : Skips 0 cs (cs.dropWhile isBlank)
  | line {n : Nat} {cs rest out : List Char} (h : cs.dropWhile isBlank = '-' :: '-' :: rest)
    (hrest : Skips n (afterLine rest) out) : Skips (n + 1) cs out
  | block {n : Nat} {cs rest out : List Char} (h : cs.dropWhile isBlank = '/' :: '*' :: rest)
    (hrest : Skips n (afterBlock rest) out) : Skips (n + 1) cs out

/-- **The scan stops**, after at most one pass for two characters. -/
theorem exists_skips (cs : List Char) : ∃ n, 2 * n ≤ cs.length ∧ Skips n cs (skipComments cs) := by
  have hshort {cs rest : List Char} {c d : Char} (h : cs.dropWhile isBlank = c :: d :: rest) :
      rest.length + 2 ≤ cs.length := by
    have hle := (List.dropWhile_suffix isBlank (l := cs)).length_le
    rwa [h] at hle
  fun_induction skipComments cs with
  | case1 cs rest h ih =>
    obtain ⟨n, hn, hskips⟩ := ih
    have hrest := length_afterLine_le rest
    have hcs := hshort h
    exact ⟨n + 1, by omega, .line h hskips⟩
  | case2 cs rest h ih =>
    obtain ⟨n, hn, hskips⟩ := ih
    have hrest := length_afterBlock_le rest
    have hcs := hshort h
    exact ⟨n + 1, by omega, .block h hskips⟩
  | case3 cs hline hblock => exact ⟨0, by omega, .stop (bare_dropWhile hline hblock)⟩

/-! ## Words -/

/-- A word that is another one, in any case of its letters. -/
def Spells (word : List Char) (verb : String) : Prop :=
  word.map Char.toLower = verb.toList.map Char.toLower

instance (word : List Char) (verb : String) : Decidable (Spells word verb) :=
  inferInstanceAs (Decidable (_ = _))

/-- A word of letters in capitals is the verb exactly if its letters are. -/
theorem map_toUpper_eq_iff {word : List Char} {verb : String}
    (hword : ∀ c ∈ word, c.isAlpha = true)
    (hverb : (verb.toList.map Char.toLower).map Char.toUpper = verb.toList) :
    word.map Char.toUpper = verb.toList ↔ Spells word verb := by
  have hlower : (word.map Char.toUpper).map Char.toLower = word.map Char.toLower := by
    rw [List.map_map]
    exact List.map_congr_left fun c hc => (casing_of_isAlpha (hword c hc)).1
  have hupper : (word.map Char.toLower).map Char.toUpper = word.map Char.toUpper := by
    rw [List.map_map]
    exact List.map_congr_left fun c hc => (casing_of_isAlpha (hword c hc)).2
  constructor
  · intro h
    rw [Spells, ← h, hlower]
  · intro h
    rw [← hupper, h, hverb]

/-- What else a word spells depends on a verb that it spells only. -/
theorem Spells.congr {word : List Char} {verb verb' : String} (h : Spells word verb) :
    Spells word verb' ↔ Spells verb.toList verb' := by
  rw [Spells, Spells, h]

/-- The leading run of ASCII letters of a text. -/
structure LeadingRun (word cs : List Char) : Prop where
  isPrefix : word <+: cs
  letters : ∀ c ∈ word, c.isAlpha = true
  maximal : ∀ c ∈ (cs.drop word.length).head?, c.isAlpha = false

theorem LeadingRun.takeWhile {word : List Char} (h : LeadingRun word cs) :
    cs.takeWhile Char.isAlpha = word := by
  obtain ⟨rest, rfl⟩ := h.isPrefix
  have hrest := h.maximal
  rw [List.drop_left] at hrest
  exact takeWhile_run h.letters hrest

/-- What is left after the comments decides the kind. -/
theorem infer_congr {s t : String} (h : skipComments s.toList = skipComments t.toList) :
    Operation.infer s = Operation.infer t := by
  rw [Operation.infer, Operation.infer, leadingWord, leadingWord, h]

/-- The kind of a text whose first word is known. -/
theorem infer_of_leadingRun {cs word : List Char} (hcs : Bare cs) (hword : LeadingRun word cs) :
    Operation.infer (String.ofList cs) =
      if Spells word "INSERT" ∨ Spells word "REPLACE" then .create
      else if Spells word "UPDATE" then .update
      else if Spells word "DELETE" then .delete
      else .query := by
  have hleading : leadingWord (String.ofList cs).toList = word.map Char.toUpper := by
    rw [leadingWord, String.toList_ofList, skipComments_of_bare hcs, hword.takeWhile]
  rw [Operation.infer, hleading]
  have hspells (verb : String) := @map_toUpper_eq_iff word verb hword.letters
  simp only [hspells "INSERT" rfl, hspells "REPLACE" rfl, hspells "UPDATE" rfl,
    hspells "DELETE" rfl]

/-- **The first word decides, and what stands in front of it does not.** Fillers do not count,
whatever follows them. Every text is parted, and the scan of it stops. A text with no filler in front
is of the kind that its leading run of letters names, in any case of the letters, and a query if that
is none of the verbs that write. Where only comments are left, closed or not, it is a query. -/
theorem infer_by_first_word :
    (∀ (fs : List (List Char)) (r : String), (∀ f ∈ fs, Filler f) →
      Operation.infer (String.ofList fs.flatten ++ r) = Operation.infer r) ∧
    (∀ cs : List Char, Parted cs ∧ ∃ n, 2 * n ≤ cs.length ∧ Skips n cs (skipComments cs)) ∧
    (∀ cs word : List Char, Bare cs → LeadingRun word cs →
      (Operation.infer (String.ofList cs) = .create ↔
        Spells word "INSERT" ∨ Spells word "REPLACE") ∧
      (Operation.infer (String.ofList cs) = .update ↔ Spells word "UPDATE") ∧
      (Operation.infer (String.ofList cs) = .delete ↔ Spells word "DELETE") ∧
      (Operation.infer (String.ofList cs) = .query ↔
        ∀ verb ∈ ["INSERT", "REPLACE", "UPDATE", "DELETE"], ¬ Spells word verb)) ∧
    (∀ (fs : List (List Char)) (tail : List Char), (∀ f ∈ fs, Filler f) →
      tail = [] ∨ Unclosed tail →
      Operation.infer (String.ofList (fs.flatten ++ tail)) = .query) := by
  refine ⟨fun fs r hfs => ?_, fun cs => ⟨parted cs, exists_skips cs⟩,
    fun cs word hcs hword => ?_, fun fs tail hfs htail => ?_⟩
  · refine infer_congr ?_
    rw [String.toList_append, String.toList_ofList, skipComments_append hfs]
  · rw [infer_of_leadingRun hcs hword]
    have hupdate (h : Spells word "UPDATE") : ¬ Spells word "INSERT" ∧ ¬ Spells word "REPLACE" := by
      rw [h.congr, h.congr]
      decide
    have hdelete (h : Spells word "DELETE") :
        ¬ Spells word "INSERT" ∧ ¬ Spells word "REPLACE" ∧ ¬ Spells word "UPDATE" := by
      rw [h.congr, h.congr, h.congr]
      decide
    simp only [List.forall_mem_cons]
    grind
  · have hnothing : skipComments tail = [] := by
      rcases htail with rfl | htail
      · exact skipComments_of_bare .nil
      · exact htail.skip
    have hcongr : Operation.infer (String.ofList (fs.flatten ++ tail)) = Operation.infer "" := by
      refine infer_congr ?_
      rw [String.toList_ofList, skipComments_append hfs, hnothing]
      exact (skipComments_of_bare .nil).symm
    rw [hcongr]
    decide +kernel

/-- Marks of comments within comments, a word in mixed case, and a comment that does not end. -/
theorem infer_by_first_word_deletes :
    let fs := ["\t\u00a0".toList, "-- */ /* --\n".toList, "/* -- * / \n**/".toList]
    let cs := "dElEtE/**/FROM t".toList
    (∀ f ∈ fs, Filler f) ∧ Bare cs ∧ LeadingRun "dElEtE".toList cs ∧
      Unclosed "/* DELETE *".toList ∧
      Operation.infer (String.ofList fs.flatten ++ String.ofList cs) = .delete ∧
      Operation.infer (String.ofList (fs.flatten ++ "/* DELETE *".toList)) = .query := by
  intro fs cs
  have hfs : ∀ f ∈ fs, Filler f := by
    have hline : Filler ('-' :: '-' :: (" */ /* --".toList ++ ['\n'])) := .line _ (by simp)
    have hblock : Filler ('/' :: '*' :: (" -- * / \n*".toList ++ ['*', '/'])) :=
      .block _ (by simp [List.infix_cons_iff])
    exact List.forall_mem_cons.mpr ⟨.blanks _ (by simp [isBlank]),
      List.forall_mem_cons.mpr ⟨hline, List.forall_mem_singleton.mpr hblock⟩⟩
  have hcs : Bare cs := ⟨by simp [cs, isBlank], by simp [cs], by simp [cs]⟩
  have hword : LeadingRun "dElEtE".toList cs := ⟨by simp [cs], by simp, by simp [cs]⟩
  have hopen : Unclosed "/* DELETE *".toList :=
    .block " DELETE *".toList (by simp [List.infix_cons_iff])
  obtain ⟨hfillers, -, hbare, hunclosed⟩ := infer_by_first_word
  refine ⟨hfs, hcs, hword, hopen, ?_, hunclosed fs _ hfs (.inr hopen)⟩
  rw [hfillers fs _ hfs]
  exact (hbare cs _ hcs hword).2.2.1.mpr (by decide)

end DataAccess.Sql
