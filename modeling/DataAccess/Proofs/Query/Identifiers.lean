import DataAccess.Proofs.Query.Tokens
import DataAccess.Sqlite.Token

/-!
# Identifiers

A quoted name ends by itself. `identifier?` reads one at the start of a text: after the opening
quote a doubled quote stands for one, and a single quote closes. It reads a name, and leaves a rest,
from exactly the texts that are the quoted name with a rest behind it that does not begin with a
quote (`identifier?_eq_some_iff`), so no other text is taken for a name and no name ends early,
wherever its own quotes are.

The readers of whole statements agree: the tokens of a quoted name and a text are its one token and
those of the text (`tokensOf_quote_append`), and so are the tokens that SQLite cuts a script into
(`scan_quote_append`).
-/

namespace DataAccess.Sql

/-! ### The reader -/

/-- The characters of a name after its opening quote, and what is left of the text. -/
def nameBody? (q : Char) : List Char → Option (List Char × List Char)
  | [] => none
  | c :: cs =>
    if c = q then
      match cs with
      | [] => some ([], [])
      | c' :: rest =>
        if c' = q then (nameBody? q rest).map (Prod.map (q :: ·) id) else some ([], c' :: rest)
    else (nameBody? q cs).map (Prod.map (c :: ·) id)

/-- The name that a text begins with, and what is left of the text. -/
def identifier? (d : Driver) : List Char → Option (String × List Char)
  | [] => none
  | c :: cs =>
    if c = quoteChar d then (nameBody? (quoteChar d) cs).map (Prod.map String.ofList id) else none

section Body

variable {q c : Char} {cs name rest : List Char}

/-- A quote that no other one follows closes the name. -/
theorem nameBody?_close (h : rest.head? ≠ some q) : nameBody? q (q :: rest) = some ([], rest) := by
  unfold nameBody?
  rw [if_pos rfl]
  cases rest with
  | nil => rfl
  | cons c rest => exact if_neg fun hc => h (congrArg some hc)

theorem nameBody?_doubled :
    nameBody? q (q :: q :: rest) = (nameBody? q rest).map (Prod.map (q :: ·) id) :=
  (nameBody?.eq_def q _).trans ((if_pos rfl).trans (if_pos rfl))

theorem nameBody?_cons (h : c ≠ q) :
    nameBody? q (c :: cs) = (nameBody? q cs).map (Prod.map (c :: ·) id) :=
  (nameBody?.eq_def q _).trans (if_neg h)

/-- What is written of a name is read to its end. -/
theorem nameBody?_doubleQuotes (h : rest.head? ≠ some q) (name : List Char) :
    nameBody? q (doubleQuotes q name ++ q :: rest) = some (name, rest) := by
  induction name with
  | nil => exact nameBody?_close h
  | cons c name ih =>
    unfold doubleQuotes
    split
    · next hc =>
      rw [List.cons_append, List.cons_append, nameBody?_doubled, ih, hc]
      rfl
    · next hc =>
      rw [List.cons_append, nameBody?_cons hc, ih]
      rfl

/-- Whatever is read as a name is what is written of it. -/
theorem eq_of_nameBody? (h : nameBody? q cs = some (name, rest)) :
    cs = doubleQuotes q name ++ q :: rest ∧ rest.head? ≠ some q := by
  -- The induction follows the reader, which takes a doubled quote or one character at a time.
  induction cs using nameBody?.induct q generalizing name with
  | case1 => cases h
  | case2 =>
    have hend : ([] : List Char).head? ≠ some q := nofun
    rw [nameBody?_close hend] at h
    cases h
    exact ⟨rfl, hend⟩
  | case3 cs ih =>
    rw [nameBody?_doubled, Option.map_eq_some_iff] at h
    obtain ⟨⟨body, left⟩, hbody, hname⟩ := h
    cases hname
    obtain ⟨hcs, hrest⟩ := ih hbody
    exact ⟨by rw [doubleQuotes, if_pos rfl, hcs]; rfl, hrest⟩
  | case4 c cs hc =>
    have hnext : (c :: cs).head? ≠ some q := fun heq => hc (Option.some.inj heq)
    rw [nameBody?_close hnext] at h
    cases h
    exact ⟨rfl, hnext⟩
  | case5 c cs hc ih =>
    rw [nameBody?_cons hc, Option.map_eq_some_iff] at h
    obtain ⟨⟨body, left⟩, hbody, hname⟩ := h
    cases hname
    obtain ⟨hcs, hrest⟩ := ih hbody
    exact ⟨by rw [doubleQuotes, if_neg hc, hcs]; rfl, hrest⟩

end Body

section Reader

variable {d : Driver} {cs rest : List Char} {name : String}

theorem quote_append (d : Driver) (name : String) (rest : List Char) :
    (quote d name).toList ++ rest =
      quoteChar d :: (doubleQuotes (quoteChar d) name.toList ++ quoteChar d :: rest) := by
  simp [quote, quoteChars]

/-- A name is read from a text, with a rest, exactly if the text is the quoted name and the rest
does not begin with a quote. -/
theorem identifier?_eq_some_iff : identifier? d cs = some (name, rest) ↔
    cs = (quote d name).toList ++ rest ∧ rest.head? ≠ some (quoteChar d) := by
  rw [quote_append]
  constructor
  · intro h
    cases cs with
    | nil => cases h
    | cons c cs =>
      rw [identifier?] at h
      split at h
      · next hc =>
        rw [Option.map_eq_some_iff] at h
        obtain ⟨⟨body, left⟩, hbody, hname⟩ := h
        cases hname
        obtain ⟨hcs, hrest⟩ := eq_of_nameBody? hbody
        exact ⟨by rw [hc, hcs, id, String.toList_ofList], hrest⟩
      · cases h
  · rintro ⟨rfl, hrest⟩
    rw [identifier?, if_pos rfl, nameBody?_doubleQuotes hrest, Option.map_some, Prod.map_apply,
      String.ofList_toList]
    rfl

-- A name that tries to go on as a statement.
example : identifier? .mysql ("`a``; DROP TABLE b; --` WHERE".toList) =
    some ("a`; DROP TABLE b; --", " WHERE".toList) := by decide +kernel

end Reader

/-! ### Whole statements -/

namespace Lexing

variable {d : Driver}

/-- A text after a name that has been closed, unless it opens the name again. -/
theorem run_closed (name cs : List Char) (h : cs.head? ≠ some (quoteChar d)) :
    (run d ⟨[], .closed name⟩ cs).finish =
      .name (String.ofList name) :: (run d .start cs).finish := by
  cases cs with
  | nil => rfl
  | cons c cs =>
    have hc : c ≠ quoteChar d := fun heq => h (congrArg some heq)
    have hstep : step d ⟨[], .closed name⟩ c = begin d [.name (String.ofList name)] c := by
      simp [step, Pending.extend?, hc, finish, Pending.tokens]
    have hstart : step d .start c = begin d [] c := rfl
    have hshift := begin_shift (d := d) [.name (String.ofList name)] [] c
    rw [List.append_nil] at hshift
    rw [run_cons, run_cons, hstep, hstart, hshift, run_shift]
    rfl

end Lexing

/-- A quoted name before a text is its one token before those of the text. -/
theorem tokensOf_quote_append {d : Driver} {rest : String}
    (h : rest.toList.head? ≠ some (quoteChar d)) (name : String) :
    tokensOf d (quote d name ++ rest) = .name name :: tokensOf d rest := by
  rw [tokensOf, String.toList_append, Lexing.run_append, Lexing.run_quote,
    Lexing.run_closed _ _ h, String.ofList_toList]
  rfl

/-! ### Scripts of SQLite -/

section Script

open Sqlite.Token

variable {q c : Char} {cs rest : List Char}

theorem closedQuote_cons (h : c ≠ q) :
    closedQuote q (c :: cs) = (closedQuote q cs).map (· + 1) := by
  cases cs with
  | nil => simp [closedQuote, h]
  | cons d cs => rw [closedQuote, if_neg h]

theorem closedQuote_doubleQuotes (h : rest.head? ≠ some q) (name : List Char) :
    closedQuote q (doubleQuotes q name ++ q :: rest) =
      some ((doubleQuotes q name).length + 1) := by
  induction name with
  | nil =>
    cases rest with
    | nil => simp [doubleQuotes, closedQuote]
    | cons c rest =>
      have hc : c ≠ q := fun heq => h (congrArg some heq)
      simp [doubleQuotes, closedQuote, hc]
  | cons c name ih =>
    unfold doubleQuotes
    split
    · rw [List.cons_append, List.cons_append, closedQuote, if_pos rfl, if_pos rfl, ih]
      rfl
    · next hc =>
      rw [List.cons_append, closedQuote_cons hc, ih]
      rfl

theorem undouble_cons (h : c ≠ q) : undouble q (c :: cs) = c :: undouble q cs := by
  cases cs with
  | nil => simp [undouble]
  | cons d cs => rw [undouble, if_neg fun hboth => h hboth.1]

theorem undouble_doubleQuotes (name : List Char) : undouble q (doubleQuotes q name) = name := by
  induction name with
  | nil => rfl
  | cons c name ih =>
    unfold doubleQuotes
    split
    · next hc => rw [undouble, if_pos ⟨rfl, rfl⟩, ih, hc]
    · next hc => rw [undouble_cons hc, ih]

/-- A quote begins a quoted name, in SQLite either one. -/
theorem classify_quoteChar (d : Driver) (cs : List Char) :
    classify (quoteChar d) cs = quotedKind (quoteChar d) .name cs := by
  cases d <;> simp [classify, quoteChar, isSpace]

theorem value_quote {lead : List Char} (d : Driver) (name : String) :
    value ⟨.name, (quote d name).toList, lead⟩ = name.toList := by
  have hinside : undouble (quoteChar d)
      (doubleQuotes (quoteChar d) name.toList ++ [quoteChar d]).dropLast = name.toList := by
    rw [List.dropLast_concat, undouble_doubleQuotes]
  rw [quote, String.toList_ofList, quoteChars]
  cases d <;> exact hinside

/-- SQLite cuts a quoted name off a script as one token, which it reads as the name. -/
theorem scan_quote_append {d : Driver} (h : rest.head? ≠ some (quoteChar d)) (name : String) :
    ∃ t : Sqlite.Token, t.kind = .name ∧ t.value = name.toList ∧
      scan ((quote d name).toList ++ rest) = t :: scan rest := by
  refine ⟨⟨.name, (quote d name).toList, []⟩, rfl, value_quote d name, ?_⟩
  have hsplit : doubleQuotes (quoteChar d) name.toList ++ quoteChar d :: rest =
      (doubleQuotes (quoteChar d) name.toList ++ [quoteChar d]) ++ rest := by
    rw [List.append_assoc, List.singleton_append]
  have hlength : (doubleQuotes (quoteChar d) name.toList ++ [quoteChar d]).length =
      (doubleQuotes (quoteChar d) name.toList).length + 1 := List.length_append
  have hkind := closedQuote_doubleQuotes h name.toList
  rw [quote_append, scan, scanAfter, classify_quoteChar, quotedKind, hkind, hsplit]
  simp only [List.take_left' hlength, List.drop_left' hlength]
  rw [quote, String.toList_ofList, quoteChars]
  rfl

end Script

end DataAccess.Sql
