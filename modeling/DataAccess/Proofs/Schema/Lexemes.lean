import Mathlib.Data.List.Forall2
import DataAccess.Proofs.Query.Tokens
import DataAccess.Sql.Schema

/-!
# Statements with expressions in them

The default of a column is written into a statement as it is, and may be any text. A reader that
looked inside of it would find whatever is there, so here a statement comes in pieces: text, and
expressions that are not looked into. `Scan` reads the tokens of the text across pieces, and counts
each expression as one `Lexeme`.

`Scans` says which lexemes some pieces have, whatever stands before them, as `Reads` does for a
text. Without expressions the lexemes are the tokens of the text (`lexemesOf_text`).
-/

namespace DataAccess.Sql

/-! ### Pieces and lexemes -/

/-- A piece of a statement. -/
inductive Piece where
  | text (s : String)
  /-- An expression that is not looked into. -/
  | expression (s : String)

/-- What some pieces are as a text. -/
def written : List Piece → String
  | [] => ""
  | .text s :: rest => s ++ written rest
  | .expression s :: rest => s ++ written rest

/-- A token, or an expression as a whole. -/
inductive Lexeme where
  | token (t : Token)
  | expression (s : String)
deriving DecidableEq

namespace Lexeme

@[match_pattern] abbrev word (s : String) : Lexeme := .token (.word s)
@[match_pattern] abbrev name (s : String) : Lexeme := .token (.name s)
@[match_pattern] abbrev mark (c : Char) : Lexeme := .token (.mark c)

end Lexeme

/-- How far pieces have been read: the lexemes before the last expression and up to it, and how far
the text after it has been read. -/
structure Scan where
  done : List Lexeme
  lexing : Lexing

namespace Scan

/-- Nothing has been read. -/
def start : Scan := ⟨[], .start⟩

/-- The lexemes if the statement ends here. -/
def finish (s : Scan) : List Lexeme := s.done ++ s.lexing.finish.map .token

/-- Read a piece. -/
def step (d : Driver) (s : Scan) : Piece → Scan
  | .text t => ⟨s.done, s.lexing.run d t.toList⟩
  | .expression e => ⟨s.finish ++ [.expression e], .start⟩

/-- Read some pieces. -/
def run (d : Driver) (s : Scan) (ps : List Piece) : Scan := ps.foldl (step d) s

end Scan

/-- The lexemes of a statement. -/
def lexemesOf (d : Driver) (ps : List Piece) : List Lexeme := (Scan.run d .start ps).finish

variable {d : Driver} {ps qs : List Piece} {ls ms : List Lexeme}
variable {after after' clean clean' : Bool}

theorem written_append (ps qs : List Piece) : written (ps ++ qs) = written ps ++ written qs := by
  induction ps with
  | nil => exact String.empty_append.symm
  | cons p rest ih =>
    cases p with
    | text s => simp only [List.cons_append, written, ih, String.append_assoc]
    | expression s => simp only [List.cons_append, written, ih, String.append_assoc]

/-- Parts with the same piece between them are written with its text between them. -/
theorem written_intercalate (sep : String) (parts : List (List Piece)) :
    written ([.text sep].intercalate parts) = sep.intercalate (parts.map written) := by
  induction parts with
  | nil => rfl
  | cons part rest ih =>
    cases rest with
    | nil => rw [List.intercalate_singleton, List.map_singleton, String.intercalate_singleton]
    | cons next rest =>
      simp only [List.map_cons] at ih ⊢
      rw [List.intercalate_cons_cons, written_append, written_append, ih,
        String.intercalate_cons_cons, written, written, String.append_empty]

/-! ### Reading pieces -/

/-- Some pieces have some lexemes, after anything or (unless `after`) where no token is pending; with
`clean` they leave no token pending. -/
def Scans (d : Driver) (after : Bool) (ps : List Piece) (ls : List Lexeme) (clean : Bool) : Prop :=
  ∀ s : Scan, s.lexing.pending.isOpen = false → (after = false → s.lexing.pending = .nothing) →
    (s.run d ps).lexing.pending.isOpen = false ∧ (s.run d ps).finish = s.finish ++ ls ∧
      (clean = true → (s.run d ps).lexing.pending = .nothing)

namespace Scans

theorem nil (after : Bool) : Scans d after [] [] false :=
  fun _ hopen _ => ⟨hopen, (List.append_nil _).symm, nofun⟩

theorem append (h : Scans d after ps ls clean) (h' : Scans d after' qs ms clean')
    (hglue : clean = true ∨ after' = true) : Scans d after (ps ++ qs) (ls ++ ms) clean' := by
  intro s hopen hs
  -- The second part has nothing pending before it, or does not mind what is.
  obtain ⟨hopen₁, hfinish₁, hclean₁⟩ := h s hopen hs
  obtain ⟨hopen₂, hfinish₂, hclean₂⟩ := h' (s.run d ps) hopen₁ fun hafter => by
    rcases hglue with hclean | htrue
    · exact hclean₁ hclean
    · rw [hafter] at htrue
      cases htrue
  have hrun : s.run d (ps ++ qs) = (s.run d ps).run d qs := List.foldl_append
  rw [hrun]
  exact ⟨hopen₂, by rw [hfinish₂, hfinish₁, List.append_assoc], hclean₂⟩

theorem weaken (h : Scans d after ps ls clean) : Scans d after ps ls false := by
  intro s hopen hs
  obtain ⟨hopen', hfinish, -⟩ := h s hopen hs
  exact ⟨hopen', hfinish, nofun⟩

/-- A text has its tokens. -/
theorem text {t : String} {ts : List Token} (h : Reads d after t.toList ts clean) :
    Scans d after [.text t] (ts.map .token) clean := by
  intro s hopen hs
  obtain ⟨hopen', hfinish, hclean⟩ := h s.lexing hopen hs
  refine ⟨hopen', ?_, hclean⟩
  show s.done ++ (s.lexing.run d t.toList).finish.map .token = s.finish ++ ts.map .token
  rw [hfinish, List.map_append, ← List.append_assoc]
  rfl

/-- An expression is one lexeme, and ends whatever is pending. -/
theorem expression (e : String) : Scans d true [.expression e] [.expression e] true :=
  fun _ _ _ => ⟨rfl, List.append_nil _, fun _ => rfl⟩

theorem name (n : String) : Scans d false [.text (quote d n)] [.name n] false := .text (.name n)

/-- Parts with something between them that may stand after anything and leaves nothing pending. -/
theorem intercalate {sep : String} {t : Token} {parts : List (List Piece)}
    {groups : List (List Lexeme)} (hsep : Reads d true sep.toList [t] true)
    (h : List.Forall₂ (fun ps ls => Scans d false ps ls false) parts groups) :
    Scans d false ([.text sep].intercalate parts) ([.token t].intercalate groups) false := by
  induction h with
  | nil => exact .nil false
  | @cons part group parts groups hpart hrest ih =>
    cases hrest with
    | nil => simpa [List.intercalate_singleton] using hpart
    | cons _ _ =>
      rw [List.intercalate_cons_cons, List.intercalate_cons_cons]
      exact (hpart.append (.text hsep) (.inr rfl)).append ih (.inl rfl)

theorem lexemesOf (h : Scans d after ps ls clean) : lexemesOf d ps = ls :=
  (h .start rfl fun _ => rfl).2.1

end Scans

/-! ### Text alone -/

/-- Whether a piece is text. -/
def Piece.isText : Piece → Bool
  | text _ => true
  | expression _ => false

/-- Without expressions, the lexemes are the tokens of the text. -/
theorem lexemesOf_text (h : ps.all Piece.isText = true) :
    lexemesOf d ps = (tokensOf d (written ps)).map .token := by
  have hrun : ∀ s : Scan, s.run d ps = ⟨s.done, s.lexing.run d (written ps).toList⟩ := by
    induction ps with
    | nil => exact fun _ => rfl
    | cons p rest ih =>
      intro s
      cases p with
      | expression e => cases h
      | text t =>
        rw [written, String.toList_append, Lexing.run_append]
        exact ih h ⟨s.done, s.lexing.run d t.toList⟩
  rw [lexemesOf, hrun]
  rfl

theorem isText_intercalate {sep : String} {parts : List (List Piece)}
    (h : ∀ part ∈ parts, part.all Piece.isText = true) :
    ([.text sep].intercalate parts).all Piece.isText = true := by
  induction parts with
  | nil => rfl
  | cons part rest ih =>
    obtain ⟨hpart, hrest⟩ := List.forall_mem_cons.mp h
    cases rest with
    | nil => rwa [List.intercalate_singleton]
    | cons next rest =>
      rw [List.intercalate_cons_cons, List.all_append, List.all_append, hpart, ih hrest]
      rfl

end DataAccess.Sql
