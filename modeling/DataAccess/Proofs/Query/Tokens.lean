import DataAccess.Proofs.Number.Digits
import DataAccess.Sql.Query

/-!
# The tokens of a statement

A reader of statements, character by character, for each dialect: words, quoted names, parameters,
numbers and marks. It is a machine with one pending token, which the next character makes longer or
ends. Names are arbitrary texts, so it has to be shown that what is inside a quoted name never ends
it, and that no two neighbours run into one token.

`Reads` says which tokens a piece of text has, whatever stands before it; pieces are put together by
`Reads.append`. Fragments of a statement are such pieces (`Fragment.Lexes`), and the main statement
is `tokensOf_statement`: the tokens of a rendered statement are the tokens of its fragments.
-/

namespace DataAccess.Sql

open Number Text

/-! ### Tokens -/

/-- A token of a statement. -/
inductive Token where
  /-- A word without quotes: a keyword, a function, an alias. -/
  | word (text : String)
  /-- A quoted name, without its quotes. -/
  | name (text : String)
  /-- A parameter, with its number if the dialect numbers them. -/
  | placeholder (number : Option Nat)
  | number (value : Nat)
  /-- Any other character. -/
  | mark (char : Char)
  /-- A quoted name without its end, or a parameter without its number. -/
  | broken (text : String)
deriving DecidableEq

/-- The name that a token is. -/
def Token.name? : Token → Option String
  | name n => some n
  | _ => none

/-- A token that the next character may still be part of. -/
inductive Pending where
  | nothing
  | word (text : List Char)
  | number (digits : List Char)
  | parameter (digits : List Char)
  /-- Inside of a quoted name. -/
  | name (text : List Char)
  /-- Behind a quote that ends the name, unless another one follows. -/
  | closed (text : List Char)
deriving DecidableEq

namespace Pending

/-- The token that is there if the text ends here. -/
def tokens : Pending → List Token
  | nothing => []
  | word cs => [.word (String.ofList cs)]
  | number ds => [.number (natOfDigits ds)]
  | parameter ds =>
    if ds.isEmpty then [.broken "$"] else [.placeholder (some (natOfDigits ds))]
  | name cs => [.broken (String.ofList cs)]
  | closed cs => [.name (String.ofList cs)]

/-- Whether a quoted name is not closed yet. -/
def isOpen : Pending → Bool
  | name _ => true
  | _ => false

/-- A character inside of a word. -/
def isWordChar (c : Char) : Bool := c.isAlpha || isDigit c || c == '_'

/-- The pending token with one more character, if that is a part of it. -/
def extend? (d : Driver) (c : Char) : Pending → Option Pending
  | nothing => none
  | word cs => if isWordChar c then some (word (cs ++ [c])) else none
  | number ds => if isDigit c then some (number (ds ++ [c])) else none
  | parameter ds => if isDigit c then some (parameter (ds ++ [c])) else none
  | name cs => some (if c = quoteChar d then closed cs else name (cs ++ [c]))
  | closed cs => if c = quoteChar d then some (name (cs ++ [c])) else none

end Pending

/-- How far a text has been read: the tokens that are complete, and the pending one. -/
structure Lexing where
  tokens : List Token
  pending : Pending
deriving DecidableEq

namespace Lexing

/-- Nothing has been read. -/
def start : Lexing := ⟨[], .nothing⟩

/-- The tokens if the text ends here. -/
def finish (s : Lexing) : List Token := s.tokens ++ s.pending.tokens

/-- Begin a token after some others. -/
def begin (d : Driver) (ts : List Token) (c : Char) : Lexing :=
  if isDigit c then ⟨ts, .number [c]⟩
  else if c = quoteChar d then ⟨ts, .name []⟩
  else if isBlank c then ⟨ts, .nothing⟩
  else if c.isAlpha then ⟨ts, .word [c]⟩
  else if c = '$' ∧ d = .postgresql then ⟨ts, .parameter []⟩
  else if c = '?' ∧ d ≠ .postgresql then ⟨ts ++ [.placeholder none], .nothing⟩
  else ⟨ts ++ [.mark c], .nothing⟩

/-- Read a character. -/
def step (d : Driver) (s : Lexing) (c : Char) : Lexing :=
  match s.pending.extend? d c with
  | some p => ⟨s.tokens, p⟩
  | none => begin d s.finish c

/-- Read a text. -/
def run (d : Driver) (s : Lexing) (cs : List Char) : Lexing := cs.foldl (step d) s

end Lexing

/-- The tokens of a statement. -/
def tokensOf (d : Driver) (sql : String) : List Token := (Lexing.run d .start sql.toList).finish

/-- The numbers of the parameters in the order in which they are read. -/
def parametersOf (ts : List Token) : List (Option Nat) :=
  ts.filterMap fun
    | .placeholder n => some n
    | _ => none

namespace Lexing

variable {d : Driver} {s : Lexing} {ts us : List Token} {p : Pending} {c : Char}
variable {cs ds : List Char}

theorem run_append (s : Lexing) (cs ds : List Char) :
    run d s (cs ++ ds) = run d (run d s cs) ds := List.foldl_append

theorem run_cons (s : Lexing) (c : Char) (cs : List Char) :
    run d s (c :: cs) = run d (step d s c) cs := rfl

/-! ### What was read before does not matter -/

theorem begin_shift (us ts : List Token) (c : Char) :
    begin d (us ++ ts) c = ⟨us ++ (begin d ts c).tokens, (begin d ts c).pending⟩ := by
  unfold begin
  repeat' split
  all_goals simp

theorem step_shift (us ts : List Token) (p : Pending) (c : Char) :
    step d ⟨us ++ ts, p⟩ c =
      ⟨us ++ (step d ⟨ts, p⟩ c).tokens, (step d ⟨ts, p⟩ c).pending⟩ := by
  unfold step
  cases p.extend? d c with
  | some p' => rfl
  | none => simp only [finish, List.append_assoc, begin_shift us]

/-- The tokens before a text stay before its tokens. -/
theorem run_shift (us ts : List Token) (p : Pending) (cs : List Char) :
    run d ⟨us ++ ts, p⟩ cs = ⟨us ++ (run d ⟨ts, p⟩ cs).tokens, (run d ⟨ts, p⟩ cs).pending⟩ := by
  induction cs generalizing ts p with
  | nil => rfl
  | cons c rest ih => rw [run_cons, run_cons, step_shift, ih]

/-- A character that is no part of a word or a number and no quote. -/
def isBreak (c : Char) : Bool := !Pending.isWordChar c && c != '"' && c != '\x60'

theorem ne_quoteChar_of_isBreak (h : isBreak c = true) : c ≠ quoteChar d := by
  simp only [isBreak, Bool.and_eq_true, bne_iff_ne] at h
  cases d with
  | mysql => exact h.2
  | _ => exact h.1.2

/-- A break ends the pending token, whatever it is. -/
theorem step_of_isBreak (hc : isBreak c = true) (hs : s.pending.isOpen = false) :
    step d s c = begin d s.finish c := by
  have hquote := ne_quoteChar_of_isBreak (d := d) hc
  have hword : Pending.isWordChar c = false := by
    simp only [isBreak, Bool.and_eq_true, Bool.not_eq_true'] at hc
    exact hc.1.1
  have hdigit : isDigit c = false := by
    simp only [Pending.isWordChar, Bool.or_eq_false_iff] at hword
    exact hword.1.2
  rcases s with ⟨ts, p⟩
  cases p with
  | name cs => cases hs
  | _ => simp [step, Pending.extend?, hword, hdigit, hquote]

end Lexing

/-! ### Pieces of text -/

/-- A text has some tokens, after anything or (unless `after`) where no token is pending; with
`clean` it leaves no token pending. -/
def Reads (d : Driver) (after : Bool) (cs : List Char) (ts : List Token) (clean : Bool) : Prop :=
  ∀ s : Lexing, s.pending.isOpen = false → (after = false → s.pending = .nothing) →
    (s.run d cs).pending.isOpen = false ∧ (s.run d cs).finish = s.finish ++ ts ∧
      (clean = true → (s.run d cs).pending = .nothing)

namespace Reads

variable {d : Driver} {after after' clean clean' : Bool} {cs ds : List Char} {ts us : List Token}

theorem nil (after : Bool) : Reads d after [] [] false :=
  fun _ hopen _ => ⟨hopen, (List.append_nil _).symm, nofun⟩

/-- Two texts, of which the first one leaves nothing pending or the second one may stand after
anything. -/
theorem append (h : Reads d after cs ts clean) (h' : Reads d after' ds us clean')
    (hglue : clean = true ∨ after' = true) : Reads d after (cs ++ ds) (ts ++ us) clean' := by
  intro s hopen hs
  obtain ⟨hopen₁, hfinish₁, hclean₁⟩ := h s hopen hs
  obtain ⟨hopen₂, hfinish₂, hclean₂⟩ := h' (s.run d cs) hopen₁ fun hafter => by
    rcases hglue with hclean | htrue
    · exact hclean₁ hclean
    · rw [hafter] at htrue
      cases htrue
  rw [Lexing.run_append]
  exact ⟨hopen₂, by rw [hfinish₂, hfinish₁, List.append_assoc], hclean₂⟩

theorem weaken (h : Reads d after cs ts clean) : Reads d after cs ts false := by
  intro s hopen hs
  obtain ⟨hopen', hfinish, -⟩ := h s hopen hs
  exact ⟨hopen', hfinish, nofun⟩

/-- The tokens of a text alone. -/
theorem finish_run (h : Reads d after cs ts clean) : (Lexing.run d .start cs).finish = ts :=
  (h .start rfl fun _ => rfl).2.1

/-- What holds of a text alone holds of it wherever a break begins it. -/
theorem of_run (hbreak : after = true → ∃ c rest, cs = c :: rest ∧ Lexing.isBreak c = true)
    (hopen : (Lexing.run d .start cs).pending.isOpen = false)
    (hfinish : (Lexing.run d .start cs).finish = ts)
    (hclean : clean = true → (Lexing.run d .start cs).pending = .nothing) :
    Reads d after cs ts clean := by
  -- Either nothing is pending, or the break ends what is: both ways the text is read afresh.
  have hrun : ∀ s : Lexing, s.pending.isOpen = false → (after = false → s.pending = .nothing) →
      s.run d cs = ⟨s.finish ++ (Lexing.run d .start cs).tokens,
        (Lexing.run d .start cs).pending⟩ := by
    intro s hs hnothing
    cases after with
    | false =>
      rcases s with ⟨us, p⟩
      obtain rfl : p = .nothing := hnothing rfl
      have := Lexing.run_shift (d := d) us [] .nothing cs
      rw [List.append_nil] at this
      rw [this, Lexing.finish, Pending.tokens, List.append_nil]
      rfl
    | true =>
      obtain ⟨c, rest, rfl, hc⟩ := hbreak rfl
      have hstart : Lexing.step d .start c = Lexing.begin d [] c := rfl
      have hbegin := Lexing.begin_shift (d := d) s.finish [] c
      rw [List.append_nil] at hbegin
      rw [Lexing.run_cons, Lexing.run_cons, Lexing.step_of_isBreak hc hs, hbegin, hstart,
        Lexing.run_shift]
  intro s hs hnothing
  rw [hrun s hs hnothing]
  refine ⟨hopen, ?_, hclean⟩
  rw [← hfinish]
  exact List.append_assoc _ _ _

end Reads

/-- Whether a text has some tokens, by reading it. -/
def readsAlone (d : Driver) (after : Bool) (cs : List Char) (ts : List Token) (clean : Bool) :
    Bool :=
  let r := Lexing.run d .start cs
  (!after || cs.head?.any Lexing.isBreak) && !r.pending.isOpen && r.finish == ts &&
    (!clean || r.pending == .nothing)

theorem Reads.of_readsAlone {d : Driver} {after clean : Bool} {cs : List Char} {ts : List Token}
    (h : readsAlone d after cs ts clean = true) : Reads d after cs ts clean := by
  simp only [readsAlone, Bool.and_eq_true, Bool.or_eq_true, Bool.not_eq_true', beq_iff_eq] at h
  obtain ⟨⟨⟨hbreak, hopen⟩, hfinish⟩, hclean⟩ := h
  refine .of_run (fun htrue => ?_) hopen hfinish fun htrue => ?_
  · cases cs with
    | nil => simp [htrue] at hbreak
    | cons c rest => exact ⟨c, rest, rfl, by simpa [htrue] using hbreak⟩
  · simpa [htrue] using hclean

/-! ### Words -/

/-- Words of a statement with their tokens. -/
structure Wording where
  /-- Whether a token may be pending before them. -/
  after : Bool
  text : String
  tokens : List Token
  /-- Whether they leave no token pending. -/
  clean : Bool

/-- The words of the statements on a table. -/
def wordings : List Wording := [
  ⟨false, "NULL", [.word "NULL"], false⟩,
  ⟨true, ", ", [.mark ','], true⟩,
  ⟨true, " = ", [.mark '='], true⟩,
  ⟨true, " IS NULL", [.word "IS", .word "NULL"], false⟩,
  ⟨true, " WHERE ", [.word "WHERE"], true⟩,
  ⟨true, " AND ", [.word "AND"], true⟩,
  ⟨true, " ORDER BY ", [.word "ORDER", .word "BY"], true⟩,
  ⟨true, " DESC", [.word "DESC"], false⟩,
  ⟨true, " LIMIT ", [.word "LIMIT"], true⟩,
  ⟨true, " LIMIT 18446744073709551615", [.word "LIMIT", .number 18446744073709551615], false⟩,
  ⟨true, " LIMIT -1", [.word "LIMIT", .mark '-', .number 1], false⟩,
  ⟨true, " OFFSET ", [.word "OFFSET"], true⟩,
  ⟨false, "SELECT * FROM ", [.word "SELECT", .mark '*', .word "FROM"], true⟩,
  ⟨false, "SELECT COUNT(*) AS count FROM ", [.word "SELECT", .word "COUNT", .mark '(', .mark '*',
    .mark ')', .word "AS", .word "count", .word "FROM"], true⟩,
  ⟨false, "INSERT INTO ", [.word "INSERT", .word "INTO"], true⟩,
  ⟨true, " (", [.mark '('], true⟩,
  ⟨true, ") VALUES (", [.mark ')', .word "VALUES", .mark '('], true⟩,
  ⟨true, ")", [.mark ')'], true⟩,
  ⟨true, " () VALUES ()", [.mark '(', .mark ')', .word "VALUES", .mark '(', .mark ')'], true⟩,
  ⟨true, " DEFAULT VALUES", [.word "DEFAULT", .word "VALUES"], false⟩,
  ⟨false, "UPDATE ", [.word "UPDATE"], true⟩,
  ⟨true, " SET ", [.word "SET"], true⟩,
  ⟨false, "DELETE FROM ", [.word "DELETE", .word "FROM"], true⟩]

/-- Every dialect reads the words of the statements alike, and none of them is a parameter. -/
theorem wordings_read : wordings.all (fun w => parametersOf w.tokens == [] &&
    Driver.all.all fun d => readsAlone d w.after w.text.toList w.tokens w.clean) = true := by
  decide +kernel

section Wording

variable {d : Driver} {after clean : Bool} {s : String} {ts : List Token}

theorem Reads.wording (h : ⟨after, s, ts, clean⟩ ∈ wordings) : Reads d after s.toList ts clean := by
  have hall := List.all_eq_true.mp wordings_read _ h
  simp only [Bool.and_eq_true, List.all_eq_true] at hall
  exact .of_readsAlone (hall.2 d (by cases d <;> decide))

theorem parametersOf_wording (h : ⟨after, s, ts, clean⟩ ∈ wordings) : parametersOf ts = [] := by
  have hall := List.all_eq_true.mp wordings_read _ h
  simp only [Bool.and_eq_true, beq_iff_eq] at hall
  exact hall.1

end Wording

/-! ### Names and numbers -/

namespace Lexing

variable {d : Driver} {ts : List Token}

/-- Inside of a quoted name every character is taken as it is, and a doubled quote as one. -/
theorem run_name (acc name : List Char) :
    run d ⟨ts, .name acc⟩ (doubleQuotes (quoteChar d) name ++ [quoteChar d]) =
      ⟨ts, .closed (acc ++ name)⟩ := by
  induction name generalizing acc with
  | nil => simp [doubleQuotes, run, step, Pending.extend?]
  | cons c rest ih =>
    have hsplit : acc ++ c :: rest = (acc ++ [c]) ++ rest := by simp
    unfold doubleQuotes
    -- A doubled quote closes the name and opens it again, with one quote more in it.
    by_cases hc : c = quoteChar d
    · have hclose : step d ⟨ts, .name acc⟩ (quoteChar d) = ⟨ts, .closed acc⟩ := by
        simp [step, Pending.extend?]
      have hopen : step d ⟨ts, .closed acc⟩ (quoteChar d) = ⟨ts, .name (acc ++ [c])⟩ := by
        simp [step, Pending.extend?, hc]
      rw [if_pos hc, List.cons_append, List.cons_append, run_cons, hclose, run_cons, hopen, ih,
        hsplit]
    · have hinside : step d ⟨ts, .name acc⟩ c = ⟨ts, .name (acc ++ [c])⟩ := by
        simp [step, Pending.extend?, hc]
      rw [if_neg hc, List.cons_append, run_cons, hinside, ih, hsplit]

/-- Read a quoted name. -/
theorem run_quote (d : Driver) (name : String) :
    run d .start (quote d name).toList = ⟨[], .closed name.toList⟩ := by
  have hopen : step d .start (quoteChar d) = ⟨[], .name []⟩ := by
    cases d <;> decide
  rw [quote, String.toList_ofList, quoteChars, run_cons, hopen, run_name, List.nil_append]

theorem run_number (acc ds : List Char) (hds : ∀ c ∈ ds, isDigit c = true) :
    run d ⟨ts, .number acc⟩ ds = ⟨ts, .number (acc ++ ds)⟩ := by
  induction ds generalizing acc with
  | nil => simp [run]
  | cons c rest ih =>
    have hstep : step d ⟨ts, .number acc⟩ c = ⟨ts, .number (acc ++ [c])⟩ := by
      simp [step, Pending.extend?, hds c List.mem_cons_self]
    rw [run_cons, hstep, ih _ fun c' hc' => hds c' (List.mem_cons_of_mem c hc'), List.append_assoc]
    rfl

theorem run_parameter (acc ds : List Char) (hds : ∀ c ∈ ds, isDigit c = true) :
    run d ⟨ts, .parameter acc⟩ ds = ⟨ts, .parameter (acc ++ ds)⟩ := by
  induction ds generalizing acc with
  | nil => simp [run]
  | cons c rest ih =>
    have hstep : step d ⟨ts, .parameter acc⟩ c = ⟨ts, .parameter (acc ++ [c])⟩ := by
      simp [step, Pending.extend?, hds c List.mem_cons_self]
    rw [run_cons, hstep, ih _ fun c' hc' => hds c' (List.mem_cons_of_mem c hc'), List.append_assoc]
    rfl

end Lexing

/-- The number that a parameter is written with. -/
def parameterNumber (d : Driver) (index : Nat) : Option Nat :=
  if d = .postgresql then some index else none

namespace Reads

variable {d : Driver}

/-- A quoted name is one token, whatever characters it has. -/
theorem name (text : String) : Reads d false (quote d text).toList [.name text] false := by
  refine .of_run nofun ?_ ?_ nofun
  · rw [Lexing.run_quote]
    rfl
  · rw [Lexing.run_quote, Lexing.finish, Pending.tokens, String.ofList_toList]
    rfl

theorem number (n : Nat) : Reads d false (toString n).toList [.number n] false := by
  have hdigits : ∀ c ∈ natText n, isDigit c = true := fun c hc => isDigit_of_mem_natText hc
  have hrun : Lexing.run d .start (natText n) = ⟨[], .number (natText n)⟩ := by
    obtain ⟨c, rest, hcons⟩ := List.exists_cons_of_ne_nil (natText_ne_nil n)
    rw [hcons] at hdigits ⊢
    have hbegin : Lexing.step d .start c = ⟨[], .number [c]⟩ := by
      simp [Lexing.step, Lexing.start, Pending.extend?, Lexing.begin, Lexing.finish,
        Pending.tokens, hdigits c List.mem_cons_self]
    rw [Lexing.run_cons, hbegin,
      Lexing.run_number _ _ fun c' hc' => hdigits c' (List.mem_cons_of_mem c hc')]
    rfl
  have htext : (toString n).toList = natText n := Nat.toList_repr
  refine .of_run nofun ?_ ?_ nofun
  · rw [htext, hrun]
    rfl
  · rw [htext, hrun, Lexing.finish, Pending.tokens, natOfDigits_natText]
    rfl

theorem placeholder (index : Nat) :
    Reads d false (Sql.placeholder d index).toList [.placeholder (parameterNumber d index)]
      false := by
  by_cases hd : d = .postgresql
  · subst hd
    have htext : (Sql.placeholder .postgresql index).toList = '$' :: natText index := by
      rw [Sql.placeholder, String.toList_append]
      exact congrArg ('$' :: ·) Nat.toList_repr
    have hrun : Lexing.run .postgresql .start ('$' :: natText index) =
        ⟨[], .parameter (natText index)⟩ := by
      have hbegin : Lexing.step .postgresql .start '$' = ⟨[], .parameter []⟩ := by decide
      rw [Lexing.run_cons, hbegin, Lexing.run_parameter _ _ fun c hc => isDigit_of_mem_natText hc]
      rfl
    have hne : (natText index).isEmpty = false := by
      rw [List.isEmpty_eq_false_iff]
      exact natText_ne_nil index
    refine .of_run nofun ?_ ?_ nofun
    · rw [htext, hrun]
      rfl
    · rw [htext, hrun, Lexing.finish, Pending.tokens, hne, natOfDigits_natText]
      rfl
  · have htext : Sql.placeholder d index = "?" := by
      cases d with
      | postgresql => exact absurd rfl hd
      | _ => rfl
    rw [htext, parameterNumber, if_neg hd]
    cases d with
    | postgresql => exact absurd rfl hd
    | _ => exact .of_readsAlone (by decide)

end Reads

/-! ### Fragments -/

namespace Fragment

/-- The tokens of a fragment after `n` parameters. -/
def tokens (d : Driver) (n : Nat) : Fragment → List Token
  | word s => tokensOf d s
  | name s => [.name s]
  | value v => if v.isNull then [.word "NULL"] else [.placeholder (parameterNumber d (n + 1))]

/-- The tokens of fragments after `n` parameters. -/
def tokensFrom (d : Driver) (n : Nat) : List Fragment → List Token
  | [] => []
  | f :: rest => f.tokens d n ++ tokensFrom d (n + f.bound.length) rest

variable {d : Driver} {fs gs : List Fragment} {after after' clean clean' : Bool}

theorem textFrom_append (n : Nat) (fs gs : List Fragment) :
    textFrom d n (fs ++ gs) = textFrom d n fs ++ textFrom d (n + (fs.flatMap bound).length) gs := by
  induction fs generalizing n with
  | nil => simp [textFrom]
  | cons f rest ih =>
    simp only [List.cons_append, textFrom, ih, List.flatMap_cons, List.length_append,
      String.append_assoc, Nat.add_assoc]

theorem tokensFrom_append (n : Nat) (fs gs : List Fragment) :
    tokensFrom d n (fs ++ gs) =
      tokensFrom d n fs ++ tokensFrom d (n + (fs.flatMap bound).length) gs := by
  induction fs generalizing n with
  | nil => rfl
  | cons f rest ih =>
    simp only [List.cons_append, tokensFrom, ih, List.flatMap_cons, List.length_append,
      List.append_assoc, Nat.add_assoc]

/-- Fragments read as their tokens, and their parameters are numbered in the order in which they are
read, however many parameters there are before them. -/
structure Lexes (d : Driver) (after : Bool) (fs : List Fragment) (clean : Bool) : Prop where
  reads : ∀ n, Reads d after (textFrom d n fs).toList (tokensFrom d n fs) clean
  numbered : ∀ n, parametersOf (tokensFrom d n fs) =
    (List.range' (n + 1) (fs.flatMap bound).length).map (parameterNumber d)

namespace Lexes

theorem nil (after : Bool) : Lexes d after [] false := ⟨fun _ => .nil after, fun _ => rfl⟩

theorem append (h : Lexes d after fs clean) (h' : Lexes d after' gs clean')
    (hglue : clean = true ∨ after' = true) : Lexes d after (fs ++ gs) clean' := by
  constructor
  · intro n
    rw [textFrom_append, tokensFrom_append, String.toList_append]
    exact (h.reads n).append (h'.reads _) hglue
  · intro n
    have hsuccessor : n + (fs.flatMap bound).length + 1 = n + 1 + (fs.flatMap bound).length := by
      omega
    rw [tokensFrom_append, parametersOf, List.filterMap_append, ← parametersOf, ← parametersOf,
      h.numbered, h'.numbered, ← List.map_append, List.flatMap_append, List.length_append,
      hsuccessor, List.range'_append_1]

theorem weaken (h : Lexes d after fs clean) : Lexes d after fs false :=
  ⟨fun n => (h.reads n).weaken, h.numbered⟩

theorem single {f : Fragment} (h : ∀ n, Reads d after (f.text d n).toList (f.tokens d n) clean)
    (hnumbered : ∀ n, parametersOf (f.tokens d n) =
      (List.range' (n + 1) f.bound.length).map (parameterNumber d)) : Lexes d after [f] clean := by
  constructor
  · intro n
    simpa [textFrom, tokensFrom] using h n
  · intro n
    simpa [tokensFrom] using hnumbered n

theorem name (s : String) : Lexes d false [.name s] false :=
  single (fun _ => .name s) fun _ => rfl

theorem value (v : Value) : Lexes d false [.value v] false := by
  refine single (fun n => ?_) fun n => ?_
  · simp only [text, tokens]
    split
    · exact .wording (by simp [wordings])
    · exact .placeholder (n + 1)
  · simp only [tokens, bound]
    split
    · rfl
    · rfl

/-- A list, each of whose items reads, with a separator between them. -/
theorem separated {α : Type} {sep : Fragment} {render : α → List Fragment}
    (hsep : Lexes d true [sep] true) (hitem : ∀ a, Lexes d false (render a) false) (xs : List α) :
    Lexes d false (Fragment.separated sep (xs.map render)) false := by
  induction xs with
  | nil => exact .nil false
  | cons a rest ih =>
    cases rest with
    | nil => exact hitem a
    | cons b rest => exact (hitem a).append (hsep.append ih (.inl rfl)) (.inr rfl)

end Lexes

/-- Words have some tokens, and may be used as a fragment. -/
structure Phrase (d : Driver) (after : Bool) (s : String) (ts : List Token) (clean : Bool) :
    Prop where
  lexes : Lexes d after [.word s] clean
  tokens : tokensOf d s = ts

theorem Phrase.of_wording {s : String} {ts : List Token} (h : ⟨after, s, ts, clean⟩ ∈ wordings) :
    Phrase d after s ts clean := by
  have hreads : Reads d after s.toList ts clean := .wording h
  have htokens : tokensOf d s = ts := hreads.finish_run
  refine ⟨.single (fun n => ?_) fun n => ?_, htokens⟩
  · rw [Fragment.tokens, htokens]
    exact hreads
  · rw [Fragment.tokens, htokens]
    exact parametersOf_wording h

/-- The tokens of a rendered statement are the tokens of its fragments. -/
theorem tokensOf_statement (h : Lexes d after fs clean) (kind : Operation) (table : String) :
    tokensOf d (statement d kind table fs).sql = tokensFrom d 0 fs :=
  (h.reads 0).finish_run

end Fragment

end DataAccess.Sql
