import DataAccess.Proofs.Query.Tokens

/-!
# Reading statements

A reader of the five statements on a table, from the tokens of a dialect. What it reads is a
`Reading`: the table, the columns in order, for each of them whether a NULL or a parameter stands
for its value, and of a selection the order, the limit and the offset.

The reader cuts a statement at the words that begin its clauses and at the separators of its lists,
so the lemmas about it say two things of the fragments of a clause: which separators do not occur in
their tokens (`Fragment.Free`), and what each item of a list reads as (`Fragment.mapM_splitOn`).
-/

namespace DataAccess.Sql

/-! ### What is read -/

/-- What stands for a value. -/
inductive Slot where
  | null
  | placeholder
deriving DecidableEq

/-- What stands for a value of a query. -/
def Slot.ofValue (v : Value) : Slot := if v.isNull then null else placeholder

/-- Columns with what stands for their values. -/
def slots (columns : List (String × Value)) : List (String × Slot) :=
  columns.map fun c => (c.1, Slot.ofValue c.2)

/-- What a statement on a table says. -/
inductive Reading where
  | select (table : String) (filters : List (String × Slot)) (order : List (String × Direction))
      (limit offset : Option Nat)
  | count (table : String) (filters : List (String × Slot))
  | insert (table : String) (columns : List (String × Slot))
  | update (table : String) (assignments filters : List (String × Slot))
  | delete (table : String) (filters : List (String × Slot))
deriving DecidableEq

/-! ### The reader -/

namespace Reading

/-- A value. -/
def slot? : List Token → Option Slot
  | [.word "NULL"] => some .null
  | [.placeholder _] => some .placeholder
  | _ => none

/-- A name alone. -/
def name? : List Token → Option String
  | [.name s] => some s
  | _ => none

/-- A condition: that a column is missing, or what it is equal to. -/
def condition? : List Token → Option (String × Slot)
  | [.name c, .word "IS", .word "NULL"] => some (c, .null)
  | [.name c, .mark '=', .placeholder _] => some (c, .placeholder)
  | _ => none

/-- A value for a column. -/
def assignment? : List Token → Option (String × Slot)
  | .name c :: .mark '=' :: ts => (slot? ts).map fun s => (c, s)
  | _ => none

/-- A column of an order. -/
def orderItem? : List Token → Option (String × Direction)
  | [.name c] => some (c, .ascending)
  | [.name c, .word "DESC"] => some (c, .descending)
  | _ => none

/-- The conditions. -/
def where? : List Token → Option (List (String × Slot))
  | [] => some []
  | .word "WHERE" :: ts => (ts.splitOn (.word "AND")).mapM condition?
  | _ => none

/-- The order. -/
def order? : List Token → Option (List (String × Direction))
  | [] => some []
  | .word "ORDER" :: .word "BY" :: ts => (ts.splitOn (.mark ',')).mapM orderItem?
  | _ => none

/-- What a limit means: MySQL has no other word for "all rows" than its greatest number. -/
def bounded (d : Driver) (limit : Nat) : Option Nat :=
  if d = .mysql ∧ limit = 18446744073709551615 then none else some limit

/-- Whether a negative limit means "all rows". -/
def readsNegative : Driver → Bool
  | .mysql | .postgresql => false
  | _ => true

/-- The limit and the offset. Only PostgreSQL has offsets without a limit. -/
def limits? (d : Driver) : List Token → Option (Option Nat × Option Nat)
  | [] => some (none, none)
  | [.word "LIMIT", .number l] => some (bounded d l, none)
  | [.word "LIMIT", .number l, .word "OFFSET", .number o] => some (bounded d l, some o)
  | [.word "LIMIT", .mark '-', .number _, .word "OFFSET", .number o] =>
    if readsNegative d then some (none, some o) else none
  | [.word "OFFSET", .number o] => if d = .postgresql then some (none, some o) else none
  | _ => none

/-- Whether a token begins the limit and the offset. -/
def isLimitWord (t : Token) : Bool := t == .word "LIMIT" || t == .word "OFFSET"

/-- What follows the table of a selection. -/
def selection? (d : Driver) (table : String) (ts : List Token) : Option Reading := do
  let clauses := ts.takeWhile (!isLimitWord ·)
  let filters ← where? (clauses.takeWhile (· != .word "ORDER"))
  let order ← order? (clauses.dropWhile (· != .word "ORDER"))
  let (limit, offset) ← limits? d (ts.dropWhile (!isLimitWord ·))
  return .select table filters order limit offset

/-- The columns and the values of a row, each list in parentheses of which the first one is gone. -/
def row? (ts : List Token) : Option (List (String × Slot)) :=
  match ts.dropWhile (· != .mark ')') with
  | .mark ')' :: .word "VALUES" :: .mark '(' :: values =>
    if values.dropWhile (· != .mark ')') = [.mark ')'] then do
      let columns ← ((ts.takeWhile (· != .mark ')')).splitOn (.mark ',')).mapM name?
      let slots ← ((values.takeWhile (· != .mark ')')).splitOn (.mark ',')).mapM slot?
      if columns.length = slots.length then return columns.zip slots else none
    else none
  | _ => none

/-- What follows the table of an insertion. A row of defaults is written in two ways. -/
def insertion? (d : Driver) : List Token → Option (List (String × Slot))
  | [.word "DEFAULT", .word "VALUES"] => if d = .mysql then none else some []
  | [.mark '(', .mark ')', .word "VALUES", .mark '(', .mark ')'] =>
    if d = .mysql then some [] else none
  | .mark '(' :: ts => row? ts
  | _ => none

/-- What follows the table of an update. -/
def changes? (table : String) (ts : List Token) : Option Reading := do
  let assignments ← ((ts.takeWhile (· != .word "WHERE")).splitOn (.mark ',')).mapM assignment?
  let filters ← where? (ts.dropWhile (· != .word "WHERE"))
  return .update table assignments filters

/-- Read the tokens of a statement. -/
def ofTokens? (d : Driver) : List Token → Option Reading
  | .word "SELECT" :: .mark '*' :: .word "FROM" :: .name t :: ts => selection? d t ts
  | .word "SELECT" :: .word "COUNT" :: .mark '(' :: .mark '*' :: .mark ')' :: .word "AS" ::
      .word "count" :: .word "FROM" :: .name t :: ts => (where? ts).map (.count t)
  | .word "INSERT" :: .word "INTO" :: .name t :: ts => (insertion? d ts).map (.insert t)
  | .word "UPDATE" :: .name t :: .word "SET" :: ts => changes? t ts
  | .word "DELETE" :: .word "FROM" :: .name t :: ts => (where? ts).map (.delete t)
  | _ => none

end Reading

/-- Read a statement of a dialect. -/
def read (d : Driver) (sql : String) : Option Reading := Reading.ofTokens? d (tokensOf d sql)

/-! ### Lists of fragments -/

/-- Whether a token may separate others: a mark, or a word that is no value. -/
def Token.separates : Token → Bool
  | .word s => s != "NULL"
  | .mark _ => true
  | _ => false

namespace Fragment

variable {d : Driver} {t : Token} {fs gs : List Fragment}

/-- A token does not occur in the tokens of some fragments. -/
def Free (d : Driver) (t : Token) (fs : List Fragment) : Prop := ∀ n, t ∉ tokensFrom d n fs

namespace Free

theorem nil : Free d t [] := fun _ => List.not_mem_nil

theorem append (h : Free d t fs) (h' : Free d t gs) : Free d t (fs ++ gs) := by
  intro n hmem
  rw [tokensFrom_append] at hmem
  rcases List.mem_append.mp hmem with hmem | hmem
  · exact h n hmem
  · exact h' _ hmem

theorem cons {f : Fragment} (h : Free d t [f]) (h' : Free d t fs) : Free d t (f :: fs) :=
  h.append h'

theorem word {s : String} {ts : List Token} (hs : tokensOf d s = ts) (h : t ∉ ts) :
    Free d t [.word s] := by
  intro n hmem
  rw [tokensFrom, tokensFrom, List.append_nil] at hmem
  exact h (hs ▸ hmem)

theorem name (ht : t.separates = true) (s : String) : Free d t [.name s] := by
  intro n hmem
  rw [tokensFrom, tokensFrom, List.append_nil] at hmem
  rw [List.mem_singleton.mp hmem] at ht
  cases ht

theorem value (ht : t.separates = true) (v : Value) : Free d t [.value v] := by
  intro n hmem
  rw [tokensFrom, tokensFrom, List.append_nil] at hmem
  simp only [tokens] at hmem
  split at hmem
  · rw [List.mem_singleton.mp hmem] at ht
    simp [Token.separates] at ht
  · rw [List.mem_singleton.mp hmem] at ht
    cases ht

theorem separated {α : Type} {sep : Fragment} {render : α → List Fragment}
    (hsep : Free d t [sep]) (hitem : ∀ a, Free d t (render a)) (xs : List α) :
    Free d t (Fragment.separated sep (xs.map render)) := by
  induction xs with
  | nil => exact nil
  | cons a rest ih =>
    cases rest with
    | nil => exact hitem a
    | cons b rest => exact (hitem a).append (hsep.append ih)

end Free

/-- The tokens of groups of fragments, group by group. -/
def tokenGroups (d : Driver) (n : Nat) : List (List Fragment) → List (List Token)
  | [] => []
  | g :: rest => tokensFrom d n g :: tokenGroups d (n + (g.flatMap bound).length) rest

theorem tokensFrom_separated {s : String} (hs : tokensOf d s = [t]) (n : Nat)
    (groups : List (List Fragment)) :
    tokensFrom d n (separated (.word s) groups) = [t].intercalate (tokenGroups d n groups) := by
  induction groups generalizing n with
  | nil => rfl
  | cons g rest ih =>
    cases rest with
    | nil => simp [separated, tokenGroups]
    | cons g' rest =>
      have hrest := ih (n + (g.flatMap bound).length)
      simp only [separated, tokenGroups, tokensFrom_append, tokensFrom, tokens, hs, bound,
        List.length_nil, Nat.add_zero] at hrest ⊢
      rw [hrest, List.intercalate_cons_cons]
      simp

/-- A list of items reads as what each of them reads as, if the separator is in none of them. -/
theorem mapM_splitOn {α β : Type} {s : String} {item : List Token → Option β}
    {render : α → List Fragment} {meaning : α → β} (hs : tokensOf d s = [t])
    (hfree : ∀ a, Free d t (render a))
    (hitem : ∀ n a, item (tokensFrom d n (render a)) = some (meaning a)) {xs : List α}
    (hne : xs ≠ []) (n : Nat) :
    ((tokensFrom d n (separated (.word s) (xs.map render))).splitOn t).mapM item =
      some (xs.map meaning) := by
  have hgroups : ∀ g ∈ tokenGroups d n (xs.map render), t ∉ g := by
    clear hne
    induction xs generalizing n with
    | nil => nofun
    | cons a rest ih =>
      intro g hg
      rcases List.mem_cons.mp hg with rfl | hg
      · exact hfree a n
      · exact ih _ g hg
  have hgroupsNe : tokenGroups d n (xs.map render) ≠ [] := by
    cases xs with
    | nil => exact absurd rfl hne
    | cons a rest => exact List.cons_ne_nil _ _
  -- Splitting gives the groups back, so what is left is to read them one by one.
  rw [tokensFrom_separated hs, List.splitOn_intercalate t hgroups hgroupsNe]
  clear hgroups hgroupsNe hne
  induction xs generalizing n with
  | nil => rfl
  | cons a rest ih =>
    rw [List.map_cons, tokenGroups, List.mapM_cons, hitem, ih]
    rfl

end Fragment

end DataAccess.Sql
