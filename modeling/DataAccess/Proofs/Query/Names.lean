import DataAccess.Proofs.Query.ReadsBack
import DataAccess.Proofs.Schema.Lexemes

/-!
# Names in statements

What a name of a table or a column can do to a statement. A statement is `Confined` to its names if
these, in order, are the names that are read of it, and if writing it with other names changes what
is read in these places and nowhere else. A name that ended early would show: the rest of it would
be read as something that is no name.

A query is written with other names by `Query.rename`. Its fragments then change in the names that
they write and in nothing else (`_rename`), and which these are is known for each clause (`_shows`).
All five statements on a table are confined to their names (`_confined`).
-/

namespace DataAccess.Sql

open Fragment

variable {d : Driver}

/-! ### Names that are read -/

namespace Token

/-- Change the name that a token is. -/
def rename (ρ : String → String) : Token → Token
  | name n => name (ρ n)
  | t => t

theorem rename_of_nameless {ρ : String → String} {t : Token} (h : t.name? = none) :
    t.rename ρ = t := by
  cases t with
  | name n => cases h
  | _ => rfl

theorem map_rename_of_nameless {ρ : String → String} {ts : List Token}
    (h : ts.filterMap name? = []) : ts.map (rename ρ) = ts := by
  rw [List.filterMap_eq_nil_iff] at h
  exact (List.map_congr_left fun t ht => rename_of_nameless (h t ht)).trans (List.map_id ts)

end Token

namespace Lexeme

/-- The name that a lexeme is. -/
def name? : Lexeme → Option String
  | token t => t.name?
  | expression _ => none

/-- Change the name that a lexeme is. -/
def rename (ρ : String → String) : Lexeme → Lexeme
  | token t => token (t.rename ρ)
  | expression s => expression s

end Lexeme

/-- What is read of a statement, for any change of the names in it, is always the same except for
these names. -/
def Confined (read : (String → String) → List Lexeme) (names : List String) : Prop :=
  ∃ ls : List Lexeme, ls.filterMap Lexeme.name? = names ∧ ∀ ρ, read ρ = ls.map (Lexeme.rename ρ)

theorem Confined.of_tokens {read : (String → String) → List Token} {ts : List Token}
    {names : List String} (hnames : ts.filterMap Token.name? = names)
    (h : ∀ ρ, read ρ = ts.map (Token.rename ρ)) :
    Confined (fun ρ => (read ρ).map .token) names := by
  refine ⟨ts.map .token, ?_, fun ρ => ?_⟩
  · rw [List.filterMap_map]
    exact hnames
  · show (read ρ).map Lexeme.token = _
    rw [h, List.map_map, List.map_map]
    rfl

/-! ### Names that are written -/

namespace Fragment

/-- The name that a fragment writes. -/
def name? : Fragment → Option String
  | name s => some s
  | _ => none

/-- Change the name that a fragment writes. -/
def rename (ρ : String → String) : Fragment → Fragment
  | name s => name (ρ s)
  | f => f

theorem bound_rename (ρ : String → String) (f : Fragment) : (f.rename ρ).bound = f.bound := by
  cases f <;> rfl

/-- Items that are written with other names make a list that is. -/
theorem separated_rename {α : Type} {ρ : String → String} {g : α → α}
    (render : α → List Fragment) (h : ∀ a, render (g a) = (render a).map (rename ρ)) (s : String)
    (xs : List α) :
    separated (.word s) ((xs.map g).map render) =
      (separated (.word s) (xs.map render)).map (rename ρ) := by
  induction xs with
  | nil => rfl
  | cons a rest ih =>
    cases rest with
    | nil => exact h a
    | cons b rest =>
      simp only [List.map_cons, separated, List.map_append] at ih ⊢
      rw [ih, h a]
      rfl

/-- The names that some fragments write. There are no names in their words. -/
structure Shows (d : Driver) (fs : List Fragment) (names : List String) : Prop where
  words : ∀ s, .word s ∈ fs → (tokensOf d s).filterMap Token.name? = []
  names : fs.filterMap name? = names

namespace Shows

variable {fs gs : List Fragment} {ns ms : List String}

theorem nil : Shows d [] [] := ⟨nofun, rfl⟩

theorem name (s : String) : Shows d [.name s] [s] := ⟨by simp, rfl⟩

theorem value (v : Value) : Shows d [.value v] [] := ⟨by simp, rfl⟩

theorem append (h : Shows d fs ns) (h' : Shows d gs ms) : Shows d (fs ++ gs) (ns ++ ms) := by
  refine ⟨fun s hs => ?_, by rw [List.filterMap_append, h.names, h'.names]⟩
  rcases List.mem_append.mp hs with hs | hs
  · exact h.words s hs
  · exact h'.words s hs

/-- Fragments before others that write no names. -/
theorem append_nameless (h : Shows d fs ns) (h' : Shows d gs []) : Shows d (fs ++ gs) ns := by
  have happend := h.append h'
  rwa [List.append_nil] at happend

/-- A list, whose items write some names each. -/
theorem separated {α : Type} {s : String} {render : α → List Fragment} {names : α → List String}
    (hsep : Shows d [.word s] []) (hitem : ∀ a, Shows d (render a) (names a)) (xs : List α) :
    Shows d (Fragment.separated (.word s) (xs.map render)) (xs.flatMap names) := by
  induction xs with
  | nil => exact .nil
  | cons a rest ih =>
    cases rest with
    | nil =>
      rw [List.flatMap_singleton]
      exact hitem a
    | cons b rest => exact (hitem a).append (hsep.append ih)

/-- A list, whose items write one name each. -/
theorem separated_single {α : Type} {s : String} {render : α → List Fragment} {name : α → String}
    (hsep : Shows d [.word s] []) (hitem : ∀ a, Shows d (render a) [name a]) (xs : List α) :
    Shows d (Fragment.separated (.word s) (xs.map render)) (xs.map name) := by
  rw [List.map_eq_flatMap (f := name)]
  exact .separated hsep hitem xs

/-- The names that are read are those that are written. -/
theorem names_tokensFrom (h : Shows d fs ns) (n : Nat) :
    (tokensFrom d n fs).filterMap Token.name? = ns := by
  obtain ⟨hwords, rfl⟩ := h
  induction fs generalizing n with
  | nil => rfl
  | cons f rest ih =>
    have hrest := ih (n + f.bound.length) fun s hs => hwords s (List.mem_cons_of_mem f hs)
    rw [tokensFrom, List.filterMap_append, hrest]
    cases f with
    | word s => rw [tokens, hwords s List.mem_cons_self]; rfl
    | name s => rfl
    | value v =>
      rw [tokens]
      split <;> rfl

/-- To write other names is to read other names. -/
theorem tokensFrom_rename (h : Shows d fs ns) (ρ : String → String) (n : Nat) :
    tokensFrom d n (fs.map (rename ρ)) = (tokensFrom d n fs).map (Token.rename ρ) := by
  obtain ⟨hwords, -⟩ := h
  induction fs generalizing n with
  | nil => rfl
  | cons f rest ih =>
    have hrest := ih (n + f.bound.length) fun s hs => hwords s (List.mem_cons_of_mem f hs)
    rw [List.map_cons, tokensFrom, tokensFrom, bound_rename, hrest, List.map_append]
    congr 1
    cases f with
    | word s => exact (Token.map_rename_of_nameless (hwords s List.mem_cons_self)).symm
    | name s => rfl
    | value v =>
      show tokens d n (.value v) = (tokens d n (.value v)).map (Token.rename ρ)
      rw [tokens]
      split <;> rfl

end Shows

/-- Words that are read as other tokens than names. -/
theorem Phrase.shows {after clean : Bool} {s : String} {ts : List Token}
    (h : Phrase d after s ts clean) (hts : ts.filterMap Token.name? = []) :
    Shows d [.word s] [] := by
  refine ⟨fun s' hs' => ?_, rfl⟩
  cases List.mem_singleton.mp hs'
  rw [h.tokens, hts]

/-- A statement is confined to the names that its fragments write, if these fragments stay the same
but for the names. -/
theorem confined_statement {after clean : Bool} {fs : List Fragment} {names : List String}
    {renamed : (String → String) → List Fragment} (hshows : Shows d fs names)
    (hrename : ∀ ρ, renamed ρ = fs.map (rename ρ))
    (hlexes : ∀ ρ, Lexes d after (renamed ρ) clean) (kind : Operation)
    (table : (String → String) → String) :
    Confined (fun ρ => (tokensOf d (statement d kind (table ρ) (renamed ρ)).sql).map .token)
      names := by
  refine .of_tokens (hshows.names_tokensFrom 0) fun ρ => ?_
  rw [tokensOf_statement (hlexes ρ), hrename, hshows.tokensFrom_rename]

end Fragment

/-! ### Queries -/

namespace Query

/-- The query with its names changed. -/
def rename (ρ : String → String) (q : Query) : Query :=
  { q with
    table := ρ q.table
    filters := q.filters.map (Prod.map ρ id)
    order := q.order.map (Prod.map ρ id) }

variable (q : Query) (ρ : String → String)

/-! #### Clauses -/

theorem condition_shows (f : String × Value) : Shows d (condition f) [f.1] := by
  unfold condition
  split
  · exact (Shows.name f.1).append (isNull_phrase.shows rfl)
  · exact (Shows.name f.1).append ((equals_phrase.shows rfl).append (.value f.2))

theorem condition_rename (f : String × Value) :
    condition (Prod.map ρ id f) = (condition f).map (Fragment.rename ρ) := by
  unfold condition
  rw [Prod.map_snd, id]
  split <;> rfl

theorem where_shows : Shows d q.whereClause (q.filters.map (·.1)) := by
  unfold whereClause
  split
  · next hnone =>
    rw [List.isEmpty_iff.mp hnone]
    exact .nil
  · exact (where_phrase.shows rfl).append
      (.separated_single (and_phrase.shows rfl) condition_shows q.filters)

theorem where_rename : (q.rename ρ).whereClause = q.whereClause.map (Fragment.rename ρ) := by
  have hlist := separated_rename condition (condition_rename ρ) " AND " q.filters
  unfold whereClause
  rw [rename, List.isEmpty_map, hlist]
  split <;> rfl

theorem orderItem_shows (o : String × Direction) : Shows d (orderItem o) [o.1] := by
  unfold orderItem
  cases o.2 with
  | ascending => exact .name o.1
  | descending => exact (Shows.name o.1).append (desc_phrase.shows rfl)

theorem orderItem_rename (o : String × Direction) :
    orderItem (Prod.map ρ id o) = (orderItem o).map (Fragment.rename ρ) := by
  obtain ⟨c, direction⟩ := o
  cases direction <;> rfl

theorem order_shows : Shows d q.orderClause (q.order.map (·.1)) := by
  unfold orderClause
  split
  · next hnone =>
    rw [List.isEmpty_iff.mp hnone]
    exact .nil
  · exact (orderBy_phrase.shows rfl).append
      (.separated_single (comma_phrase.shows rfl) orderItem_shows q.order)

theorem order_rename : (q.rename ρ).orderClause = q.orderClause.map (Fragment.rename ρ) := by
  have hlist := separated_rename orderItem (orderItem_rename ρ) ", " q.order
  unfold orderClause
  rw [rename, List.isEmpty_map, hlist]
  split <;> rfl

theorem limit_shows (l o : Option Nat) : Shows d [.word (limitOffset d l o)] [] := by
  refine ⟨fun s hs => ?_, rfl⟩
  cases List.mem_singleton.mp hs
  rw [tokensOf_limitOffset]
  cases l <;> cases o <;> cases d <;> rfl

/-! #### Statements -/

theorem select_confined (d : Driver) :
    Confined (fun ρ => (tokensOf d ((q.rename ρ).select d).sql).map .token)
      (q.table :: (q.filters.map (·.1) ++ q.order.map (·.1))) := by
  have hshows : Shows d (q.selectFragments d)
      (q.table :: (q.filters.map (·.1) ++ q.order.map (·.1))) :=
    ((((select_phrase.shows rfl).append (.name q.table)).append q.where_shows).append
      q.order_shows).append_nameless (limit_shows q.limit q.offset)
  refine confined_statement hshows (fun ρ => ?_) (fun ρ => (q.rename ρ).select_lexes) .query
    fun ρ => ρ q.table
  simp only [selectFragments, List.map_append, where_rename, order_rename]
  rfl

theorem countRows_confined (d : Driver) :
    Confined (fun ρ => (tokensOf d ((q.rename ρ).countRows d).sql).map .token)
      (q.table :: q.filters.map (·.1)) := by
  have hshows : Shows d q.countFragments (q.table :: q.filters.map (·.1)) :=
    ((count_phrase.shows rfl).append (.name q.table)).append q.where_shows
  refine confined_statement hshows (fun ρ => ?_) (fun ρ => (q.rename ρ).count_lexes) .query
    fun ρ => ρ q.table
  simp only [countFragments, List.map_append, where_rename]
  rfl

/-- Deletions are refused without conditions, whatever the names are. -/
theorem deleteRows_confined (hfilters : q.filters ≠ []) (d : Driver) :
    ∃ sent : (String → String) → Statement, (∀ ρ, (q.rename ρ).deleteRows d = .ok (sent ρ)) ∧
      Confined (fun ρ => (tokensOf d (sent ρ).sql).map .token)
        (q.table :: q.filters.map (·.1)) := by
  have hsome : ∀ ρ, ¬ (q.rename ρ).filters.isEmpty = true := by
    intro ρ
    rwa [rename, List.isEmpty_map, List.isEmpty_iff]
  have hshows : Shows d q.deleteFragments (q.table :: q.filters.map (·.1)) :=
    ((delete_phrase.shows rfl).append (.name q.table)).append q.where_shows
  refine ⟨_, fun ρ => if_neg (hsome ρ), confined_statement hshows (fun ρ => ?_)
    (fun ρ => (q.rename ρ).delete_lexes) .delete fun ρ => ρ q.table⟩
  simp only [deleteFragments, List.map_append, where_rename]
  rfl

theorem assignment_shows (v : String × Value) : Shows d (assignment v) [v.1] :=
  (Shows.name v.1).append ((equals_phrase.shows rfl).append (.value v.2))

theorem assignment_rename (v : String × Value) :
    assignment (Prod.map ρ id v) = (assignment v).map (Fragment.rename ρ) := rfl

theorem update_shows (values : List (String × Value)) :
    Shows d (q.updateFragments values)
      (q.table :: (values.map (·.1) ++ q.filters.map (·.1))) :=
  ((((update_phrase.shows rfl).append (.name q.table)).append (set_phrase.shows rfl)).append
    (.separated_single (comma_phrase.shows rfl) assignment_shows values)).append q.where_shows

theorem update_rename (values : List (String × Value)) :
    (q.rename ρ).updateFragments (values.map (Prod.map ρ id)) =
      (q.updateFragments values).map (Fragment.rename ρ) := by
  simp only [updateFragments, List.map_append, where_rename,
    separated_rename assignment (assignment_rename ρ)]
  rfl

/-- Updates are refused without conditions and without values, whatever the names are. -/
theorem updateRows_confined {values : List (String × Value)} (hfilters : q.filters ≠ [])
    (hvalues : values ≠ []) (d : Driver) :
    ∃ sent : (String → String) → Statement,
      (∀ ρ, (q.rename ρ).updateRows d (values.map (Prod.map ρ id)) = .ok (sent ρ)) ∧
      Confined (fun ρ => (tokensOf d (sent ρ).sql).map .token)
        (q.table :: (values.map (·.1) ++ q.filters.map (·.1))) := by
  have hsome : ∀ ρ, ¬ (q.rename ρ).filters.isEmpty = true := by
    intro ρ
    rwa [rename, List.isEmpty_map, List.isEmpty_iff]
  have hsome' : ∀ ρ : String → String, ¬ (values.map (Prod.map ρ id)).isEmpty = true := by
    intro ρ
    rwa [List.isEmpty_map, List.isEmpty_iff]
  exact ⟨_, fun ρ => (if_neg (hsome ρ)).trans (if_neg (hsome' ρ)),
    confined_statement (q.update_shows values) (fun ρ => q.update_rename ρ values)
      (fun ρ => (q.rename ρ).update_lexes _) .update fun ρ => ρ q.table⟩

theorem row_shows (values : List (String × Value)) :
    Shows d (rowFragments d values) (values.map (·.1)) := by
  have hcolumn : ∀ v : String × Value, Shows d [.name v.1] [v.1] := fun v => .name v.1
  have hvalue : ∀ v : String × Value, Shows d [.value v.2] [] := fun v => .value v.2
  have hcolumns : Shows d (columnList values) (values.map (·.1)) :=
    .separated_single (comma_phrase.shows rfl) hcolumn values
  have hvalues : Shows d (valueList values) [] := by
    have h := Shows.separated (comma_phrase.shows rfl) hvalue values
    rwa [List.flatMap_eq_nil_iff.mpr fun _ _ => rfl] at h
  unfold rowFragments
  split
  · next hnone =>
    rw [List.isEmpty_iff.mp hnone]
    split
    · exact emptyRow_phrase.shows rfl
    · exact defaultRow_phrase.shows rfl
  · exact ((((open_phrase.shows rfl).append hcolumns).append_nameless
      (values_phrase.shows rfl)).append_nameless hvalues).append_nameless (close_phrase.shows rfl)

theorem row_rename (values : List (String × Value)) :
    rowFragments d (values.map (Prod.map ρ id)) =
      (rowFragments d values).map (Fragment.rename ρ) := by
  have hcolumns : columnList (values.map (Prod.map ρ id)) =
      (columnList values).map (Fragment.rename ρ) :=
    separated_rename (g := Prod.map ρ id) (fun v => [.name v.1]) (fun _ => rfl) ", " values
  have hvalues : valueList (values.map (Prod.map ρ id)) =
      (valueList values).map (Fragment.rename ρ) :=
    separated_rename (g := Prod.map ρ id) (fun v => [.value v.2]) (fun _ => rfl) ", " values
  unfold rowFragments
  rw [List.isEmpty_map, hcolumns, hvalues]
  split
  · rfl
  · simp only [List.map_append]
    rfl

theorem insertRow_confined (values : List (String × Value)) (d : Driver) :
    Confined (fun ρ =>
        (tokensOf d ((q.rename ρ).insertRow d (values.map (Prod.map ρ id))).sql).map .token)
      (q.table :: values.map (·.1)) := by
  have hshows : Shows d (q.insertFragments d values) (q.table :: values.map (·.1)) :=
    ((insert_phrase.shows rfl).append (.name q.table)).append (row_shows values)
  refine confined_statement hshows (fun ρ => ?_) (fun ρ => (q.rename ρ).insert_lexes _) .create
    fun ρ => ρ q.table
  simp only [insertFragments, List.map_append, row_rename]
  rfl

end Query

end DataAccess.Sql
