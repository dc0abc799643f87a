import DataAccess.Proofs.Query.Clauses

/-!
# Queries read back

Every statement that a query renders to reads back as the query: its tokens are those of its
fragments, the reader cuts them where the fragments of one clause end, and each clause reads as its
part of the query. Names are arbitrary texts, values are never part of the text, and the parameters
are numbered as they are read.
-/

namespace DataAccess.Sql

open Fragment Reading

variable {d : Driver}

/-- A statement reads as it should: as a reading, with the values that are not missing as its
arguments in order, and with one parameter for each of them. -/
structure ReadsBack (d : Driver) (s : Statement) (r : Reading) (values : List Value) : Prop where
  reading : read d s.sql = some r
  args : s.args = values.filter (!·.isNull)
  parameters : parametersOf (tokensOf d s.sql) =
    (List.range' 1 s.args.length).map (parameterNumber d)

/-- What fragments read as is what their statement reads as. -/
theorem ReadsBack.of_fragments {after clean : Bool} {fs : List Fragment} {r : Reading}
    {values : List Value} (h : Lexes d after fs clean)
    (hr : Reading.ofTokens? d (tokensFrom d 0 fs) = some r)
    (hvalues : fs.flatMap bound = values.filter (!·.isNull)) (kind : Operation) (table : String) :
    ReadsBack d (Fragment.statement d kind table fs) r values := by
  have htokens := tokensOf_statement h kind table
  refine ⟨?_, hvalues, ?_⟩
  · rw [read, htokens, hr]
  · rw [htokens, h.numbered 0]
    rfl

/-! ### Cutting -/

/-- A list is cut where the first part ends, if the second part begins with a stop. -/
theorem cut_append {α : Type} {stop : α → Bool} {xs ys : List α} (hxs : ∀ x ∈ xs, stop x = true)
    (hys : ∀ y ∈ ys.head?, stop y = false) :
    (xs ++ ys).takeWhile stop = xs ∧ (xs ++ ys).dropWhile stop = ys := by
  rw [List.takeWhile_append_of_pos hxs, List.dropWhile_append_of_pos hxs]
  cases ys with
  | nil => exact ⟨List.append_nil xs, rfl⟩
  | cons y rest =>
    have hy : stop y = false := hys y rfl
    rw [List.takeWhile_cons, List.dropWhile_cons, hy]
    exact ⟨List.append_nil xs, rfl⟩

/-- A list is cut at the first stop. -/
theorem cut_at {xs : List Token} {stop : Token} (hxs : ∀ x ∈ xs, (x != stop) = true)
    (ys : List Token) :
    (xs ++ stop :: ys).takeWhile (· != stop) = xs ∧
      (xs ++ stop :: ys).dropWhile (· != stop) = stop :: ys :=
  cut_append hxs fun y hy => by rw [← Option.some.inj hy, bne_self_eq_false]

theorem not_isLimitWord_of_free {fs : List Fragment} (hlimit : Free d (.word "LIMIT") fs)
    (hoffset : Free d (.word "OFFSET") fs) (n : Nat) :
    ∀ t ∈ tokensFrom d n fs, (!isLimitWord t) = true := by
  intro t ht
  rw [isLimitWord, Bool.not_or, Bool.and_eq_true, Bool.not_eq_true', Bool.not_eq_true',
    beq_eq_false_iff_ne, beq_eq_false_iff_ne]
  exact ⟨fun heq => hlimit n (heq ▸ ht), fun heq => hoffset n (heq ▸ ht)⟩

theorem bne_of_free {fs : List Fragment} {stop : Token} (h : Free d stop fs) (n : Nat) :
    ∀ t ∈ tokensFrom d n fs, (t != stop) = true := by
  intro t ht
  rw [bne_iff_ne]
  exact fun heq => h n (heq ▸ ht)

namespace Query

variable (q : Query)

/-! ### Selections and updates -/

/-- What follows the table of a selection. -/
theorem selection_reads (n k : Nat) :
    selection? d q.table (tokensFrom d n q.whereClause ++
      (tokensFrom d k q.orderClause ++ limitTokens d q.limit q.offset)) =
      some (.select q.table (slots q.filters) q.order (readLimit d q.limit) q.offset) := by
  -- The words that begin a clause are in no clause before it, whatever the names are.
  have hwhere := not_isLimitWord_of_free (d := d) (q.where_free (by decide) (by decide))
    (q.where_free (by decide) (by decide)) n
  have horder := not_isLimitWord_of_free (d := d) (q.order_free (by decide) (by decide))
    (q.order_free (by decide) (by decide)) k
  have hlimits : ∀ t ∈ (limitTokens d q.limit q.offset).head?, (!isLimitWord t) = false := by
    intro t ht
    rw [limitTokens_head _ _ t ht]
    rfl
  have hclauses : ∀ t ∈ tokensFrom d n q.whereClause ++ tokensFrom d k q.orderClause,
      (!isLimitWord t) = true := by
    intro t ht
    rcases List.mem_append.mp ht with ht | ht
    · exact hwhere t ht
    · exact horder t ht
  have hbefore : ∀ t ∈ tokensFrom d n q.whereClause, (t != .word "ORDER") = true :=
    bne_of_free (q.where_free (by decide) (by decide)) n
  have hbegin : ∀ t ∈ (tokensFrom d k q.orderClause).head?, (t != .word "ORDER") = false := by
    intro t ht
    rw [q.order_head k t ht]
    rfl
  obtain ⟨hfront, hback⟩ := cut_append hclauses hlimits
  obtain ⟨hfilters, hordered⟩ := cut_append hbefore hbegin
  rw [← List.append_assoc, selection?, hfront, hback, hfilters, hordered, where_reads, order_reads,
    limits_read]
  rfl

/-- What follows the table of an update. -/
theorem changes_read {as : List (String × Slot)} {ts : List Token} (n : Nat)
    (hfree : .word "WHERE" ∉ ts) (hreads : (ts.splitOn (.mark ',')).mapM assignment? = some as) :
    changes? q.table (ts ++ tokensFrom d n q.whereClause) =
      some (.update q.table as (slots q.filters)) := by
  have hbefore : ∀ t ∈ ts, (t != .word "WHERE") = true := by
    intro t ht
    rw [bne_iff_ne]
    exact fun heq => hfree (heq ▸ ht)
  have hbegin : ∀ t ∈ (tokensFrom d n q.whereClause).head?, (t != .word "WHERE") = false := by
    intro t ht
    rw [q.where_head n t ht]
    rfl
  obtain ⟨hassignments, hconditions⟩ := cut_append hbefore hbegin
  rw [changes?, hassignments, hconditions, hreads, where_reads]
  rfl

/-! ### Statements -/

/-- What the rows are read with. -/
def selectFragments (d : Driver) : List Fragment :=
  [.word "SELECT * FROM ", .name q.table] ++ q.whereClause ++ q.orderClause ++
    [.word (limitOffset d q.limit q.offset)]

/-- What the rows are counted with. -/
def countFragments : List Fragment :=
  [.word "SELECT COUNT(*) AS count FROM ", .name q.table] ++ q.whereClause

/-- What the rows are deleted with. -/
def deleteFragments : List Fragment := [.word "DELETE FROM ", .name q.table] ++ q.whereClause

theorem select_phrase :
    Phrase d false "SELECT * FROM " [.word "SELECT", .mark '*', .word "FROM"] true :=
  .of_wording (by simp [wordings])

theorem count_phrase : Phrase d false "SELECT COUNT(*) AS count FROM " [.word "SELECT",
    .word "COUNT", .mark '(', .mark '*', .mark ')', .word "AS", .word "count", .word "FROM"] true :=
  .of_wording (by simp [wordings])

theorem delete_phrase : Phrase d false "DELETE FROM " [.word "DELETE", .word "FROM"] true :=
  .of_wording (by simp [wordings])

theorem select_lexes : Lexes d false (q.selectFragments d) false :=
  (((select_phrase.lexes.append (.name q.table) (.inl rfl)).append q.where_lexes (.inr rfl)).append
    q.order_lexes (.inr rfl)).append (limit_lexes q.limit q.offset) (.inr rfl)

theorem count_lexes : Lexes d false q.countFragments false :=
  (count_phrase.lexes.append (.name q.table) (.inl rfl)).append q.where_lexes (.inr rfl)

theorem delete_lexes : Lexes d false q.deleteFragments false :=
  (delete_phrase.lexes.append (.name q.table) (.inl rfl)).append q.where_lexes (.inr rfl)

theorem select_readsBack : ReadsBack d (q.select d)
    (.select q.table (slots q.filters) q.order (readLimit d q.limit) q.offset)
    (q.filters.map (·.2)) := by
  refine .of_fragments q.select_lexes ?_ ?_ _ _
  · have hreads := q.selection_reads (d := d) 0 (0 + (q.whereClause.flatMap bound).length)
    simp only [selectFragments, List.append_assoc, List.cons_append, List.nil_append, tokensFrom,
      tokens, tokensFrom_append, select_phrase.tokens, tokensOf_limitOffset, bound,
      List.length_nil, Nat.add_zero, List.append_nil]
    exact hreads
  · simp only [selectFragments, List.flatMap_append, List.flatMap_cons, List.flatMap_nil, bound,
      List.append_nil, List.nil_append, bound_where, bound_order]

theorem countRows_readsBack : ReadsBack d (q.countRows d) (.count q.table (slots q.filters))
    (q.filters.map (·.2)) := by
  refine .of_fragments q.count_lexes ?_ ?_ _ _
  · simp only [countFragments, List.cons_append, List.nil_append, tokensFrom, tokens,
      count_phrase.tokens, bound, List.length_nil, Nat.add_zero]
    exact congrArg (Option.map (Reading.count q.table)) (q.where_reads 0)
  · simp only [countFragments, List.cons_append, List.nil_append, List.flatMap_cons, bound,
      bound_where]

theorem deleteRows_readsBack (hfilters : q.filters ≠ []) :
    ∃ s, q.deleteRows d = .ok s ∧
      ReadsBack d s (.delete q.table (slots q.filters)) (q.filters.map (·.2)) := by
  have hsome : ¬ q.filters.isEmpty = true := by rwa [List.isEmpty_iff]
  refine ⟨_, if_neg hsome, .of_fragments q.delete_lexes ?_ ?_ _ _⟩
  · simp only [deleteFragments, List.cons_append, List.nil_append, tokensFrom, tokens,
      delete_phrase.tokens, bound, List.length_nil, Nat.add_zero]
    exact congrArg (Option.map (Reading.delete q.table)) (q.where_reads 0)
  · simp only [deleteFragments, List.cons_append, List.nil_append, List.flatMap_cons, bound,
      bound_where]

/-! ### Updates -/

theorem assignment_lexes (v : String × Value) : Lexes d false (assignment v) false :=
  (Lexes.name v.1).append (equals_phrase.lexes.append (.value v.2) (.inl rfl)) (.inr rfl)

theorem assignment_free {t : Token} (ht : t.separates = true) (hne : t ≠ .mark '=')
    (v : String × Value) : Free d t (assignment v) :=
  .cons (.name ht v.1) (.cons (.word equals_phrase.tokens (by simp [hne])) (.value ht v.2))

theorem slot_reads (n : Nat) (v : Value) :
    slot? (tokensFrom d n [.value v]) = some (Slot.ofValue v) := by
  simp only [tokensFrom, tokens, List.append_nil, Slot.ofValue]
  split
  · rfl
  · rfl

theorem assignment_reads (n : Nat) (v : String × Value) :
    assignment? (tokensFrom d n (assignment v)) = some (v.1, Slot.ofValue v.2) := by
  have hslot := slot_reads (d := d) n v.2
  have htokens : tokensFrom d n (assignment v) =
      .name v.1 :: .mark '=' :: tokensFrom d n [.value v.2] := by
    simp only [assignment, tokensFrom, tokens, equals_phrase.tokens, bound, List.length_nil,
      Nat.add_zero, List.cons_append, List.nil_append]
  rw [htokens, assignment?, hslot]
  rfl

theorem bound_assignment (v : String × Value) :
    (assignment v).flatMap bound = [v.2].filter (!·.isNull) :=
  (List.append_nil _).trans (bound_value v.2)

/-- What the rows are changed with. -/
def updateFragments (values : List (String × Value)) : List Fragment :=
  [.word "UPDATE ", .name q.table, .word " SET "] ++
    separated (.word ", ") (values.map assignment) ++ q.whereClause

theorem update_phrase : Phrase d false "UPDATE " [.word "UPDATE"] true :=
  .of_wording (by simp [wordings])

theorem set_phrase : Phrase d true " SET " [.word "SET"] true := .of_wording (by simp [wordings])

theorem update_lexes (values : List (String × Value)) :
    Lexes d false (q.updateFragments values) false :=
  (((update_phrase.lexes.append (.name q.table) (.inl rfl)).append set_phrase.lexes
    (.inr rfl)).append (.separated comma_phrase.lexes assignment_lexes values) (.inl rfl)).append
      q.where_lexes (.inr rfl)

theorem updateRows_readsBack {values : List (String × Value)} (hfilters : q.filters ≠ [])
    (hvalues : values ≠ []) :
    ∃ s, q.updateRows d values = .ok s ∧
      ReadsBack d s (.update q.table (slots values) (slots q.filters))
        (values.map (·.2) ++ q.filters.map (·.2)) := by
  have hsome : ¬ q.filters.isEmpty = true := by rwa [List.isEmpty_iff]
  have hsome' : ¬ values.isEmpty = true := by rwa [List.isEmpty_iff]
  refine ⟨_, (if_neg hsome).trans (if_neg hsome'), ?_⟩
  have hfree : Free d (.word "WHERE") (separated (.word ", ") (values.map assignment)) :=
    .separated (.word comma_phrase.tokens (by decide)) (assignment_free (by decide) (by decide)) _
  have hitems := mapM_splitOn comma_phrase.tokens
    (assignment_free (d := d) (t := .mark ',') (by decide) (by decide)) assignment_reads hvalues 0
  refine .of_fragments (q.update_lexes values) ?_ ?_ _ _
  · simp only [updateFragments, List.cons_append, List.nil_append, tokensFrom, tokens,
      tokensFrom_append, update_phrase.tokens, set_phrase.tokens, bound, List.length_nil,
      Nat.add_zero]
    exact q.changes_read _ (hfree 0) hitems
  · rw [updateFragments, List.flatMap_append, List.flatMap_append,
      bound_columns ", " bound_assignment, bound_where, List.filter_append]
    rfl

/-! ### Insertions -/

/-- The columns of a row, as they are written. -/
def columnList (values : List (String × Value)) : List Fragment :=
  separated (.word ", ") (values.map fun v => [.name v.1])

/-- The values of a row, as they are written. -/
def valueList (values : List (String × Value)) : List Fragment :=
  separated (.word ", ") (values.map fun v => [.value v.2])

theorem columnList_lexes (values : List (String × Value)) :
    Lexes d false (columnList values) false :=
  .separated comma_phrase.lexes (fun v => .name v.1) values

theorem valueList_lexes (values : List (String × Value)) :
    Lexes d false (valueList values) false :=
  .separated comma_phrase.lexes (fun v => .value v.2) values

theorem bound_columnList (values : List (String × Value)) :
    (columnList values).flatMap bound = [] := by
  rw [columnList, bound_separated, List.flatMap_map, List.flatMap_eq_nil_iff]
  exact fun _ _ => rfl

theorem bound_valueList (values : List (String × Value)) :
    (valueList values).flatMap bound = (values.map (·.2)).filter (!·.isNull) := by
  refine bound_columns ", " (fun v => ?_) values
  exact (List.append_nil _).trans (bound_value v.2)

/-- The tokens of a row, cut at the parentheses. -/
theorem row?_cut {cs vs : List Token} {columns : List String} {ss : List Slot}
    (hcs : ∀ t ∈ cs, (t != .mark ')') = true) (hvs : ∀ t ∈ vs, (t != .mark ')') = true)
    (hcolumns : (cs.splitOn (.mark ',')).mapM name? = some columns)
    (hslots : (vs.splitOn (.mark ',')).mapM slot? = some ss)
    (hlength : columns.length = ss.length) :
    row? (cs ++ .mark ')' :: .word "VALUES" :: .mark '(' :: (vs ++ [.mark ')'])) =
      some (columns.zip ss) := by
  obtain ⟨hfront, hback⟩ := cut_at hcs (.word "VALUES" :: .mark '(' :: (vs ++ [.mark ')']))
  obtain ⟨hfront', hback'⟩ := cut_at hvs []
  simp [row?, hfront, hback, hfront', hback', hcolumns, hslots, hlength]

/-- A row with values reads as its columns. -/
theorem row_reads {values : List (String × Value)} (hvalues : values ≠ []) (n k : Nat) :
    row? (tokensFrom d n (columnList values) ++ .mark ')' :: .word "VALUES" :: .mark '(' ::
      (tokensFrom d k (valueList values) ++ [.mark ')'])) = some (slots values) := by
  have hname : ∀ t : Token, t.separates = true → ∀ v : String × Value, Free d t [.name v.1] :=
    fun _ ht v => .name ht v.1
  have hvalue : ∀ t : Token, t.separates = true → ∀ v : String × Value, Free d t [.value v.2] :=
    fun _ ht v => .value ht v.2
  have hcomma : Free d (.mark ')') [.word ", "] := .word comma_phrase.tokens (by decide)
  have hcolumns : ((tokensFrom d n (columnList values)).splitOn (.mark ',')).mapM name? =
      some (values.map fun v => v.1) :=
    mapM_splitOn comma_phrase.tokens (hname _ (by decide)) (fun _ _ => rfl) hvalues n
  have hslots : ((tokensFrom d k (valueList values)).splitOn (.mark ',')).mapM slot? =
      some (values.map fun v => Slot.ofValue v.2) :=
    mapM_splitOn comma_phrase.tokens (hvalue _ (by decide)) (fun i v => slot_reads i v.2) hvalues k
  have hcolumnsFree : Free d (.mark ')') (columnList values) :=
    .separated hcomma (hname _ (by decide)) values
  have hvaluesFree : Free d (.mark ')') (valueList values) :=
    .separated hcomma (hvalue _ (by decide)) values
  rw [row?_cut (bne_of_free hcolumnsFree n) (bne_of_free hvaluesFree k) hcolumns hslots
    (by rw [List.length_map, List.length_map]), List.zip_map']
  rfl

/-- The columns begin with a name, so that they are told from an empty row. -/
theorem insertion_reads {values : List (String × Value)} (hvalues : values ≠ []) (n k : Nat) :
    insertion? d (.mark '(' :: (tokensFrom d n (columnList values) ++ .mark ')' ::
      .word "VALUES" :: .mark '(' :: (tokensFrom d k (valueList values) ++ [.mark ')']))) =
        some (slots values) := by
  have hreads := row_reads (d := d) hvalues n k
  obtain ⟨v, rest, rfl⟩ := List.exists_cons_of_ne_nil hvalues
  have hhead : ∃ ts, tokensFrom d n (columnList (v :: rest)) = .name v.1 :: ts := by
    cases rest with
    | nil => exact ⟨_, rfl⟩
    | cons v' rest => exact ⟨_, rfl⟩
  obtain ⟨ts, hts⟩ := hhead
  rw [hts] at hreads ⊢
  exact hreads

/-- What follows the table of an insertion. A row of defaults is written in another way for
MySQL. -/
def rowFragments (d : Driver) (values : List (String × Value)) : List Fragment :=
  if values.isEmpty then [.word (if d = .mysql then " () VALUES ()" else " DEFAULT VALUES")]
  else [.word " ("] ++ columnList values ++ [.word ") VALUES ("] ++ valueList values ++ [.word ")"]

/-- What a row is inserted with. -/
def insertFragments (d : Driver) (values : List (String × Value)) : List Fragment :=
  [.word "INSERT INTO ", .name q.table] ++ rowFragments d values

theorem insert_phrase : Phrase d false "INSERT INTO " [.word "INSERT", .word "INTO"] true :=
  .of_wording (by simp [wordings])

theorem open_phrase : Phrase d true " (" [.mark '('] true := .of_wording (by simp [wordings])

theorem values_phrase : Phrase d true ") VALUES (" [.mark ')', .word "VALUES", .mark '('] true :=
  .of_wording (by simp [wordings])

theorem close_phrase : Phrase d true ")" [.mark ')'] true := .of_wording (by simp [wordings])

theorem emptyRow_phrase : Phrase d true " () VALUES ()"
    [.mark '(', .mark ')', .word "VALUES", .mark '(', .mark ')'] true :=
  .of_wording (by simp [wordings])

theorem defaultRow_phrase :
    Phrase d true " DEFAULT VALUES" [.word "DEFAULT", .word "VALUES"] false :=
  .of_wording (by simp [wordings])

theorem row_lexes (values : List (String × Value)) :
    Lexes d true (rowFragments d values) false := by
  unfold rowFragments
  split
  · split
    · exact emptyRow_phrase.lexes.weaken
    · exact defaultRow_phrase.lexes
  · exact ((((open_phrase.lexes.append (columnList_lexes values) (.inl rfl)).append
      values_phrase.lexes (.inr rfl)).append (valueList_lexes values) (.inl rfl)).append
        close_phrase.lexes (.inr rfl)).weaken

theorem insert_lexes (values : List (String × Value)) :
    Lexes d false (q.insertFragments d values) false :=
  (insert_phrase.lexes.append (.name q.table) (.inl rfl)).append (row_lexes values) (.inr rfl)

/-- A row of defaults reads back as a row without columns. -/
theorem insertRow_defaults_readsBack : ReadsBack d (q.insertRow d []) (.insert q.table []) [] := by
  have htokens : Reading.ofTokens? d (tokensFrom d 0 (q.insertFragments d [])) =
      some (.insert q.table []) := by
    unfold insertFragments rowFragments
    rw [if_pos List.isEmpty_nil]
    split
    · next hd =>
      simp only [List.cons_append, List.nil_append, tokensFrom, tokens, insert_phrase.tokens,
        emptyRow_phrase.tokens, ofTokens?, insertion?, if_pos hd]
      rfl
    · next hd =>
      simp only [List.cons_append, List.nil_append, tokensFrom, tokens, insert_phrase.tokens,
        defaultRow_phrase.tokens, ofTokens?, insertion?, if_neg hd]
      rfl
  exact .of_fragments (q.insert_lexes []) htokens rfl _ _

theorem insertRow_readsBack (values : List (String × Value)) :
    ReadsBack d (q.insertRow d values) (.insert q.table (slots values)) (values.map (·.2)) := by
  by_cases hvalues : values = []
  · rw [hvalues]
    exact q.insertRow_defaults_readsBack
  have hsome : ¬ values.isEmpty = true := by rwa [List.isEmpty_iff]
  refine .of_fragments (q.insert_lexes values) ?_ ?_ _ _
  · have hreads := insertion_reads (d := d) hvalues 0 0
    simp only [insertFragments, rowFragments, if_neg hsome, List.append_assoc, List.cons_append,
      List.nil_append, tokensFrom, tokens, tokensFrom_append, insert_phrase.tokens,
      open_phrase.tokens, values_phrase.tokens, close_phrase.tokens, bound, bound_columnList,
      List.length_nil, Nat.add_zero]
    exact congrArg (Option.map (Reading.insert q.table)) hreads
  · simp only [insertFragments, rowFragments, if_neg hsome, List.flatMap_append, bound_columnList,
      bound_valueList]
    exact List.append_nil _

/-! ### Refusals -/

theorem updateRows_of_no_filters (hfilters : q.filters = []) (values : List (String × Value)) :
    q.updateRows d values = .error (.missingConditions "update") := by
  rw [updateRows, hfilters]
  rfl

theorem updateRows_of_no_values (hfilters : q.filters ≠ []) :
    q.updateRows d [] = .error (.missingValues "update") := by
  have hsome : ¬ q.filters.isEmpty = true := by rwa [List.isEmpty_iff]
  rw [updateRows, if_neg hsome]
  rfl

theorem deleteRows_of_no_filters (hfilters : q.filters = []) :
    q.deleteRows d = .error (.missingConditions "delete") := by
  rw [deleteRows, hfilters]
  rfl

/-- A refused update is answered without a statement. -/
theorem update_of_refused {m : Type → Type} [Monad m] {e : Error} (s : Session m)
    {values : List (String × Value)} (h : q.updateRows s.driver values = .error e) :
    q.update s values = pure (.error e) := by
  rw [update, h]

/-- A refused deletion is answered without a statement. -/
theorem delete_of_refused {m : Type → Type} [Monad m] {e : Error} (s : Session m)
    (h : q.deleteRows s.driver = .error e) : q.delete s = pure (.error e) := by
  rw [delete, h]

/-- Every query reads back from each of its statements, in every dialect and with any names: the
table, the columns with what stands for their values, and of a selection the order, the limit and
the offset. The arguments are the values that are not missing, those that are set before those that
are looked for, with one parameter for each of them. Updates and deletions of whole tables and
updates without values are refused, and nothing is sent for them. -/
theorem statements_readBack (q : Query) (d : Driver) (values : List (String × Value)) :
    ReadsBack d (q.select d)
      (.select q.table (slots q.filters) q.order (readLimit d q.limit) q.offset)
      (q.filters.map (·.2)) ∧
    ReadsBack d (q.countRows d) (.count q.table (slots q.filters)) (q.filters.map (·.2)) ∧
    ReadsBack d (q.insertRow d values) (.insert q.table (slots values)) (values.map (·.2)) ∧
    (q.filters ≠ [] → values ≠ [] → ∃ s, q.updateRows d values = .ok s ∧
      ReadsBack d s (.update q.table (slots values) (slots q.filters))
        (values.map (·.2) ++ q.filters.map (·.2))) ∧
    (q.filters ≠ [] → ∃ s, q.deleteRows d = .ok s ∧
      ReadsBack d s (.delete q.table (slots q.filters)) (q.filters.map (·.2))) ∧
    ∀ {m : Type → Type} [Monad m] (s : Session m),
      (q.filters = [] → q.update s values = pure (.error (.missingConditions "update"))) ∧
      (q.filters = [] → q.delete s = pure (.error (.missingConditions "delete"))) ∧
      (q.filters ≠ [] → q.update s [] = pure (.error (.missingValues "update"))) := by
  refine ⟨q.select_readsBack, q.countRows_readsBack, q.insertRow_readsBack values,
    q.updateRows_readsBack, q.deleteRows_readsBack, fun s => ⟨fun hnone => ?_, fun hnone => ?_,
      fun hsome => ?_⟩⟩
  · exact q.update_of_refused s (q.updateRows_of_no_filters hnone values)
  · exact q.delete_of_refused s (q.deleteRows_of_no_filters hnone)
  · exact q.update_of_refused s (q.updateRows_of_no_values hsome)

/-- A query whose names have quotes, parameters and words of statements in them. -/
def quoted : Query :=
  { table := "a\"b?", filters := [("$1", .null), (" OR ", .text "x")],
    order := [("DESC", .descending)], limit := none, offset := some 2 }

theorem statements_readBack_quoted :
    read .postgresql (quoted.select .postgresql).sql =
      some (.select "a\"b?" [("$1", .null), (" OR ", .placeholder)] [("DESC", .descending)] none
        (some 2)) ∧
    (∃ s, quoted.updateRows .postgresql [("c\"", .int 1)] = .ok s ∧
      ReadsBack .postgresql s
        (.update "a\"b?" [("c\"", .placeholder)] [("$1", .null), (" OR ", .placeholder)])
        [.int 1, .null, .text "x"]) ∧
    (∃ s, quoted.deleteRows .mysql = .ok s ∧
      ReadsBack .mysql s (.delete "a\"b?" [("$1", .null), (" OR ", .placeholder)])
        [.null, .text "x"]) ∧
    ∀ s : Session Id,
      (ofTable "t").update s [] = pure (.error (.missingConditions "update")) ∧
      (ofTable "t").delete s = pure (.error (.missingConditions "delete")) ∧
      quoted.update s [] = pure (.error (.missingValues "update")) := by
  obtain ⟨hselect, -, -, hupdate, -, -⟩ := quoted.statements_readBack .postgresql [("c\"", .int 1)]
  obtain ⟨-, -, -, -, hdelete, hrefused⟩ := quoted.statements_readBack .mysql []
  obtain ⟨-, -, -, -, -, hwhole⟩ := (ofTable "t").statements_readBack .mysql []
  exact ⟨hselect.reading, hupdate (List.cons_ne_nil _ _) (List.cons_ne_nil _ _),
    hdelete (List.cons_ne_nil _ _), fun s => ⟨(hwhole s).1 rfl, (hwhole s).2.1 rfl,
      (hrefused s).2.2 (List.cons_ne_nil _ _)⟩⟩

end Query

end DataAccess.Sql
