import DataAccess.Proofs.Query.Reading

/-!
# Clauses read back

Each clause of a statement on a table reads as the part of the query that it was made from. For a
clause there are four facts: its fragments read as their tokens, wherever they stand (`_lexes`);
which tokens are not among them (`_free`); what the reader makes of them (`_reads`); and what they
bind (`bound_`).
-/

namespace DataAccess.Sql

open Fragment Reading

variable {d : Driver}

/-! ### Lists -/

theorem bound_separated (s : String) (groups : List (List Fragment)) :
    (separated (.word s) groups).flatMap bound = groups.flatMap (·.flatMap bound) := by
  induction groups with
  | nil => rfl
  | cons g rest ih =>
    cases rest with
    | nil => simp [separated]
    | cons g' rest => simp only [separated, List.flatMap_append, List.flatMap_cons, ih, bound,
        List.nil_append]

/-- What a list of columns binds are its values, if that holds of each of its items. -/
theorem bound_columns {render : String × Value → List Fragment} (s : String)
    (h : ∀ c, (render c).flatMap bound = [c.2].filter (!·.isNull)) (cs : List (String × Value)) :
    (separated (.word s) (cs.map render)).flatMap bound =
      (cs.map (·.2)).filter (!·.isNull) := by
  rw [bound_separated]
  induction cs with
  | nil => rfl
  | cons c rest ih =>
    rw [List.map_cons, List.flatMap_cons, h, ih, ← List.filter_append]
    rfl

theorem bound_value (v : Value) : (Fragment.value v).bound = [v].filter (!·.isNull) := by
  cases v <;> rfl

/-! ### Words -/

theorem comma_phrase : Phrase d true ", " [.mark ','] true :=
  .of_wording (by simp [wordings])

theorem equals_phrase : Phrase d true " = " [.mark '='] true :=
  .of_wording (by simp [wordings])

theorem isNull_phrase : Phrase d true " IS NULL" [.word "IS", .word "NULL"] false :=
  .of_wording (by simp [wordings])

theorem where_phrase : Phrase d true " WHERE " [.word "WHERE"] true :=
  .of_wording (by simp [wordings])

theorem and_phrase : Phrase d true " AND " [.word "AND"] true :=
  .of_wording (by simp [wordings])

theorem desc_phrase : Phrase d true " DESC" [.word "DESC"] false :=
  .of_wording (by simp [wordings])

theorem orderBy_phrase : Phrase d true " ORDER BY " [.word "ORDER", .word "BY"] true :=
  .of_wording (by simp [wordings])

namespace Query

variable (q : Query) {t : Token}

/-! ### Conditions -/

/-- The tokens in a list of conditions that are neither names nor parameters. -/
def whereWords : List Token := [.word "WHERE", .word "AND", .word "IS", .word "NULL", .mark '=']

theorem condition_lexes (f : String × Value) : Lexes d false (condition f) false := by
  unfold condition
  split
  · exact (Lexes.name f.1).append isNull_phrase.lexes (.inr rfl)
  · exact (Lexes.name f.1).append (equals_phrase.lexes.append (.value f.2) (.inl rfl)) (.inr rfl)

theorem condition_free (ht : t.separates = true) (hne : t ∉ [.word "IS", .word "NULL", .mark '='])
    (f : String × Value) : Free d t (condition f) := by
  simp only [List.mem_cons, List.not_mem_nil, or_false, not_or] at hne
  unfold condition
  split
  · exact .cons (.name ht f.1) (.word isNull_phrase.tokens (by simp [hne]))
  · exact .cons (.name ht f.1)
      (.cons (.word equals_phrase.tokens (by simp [hne])) (.value ht f.2))

theorem condition_reads (n : Nat) (f : String × Value) :
    condition? (tokensFrom d n (condition f)) = some (f.1, Slot.ofValue f.2) := by
  unfold condition Slot.ofValue
  split
  · simp only [tokensFrom, tokens, isNull_phrase.tokens]
    rfl
  · next hnull =>
    simp only [tokensFrom, tokens, equals_phrase.tokens, if_neg hnull]
    rfl

theorem bound_condition (f : String × Value) :
    (condition f).flatMap bound = [f.2].filter (!·.isNull) := by
  unfold condition
  split
  · next hnull => simp [bound, hnull]
  · exact (List.append_nil _).trans (bound_value f.2)

theorem where_lexes : Lexes d true q.whereClause false := by
  unfold whereClause
  split
  · exact .nil true
  · exact where_phrase.lexes.append (.separated and_phrase.lexes condition_lexes _) (.inl rfl)

theorem where_free (ht : t.separates = true) (hne : t ∉ whereWords) : Free d t q.whereClause := by
  simp only [whereWords, List.mem_cons, List.not_mem_nil, or_false, not_or] at hne
  unfold whereClause
  split
  · exact .nil
  · exact .cons (.word where_phrase.tokens (by simp [hne]))
      (.separated (.word and_phrase.tokens (by simp [hne])) (condition_free ht (by simp [hne])) _)

theorem where_reads (n : Nat) :
    where? (tokensFrom d n q.whereClause) = some (slots q.filters) := by
  have hfree : ∀ f, Free d (.word "AND") (condition f) := condition_free (by decide) (by decide)
  unfold whereClause
  split
  · next hnone =>
    rw [List.isEmpty_iff] at hnone
    rw [hnone]
    rfl
  · next hsome =>
    rw [List.isEmpty_iff] at hsome
    simp only [tokensFrom, tokens, where_phrase.tokens, bound, List.length_nil, Nat.add_zero]
    exact mapM_splitOn and_phrase.tokens hfree condition_reads hsome n

/-- Nothing, or the word that begins the conditions. -/
theorem where_head (n : Nat) : ∀ t ∈ (tokensFrom d n q.whereClause).head?, t = .word "WHERE" := by
  unfold whereClause
  split
  · nofun
  · simp only [tokensFrom, tokens, where_phrase.tokens]
    intro t ht
    exact (Option.some.inj ht).symm

theorem bound_where : q.whereClause.flatMap bound = (q.filters.map (·.2)).filter (!·.isNull) := by
  unfold whereClause
  split
  · next hnone =>
    rw [List.isEmpty_iff] at hnone
    rw [hnone]
    rfl
  · exact bound_columns " AND " bound_condition q.filters

/-! ### Order -/

theorem orderItem_lexes (o : String × Direction) : Lexes d false (orderItem o) false := by
  unfold orderItem
  cases o.2 with
  | ascending => exact .name o.1
  | descending => exact (Lexes.name o.1).append desc_phrase.lexes (.inr rfl)

theorem orderItem_free (ht : t.separates = true) (hne : t ≠ .word "DESC")
    (o : String × Direction) : Free d t (orderItem o) := by
  unfold orderItem
  cases o.2 with
  | ascending => exact .name ht o.1
  | descending => exact .cons (.name ht o.1) (.word desc_phrase.tokens (by simp [hne]))

theorem orderItem_reads (n : Nat) (o : String × Direction) :
    orderItem? (tokensFrom d n (orderItem o)) = some o := by
  rcases o with ⟨c, direction⟩
  cases direction with
  | ascending => rfl
  | descending =>
    simp only [orderItem, tokensFrom, tokens, desc_phrase.tokens]
    rfl

theorem order_lexes : Lexes d true q.orderClause false := by
  unfold orderClause
  split
  · exact .nil true
  · exact orderBy_phrase.lexes.append (.separated comma_phrase.lexes orderItem_lexes _) (.inl rfl)

theorem order_free (ht : t.separates = true)
    (hne : t ∉ [.word "ORDER", .word "BY", .word "DESC", .mark ',']) :
    Free d t q.orderClause := by
  simp only [List.mem_cons, List.not_mem_nil, or_false, not_or] at hne
  unfold orderClause
  split
  · exact .nil
  · exact .cons (.word orderBy_phrase.tokens (by simp [hne]))
      (.separated (.word comma_phrase.tokens (by simp [hne])) (orderItem_free ht hne.2.2.1) _)

theorem order_reads (n : Nat) : order? (tokensFrom d n q.orderClause) = some q.order := by
  have hfree : ∀ o, Free d (.mark ',') (orderItem o) := orderItem_free (by decide) (by decide)
  unfold orderClause
  split
  · next hnone =>
    rw [List.isEmpty_iff] at hnone
    rw [hnone]
    rfl
  · next hsome =>
    rw [List.isEmpty_iff] at hsome
    have hitems := mapM_splitOn comma_phrase.tokens hfree orderItem_reads hsome n
    rw [List.map_id'] at hitems
    simp only [tokensFrom, tokens, orderBy_phrase.tokens, bound, List.length_nil, Nat.add_zero]
    exact hitems

/-- Nothing, or the word that begins the order. -/
theorem order_head (n : Nat) : ∀ t ∈ (tokensFrom d n q.orderClause).head?, t = .word "ORDER" := by
  unfold orderClause
  split
  · nofun
  · simp only [tokensFrom, tokens, orderBy_phrase.tokens]
    intro t ht
    exact (Option.some.inj ht).symm

theorem bound_order : q.orderClause.flatMap bound = [] := by
  have hitems : ∀ o : String × Direction, (orderItem o).flatMap bound = [] := by
    rintro ⟨c, direction⟩
    cases direction <;> rfl
  unfold orderClause
  split
  · rfl
  · have hlist := bound_separated ", " (q.order.map orderItem)
    rw [List.flatMap_map, List.flatMap_eq_nil_iff.mpr fun o _ => hitems o] at hlist
    exact hlist

end Query

/-! ### Limits -/

/-- The tokens of the clause for a limit and an offset. -/
def limitTokens (d : Driver) (limit offset : Option Nat) : List Token :=
  match limit, offset with
  | none, none => []
  | some l, none => [.word "LIMIT", .number l]
  | some l, some o => [.word "LIMIT", .number l, .word "OFFSET", .number o]
  | none, some o =>
    (match d with
      | .postgresql => []
      | .mysql => [.word "LIMIT", .number 18446744073709551615]
      | _ => [.word "LIMIT", .mark '-', .number 1]) ++ [.word "OFFSET", .number o]

theorem limit_reads (l : Nat) :
    Reads d true (" LIMIT " ++ toString l).toList [.word "LIMIT", .number l] false := by
  have hlimit : Reads d true " LIMIT ".toList [.word "LIMIT"] true :=
    .wording (by simp [wordings])
  rw [String.toList_append]
  exact hlimit.append (.number l) (.inl rfl)

theorem offset_reads (o : Nat) :
    Reads d true (" OFFSET " ++ toString o).toList [.word "OFFSET", .number o] false := by
  have hoffset : Reads d true " OFFSET ".toList [.word "OFFSET"] true :=
    .wording (by simp [wordings])
  rw [String.toList_append]
  exact hoffset.append (.number o) (.inl rfl)

theorem limitOffset_reads (d : Driver) (l o : Option Nat) :
    Reads d true (limitOffset d l o).toList (limitTokens d l o) false := by
  cases l with
  | none =>
    cases o with
    | none => exact .nil true
    | some o =>
      have hall : Reads d true (unlimited d).toList (match d with
          | .postgresql => []
          | .mysql => [.word "LIMIT", .number 18446744073709551615]
          | _ => [.word "LIMIT", .mark '-', .number 1]) false := by
        cases d with
        | postgresql => exact .nil true
        | _ => exact .wording (by simp [unlimited, wordings])
      rw [limitOffset, String.append_assoc, String.toList_append]
      exact hall.append (offset_reads o) (.inr rfl)
  | some l =>
    cases o with
    | none => exact limit_reads l
    | some o =>
      rw [limitOffset, String.append_assoc, String.toList_append]
      exact (limit_reads l).append (offset_reads o) (.inr rfl)

theorem tokensOf_limitOffset (l o : Option Nat) :
    tokensOf d (limitOffset d l o) = limitTokens d l o := (limitOffset_reads d l o).finish_run

theorem limit_lexes (l o : Option Nat) : Lexes d true [.word (limitOffset d l o)] false := by
  refine .single (fun n => ?_) fun n => ?_
  · rw [tokens, tokensOf_limitOffset]
    exact limitOffset_reads d l o
  · rw [tokens, tokensOf_limitOffset]
    cases l <;> cases o <;> cases d <;> rfl

/-- The limit that is read: what stands for "all rows" is none. -/
def readLimit (d : Driver) (limit : Option Nat) : Option Nat := limit.bind (bounded d)

theorem limits_read (l o : Option Nat) :
    limits? d (limitTokens d l o) = some (readLimit d l, o) := by
  cases l with
  | none =>
    cases o with
    | none => rfl
    | some o => cases d <;> rfl
  | some l =>
    cases o with
    | none => rfl
    | some o => rfl

theorem limitTokens_head (l o : Option Nat) :
    ∀ t ∈ (limitTokens d l o).head?, isLimitWord t = true := by
  cases l <;> cases o <;> cases d <;> simp [limitTokens, isLimitWord]

end DataAccess.Sql
