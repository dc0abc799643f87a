import DataAccess.Proofs.Json.Members
import DataAccess.Sql.Record

/-!
# The two views of a row

A row can be asked for the value of a column, and it can be shown as an object. Both go by name, and
the columns of a row may share one, as they do after a join. Everything is put in terms of the
values of a name, in the order of the columns (`valuesOf`): typed access takes the first of them
(`value?_eq_head?`, `get_eq_ok_iff`) and the object the last (`find?_toJson`). So they agree on what
columns there are, and on a name that stands once, but on a repeated one only if its first and its
last value look the same in an object (`views_agree_iff`).
-/

namespace DataAccess.Sql

open Json (Members)

/-- What is looked up is the first value of a key. -/
theorem lookup_eq_head? {α : Type} (xs : List (String × α)) (key : String) :
    xs.lookup key = ((xs.filter fun x => x.1 == key).map Prod.snd).head? := by
  induction xs with
  | nil => rfl
  | cons x rest ih =>
    rw [List.lookup_cons]
    by_cases h : x.1 = key
    · simp [h]
    · simp [h, beq_false_of_ne (Ne.symm h), ih]

namespace Record

/-- The values of the columns with a name, in order. -/
def valuesOf (r : Record) (column : String) : List Value :=
  (r.columns.filter fun c => c.1 == column).map Prod.snd

/-! ### Typed access -/

theorem value?_eq_head? (r : Record) (column : String) :
    r.value? column = (r.valuesOf column).head? := lookup_eq_head? r.columns column

/-- What is read is read from the first value of a name. -/
theorem get_eq_ok_iff {α : Type} {r : Record} {column : String}
    {read : Value → Except Value.TypeError α} {a : α} :
    r.get column read = .ok a ↔ ∃ v, (r.valuesOf column).head? = some v ∧ read v = .ok a := by
  rw [← value?_eq_head?, get]
  split
  · next hnone => simp [hnone]
  · next v hv =>
    simp only [hv, Option.some.injEq, exists_eq_left']
    split
    · next ha => simp [ha]
    · next he => simp [he]

/-! ### The object -/

theorem members_toJson (r : Record) :
    r.toJson.members = Members.ofList (r.columns.map fun c => (c.1, c.2.toJson)) := rfl

/-- An object has the last value of a name. -/
theorem find?_toJson (r : Record) (column : String) :
    r.toJson.members.find? column = (r.valuesOf column).getLast?.map Value.toJson := by
  rw [members_toJson, Members.find?_ofList, lookup_eq_head?, List.filter_reverse, List.map_reverse,
    List.head?_reverse, List.filter_map, List.map_map, valuesOf, ← List.getLast?_map, List.map_map]
  rfl

/-- The keys of the object are the names of the columns. -/
theorem mem_keys_toJson {r : Record} {column : String} :
    column ∈ r.toJson.members.map Prod.fst ↔ column ∈ r.names := by
  rw [members_toJson, Members.mem_keys_ofList, List.map_map]
  rfl

theorem mem_names_iff {r : Record} {column : String} :
    column ∈ r.names ↔ (r.value? column).isSome := by
  rw [value?, List.lookup_isSome_iff, names, List.mem_map]
  simp only [beq_iff_eq, @eq_comm _ column]

/-! ### Agreement -/

/-- A name has as many values as columns. -/
theorem length_valuesOf (r : Record) (column : String) :
    (r.valuesOf column).length = r.names.count column := by
  rw [valuesOf, List.length_map, names, List.count_eq_length_filter, List.filter_map,
    List.length_map]
  rfl

/-- The two views of a name that stands once. -/
theorem find?_toJson_of_count_le_one {r : Record} {column : String} (h : r.names.count column ≤ 1) :
    r.toJson.members.find? column = (r.value? column).map Value.toJson := by
  rw [find?_toJson, value?_eq_head?]
  rw [← length_valuesOf] at h
  match hvalues : r.valuesOf column, h with
  | [], _ => rfl
  | [v], _ => rfl

/-- **The object view and typed access.** The object of a row has every name of a column once, in
order. Typed access finds the first value of a name and the object has the last, so whatever is read
as any type is read from the value that the object shows if, and only if, the two look the same
there; a name that stands once has one value. -/
theorem views_agree_iff (r : Record) :
    ∃ ms : Members, r.toJson = .object ms ∧ ms.Sorted ∧ ∀ column,
      (column ∈ ms.map Prod.fst ↔ (r.value? column).isSome) ∧
      r.value? column = (r.valuesOf column).head? ∧
      ms.find? column = (r.valuesOf column).getLast?.map Value.toJson ∧
      (r.names.count column ≤ 1 → ms.find? column = (r.value? column).map Value.toJson) ∧
      ((∀ (α : Type) (read : Value → Except Value.TypeError α) (a : α),
          r.get column read = .ok a →
            ∃ v, r.value? column = some v ∧ read v = .ok a ∧ ms.find? column = some v.toJson) ↔
        (r.valuesOf column).head?.map Value.toJson =
          (r.valuesOf column).getLast?.map Value.toJson) := by
  refine ⟨r.toJson.members, rfl, Members.sorted_ofList _, fun column =>
    ⟨mem_keys_toJson.trans mem_names_iff, value?_eq_head? r column, find?_toJson r column,
      find?_toJson_of_count_le_one, ?_⟩⟩
  rw [find?_toJson, value?_eq_head?]
  constructor
  · intro h
    cases hfirst : (r.valuesOf column).head? with
    | none => rw [List.head?_eq_none_iff.mp hfirst]; rfl
    | some v =>
      -- A value can be read as it is.
      obtain ⟨w, hw, -, hlast⟩ := h Value .ok v (get_eq_ok_iff.mpr ⟨v, hfirst, rfl⟩)
      rw [hfirst] at hw
      cases hw
      exact hlast.symm
  · intro h α read a hread
    obtain ⟨v, hfirst, ha⟩ := get_eq_ok_iff.mp hread
    refine ⟨v, hfirst, ha, ?_⟩
    rw [← h, hfirst]
    rfl

-- Two tables with an `id` each, joined.
example :
    let joined : Record := ⟨[("id", .int 1), ("name", .text "ada"), ("id", .int 2)]⟩
    joined.get "id" Value.asInt = .ok 1 ∧
      joined.toJson.members.find? "id" = some (.integer 2) :=
  ⟨rfl, rfl⟩

end Record

end DataAccess.Sql
