import DataAccess.Json.Basic
import Mathlib.Data.List.Induction
import Mathlib.Data.String.Basic

/-!
# Members of objects

What is found under a key: `find?_cons` steps through a list of members, `find?_insert` and
`find?_map` say how it changes. An object that is made from a list of pairs has every key of the
list once, in increasing order (`sorted_ofList`, `mem_keys_ofList`), with the last of its values
(`find?_ofList`).
-/

namespace DataAccess.Json.Members

/-! ### What is found -/

@[simp] theorem find?_nil (key : String) : Members.find? [] key = none := rfl

theorem find?_cons (k key : String) (v : Json) (ms : Members) :
    Members.find? ((k, v) :: ms) key = if key = k then some v else ms.find? key := by
  show List.lookup key ((k, v) :: ms) = _
  rw [List.lookup_cons]
  by_cases h : key = k
  · subst h
    simp
  · rw [beq_eq_false_iff_ne.mpr h, if_neg h]
    rfl

/-- Something is found exactly under the keys. -/
theorem isSome_find?_iff {ms : Members} {key : String} :
    (ms.find? key).isSome ↔ key ∈ ms.map Prod.fst := by
  refine List.lookup_isSome_iff.trans ?_
  simp only [beq_iff_eq, List.mem_map, @eq_comm _ key]

/-- What is no key of an object is not found. -/
theorem find?_eq_none {ms : Members} {key : String} (h : key ∉ ms.map Prod.fst) :
    ms.find? key = none :=
  Option.not_isSome_iff_eq_none.mp fun hfound => h (isSome_find?_iff.mp hfound)

/-- Change the values of one key, and look for another. -/
theorem find?_map (f : Json → Json) (k key : String) (ms : Members) :
    Members.find? (ms.map fun m => if m.1 = k then (m.1, f m.2) else m) key =
      if key = k then (ms.find? key).map f else ms.find? key := by
  induction ms with
  | nil => simp
  | cons m rest ih =>
    obtain ⟨k', v⟩ := m
    rw [List.map_cons, find?_cons]
    by_cases hk : k' = k
    · subst hk
      rw [if_pos rfl, find?_cons, ih]
      by_cases hkey : key = k'
      · simp [hkey]
      · simp [hkey]
    · rw [if_neg hk, find?_cons, ih]
      by_cases hkey : key = k'
      · subst hkey
        simp [hk]
      · simp [hkey]

/-- What is present is what is found, unless it is null. -/
theorem present?_eq_some {ms : Members} {key : String} {v : Json} :
    ms.present? key = some v ↔ ms.find? key = some v ∧ v ≠ .null := by
  unfold Members.present?
  split
  · next h =>
    simp only [h, reduceCtorEq, false_iff, Option.some.injEq]
    rintro ⟨rfl, hv⟩
    exact hv rfl
  · next hnull =>
    refine ⟨fun h => ⟨h, ?_⟩, fun h => h.1⟩
    rintro rfl
    exact hnull h

theorem present?_eq_none {ms : Members} {key : String} :
    ms.present? key = none ↔ ms.find? key = none ∨ ms.find? key = some .null := by
  unfold Members.present?
  split
  · next h => simp [h]
  · next hnull => exact ⟨.inl, fun h => h.resolve_right hnull⟩

/-! ### Objects made from pairs -/

theorem find?_insert (k key : String) (v : Json) (ms : Members) :
    find? (insert k v ms) key = if key = k then some v else find? ms key := by
  induction ms with
  | nil => exact find?_cons k key v []
  | cons m rest ih =>
    obtain ⟨k', v'⟩ := m
    rw [insert]
    split
    · exact find?_cons k key v _
    · split
      · next hk =>
        subst hk
        rw [find?_cons, find?_cons]
        split <;> rfl
      · next hk =>
        rw [find?_cons, ih, find?_cons]
        by_cases hkey : key = k'
        · rw [if_pos hkey, if_pos hkey, if_neg (fun h => hk (h.symm.trans hkey))]
        · rw [if_neg hkey, if_neg hkey]

/-- One more pair at the end of a list. -/
theorem ofList_concat (ms : List (String × Json)) (m : String × Json) :
    ofList (ms ++ [m]) = insert m.1 m.2 (ofList ms) := by
  rw [ofList, List.foldl_append]
  rfl

/-- The last value of a key is the one that is found. -/
theorem find?_ofList (ms : List (String × Json)) (key : String) :
    find? (ofList ms) key = ms.reverse.lookup key := by
  -- The induction is on the list from its end, where the last insertion is.
  induction ms using List.reverseRecOn with
  | nil => rfl
  | append_singleton ms m ih =>
    rw [ofList_concat, find?_insert, ih, List.reverse_append]
    exact (find?_cons m.1 key m.2 _).symm

/-- The keys of an object that is made from a list are those of the list. -/
theorem mem_keys_ofList {ms : List (String × Json)} {key : String} :
    key ∈ (ofList ms).map Prod.fst ↔ key ∈ ms.map Prod.fst := by
  have hlast : (ms.reverse.lookup key).isSome ↔ key ∈ ms.reverse.map Prod.fst := isSome_find?_iff
  rw [← isSome_find?_iff, find?_ofList, hlast, List.map_reverse, List.mem_reverse]

/-- The keys after an insertion. -/
theorem mem_keys_insert {k key : String} {v : Json} {ms : Members} :
    key ∈ (insert k v ms).map Prod.fst ↔ key = k ∨ key ∈ ms.map Prod.fst := by
  rw [← isSome_find?_iff, find?_insert, ← isSome_find?_iff]
  by_cases hk : key = k <;> simp [hk]

/-- Every key stands once, and the keys increase. -/
def Sorted (ms : Members) : Prop := (ms.map Prod.fst).Pairwise (· < ·)

/-- An insertion keeps the order. -/
theorem Sorted.insert {ms : Members} (h : ms.Sorted) (k : String) (v : Json) :
    (Members.insert k v ms).Sorted := by
  induction ms with
  | nil => exact List.pairwise_singleton _ k
  | cons m rest ih =>
    obtain ⟨k', v'⟩ := m
    obtain ⟨hfirst, hrest⟩ := List.pairwise_cons.mp h
    rw [Members.insert]
    split
    · next hlt =>
      refine List.pairwise_cons.mpr ⟨fun key hkey => ?_, h⟩
      rcases List.mem_cons.mp hkey with rfl | hkey
      · exact hlt
      · exact hlt.trans (hfirst key hkey)
    · next hge =>
      split
      · next hk =>
        subst hk
        exact h
      · next hne =>
        refine List.pairwise_cons.mpr ⟨fun key hkey => ?_, ih hrest⟩
        rcases mem_keys_insert.mp hkey with rfl | hkey
        · exact lt_of_le_of_ne (not_lt.mp hge) (Ne.symm hne)
        · exact hfirst key hkey

theorem sorted_ofList (ms : List (String × Json)) : (ofList ms).Sorted := by
  induction ms using List.reverseRecOn with
  | nil => exact List.Pairwise.nil
  | append_singleton ms m ih =>
    rw [ofList_concat]
    exact ih.insert m.1 m.2

end DataAccess.Json.Members
