import DataAccess.Access.Migrator
import Mathlib.Data.List.Nodup

/-!
# Versions in order

Migrations and rows of the history are kept in the order of their versions. Sorting by a key that is
an integer of 64 bits is stated once, for any key.

* `newer_sublist`, `newer_perm`, `newer_sorted` — the migrations beyond a version, stably sorted.
* `newer_of_split` — with distinct positive versions, what is beyond the first few migrations are
  the others.
-/

namespace DataAccess.Access.Migrator

variable {α : Type} {key : α → Int64} {xs ys : List α}

/-! ## Sorting by a key -/

theorem mergeSort_sorted (key : α → Int64) (xs : List α) :
    (xs.mergeSort fun a b => key a ≤ key b).Pairwise fun a b => key a ≤ key b := by
  have hsorted : (xs.mergeSort fun a b => key a ≤ key b).Pairwise
      fun a b => decide (key a ≤ key b) = true := by
    refine List.pairwise_mergeSort ?_ ?_ xs
    · intro a b c hab hbc
      simp only [decide_eq_true_eq] at hab hbc ⊢
      exact Int64.le_trans hab hbc
    · intro a b
      simpa using Int64.le_total (key a) (key b)
  exact hsorted.imp of_decide_eq_true

/-- Distinct keys in order are in strict order. -/
theorem lt_of_le_of_nodup (hsorted : xs.Pairwise fun a b => key a ≤ key b)
    (hdistinct : (xs.map key).Nodup) : xs.Pairwise fun a b => key a < key b := by
  have hne : xs.Pairwise fun a b => key a ≠ key b := List.pairwise_map.mp hdistinct
  refine (hsorted.and hne).imp fun {a b} h => ?_
  have hle := Int64.le_iff_toInt_le.mp h.1
  have hne : (key a).toInt ≠ (key b).toInt := fun heq => h.2 (Int64.toInt_inj.mp heq)
  exact Int64.lt_iff_toInt_lt.mpr (by omega)

theorem mergeSort_strictly_sorted (hdistinct : (xs.map key).Nodup) :
    (xs.mergeSort fun a b => key a ≤ key b).Pairwise fun a b => key a < key b :=
  lt_of_le_of_nodup (mergeSort_sorted key xs)
    (((List.mergeSort_perm xs _).map key).nodup_iff.mpr hdistinct)

/-- Lists in strict order with the same elements are equal. -/
theorem eq_of_perm_of_sorted (key : α → Int64) (hxs : xs.Pairwise fun a b => key a < key b)
    (hys : ys.Pairwise fun a b => key a < key b) (hperm : xs.Perm ys) : xs = ys := by
  refine hperm.eq_of_pairwise (fun a b _ _ hab hba => ?_) hxs hys
  exact absurd (Int64.lt_trans hab hba) Int64.lt_irrefl

/-- Of a list in strict order, what is beyond an element is what comes after it. -/
theorem filter_lt_of_sorted {a : α} (h : (xs ++ a :: ys).Pairwise fun a b => key a < key b) :
    ((xs ++ a :: ys).filter fun b => key a < key b) = ys := by
  obtain ⟨-, hrest, hbefore⟩ := List.pairwise_append.mp h
  have hxs : (xs.filter fun b => key a < key b) = [] := by
    refine List.filter_eq_nil_iff.mpr fun b hb => ?_
    have hlt := hbefore b hb a List.mem_cons_self
    simpa using Int64.le_of_lt hlt
  have hys : (ys.filter fun b => key a < key b) = ys := by
    refine List.filter_eq_self.mpr fun b hb => ?_
    exact decide_eq_true ((List.pairwise_cons.mp hrest).1 b hb)
  rw [List.filter_append, List.filter_cons, hxs, hys]
  simp [Int64.lt_irrefl]

/-- Of a list in strict order, what differs from the last element is what comes before it. -/
theorem filter_ne_of_sorted (key : α → Int64) {a : α}
    (h : (xs ++ [a]).Pairwise fun a b => key a < key b) :
    ((xs ++ [a]).filter fun b => key b != key a) = xs := by
  have hxs : (xs.filter fun b => key b != key a) = xs := by
    refine List.filter_eq_self.mpr fun b hb => bne_iff_ne.mpr fun heq => ?_
    have hlt : key b < key a := (List.pairwise_append.mp h).2.2 b hb a (List.mem_singleton.mpr rfl)
    rw [heq] at hlt
    exact Int64.lt_irrefl hlt
  rw [List.filter_append, hxs]
  simp

/-! ## Migrations in order -/

/-- Migrations in the order of their versions; those of one version stay in their order. -/
def inOrder (ms : List Migration) : List Migration :=
  ms.mergeSort fun a b => a.version ≤ b.version

variable {ms : List Migration} {current : Int64}

theorem inOrder_perm : (inOrder ms).Perm ms := List.mergeSort_perm ms _

theorem mem_of_split {done todo : List Migration} (hsplit : inOrder ms = done ++ todo) :
    (∀ m ∈ done, m ∈ ms) ∧ ∀ m ∈ todo, m ∈ ms := by
  have hmem : ∀ m ∈ done ++ todo, m ∈ ms := by
    intro m hm
    rw [← hsplit] at hm
    exact inOrder_perm.mem_iff.mp hm
  exact ⟨fun m hm => hmem m (List.mem_append_left todo hm),
    fun m hm => hmem m (List.mem_append_right done hm)⟩

theorem inOrder_sorted (hdistinct : (ms.map (·.version)).Nodup) :
    (inOrder ms).Pairwise fun a b => a.version < b.version := mergeSort_strictly_sorted hdistinct

theorem newer_perm : (newer current ms).Perm (ms.filter fun m => current < m.version) :=
  List.mergeSort_perm _ _

theorem newer_sorted : (newer current ms).Pairwise fun a b => a.version ≤ b.version :=
  mergeSort_sorted Migration.version _

/-- Sorting is stable: migrations that are in order already stay in it. -/
theorem newer_sublist {ns : List Migration} (hsorted : ns.Pairwise fun a b => a.version ≤ b.version)
    (hns : ns.Sublist (ms.filter fun m => current < m.version)) :
    ns.Sublist (newer current ms) := by
  refine List.sublist_mergeSort ?_ ?_ (hsorted.imp decide_eq_true) hns
  · intro a b c hab hbc
    simp only [decide_eq_true_eq] at hab hbc ⊢
    exact Int64.le_trans hab hbc
  · intro a b
    simpa using Int64.le_total a.version b.version

theorem newer_of_sorted (hsorted : ms.Pairwise fun a b => a.version ≤ b.version) :
    newer current ms = ms.filter fun m => current < m.version :=
  ((newer_sublist (hsorted.filter _) (.refl _)).eq_of_length newer_perm.length_eq.symm).symm

theorem mem_newer {m : Migration} : m ∈ newer current ms ↔ m ∈ ms ∧ current < m.version := by
  simp [newer]

/-- Sorting does not change the order of migrations of one version. -/
theorem newer_filter_version {version : Int64} (hbeyond : current < version) :
    (newer current ms).filter (·.version == version) = ms.filter (·.version == version) := by
  have hfilter : (ms.filter fun m => current < m.version).filter (·.version == version) =
      ms.filter (·.version == version) := by
    rw [List.filter_filter]
    refine List.filter_congr fun m _ => ?_
    by_cases hm : m.version = version
    · simp [hm, hbeyond]
    · simp [hm]
  have hsorted : (ms.filter (·.version == version)).Pairwise fun a b => a.version ≤ b.version := by
    refine List.pairwise_of_forall_mem_list fun a ha b hb => ?_
    rw [eq_of_beq (List.mem_filter.mp ha).2, eq_of_beq (List.mem_filter.mp hb).2]
    exact Int64.le_refl version
  have hsub := newer_sublist hsorted (hfilter ▸ List.filter_sublist)
  have hsub' := hsub.filter (·.version == version)
  rw [List.filter_filter] at hsub'
  simp only [Bool.and_self] at hsub'
  refine (hsub'.eq_of_length ?_).symm
  rw [(newer_perm.filter (·.version == version)).length_eq, hfilter]

/-- The first migration of a version stays the first one. -/
theorem newer_find? {version : Int64} (hbeyond : current < version) :
    (newer current ms).find? (·.version == version) = ms.find? (·.version == version) := by
  rw [← List.head?_filter, newer_filter_version hbeyond, List.head?_filter]

/-- Filtering and sorting commute when versions are distinct. -/
theorem newer_eq_filter (hdistinct : (ms.map (·.version)).Nodup) :
    newer current ms = (inOrder ms).filter fun m => current < m.version := by
  have hsub : ((ms.filter fun m => current < m.version).map (·.version)).Nodup :=
    hdistinct.sublist (List.filter_sublist.map _)
  have hnewer : ((newer current ms).map (·.version)).Nodup := (newer_perm.map _).nodup_iff.mpr hsub
  exact eq_of_perm_of_sorted Migration.version (lt_of_le_of_nodup newer_sorted hnewer)
    ((inOrder_sorted hdistinct).filter _) (newer_perm.trans (inOrder_perm.symm.filter _))

/-- Beyond version zero there are all positive versions. -/
theorem newer_zero_eq_inOrder (hdistinct : (ms.map (·.version)).Nodup) :
    newer 0 ms = inOrder ms ↔ ∀ m ∈ ms, 0 < m.version := by
  rw [newer_eq_filter hdistinct, List.filter_eq_self]
  simp only [decide_eq_true_eq, inOrder_perm.mem_iff]

/-- With distinct versions, a version has one definition. -/
theorem filter_version_eq (hdistinct : (ms.map (·.version)).Nodup) {m : Migration} (hm : m ∈ ms) :
    ms.filter (·.version == m.version) = [m] := by
  obtain ⟨before, after, rfl⟩ := List.append_of_mem hm
  rw [List.map_append, List.map_cons, List.nodup_middle, List.nodup_cons,
    ← List.map_append] at hdistinct
  have hothers : ∀ b ∈ before ++ after, ¬ (b.version == m.version) = true := by
    intro b hb heq
    refine hdistinct.1 ?_
    rw [← eq_of_beq heq]
    exact List.mem_map_of_mem hb
  have hbefore : before.filter (·.version == m.version) = [] :=
    List.filter_eq_nil_iff.mpr fun b hb => hothers b (List.mem_append_left _ hb)
  have hafter : after.filter (·.version == m.version) = [] :=
    List.filter_eq_nil_iff.mpr fun b hb => hothers b (List.mem_append_right _ hb)
  rw [List.filter_append, List.filter_cons, hbefore, hafter, if_pos (beq_self_eq_true _)]
  rfl

theorem definition?_of_mem (hdistinct : (ms.map (·.version)).Nodup) {m : Migration} (hm : m ∈ ms) :
    definition? ms m.version = some m := by
  rw [definition?, filter_version_eq hdistinct hm]
  rfl

theorem find?_of_mem (hdistinct : (ms.map (·.version)).Nodup) {m : Migration} (hm : m ∈ ms) :
    ms.find? (·.version == m.version) = some m := by
  rw [← List.head?_filter, filter_version_eq hdistinct hm]
  rfl

/-- With distinct positive versions, beyond the first few migrations are the others. -/
theorem newer_of_split {done todo : List Migration} (hdistinct : (ms.map (·.version)).Nodup)
    (hpositive : ∀ m ∈ ms, 0 < m.version) (hsplit : inOrder ms = done ++ todo) :
    newer ((done.getLast?.map (·.version)).getD 0) ms = todo := by
  rcases List.eq_nil_or_concat done with rfl | ⟨before, a, rfl⟩
  · rw [List.nil_append] at hsplit
    rw [← hsplit]
    exact (newer_zero_eq_inOrder hdistinct).mpr hpositive
  · rw [List.concat_eq_append, List.append_assoc, List.singleton_append] at hsplit
    have hsorted := inOrder_sorted hdistinct
    rw [hsplit] at hsorted
    rw [newer_eq_filter hdistinct, hsplit, List.concat_eq_append, List.getLast?_concat]
    exact filter_lt_of_sorted hsorted

end DataAccess.Access.Migrator
