import DataAccess.Proofs.Calendar.Timestamp
import DataAccess.Proofs.Migration.Apply

/-!
# Applying to a fresh database

On a database with an empty history, what is applied is what is beyond version zero. So after
applying succeeds, the history lists the migrations with positive versions, and it lists all of them
just when all versions are positive (`applied_of_fresh_apply`).
-/

namespace DataAccess.Access.Migrator

open Calendar Observation Sql Work

variable {σ ω δ : Type} {view : σ → ω × Phase δ} {S : Store ω δ} {driver : Driver}
variable {H : HistoryView δ} {ms : List Migration} {d : δ}

/-- What the history is to say of a migration. -/
def listing (m : Migration) : Int64 × String × String := (m.version, m.name, m.checksum)

/-- What the history says of an applied migration. -/
def Applied.listing (a : Applied) : Int64 × String × String := (a.version, a.name, a.checksum)

/-- Beyond version zero there are all migrations just when all versions are positive. -/
theorem listing_newer_zero_iff (hdistinct : (ms.map (·.version)).Nodup) :
    (newer 0 ms).map listing = (inOrder ms).map listing ↔ ∀ m ∈ ms, 0 < m.version := by
  rw [← newer_zero_eq_inOrder hdistinct]
  constructor
  · intro heq
    have hlength := congrArg List.length heq
    rw [List.length_map, List.length_map, newer_eq_filter hdistinct,
      List.length_filter_eq_length_iff] at hlength
    rw [newer_eq_filter hdistinct, List.filter_eq_self]
    exact hlength
  · intro heq
    rw [heq]

/-- Attempts at migrations in strict order on an empty history are the history, in that order. -/
theorem rows_eq_of_ending (hS : KeepsHistory S driver H) {w : ω} {todo : List Migration}
    {done : List Attempt} {failed : Option Attempt}
    {r : Except Error (List (Int64 × String))} {now : ω × δ}
    (hempty : H.rows d = []) (hsorted : todo.Pairwise fun a b => a.version < b.version)
    (hleave : ∀ m ∈ todo, LeavesHistory S H m.up)
    (hend : Ending S driver (w, H.touch d) todo done failed r now) :
    H.rows now.2 = done.map Attempt.row := by
  have hrows := rows_of_ending hS hend hleave
  rw [hempty, List.append_nil] at hrows
  have hdone := hsorted.sublist hend.isPrefix.sublist
  rw [List.pairwise_map] at hdone
  have hsorted' : (done.map Attempt.row).Pairwise fun a b => a.version < b.version := by
    rw [List.pairwise_map]
    exact hdone
  exact eq_of_perm_of_sorted Row.version (hS.sorted now.2) hsorted' hrows

variable {e : Engine σ} {covered : Coverage} {dl : Deadline}

/-- After attempts that started before the year 10000, the history can be read. -/
theorem applied_of_rows (h : e.Refines dl S covered view) (hS : KeepsHistory S driver H)
    (hR : ReadsHistory S driver H) (hcov : CoversMigrations covered driver ms) {p : Pooled σ}
    {w : ω} {done : List Attempt} (hp : p.Shows view (w, .idle d))
    (hrows : H.rows d = done.map Attempt.row)
    (htimes : ∀ a ∈ done, a.started < Timestamp.year10000) :
    ∃ as p', (applied (e.executor driver dl)).run p = (.ok as, p') ∧
      as.map Applied.listing = (done.map (·.migration)).map listing := by
  obtain ⟨r, w', d', ⟨p', hrun, -, -⟩, -, -, hread⟩ := applied_ends h hS hcov hp
  have hread := hread hR
  have hparse : ∀ r ∈ done.map Attempt.row,
      ∃ t, Timestamp.parse r.appliedAt.toList = .ok t := by
    intro r hr
    obtain ⟨a, ha, rfl⟩ := List.mem_map.mp hr
    exact ⟨_, Timestamp.parse_text (Timestamp.ofNanos_writable (htimes a ha))⟩
  obtain ⟨as, has, hlisting⟩ := mapM_ofRecord hparse
  rw [hrows, has] at hread
  subst hread
  refine ⟨as, p', hrun, hlisting.trans ?_⟩
  rw [List.map_map, List.map_map]
  rfl

/-- **What a fresh database lists.** If applying migrations with distinct versions to an empty
history succeeds, the history can be read and lists those with positive versions in order, with
their names and checksums. These are all of them just when all versions are positive. -/
theorem applied_of_fresh_apply (h : e.Refines dl S covered view) (hS : KeepsHistory S driver H)
    (hR : ReadsHistory S driver H) (hcov : CoversMigrations covered driver ms)
    (hleave : ∀ m ∈ ms, LeavesHistory S H m.up) (hdistinct : (ms.map (·.version)).Nodup)
    {p p' : Pooled σ} {c : σ} {w : ω} {answer : List (Int64 × String)}
    (hp : p.connection = some c) (hc : view c = (w, .idle d)) (hempty : H.rows d = [])
    (happly : (apply (e.executor driver dl) ms).run p = (.ok answer, p'))
    (hclock : p'.observer.now < Timestamp.year10000) :
    ∃ as p'', (applied (e.executor driver dl)).run p' = (.ok as, p'') ∧
      as.map Applied.listing = (newer 0 ms).map listing ∧
      (as.map Applied.listing = (inOrder ms).map listing ↔ ∀ m ∈ ms, 0 < m.version) := by
  obtain ⟨r, p₁, w₁, d₁, hrun, hp₁, hend⟩ := apply_ends h hS hcov ⟨c, hp, hc⟩
  rw [happly] at hrun
  obtain ⟨rfl, rfl⟩ := Prod.mk.inj hrun
  have hlatest : H.latest d = none := by
    rw [HistoryView.latest, hempty]
    rfl
  -- The two other endings answer an error.
  cases hend with
  | attempted _ _ _ hend htimes _ =>
    rw [hlatest, Option.getD_none] at hend
    have hsorted : (newer 0 ms).Pairwise fun a b => a.version < b.version := by
      rw [newer_eq_filter hdistinct]
      exact (inOrder_sorted hdistinct).filter _
    have hrows := rows_eq_of_ending hS hempty hsorted
      (fun m hm => hleave m (mem_newer.mp hm).1) hend
    obtain ⟨as, p'', happlied, hlisting⟩ := applied_of_rows h hS hR hcov hp₁ hrows
      fun a ha => Nat.lt_of_le_of_lt (htimes.le_last ha) hclock
    have hdone := hend.done_of_ok
    rw [hdone] at hlisting
    refine ⟨as, p'', happlied, hlisting, ?_⟩
    rw [hlisting]
    exact listing_newer_zero_iff hdistinct

/-! ### A migration with version zero -/

/-- Two migrations, of which the first one has no positive version. -/
def mixed : List Migration :=
  [.ofScript 0 "tags" "CREATE TABLE tags (id INTEGER PRIMARY KEY)", notes]

theorem mixed_leavesHistory : ∀ m ∈ mixed, LeavesHistory Ledger.store Ledger.view m.up := by
  intro m hm
  simp only [mixed, List.mem_cons, List.not_mem_nil, or_false] at hm
  rcases hm with rfl | rfl
  · exact Ledger.leavesHistory (by decide +kernel) (by decide +kernel)
  · exact Ledger.createNotes_leavesHistory

theorem apply_mixed :
    ((apply Ledger.executor mixed).run Ledger.pool).1.toOption = some [(1, "notes")] := by
  decide +kernel

theorem now_after_mixed :
    ((apply Ledger.executor mixed).run Ledger.pool).2.observer.now < Timestamp.year10000 := by
  decide +kernel

theorem applied_of_mixed :
    (Ledger.statements.engine.Refines .unbounded Ledger.store .all id ∧
      KeepsHistory Ledger.store .sqlite Ledger.view ∧
      ReadsHistory Ledger.store .sqlite Ledger.view ∧
      CoversMigrations .all .sqlite mixed ∧
      (∀ m ∈ mixed, LeavesHistory Ledger.store Ledger.view m.up) ∧
      (mixed.map (·.version)).Nodup ∧ Ledger.view.rows Ledger.empty = [] ∧
      ((apply Ledger.executor mixed).run Ledger.pool).1.toOption = some [(1, "notes")] ∧
      ((apply Ledger.executor mixed).run Ledger.pool).2.observer.now < Timestamp.year10000) ∧
    ∃ as p'', (applied Ledger.executor).run ((apply Ledger.executor mixed).run Ledger.pool).2 =
        (.ok as, p'') ∧
      as.map Applied.listing = (newer 0 mixed).map listing ∧
      (as.map Applied.listing = (inOrder mixed).map listing ↔ ∀ m ∈ mixed, 0 < m.version) :=
  ⟨⟨Ledger.refines .unbounded, Ledger.keepsHistory, Ledger.readsHistory,
      Ledger.coversMigrations _, mixed_leavesHistory, by decide, rfl, apply_mixed, now_after_mixed⟩,
    applied_of_fresh_apply (Ledger.refines .unbounded) Ledger.keepsHistory
      Ledger.readsHistory (Ledger.coversMigrations mixed) mixed_leavesHistory (by decide) rfl rfl
      rfl (eq_ok_of_toOption apply_mixed) now_after_mixed⟩

end DataAccess.Access.Migrator
