import DataAccess.Proofs.Migration.Fresh
import DataAccess.Proofs.Migration.Undoing

/-!
# Undoing everything

Undoing the last migration takes off the one whose effects are on top, and leaves the database as it
stood before that one was applied. `Standing` says how a database stands on which the first few
migrations have been applied, and there are three moves:

* `Standing.of_apply` — applying to an empty history leads to the top;
* `Standing.lowers`, `Standing.lowers_all` — undoing goes down by one migration, or by many;
* `Standing.reapplies` — applying once more goes back to the top.

Together they say that undoing as often as something was applied undoes it all
(`rollbacks_undo_apply`).
-/

namespace DataAccess.Access.Migrator

open Calendar Observation Sql Work

variable {σ ω δ ρ : Type} {view : σ → ω × Phase δ} {S : Store ω δ} {driver : Driver}
variable {H : HistoryView δ} {R : Remainder δ ρ} {ms done todo : List Migration}
variable {start top : ρ} {d : δ}

/-- What is answered about a migration. -/
def entry (m : Migration) : Int64 × String := (m.version, m.name)

/-- Undo the last migration so many times, whatever is answered; answers what each call does. -/
def rollbackTimes {m : Type → Type} [Monad m] (x : Executor m) (ms : List Migration) :
    Nat → m (List (Except Error (Option (Int64 × String))))
  | 0 => return []
  | k + 1 => do
    let before ← rollbackTimes x ms k
    let answer ← rollbackLast x ms
    return before ++ [answer]

/-- How a database stands on which the migrations `done` have been applied: they are its history,
and its remainder is where they lead. -/
structure Standing (H : HistoryView δ) (R : Remainder δ ρ) (start : ρ) (done : List Migration)
    (d : δ) : Prop where
  there : H.There d
  recorded : ∃ as : List Attempt, as.map (·.migration) = done ∧
    H.rows d = as.map Attempt.row ∧ ∀ a ∈ as, a.started < Timestamp.year10000
  climbed : R.Climbs start done (R.rest d)

theorem Standing.versions (h : Standing H R start done d) :
    (H.rows d).map (·.version) = done.map (·.version) := by
  obtain ⟨as, rfl, hrows, -⟩ := h.recorded
  rw [hrows, List.map_map, List.map_map]
  rfl

section

variable {e : Engine σ} {covered : Coverage} {dl : Deadline} {p p' : Pooled σ} {w : ω}

/-! ## The check of the history -/

/-- Rows that agree with their definitions pass. -/
theorem compare_eq_pure {m : Type → Type} [Monad m] (x : Executor m) {as : List Applied}
    (h : ∀ a ∈ as, ∃ d, definition? ms a.version = some d ∧ d.checksum = a.checksum) :
    compare x ms as = pure (.ok ()) := by
  induction as with
  | nil => rfl
  | cons a rest ih =>
    obtain ⟨d, hd, hsum⟩ := h a List.mem_cons_self
    simp only [compare, hd, hsum, if_true]
    exact ih fun b hb => h b (List.mem_cons_of_mem a hb)

/-- What has been applied passes the check as long as it is defined as it was. -/
theorem Standing.verifies (h : e.Refines dl S covered view) (hS : KeepsHistory S driver H)
    (hR : ReadsHistory S driver H) (hcov : CoversMigrations covered driver ms)
    (hdistinct : (ms.map (·.version)).Nodup) (hd : Standing H R start done d)
    (hdone : ∀ m ∈ done, m ∈ ms) (hp : p.Shows view (w, .idle d)) :
    ∃ w', Ends view (verify (e.executor driver dl) ms) p (.ok ()) (w', .idle d) := by
  obtain ⟨as, rfl, hrows, htimes⟩ := hd.recorded
  obtain ⟨read, p₁, happlied, hlisting⟩ := applied_of_rows h hS hR hcov hp hrows htimes
  have hagree : ∀ a ∈ read, ∃ m, definition? ms a.version = some m ∧ m.checksum = a.checksum := by
    intro a ha
    have hmem : a.listing ∈ (as.map (·.migration)).map listing := by
      rw [← hlisting]
      exact List.mem_map_of_mem ha
    obtain ⟨m, hm, heq⟩ := List.mem_map.mp hmem
    simp only [listing, Applied.listing, Prod.mk.injEq] at heq
    refine ⟨m, ?_, heq.2.2⟩
    rw [← heq.1]
    exact definition?_of_mem hdistinct (hdone m hm)
  have hverify : (verify (e.executor driver dl) ms).run p = (.ok (), p₁) := by
    refine (run_after happlied).trans ?_
    simp only [compare_eq_pure (e.executor driver dl) hagree]
    rfl
  obtain ⟨r, w', d', ⟨p₂, hrun, hle, hp₂⟩, -, htouch⟩ := verify_ends h hS hcov hp
  obtain ⟨rfl, rfl⟩ := Prod.mk.inj (hverify.symm.trans hrun)
  obtain rfl := (htouch rfl).trans hd.there
  exact ⟨w', p₁, hrun, hle, hp₂⟩

/-! ## The three moves -/

/-- Applying migrations to an empty history leads to the top. -/
theorem Standing.of_apply (h : e.Refines dl S covered view) (hS : KeepsHistory S driver H)
    (hA : KeepsRemainder S driver H R) (hcov : CoversMigrations covered driver ms)
    (hms : WellBehaved S H ms) (hscripts : R.GovernsAll S H ms) (hfit : R.Fit (R.rest d))
    (hp : p.Shows view (w, .idle d)) (hempty : H.rows d = []) {answer : List (Int64 × String)}
    (happly : (apply (e.executor driver dl) ms).run p = (.ok answer, p'))
    (hclock : p'.observer.now < Timestamp.year10000) :
    answer = (inOrder ms).map entry ∧
      ∃ w' d', p'.Shows view (w', .idle d') ∧ Standing H R (R.rest d) (inOrder ms) d' := by
  obtain ⟨r, p₁, w', d', hrun, hp', hend⟩ := apply_ends h hS hcov hp
  obtain ⟨rfl, rfl⟩ := Prod.mk.inj (happly.symm.trans hrun)
  have hnewer : newer ((H.latest d).getD 0) ms = inOrder ms := by
    rw [HistoryView.latest, hempty]
    exact (newer_zero_eq_inOrder hms.distinct).mpr hms.positive
  have hmem : ∀ m ∈ inOrder ms, m ∈ ms := fun m hm => inOrder_perm.mem_iff.mp hm
  -- The two other endings answer an error.
  cases hend with
  | @attempted _ _ _ _ _ _ as _ _ _ _ hend htimes _ =>
    rw [hnewer] at hend
    have hrows := rows_eq_of_ending hS hempty (inOrder_sorted hms.distinct)
      (fun m hm => hms.up m (hmem m hm)) hend
    have hup : ∀ a ∈ as, R.Governs S H a.migration.up :=
      fun a ha => hscripts.up _ (hmem _ (hend.mem_todo ha))
    cases hend with
    | all hdone hattempts =>
      have hfit' : R.Fit (R.rest (H.touch d)) := (hA.rest_touch d).symm ▸ hfit
      obtain ⟨hclimbs, hthere⟩ :=
        climbs_of_attempts hS hA hup (HistoryView.there_touch hS d) hfit' hattempts
      rw [hdone, hA.rest_touch] at hclimbs
      refine ⟨rfl, w', d', hp', hthere, ⟨as, hdone, hrows, fun a ha => ?_⟩, hclimbs⟩
      exact Nat.lt_of_le_of_lt (htimes.le_last ha) hclock

/-- Forgetting the version of the last attempt leaves the rows of those before it. -/
theorem recorded_of_forget (hS : KeepsHistory S driver H) {d' : δ} {as : List Attempt}
    {m : Migration} (has : as.map (·.migration) = done ++ [m])
    (hrows : H.rows d = as.map Attempt.row)
    (hforget : H.rows d' = (H.rows d).filter (·.version != m.version)) :
    ∃ before, before <+: as ∧ before.map (·.migration) = done ∧
      H.rows d' = before.map Attempt.row := by
  obtain ⟨before, last, rfl, hbefore, hlast⟩ := List.map_eq_append_iff.mp has
  obtain ⟨a, rfl, rfl⟩ := List.map_eq_singleton_iff.mp hlast
  refine ⟨before, List.prefix_append before [a], hbefore, ?_⟩
  have hsorted := hS.sorted d
  rw [hrows, List.map_append] at hsorted
  rw [hforget, hrows, List.map_append]
  exact filter_ne_of_sorted Row.version hsorted

/-- Undoing the last migration leads to where the database stood before. -/
theorem Standing.lowers (h : e.Refines dl S covered view) (hS : KeepsHistory S driver H)
    (hA : KeepsRemainder S driver H R) (hcov : CoversMigrations covered driver ms)
    (hms : WellBehaved S H ms) (hscripts : R.GovernsAll S H ms)
    (hreverse : R.Reversible start ms) (hfit : R.Fit start) {m : Migration}
    (hd : Standing H R start (done ++ [m]) d) (hsplit : inOrder ms = done ++ m :: todo)
    (hp : p.Shows view (w, .idle d)) :
    ∃ w' d', Ends view (rollbackLast (e.executor driver dl) ms) p (.ok (some (entry m)))
      (w', .idle d') ∧ Standing H R start done d' := by
  have hm : m ∈ ms := (mem_of_split hsplit).2 m List.mem_cons_self
  have hlatest : H.latest d = some m.version := by
    rw [latest_eq_of_versions hd.versions, List.getLast?_concat]
    rfl
  -- Below the last migration there is a remainder, and its other script leads back there.
  obtain ⟨r, hr, hact⟩ := hd.climbed.concat
  obtain ⟨sql, hdown, hback⟩ := hreverse done m todo r (R.rest d) hsplit hr hact
  have hundo : ∀ w, ∃ now, undoOutcome S driver m m.version (w, H.touch d) = (.ok (), now) ∧
      H.There now.2 ∧ R.rest now.2 = r := by
    intro w
    rw [hd.there]
    exact undo_restores hA hdown (hscripts.down m hm sql hdown) hd.there (hd.climbed.fit hfit)
      hback (hr.fit hfit)
  obtain ⟨answer, w', d', hends, hend⟩ := rollbackLast_ends h hS hcov hp
  obtain ⟨rfl, w₁, hok⟩ := hend.of_latest_some hA.answers hlatest (find?_of_mem hms.distinct hm)
    fun w => (hundo w).imp fun _ h => h.1
  obtain ⟨now, hok', hthere, hrest⟩ := hundo w₁
  obtain rfl := (Prod.mk.inj (hok.symm.trans hok')).2
  have hrows := rows_of_undo hS (hms.down m hm) hok
  rw [hS.rows_touch] at hrows
  -- What is forgotten is the row of the last attempt.
  obtain ⟨as, hdone, hrecorded, htimes⟩ := hd.recorded
  obtain ⟨before, hbefore, hdone', hrecorded'⟩ := recorded_of_forget hS hdone hrecorded hrows
  exact ⟨w', d', hends, hthere,
    ⟨before, hdone', hrecorded', fun a ha => htimes a (hbefore.mem ha)⟩, hrest ▸ hr⟩

/-- Undoing many times leads further down, one migration after the other. -/
theorem Standing.lowers_all (h : e.Refines dl S covered view) (hS : KeepsHistory S driver H)
    (hA : KeepsRemainder S driver H R) (hcov : CoversMigrations covered driver ms)
    (hms : WellBehaved S H ms) (hscripts : R.GovernsAll S H ms)
    (hreverse : R.Reversible start ms) (hfit : R.Fit start)
    (hd : Standing H R start (inOrder ms) d) (hp : p.Shows view (w, .idle d))
    (hsplit : inOrder ms = done ++ todo) :
    ∃ p' w' d', (rollbackTimes (e.executor driver dl) ms todo.length).run p =
        (todo.reverse.map fun m => .ok (some (entry m)), p') ∧
      p'.Shows view (w', .idle d') ∧ Standing H R start done d' := by
  induction todo generalizing done with
  | nil =>
    rw [hsplit, List.append_nil] at hd
    exact ⟨p, w, d, rfl, hp, hd⟩
  | cons m rest ih =>
    -- What is above `m` comes off first, and then `m` is the last one.
    have hsplit' : inOrder ms = (done ++ [m]) ++ rest := by
      rw [hsplit, List.append_assoc]
      rfl
    obtain ⟨p₁, w₁, d₁, hrun₁, hp₁, hd₁⟩ := ih hsplit'
    obtain ⟨w₂, d₂, ⟨p₂, hrun₂, -, hp₂⟩, hd₂⟩ :=
      hd₁.lowers h hS hA hcov hms hscripts hreverse hfit hsplit hp₁
    refine ⟨p₂, w₂, d₂, (run_after hrun₁).trans ((run_after hrun₂).trans ?_), hp₂, hd₂⟩
    rw [List.reverse_cons, List.map_append]
    rfl

/-- Applying once more goes back to the top. -/
theorem Standing.reapplies (h : e.Refines dl S covered view) (hS : KeepsHistory S driver H)
    (hA : KeepsRemainder S driver H R) (hcov : CoversMigrations covered driver ms)
    (hms : WellBehaved S H ms) (hscripts : R.GovernsAll S H ms) (hfit : R.Fit start)
    (hd : Standing H R start done d) (hsplit : inOrder ms = done ++ todo)
    (htop : R.Climbs start (inOrder ms) top) (hp : p.Shows view (w, .idle d)) :
    ∃ p' w' d', (apply (e.executor driver dl) ms).run p = (.ok (todo.map entry), p') ∧
      p'.Shows view (w', .idle d') ∧
      (H.rows d').map (·.version) = (inOrder ms).map (·.version) ∧ R.rest d' = top := by
  obtain ⟨hdone, htodo⟩ := mem_of_split hsplit
  have hnewer : newer ((H.latest d).getD 0) ms = todo := by
    rw [latest_eq_of_versions hd.versions, newer_of_split hms.distinct hms.positive hsplit]
  -- The history is checked and read first, neither of which fails or changes anything.
  obtain ⟨w₁, p₁, hrun₁, -, hp₁⟩ :=
    hd.verifies h hS hA.answers.reads hcov hms.distinct hdone hp
  obtain ⟨_, w₂, d₂, ⟨p₂, hrun₂, -, -⟩, -, -, hread⟩ := pending_ends h hS hcov hp₁
  obtain ⟨pending, rfl⟩ := hread hA.answers
  obtain ⟨r, p', w', d', hrun, hp', hend⟩ := apply_ends h hS hcov hp
  cases hend with
  | unverified hverify _ => cases hrun₁.symm.trans hverify
  | unread hverify hpending =>
    obtain rfl := (Prod.mk.inj (hrun₁.symm.trans hverify)).2
    cases hrun₂.symm.trans hpending
  | @attempted _ _ _ _ w₃ _ as _ _ _ _ hend _ hrows =>
    have hrows := hrows hms.up
    rw [hnewer, hd.there] at hend
    have hclimbs : R.Climbs (R.rest d) todo top := (hsplit ▸ htop).drop hd.climbed
    have hnew : (todo.map (·.version) ++ (H.rows d).map (·.version)).Nodup := by
      rw [hd.versions, ← List.map_append]
      have hperm : (todo ++ done).Perm ms :=
        List.perm_append_comm.trans (hsplit ▸ inOrder_perm)
      exact (hperm.map _).nodup_iff.mpr hms.distinct
    obtain ⟨rfl, hrest⟩ := ending_of_climbs hS hA (fun m hm => hscripts.up m (htodo m hm))
      (fun m hm => hms.up m (htodo m hm)) hd.there (hd.climbed.fit hfit) hclimbs hnew hend
    refine ⟨p', w', d', hrun, hp', ?_, hrest⟩
    have hall : inOrder ms = done ++ (todo ++ []) := by rw [List.append_nil, hsplit]
    have hadded : (as.map Attempt.row).map (·.version) = todo.map (·.version) := by
      rw [← hend.done_of_ok, List.map_map, List.map_map]
      rfl
    rw [hsplit]
    exact versions_of_perm hS hms.distinct hall hd.versions hadded hrows

/-! ## All of it -/

/-- A pool on a database whose history is some migrations and whose remainder is `r`. -/
def Pooled.Holds (view : σ → ω × Phase δ) (H : HistoryView δ) (R : Remainder δ ρ) (p : Pooled σ)
    (done : List Migration) (r : ρ) : Prop :=
  ∃ w d, p.Shows view (w, .idle d) ∧ (H.rows d).map (·.version) = done.map (·.version) ∧
    R.rest d = r

/-- **Undoing everything undoes applying.** If applying reversible migrations to an empty history
succeeds, it applies all of them, and each of as many calls that undo the last one succeeds and
takes one off, the last one first. After some `k` of them, applying once more applies just those `k`
in order, and leads to where it led the first time. After all of them, one more call has nothing to
undo, and the database is the one there was at first, with the table of an empty history. -/
theorem rollbacks_undo_apply (h : e.Refines dl S covered view) (hS : KeepsHistory S driver H)
    (hA : KeepsRemainder S driver H R) (hcov : CoversMigrations covered driver ms)
    (hms : WellBehaved S H ms) (hscripts : R.GovernsAll S H ms)
    (hreverse : R.Reversible (R.rest d) ms) (hfit : R.Fit (R.rest d)) {c : σ}
    {answer : List (Int64 × String)} (hp : p.connection = some c) (hc : view c = (w, .idle d))
    (hempty : H.rows d = [])
    (happly : (apply (e.executor driver dl) ms).run p = (.ok answer, p'))
    (hclock : p'.observer.now < Timestamp.year10000) :
    answer = (inOrder ms).map entry ∧
    (∃ top, Pooled.Holds view H R p' (inOrder ms) top ∧
      ∀ k ≤ ms.length, ∃ p₁ p₂,
        (rollbackTimes (e.executor driver dl) ms k).run p' =
          (((inOrder ms).drop (ms.length - k)).reverse.map fun m => .ok (some (entry m)), p₁) ∧
        (apply (e.executor driver dl) ms).run p₁ =
          (.ok (((inOrder ms).drop (ms.length - k)).map entry), p₂) ∧
        Pooled.Holds view H R p₂ (inOrder ms) top) ∧
    ∃ p₁ c₁ w₁, (rollbackTimes (e.executor driver dl) ms (ms.length + 1)).run p' =
        ((inOrder ms).reverse.map (fun m => .ok (some (entry m))) ++ [.ok none], p₁) ∧
      p₁.connection = some c₁ ∧ view c₁ = (w₁, .idle (H.touch d)) := by
  have hlength : (inOrder ms).length = ms.length := inOrder_perm.length_eq
  obtain ⟨hanswer, w', d', hp', hd'⟩ :=
    Standing.of_apply h hS hA hcov hms hscripts hfit ⟨c, hp, hc⟩ hempty happly hclock
  refine ⟨hanswer, ⟨R.rest d', ⟨w', d', hp', hd'.versions, rfl⟩, fun k hk => ?_⟩, ?_⟩
  · have hsplit := (List.take_append_drop (ms.length - k) (inOrder ms)).symm
    obtain ⟨p₁, w₁, d₁, hrun₁, hp₁, hd₁⟩ :=
      hd'.lowers_all h hS hA hcov hms hscripts hreverse hfit hp' hsplit
    obtain ⟨p₂, w₂, d₂, hrun₂, hp₂, hversions, hrest⟩ :=
      hd₁.reapplies h hS hA hcov hms hscripts hfit hsplit hd'.climbed hp₁
    have hcount : ((inOrder ms).drop (ms.length - k)).length = k := by
      rw [List.length_drop, hlength]
      omega
    rw [hcount] at hrun₁
    exact ⟨p₁, p₂, hrun₁, hrun₂, w₂, d₂, hp₂, hversions, hrest⟩
  · obtain ⟨p₁, w₁, d₁, hrun₁, hp₁, hd₁⟩ :=
      hd'.lowers_all h hS hA hcov hms hscripts hreverse hfit hp'
        (List.nil_append (inOrder ms)).symm
    rw [hlength] at hrun₁
    have hnone : H.latest d₁ = none := latest_eq_of_versions hd₁.versions
    obtain ⟨r, w₂, d₂, ⟨p₂, hrun₂, -, c₂, hp₂, hc₂⟩, hend⟩ := rollbackLast_ends h hS hcov hp₁
    obtain ⟨rfl, rfl⟩ := hend.of_latest_none hA.answers hnone
    -- At the bottom there are the rows and the remainder of the beginning, so the data are the same.
    have hrows : H.rows d₁ = H.rows d := by
      rw [hempty]
      exact List.map_eq_nil_iff.mp hd₁.versions
    have hsame : H.touch d₁ = H.touch d := hA.ext hd₁.climbed.nil_eq hrows
    rw [hsame] at hc₂
    exact ⟨p₂, c₂, w₂, (run_after hrun₁).trans (run_after hrun₂), hp₂, hc₂⟩

end

/-! ### Two tables -/

/-- Applying, once the history has been checked and its greatest version has been read. -/
theorem apply_run {x : Executor (Work σ)} {p p₁ p₂ : Pooled σ} {v : Option Int64}
    (hverify : (verify x ms).run p = (.ok (), p₁))
    (hcurrent : (currentVersion x).run p₁ = (.ok v, p₂)) :
    (apply x ms).run p = (applyAll x (newer (v.getD 0) ms)).run p₂ := by
  have hpending : (pending x ms).run p₁ = (.ok (newer (v.getD 0) ms), p₂) := run_after hcurrent
  exact (run_after hverify).trans (run_after hpending)

/-- Two migrations that can be undone, the later one first. -/
def tables : List Migration :=
  [(Migration.ofScript 2 "tags" Ledger.createTags).withDown Ledger.dropTags,
    (Migration.ofScript 1 "notes" Ledger.createNotes).withDown Ledger.dropNotes]

theorem tables_keepOff :
    ∀ m ∈ tables, Ledger.KeepsOff m.up ∧ ∀ sql ∈ m.down, Ledger.KeepsOff sql := by
  intro m hm
  simp only [tables, List.mem_cons, List.not_mem_nil, or_false] at hm
  rcases hm with rfl | rfl
  · refine ⟨by decide +kernel, fun sql hsql => ?_⟩
    cases hsql
    decide +kernel
  · refine ⟨by decide +kernel, fun sql hsql => ?_⟩
    cases hsql
    decide +kernel

theorem tables_wellBehaved : WellBehaved Ledger.undoing Ledger.view tables where
  distinct := by decide
  positive := by decide
  up m hm := Ledger.undoing_leavesHistory (tables_keepOff m hm).1
  down m hm sql hsql := Ledger.undoing_leavesHistory ((tables_keepOff m hm).2 sql hsql)

theorem tables_governed : Ledger.remainder.GovernsAll Ledger.undoing Ledger.view tables where
  up m hm := Ledger.remainder_governs (tables_keepOff m hm).1
  down m hm sql hsql := Ledger.remainder_governs ((tables_keepOff m hm).2 sql hsql)

theorem tables_reversible (start : List String) : Ledger.remainder.Reversible start tables := by
  intro before m after r r' hsplit _ hact
  have hm : m ∈ tables := (mem_of_split hsplit).2 m List.mem_cons_self
  have hundone : ∃ sql, m.down = some sql ∧ Ledger.undoes m.up = none ∧
      Ledger.undoes sql = some m.up := by
    simp only [tables, List.mem_cons, List.not_mem_nil, or_false] at hm
    rcases hm with rfl | rfl
    · exact ⟨_, rfl, by decide +kernel, by decide +kernel⟩
    · exact ⟨_, rfl, by decide +kernel, by decide +kernel⟩
  obtain ⟨sql, hdown, hup, hsql⟩ := hundone
  exact ⟨sql, hdown, Ledger.undoes_restores hup hsql hact⟩

theorem tables_fit : Ledger.remainder.Fit (Ledger.remainder.rest Ledger.empty) := by
  intro horphan
  cases horphan

theorem newer_tables : newer 0 tables = tables.reverse := by
  have hsorted : tables.reverse.Pairwise fun a b => a.version < b.version := by decide
  have hperm : (inOrder tables).Perm tables.reverse :=
    inOrder_perm.trans (List.reverse_perm tables).symm
  rw [(newer_zero_eq_inOrder tables_wellBehaved.distinct).mpr tables_wellBehaved.positive]
  exact eq_of_perm_of_sorted Migration.version (inOrder_sorted tables_wellBehaved.distinct) hsorted
    hperm

/-- The pool after the history has been checked and read. -/
def checkedPool : Pooled (Unit × Phase Ledger) :=
  ((currentVersion Ledger.undoingExecutor).run
    ((verify Ledger.undoingExecutor tables).run Ledger.pool).2).2

theorem apply_tables_run : (apply Ledger.undoingExecutor tables).run Ledger.pool =
    (applyAll Ledger.undoingExecutor tables.reverse).run checkedPool := by
  have hread : ((verify Ledger.undoingExecutor tables).run Ledger.pool).1.toOption = some () ∧
      ((currentVersion Ledger.undoingExecutor).run
        ((verify Ledger.undoingExecutor tables).run Ledger.pool).2).1.toOption = some none := by
    decide +kernel
  obtain ⟨hverify, hcurrent⟩ := hread
  rw [apply_run (eq_ok_of_toOption hverify) (eq_ok_of_toOption hcurrent), Option.getD_none,
    newer_tables]
  rfl

theorem apply_tables :
    ((apply Ledger.undoingExecutor tables).run Ledger.pool).1.toOption =
      some [(1, "notes"), (2, "tags")] ∧
    ((apply Ledger.undoingExecutor tables).run Ledger.pool).2.observer.now <
      Timestamp.year10000 := by
  rw [apply_tables_run]
  decide +kernel

theorem tables_rollbacks_undo_apply :
    (Ledger.undoable.engine.Refines .unbounded Ledger.undoing .all id ∧
      KeepsHistory Ledger.undoing .sqlite Ledger.view ∧
      KeepsRemainder Ledger.undoing .sqlite Ledger.view Ledger.remainder ∧
      CoversMigrations .all .sqlite tables ∧
      WellBehaved Ledger.undoing Ledger.view tables ∧
      Ledger.remainder.GovernsAll Ledger.undoing Ledger.view tables ∧
      Ledger.remainder.Reversible (Ledger.remainder.rest Ledger.empty) tables ∧
      Ledger.remainder.Fit (Ledger.remainder.rest Ledger.empty) ∧
      Ledger.view.rows Ledger.empty = [] ∧
      ((apply Ledger.undoingExecutor tables).run Ledger.pool).1.toOption =
        some [(1, "notes"), (2, "tags")] ∧
      ((apply Ledger.undoingExecutor tables).run Ledger.pool).2.observer.now <
        Timestamp.year10000) ∧
    [(1, "notes"), (2, "tags")] = (inOrder tables).map entry ∧
    (∃ top, Pooled.Holds id Ledger.view Ledger.remainder
        ((apply Ledger.undoingExecutor tables).run Ledger.pool).2 (inOrder tables) top ∧
      ∀ k ≤ 2, ∃ p₁ p₂,
        (rollbackTimes Ledger.undoingExecutor tables k).run
            ((apply Ledger.undoingExecutor tables).run Ledger.pool).2 =
          (((inOrder tables).drop (2 - k)).reverse.map fun m => .ok (some (entry m)), p₁) ∧
        (apply Ledger.undoingExecutor tables).run p₁ =
          (.ok (((inOrder tables).drop (2 - k)).map entry), p₂) ∧
        Pooled.Holds id Ledger.view Ledger.remainder p₂ (inOrder tables) top) ∧
    ∃ p₁ c₁ w₁, (rollbackTimes Ledger.undoingExecutor tables 3).run
          ((apply Ledger.undoingExecutor tables).run Ledger.pool).2 =
        ((inOrder tables).reverse.map (fun m => .ok (some (entry m))) ++ [.ok none], p₁) ∧
      p₁.connection = some c₁ ∧ c₁ = (w₁, .idle Ledger.empty.touch) :=
  ⟨⟨Ledger.undoing_refines .unbounded, Ledger.undoing_keepsHistory, Ledger.undoing_keepsRemainder,
      Ledger.coversMigrations _, tables_wellBehaved, tables_governed, tables_reversible _,
      tables_fit, rfl, apply_tables⟩,
    rollbacks_undo_apply (Ledger.undoing_refines .unbounded) Ledger.undoing_keepsHistory
      Ledger.undoing_keepsRemainder (Ledger.coversMigrations tables) tables_wellBehaved
      tables_governed (tables_reversible _) tables_fit rfl rfl rfl
      (eq_ok_of_toOption apply_tables.1) apply_tables.2⟩

/-! ### Scripts that do not keep off the history -/

/-- A migration whose scripts write a row of the history and take it off. -/
def straying : List Migration :=
  [(Migration.ofScript 1 "strays" Ledger.stray).withDown Ledger.unstray]

/-- A migration that is not undone while the history has a row. -/
def cautious : List Migration :=
  [(Migration.ofScript 1 "tags" Ledger.fillTags).withDown Ledger.clearTags]

/-- Scripts that write or read the history may undo each other on their own, and not when the
history is kept along with them. -/
theorem history_scripts_break_reversal :
    (∀ ms ∈ [straying, cautious], (ms.map (·.version)).Nodup ∧ (∀ m ∈ ms, 0 < m.version) ∧
      ∀ m ∈ ms, ∃ sql n mid k, m.down = some sql ∧
        Ledger.undoing.execute (script m.up) ((), Ledger.empty.touch) = (.ok n, mid) ∧
        Ledger.undoing.execute (script sql) mid = (.ok k, (), Ledger.empty.touch)) ∧
    Ledger.view.rows Ledger.empty = [] ∧
    ((apply Ledger.undoingExecutor straying).run Ledger.pool).1.toOption = some [(1, "strays")] ∧
    ((rollbackLast Ledger.undoingExecutor straying).run
      ((apply Ledger.undoingExecutor straying).run Ledger.pool).2).1.toOption = none ∧
    ((apply Ledger.undoingExecutor cautious).run Ledger.pool).1.toOption = some [(1, "tags")] ∧
    ranFor ((rollbackTimes Ledger.undoingExecutor cautious 2).run
      ((apply Ledger.undoingExecutor cautious).run Ledger.pool).2).2 = some [Ledger.fillTags] := by
  refine ⟨?_, rfl, by decide +kernel⟩
  intro ms hms
  simp only [List.mem_cons, List.not_mem_nil, or_false] at hms
  rcases hms with rfl | rfl
  · refine ⟨by decide, by decide, fun m hm => ?_⟩
    obtain rfl := List.mem_singleton.mp hm
    exact ⟨_, _, _, _, rfl, rfl, rfl⟩
  · refine ⟨by decide, by decide, fun m hm => ?_⟩
    obtain rfl := List.mem_singleton.mp hm
    exact ⟨_, _, _, _, rfl, rfl, rfl⟩

end DataAccess.Access.Migrator
