import DataAccess.Proofs.Migration.Fresh
import DataAccess.Proofs.Migration.Undoing

/-!
# Changed migrations

The check of the history compares each row with the last definition of its version. `Verdict` says
what it answers: nothing is wrong, or the first row whose definition has changed.

* `compare_verdict` — so it is for rows in the order of their versions, by induction on them.
* `verify_verdict` — so it is for a database, which stays as it was.
* `row_of_first`, `applyEach_keeps_rows` — a call records the first migration of a version, and what
  has been recorded stays.

So a script that was recorded cannot be changed without being found out, as long as scripts do not
write the history themselves (`verify_finds_changes`).
-/

namespace DataAccess.Access.Migrator

open Calendar Observation Sql Work

variable {σ ω δ : Type} {view : σ → ω × Phase δ} {S : Store ω δ} {driver : Driver}
variable {H : HistoryView δ} {ms : List Migration} {rows : List Row} {d d' : δ}

/-! ## Definitions -/

/-- A migration is the last one of its version in a list. -/
def IsLast (ms : List Migration) (m : Migration) : Prop :=
  ∃ before after, ms = before ++ m :: after ∧ ∀ x ∈ after, x.version ≠ m.version

/-- A migration is the only one of a version in a list. -/
def IsOnly (ms : List Migration) (version : Int64) (m : Migration) : Prop :=
  ms.filter (·.version == version) = [m]

/-- A row is not what the last definition of its version says. -/
structure Changed (ms : List Migration) (row : Row) (m : Migration) : Prop where
  isLast : IsLast ms m
  version : m.version = row.version
  checksum : m.checksum ≠ row.checksum

/-- What the check of a history answers: it passes if nothing has changed, and otherwise it tells of
the least version that has. -/
structure Verdict (ms : List Migration) (rows : List Row) (r : Except Error Unit) : Prop where
  passes : r = .ok () ↔ ∀ row ∈ rows, ∀ m, ¬ Changed ms row m
  fails : ∀ cause, r = .error cause → ∃ row ∈ rows, ∃ m, Changed ms row m ∧
    cause = .checksumMismatch row.version m.checksum row.checksum ∧
    ∀ other ∈ rows, (∃ m, Changed ms other m) → row.version ≤ other.version

/-- The time of a row can be read. -/
def Row.Dated (r : Row) : Prop := ∃ t, Timestamp.parse r.appliedAt.toList = .ok t

theorem definition?_eq_some {version : Int64} {m : Migration} :
    definition? ms version = some m ↔ IsLast ms m ∧ m.version = version := by
  rw [definition?, List.getLast?_eq_some_iff]
  constructor
  · rintro ⟨others, hfilter⟩
    obtain ⟨before, rest, rfl, -, hrest⟩ := List.filter_eq_append_iff.mp hfilter
    obtain ⟨lead, after, rfl, -, hm, hafter⟩ := List.filter_eq_cons_iff.mp hrest
    obtain rfl := eq_of_beq hm
    refine ⟨⟨before ++ lead, after, by simp, fun x hx heq => ?_⟩, rfl⟩
    exact List.filter_eq_nil_iff.mp hafter x hx (beq_iff_eq.mpr heq)
  · rintro ⟨⟨before, after, rfl, hafter⟩, rfl⟩
    have hnone : after.filter (·.version == m.version) = [] :=
      List.filter_eq_nil_iff.mpr fun x hx heq => hafter x hx (eq_of_beq heq)
    refine ⟨before.filter (·.version == m.version), ?_⟩
    rw [List.filter_append, List.filter_cons, if_pos (beq_self_eq_true _), hnone]

/-- The only migration of a version is the last one. -/
theorem IsOnly.isLast {version : Int64} {m : Migration} (h : IsOnly ms version m) :
    IsLast ms m ∧ m.version = version := by
  rw [← definition?_eq_some, definition?, h]
  rfl

/-! ## Comparing rows -/

namespace Verdict

variable {row : Row} {r : Except Error Unit}

theorem of_changed {m : Migration} (h : Changed ms row m)
    (hfirst : ∀ other ∈ rows, row.version < other.version) :
    Verdict ms (row :: rows) (.error (.checksumMismatch row.version m.checksum row.checksum)) where
  passes := iff_of_false nofun fun hnone => hnone row List.mem_cons_self m h
  fails := by
    rintro cause ⟨⟩
    refine ⟨row, List.mem_cons_self, m, h, rfl, fun other hother _ => ?_⟩
    rcases List.mem_cons.mp hother with rfl | hother
    · exact Int64.le_refl _
    · exact Int64.le_of_lt (hfirst other hother)

theorem cons (h : Verdict ms rows r) (hrow : ∀ m, ¬ Changed ms row m) :
    Verdict ms (row :: rows) r where
  passes := by
    rw [h.passes, List.forall_mem_cons]
    exact (and_iff_right hrow).symm
  fails := by
    intro cause hr
    obtain ⟨changed, hmem, m, hm, hcause, hleast⟩ := h.fails cause hr
    refine ⟨changed, List.mem_cons_of_mem row hmem, m, hm, hcause, fun other hother hsome => ?_⟩
    rcases List.mem_cons.mp hother with rfl | hother
    · obtain ⟨m, hm⟩ := hsome
      exact absurd hm (hrow m)
    · exact hleast other hother hsome

end Verdict

/-- Rows in order are compared up to the first changed one. -/
theorem compare_verdict (e : Engine σ) (driver : Driver) {dl : Deadline} {v : ω × Phase δ}
    (ms : List Migration) (hsorted : rows.Pairwise (·.version < ·.version)) :
    ∀ {as : List Applied} {p : Pooled σ},
      as.map (fun a => (a.version, a.name, a.checksum)) =
        rows.map (fun r => (r.version, r.name, r.checksum)) → p.Shows view v →
      ∃ r, Ends view (compare (e.executor driver dl) ms as) p r v ∧ Verdict ms rows r := by
  induction rows with
  | nil =>
    intro as p has hp
    obtain rfl := List.map_eq_nil_iff.mp has
    exact ⟨.ok (), .pure hp, ⟨iff_of_true rfl nofun, nofun⟩⟩
  | cons row rows ih =>
    intro as p has hp
    obtain ⟨hfirst, hrest⟩ := List.pairwise_cons.mp hsorted
    obtain ⟨a, rest, rfl, ha, hrows⟩ := List.map_eq_cons_iff.mp has
    obtain ⟨hversion, hfields⟩ := Prod.mk.inj ha
    have hchecksum : a.checksum = row.checksum := (Prod.mk.inj hfields).2
    unfold compare
    cases hdefined : definition? ms a.version with
    | none =>
      obtain ⟨p₁, hrun, hle, hp₁⟩ :=
        Engine.Refines.warn_ends (e := e) driver (n := .undefinedMigration a.version) hp
      obtain ⟨r, hr, hverdict⟩ := ih hrest hrows hp₁
      refine ⟨r, .after hrun hle hr, hverdict.cons fun m hm => ?_⟩
      rw [hversion, definition?_eq_some.mpr ⟨hm.isLast, hm.version⟩] at hdefined
      cases hdefined
    | some m =>
      have hm := hdefined
      rw [hversion, definition?_eq_some] at hm
      by_cases hsum : m.checksum = a.checksum
      · simp only [hsum, if_true]
        obtain ⟨r, hr, hverdict⟩ := ih hrest hrows hp
        refine ⟨r, hr, hverdict.cons fun m' hm' => ?_⟩
        -- The last definition is this one.
        rw [hversion, definition?_eq_some.mpr ⟨hm'.isLast, hm'.version⟩] at hdefined
        obtain rfl := Option.some.inj hdefined
        exact hm'.checksum (hsum.trans hchecksum)
      · simp only [hsum, if_false]
        rw [hversion, hchecksum]
        have hchanged : Changed ms row m := ⟨hm.1, hm.2, fun heq => hsum (heq.trans hchecksum.symm)⟩
        exact ⟨_, .pure hp, .of_changed hchanged hfirst⟩

/-! ## Checking a history -/

/-- Rows that are read back have times that can be read. -/
theorem dated_of_mapM {as : List Applied}
    (h : (rows.map Row.record).mapM Applied.ofRecord = .ok as) : ∀ row ∈ rows, row.Dated := by
  induction rows generalizing as with
  | nil => nofun
  | cons row rows ih =>
    rw [List.map_cons, List.mapM_cons] at h
    have hrow : row.Dated := by
      cases ht : Timestamp.parse row.appliedAt.toList with
      | ok t => exact ⟨t, ht⟩
      | error f =>
        have hwritten : row.record.get "applied_at" Value.asText = .ok row.appliedAt := rfl
        simp only [Applied.ofRecord, hwritten, ht, bind, Except.bind] at h
        cases h
    obtain ⟨t, ht⟩ := hrow
    rw [ofRecord_record ht] at h
    cases hrest : (rows.map Row.record).mapM Applied.ofRecord with
    | error cause =>
      rw [hrest] at h
      cases h
    | ok rest =>
      exact List.forall_mem_cons.mpr ⟨⟨t, ht⟩, ih hrest⟩

section

variable {e : Engine σ} {covered : Coverage} {dl : Deadline} {p : Pooled σ} {w : ω}

theorem verify_verdict (h : e.Refines dl S covered view) (hS : KeepsHistory S driver H)
    (hR : ReadsHistory S driver H) {known : List Migration}
    (hcov : CoversMigrations covered driver known) (hp : p.Shows view (w, .idle d))
    (ms : List Migration) :
    ∃ r w' d', Ends view (verify (e.executor driver dl) ms) p r (w', .idle d') ∧
      ((∀ row ∈ H.rows d, row.Dated) → d' = H.touch d ∧ Verdict ms (H.rows d) r) ∧
      (r = .ok () → ∀ row ∈ H.rows d, row.Dated) := by
  obtain ⟨r, w₁, d₁, happlied, -, htouch, hread⟩ := applied_ends h hS hcov hp
  have hread := hread hR
  cases r with
  | error cause =>
    refine ⟨.error cause, w₁, d₁, happlied.bind fun _ _ hp₁ => .pure hp₁, fun hdated => ?_, nofun⟩
    obtain ⟨as, has, -⟩ := mapM_ofRecord hdated
    rw [has] at hread
    cases hread
  | ok as =>
    have hdated := dated_of_mapM hread.symm
    obtain ⟨as', has', hfields⟩ := mapM_ofRecord hdated
    obtain rfl := Except.ok.inj (hread.trans has')
    obtain ⟨p₁, hrun₁, hle₁, hp₁⟩ := happlied
    obtain ⟨r, hr, hverdict⟩ := compare_verdict e driver ms (hS.sorted d) hfields hp₁
    exact ⟨r, w₁, d₁, .after hrun₁ hle₁ hr, fun _ => ⟨htouch as rfl, hverdict⟩, fun _ => hdated⟩

/-- A history that passes the check has the checksums of the only migrations of its versions. -/
theorem checksum_of_verify (h : e.Refines dl S covered view) (hS : KeepsHistory S driver H)
    (hR : ReadsHistory S driver H) {known : List Migration}
    (hcov : CoversMigrations covered driver known) (hp : p.Shows view (w, .idle d))
    (hok : ((verify (e.executor driver dl) ms).run p).1 = .ok ()) {row : Row}
    (hrow : row ∈ H.rows d) {m : Migration} (hm : IsOnly ms row.version m) :
    m.checksum = row.checksum := by
  obtain ⟨r, w', d', ⟨p', hrun, -, -⟩, hverdict, hdated⟩ := verify_verdict h hS hR hcov hp ms
  rw [hrun] at hok
  obtain ⟨hlast, hversion⟩ := hm.isLast
  have hnone := (hverdict (hdated hok)).2.passes.mp hok row hrow m
  by_contra hne
  exact hnone ⟨hlast, hversion, hne⟩

/-! ## What applying records -/

/-- What applying adds to the history, if the scripts leave it alone. -/
theorem ApplyEnding.recorded (hS : KeepsHistory S driver H)
    (hleave : ∀ m ∈ ms, LeavesHistory S H m.up) {x : Executor (Work σ)}
    {r : Except Error (List (Int64 × String))} {p' : Pooled σ} {now : ω × δ}
    (hend : ApplyEnding x view S driver H ms p d r p' now) :
    ∃ done : List Attempt,
      done.map (·.migration) <+: newer ((H.latest d).getD 0) ms ∧
      (H.rows now.2).Perm (done.map Attempt.row ++ H.rows d) := by
  cases hend with
  | unverified _ hread => exact ⟨[], List.nil_prefix, .of_eq (hread.rows hS)⟩
  | unread _ _ => exact ⟨[], List.nil_prefix, .of_eq (hS.rows_touch d)⟩
  | attempted _ _ _ hend _ hrows => exact ⟨_, hend.isPrefix, hrows hleave⟩

/-- A row that is new comes from the first migration of its version. -/
theorem row_of_first (hS : KeepsHistory S driver H) {done : List Attempt} {current : Int64}
    (hdone : done.map (·.migration) <+: newer current ms)
    (hrows : (H.rows d').Perm (done.map Attempt.row ++ H.rows d)) {m : Migration}
    (hm : ms.find? (·.version == m.version) = some m)
    (hbefore : m.version ∉ (H.rows d).map (·.version))
    (hafter : m.version ∈ (H.rows d').map (·.version)) :
    ∃ row ∈ H.rows d', row.version = m.version ∧ row.checksum = m.checksum := by
  obtain ⟨row, hrow, hversion⟩ := List.mem_map.mp hafter
  rcases List.mem_append.mp (hrows.mem_iff.mp hrow) with hnew | hold
  · obtain ⟨a, ha, rfl⟩ := List.mem_map.mp hnew
    have hversion : a.migration.version = m.version := hversion
    refine ⟨a.row, hrow, hversion, congrArg Migration.checksum ?_⟩
    -- Each version is recorded once, so this is the first attempt at its version.
    have hnodup : ((done.map (·.migration)).map (·.version)).Nodup := by
      have hversions := hS.versions_nodup d'
      rw [(hrows.map _).nodup_iff, List.map_append] at hversions
      have hnew := hversions.of_append_left
      rwa [List.map_map] at hnew ⊢
    have hmem : a.migration ∈ done.map (·.migration) := List.mem_map_of_mem ha
    have hbeyond : current < m.version := hversion ▸ (mem_newer.mp (hdone.subset hmem)).2
    have hfirst := find?_of_mem hnodup hmem
    rw [hversion] at hfirst
    obtain ⟨rest, hrest⟩ := hdone
    rw [← newer_find? hbeyond, ← hrest, List.find?_append, hfirst] at hm
    exact Option.some.inj hm
  · exact absurd (hversion ▸ List.mem_map_of_mem hold) hbefore

/-! ## Applying several lists -/

/-- Apply several lists in turn, whatever is answered. -/
def applyEach {m : Type → Type} [Monad m] (x : Executor m) : List (List Migration) → m Unit
  | [] => return ()
  | ms :: rest => do
    let _ ← apply x ms
    applyEach x rest

/-- The recorded versions on a connection. -/
def HistoryView.versions (H : HistoryView δ) (view : σ → ω × Phase δ) (p : Pooled σ) : List Int64 :=
  p.connection.elim [] fun c => (H.rows (view c).2.base).map (·.version)

/-- Applying some lists in turn records a migration: it is the first one of its version in a list,
and its version has been recorded after this list was applied, but not before. -/
def Records (x : Executor (Work σ)) (view : σ → ω × Phase δ) (H : HistoryView δ) (p : Pooled σ)
    (mss : List (List Migration)) (m : Migration) : Prop :=
  ∃ before ms after, mss = before ++ ms :: after ∧ ms.find? (·.version == m.version) = some m ∧
    let p₁ := ((applyEach x before).run p).2
    m.version ∉ H.versions view p₁ ∧ m.version ∈ H.versions view ((apply x ms).run p₁).2

theorem versions_of_shows (hp : p.Shows view (w, .idle d)) :
    H.versions view p = (H.rows d).map (·.version) := by
  obtain ⟨c, hc, hv⟩ := hp
  rw [HistoryView.versions, hc, Option.elim_some, hv]
  rfl

theorem applyEach_run {x : Executor (Work σ)} (before : List (List Migration))
    (ms : List Migration) (after : List (List Migration)) (p : Pooled σ) :
    (applyEach x (before ++ ms :: after)).run p =
      (applyEach x after).run ((apply x ms).run ((applyEach x before).run p).2).2 := by
  induction before generalizing p with
  | nil => rfl
  | cons ns before ih => exact ih ((apply x ns).run p).2

/-- What has been recorded stays, if the scripts leave the history alone. -/
theorem applyEach_keeps_rows (h : e.Refines dl S covered view) (hS : KeepsHistory S driver H)
    (mss : List (List Migration)) (hcov : CoversMigrations covered driver mss.flatten)
    (hleave : ∀ ms ∈ mss, ∀ m ∈ ms, LeavesHistory S H m.up) :
    ∀ {p : Pooled σ} {w : ω} {d : δ}, p.Shows view (w, .idle d) →
      ∃ w' d', (((applyEach (e.executor driver dl) mss).run p).2).Shows view (w', .idle d') ∧
        H.rows d ⊆ H.rows d' := by
  induction mss with
  | nil =>
    intro p w d hp
    exact ⟨w, d, hp, fun _ hrow => hrow⟩
  | cons ms mss ih =>
    intro p w d hp
    have hms : ms ⊆ (ms :: mss).flatten := List.subset_append_left ms mss.flatten
    have hmss : mss.flatten ⊆ (ms :: mss).flatten := List.subset_append_right ms mss.flatten
    obtain ⟨r, p₁, w₁, d₁, hrun, hp₁, hend⟩ := apply_ends h hS (hcov.subset hms) hp
    obtain ⟨done, -, hrows⟩ := hend.recorded hS (hleave ms List.mem_cons_self)
    obtain ⟨w', d', hp', hsub⟩ :=
      ih (hcov.subset hmss) (fun ns hns => hleave ns (List.mem_cons_of_mem ms hns)) hp₁
    have hrest : (applyEach (e.executor driver dl) (ms :: mss)).run p =
        (applyEach (e.executor driver dl) mss).run p₁ := run_after hrun
    rw [hrest]
    exact ⟨w', d', hp', fun row hrow =>
      hsub (hrows.mem_iff.mpr (List.mem_append_right _ hrow))⟩

/-- A migration that was recorded has a row in the end. -/
theorem Records.row (h : e.Refines dl S covered view) (hS : KeepsHistory S driver H)
    {mss : List (List Migration)} (hcov : CoversMigrations covered driver mss.flatten)
    (hleave : ∀ ms ∈ mss, ∀ m ∈ ms, LeavesHistory S H m.up) (hp : p.Shows view (w, .idle d))
    {m : Migration} (hm : Records (e.executor driver dl) view H p mss m) :
    ∃ w' d', (((applyEach (e.executor driver dl) mss).run p).2).Shows view (w', .idle d') ∧
      ∃ row ∈ H.rows d', row.version = m.version ∧ row.checksum = m.checksum := by
  obtain ⟨before, ms, after, rfl, hfirst, hbefore, hafter⟩ := hm
  have hms : ms ∈ before ++ ms :: after := by simp
  have hcov_of : ∀ {mss}, mss ⊆ before ++ ms :: after →
      CoversMigrations covered driver mss.flatten := fun hsub => hcov.subset fun x hx => by
    obtain ⟨l, hl, hx⟩ := List.mem_flatten.mp hx
    exact List.mem_flatten.mpr ⟨l, hsub hl, hx⟩
  have hbefore_sub : before ⊆ before ++ ms :: after := List.subset_append_left _ _
  have hafter_sub : after ⊆ before ++ ms :: after := fun _ hl => by simp [hl]
  obtain ⟨w₁, d₁, hp₁, -⟩ := applyEach_keeps_rows h hS before (hcov_of hbefore_sub)
    (fun l hl => hleave l (hbefore_sub hl)) hp
  obtain ⟨r, p₂, w₂, d₂, hrun, hp₂, hend⟩ :=
    apply_ends h hS (hcov.subset fun x hx => List.mem_flatten.mpr ⟨ms, hms, hx⟩) hp₁
  obtain ⟨done, hdone, hrows⟩ := hend.recorded hS (hleave ms hms)
  rw [hrun] at hafter
  rw [versions_of_shows hp₁] at hbefore
  rw [versions_of_shows hp₂] at hafter
  obtain ⟨row, hrow, hversion, hchecksum⟩ := row_of_first hS hdone hrows hfirst hbefore hafter
  obtain ⟨w₃, d₃, hp₃, hsub⟩ := applyEach_keeps_rows h hS after (hcov_of hafter_sub)
    (fun l hl => hleave l (hafter_sub hl)) hp₂
  rw [applyEach_run, hrun]
  exact ⟨w₃, d₃, hp₃, row, hsub hrow, hversion, hchecksum⟩

/-! ## The check as a whole -/

/-- **Changed migrations are found, and nothing else is.** The check of a history passes exactly if
every row has the checksum of the last definition of its version, where there is one; otherwise it
answers the least version that has not, with both checksums. The database stays as it was, except
that the table of the history is created where it is missing. A row with the checksum of a script
passes only with this script, if no two scripts have one checksum; and a migration that was recorded
has such a row, whatever is applied after it, as long as scripts leave the history alone. -/
theorem verify_finds_changes (h : e.Refines dl S covered view) (hS : KeepsHistory S driver H)
    (hR : ReadsHistory S driver H) {mss : List (List Migration)}
    (hcov : CoversMigrations covered driver mss.flatten) {c : σ} (hp : p.connection = some c)
    (hc : view c = (w, .idle d)) :
    ((∀ row ∈ H.rows d, row.Dated) → ∀ ms, ∃ r p' c' w',
      (verify (e.executor driver dl) ms).run p = (r, p') ∧ p'.connection = some c' ∧
      view c' = (w', .idle (H.touch d)) ∧ H.rows (H.touch d) = H.rows d ∧
      Verdict ms (H.rows d) r) ∧
    (∀ row ∈ H.rows d, ∀ sql ms m, row.checksum = Migration.checksumOf sql →
      m.checksum = Migration.checksumOf m.up →
      (Migration.checksumOf m.up = Migration.checksumOf sql → m.up = sql) →
      IsOnly ms row.version m → ((verify (e.executor driver dl) ms).run p).1 = .ok () →
      m.up = sql) ∧
    ((∀ ms ∈ mss, ∀ m ∈ ms, LeavesHistory S H m.up) →
      ∀ recorded, Records (e.executor driver dl) view H p mss recorded →
      ∀ ms m, recorded.checksum = Migration.checksumOf recorded.up →
      m.checksum = Migration.checksumOf m.up →
      (Migration.checksumOf m.up = Migration.checksumOf recorded.up → m.up = recorded.up) →
      IsOnly ms recorded.version m →
      ((verify (e.executor driver dl) ms).run
        ((applyEach (e.executor driver dl) mss).run p).2).1 = .ok () →
      m.up = recorded.up) := by
  refine ⟨fun hdated ms => ?_, ?_, ?_⟩
  · obtain ⟨r, w', d', ⟨p', hrun, -, c', hp', hc'⟩, hverdict, -⟩ :=
      verify_verdict h hS hR hcov ⟨c, hp, hc⟩ ms
    obtain ⟨rfl, hanswer⟩ := hverdict hdated
    exact ⟨r, p', c', w', hrun, hp', hc', hS.rows_touch d, hanswer⟩
  · intro row hrow sql ms m hsql hm hcollide honly hok
    have hsum := checksum_of_verify h hS hR hcov ⟨c, hp, hc⟩ hok hrow honly
    exact hcollide (hm.symm.trans (hsum.trans hsql))
  · intro hleave recorded hrecorded ms m hsql hm hcollide honly hok
    obtain ⟨w', d', hp', row, hrow, hversion, hchecksum⟩ :=
      hrecorded.row h hS hcov hleave ⟨c, hp, hc⟩
    rw [← hversion] at honly
    have hsum := checksum_of_verify h hS hR hcov hp' hok hrow honly
    exact hcollide (hm.symm.trans (hsum.trans (hchecksum.trans hsql)))

end

/-! ### A ledger with rows -/

/-- A row for a migration that has been applied. -/
def notesRow : Row := ⟨1, "notes", notes.checksum, "2024-01-01T00:00:00+00:00", 0⟩

/-- A pool on a ledger with this row and one that nobody knows of. -/
def stocked : Pooled (Unit × Phase Ledger) :=
  ⟨some ((), .idle ⟨some ⟨[notesRow, Ledger.strayRow], by decide⟩, []⟩),
    .ofPlugin ⟨.standard, false⟩, []⟩

/-- The same script under a later version. -/
def notesAgain : Migration := { notes with version := 3 }

/-- Another script for the version of `notes`. -/
def drafts : Migration := .ofScript 1 "notes" "CREATE TABLE drafts (id INTEGER PRIMARY KEY)"

theorem stocked_dated : ∀ row ∈ [notesRow, Ledger.strayRow], row.Dated := by
  have hdate : ∃ t, Timestamp.parse "2024-01-01T00:00:00+00:00".toList = .ok t := ⟨_, rfl⟩
  intro row hrow
  simp only [List.mem_cons, List.not_mem_nil, or_false] at hrow
  rcases hrow with rfl | rfl
  · exact hdate
  · exact hdate

theorem notesAgain_leavesHistory :
    ∀ ms ∈ [[notesAgain, notes], [notes]], ∀ m ∈ ms,
      LeavesHistory Ledger.store Ledger.view m.up := by
  intro ms hms m hm
  have hup : m.up = Ledger.createNotes := by
    have hflat : m ∈ [[notesAgain, notes], [notes]].flatten := List.mem_flatten.mpr ⟨ms, hms, hm⟩
    simp only [List.flatten_cons, List.flatten_nil, List.cons_append, List.nil_append,
      List.mem_cons, List.not_mem_nil, or_false] at hflat
    rcases hflat with rfl | rfl | rfl <;> rfl
  rw [hup]
  exact Ledger.createNotes_leavesHistory

theorem records_notesAgain :
    Records Ledger.executor id Ledger.view stocked [[notesAgain, notes], [notes]] notesAgain :=
  ⟨[], [notesAgain, notes], [[notes]], rfl, by decide +kernel⟩

theorem stocked_verify_finds_changes :
    (Ledger.statements.engine.Refines .unbounded Ledger.store .all id ∧
      KeepsHistory Ledger.store .sqlite Ledger.view ∧
      ReadsHistory Ledger.store .sqlite Ledger.view ∧
      CoversMigrations .all .sqlite [[notesAgain, notes], [notes]].flatten ∧
      (∀ row ∈ [notesRow, Ledger.strayRow], row.Dated) ∧
      (∀ ms ∈ [[notesAgain, notes], [notes]], ∀ m ∈ ms,
        LeavesHistory Ledger.store Ledger.view m.up) ∧
      Records Ledger.executor id Ledger.view stocked [[notesAgain, notes], [notes]] notesAgain) ∧
    (∀ ms, Verdict ms [notesRow, Ledger.strayRow] ((verify Ledger.executor ms).run stocked).1) ∧
    (∀ ms m, m.checksum = Migration.checksumOf m.up →
      (Migration.checksumOf m.up = Migration.checksumOf Ledger.createNotes →
        m.up = Ledger.createNotes) →
      IsOnly ms 1 m → ((verify Ledger.executor ms).run stocked).1 = .ok () →
      m.up = Ledger.createNotes) ∧
    (∀ ms m, m.checksum = Migration.checksumOf m.up →
      (Migration.checksumOf m.up = Migration.checksumOf Ledger.createNotes →
        m.up = Ledger.createNotes) →
      IsOnly ms 3 m →
      ((verify Ledger.executor ms).run
        ((applyEach Ledger.executor [[notesAgain, notes], [notes]]).run stocked).2).1 = .ok () →
      m.up = Ledger.createNotes) := by
  have hcov := Ledger.coversMigrations [[notesAgain, notes], [notes]].flatten
  obtain ⟨hverify, hscript, hrecorded⟩ := verify_finds_changes
    (Ledger.refines .unbounded) Ledger.keepsHistory Ledger.readsHistory hcov
    (p := stocked) rfl rfl
  refine ⟨⟨Ledger.refines .unbounded, Ledger.keepsHistory, Ledger.readsHistory, hcov,
    stocked_dated, notesAgain_leavesHistory, records_notesAgain⟩, fun ms => ?_, fun ms m => ?_,
    fun ms m => ?_⟩
  · obtain ⟨r, p', c', w', hrun, -, -, -, hverdict⟩ := hverify stocked_dated ms
    have hrun : (verify Ledger.executor ms).run stocked = (r, p') := hrun
    rw [hrun]
    exact hverdict
  · exact hscript notesRow List.mem_cons_self Ledger.createNotes ms m rfl
  · exact hrecorded notesAgain_leavesHistory notesAgain records_notesAgain ms m rfl

example : ((verify Ledger.executor [drafts, notes]).run stocked).1.toOption = some () := by
  decide +kernel

/-! ### A script that takes a row off the history -/

/-- The migration whose row is taken off. -/
def second : Migration := .ofScript 2 "tags" Ledger.createTags

/-- Another script for its version. -/
def rewritten : Migration := .ofScript 2 "tags" Ledger.createNotes

/-- The migration that takes it off. -/
def forgets : Migration := .ofScript 3 "forgets" Ledger.unstray

/-- A later script may hide that a migration has changed; and where there is no table of the
history, the check creates it. -/
theorem script_hides_change :
    second.checksum = Migration.checksumOf second.up ∧
    rewritten.checksum = Migration.checksumOf rewritten.up ∧
    (Migration.checksumOf rewritten.up = Migration.checksumOf second.up →
      rewritten.up = second.up) ∧
    Records Ledger.undoingExecutor id Ledger.view Ledger.pool [[second], [second, forgets]] second ∧
    IsOnly [rewritten] second.version rewritten ∧
    ((verify Ledger.undoingExecutor [rewritten]).run
      ((applyEach Ledger.undoingExecutor [[second], [second, forgets]]).run
        Ledger.pool).2).1.toOption = some () ∧
    rewritten.up ≠ second.up ∧
    Ledger.empty.history.isNone ∧
    (((verify Ledger.undoingExecutor []).run Ledger.pool).2.connection.map fun c =>
      c.2.base.history.isSome) = some true :=
  ⟨rfl, rfl, by decide +kernel,
    ⟨[], [second], [[second, forgets]], rfl, by decide +kernel⟩, rfl, by decide +kernel⟩

end DataAccess.Access.Migrator
