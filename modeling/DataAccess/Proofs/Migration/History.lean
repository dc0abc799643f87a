import DataAccess.Access.Migrator
import DataAccess.Proofs.Engine.Executor
import DataAccess.Proofs.Engine.Late

/-!
# The history of migrations

The migrator keeps its history in a table of the database. `KeepsHistory` says what the five
statements on that table mean on the data of a store, where a `HistoryView` shows the rows of the
table. Any of the statements may fail at any time.

Reading the history changes nothing, except that the table may be created. The main statements say
so for everything the migrator reads:

* `currentVersion_reads` — the two statements that read the greatest version, as they may fail;
* `currentVersion_ends`, `pending_ends` — the greatest version, and what is beyond it;
* `applied_ends`, `verify_ends` — the rows, and the check of their checksums.
-/

namespace DataAccess.Access.Migrator

open Calendar Observation Sql Work

variable {σ ω δ : Type} {view : σ → ω × Phase δ}

/-! ## Rows and statements -/

/-- A row of the history as it stands in the table. -/
structure Row where
  version : Int64
  name : String
  checksum : String
  appliedAt : String
  executionMillis : Int64

/-- The arguments that record a row. -/
def Row.values (r : Row) : List Value :=
  [.int r.version, .text r.name, .text r.checksum, .text r.appliedAt, .int r.executionMillis]

/-- A row as it is read. -/
def Row.record (r : Row) : Record :=
  ⟨[("version", .int r.version), ("name", .text r.name), ("checksum", .text r.checksum),
    ("applied_at", .text r.appliedAt), ("execution_time_ms", .int r.executionMillis)]⟩

/-- The answer of the query for the greatest version. -/
def latestRecord (v : Option Int64) : Record := ⟨[("version", v.elim .null .int)]⟩

/-- The statement that creates the table. -/
def initStatement (driver : Driver) : Statement := .exec (historySchema.createSql driver) []

/-- The query for the greatest version. -/
def latestStatement (driver : Driver) : Statement := .raw (latestSql driver) []

/-- The query for all rows. -/
def historyStatement (driver : Driver) : Statement := .raw (historySql driver) []

/-- The statement that records a row. -/
def recordStatement (driver : Driver) (r : Row) : Statement := .exec (recordSql driver) r.values

/-- The statement that forgets a version. -/
def forgetStatement (driver : Driver) (version : Int64) : Statement :=
  .exec (forgetSql driver) [.int version]

/-- A script of a migration. -/
def script (sql : String) : Statement := .exec sql []

/-! ## A store with a history -/

/-- How data shows its history: the rows in the order of their versions, and the data with the
table of the history there. -/
structure HistoryView (δ : Type) where
  rows : δ → List Row
  touch : δ → δ

/-- The greatest version of the history. -/
def HistoryView.latest (H : HistoryView δ) (d : δ) : Option Int64 :=
  (H.rows d).getLast?.map (·.version)

/-- What reading the history may leave: the data as it was, or with the table there. -/
def HistoryView.Read (H : HistoryView δ) (d d' : δ) : Prop := d' = d ∨ d' = H.touch d

/-- The statements on the history do what they say whenever they succeed, and versions are a key. -/
structure KeepsHistory (S : Store ω δ) (driver : Driver) (H : HistoryView δ) : Prop where
  sorted : ∀ d, (H.rows d).Pairwise (·.version < ·.version)
  rows_touch : ∀ d, H.rows (H.touch d) = H.rows d
  touch_touch : ∀ d, H.touch (H.touch d) = H.touch d
  init : ∀ {w w' d d' n}, S.execute (initStatement driver) (w, d) = (.ok n, w', d') →
    d' = H.touch d
  latest : ∀ {w w' d d' rs}, S.fetch (latestStatement driver) (w, d) = (.ok rs, w', d') →
    d' = d ∧ rs = [latestRecord (H.latest d)]
  history : ∀ {w w' d d' rs}, S.fetch (historyStatement driver) (w, d) = (.ok rs, w', d') →
    d' = d ∧ rs = (H.rows d).map Row.record
  record : ∀ {w w' d d' n r}, S.execute (recordStatement driver r) (w, d) = (.ok n, w', d') →
    (H.rows d').Perm (r :: H.rows d)
  forget : ∀ {w w' d d' n v}, S.execute (forgetStatement driver v) (w, d) = (.ok n, w', d') →
    H.rows d' = (H.rows d).filter (·.version != v)

/-- The table of the history can always be created and read. -/
structure ReadsHistory (S : Store ω δ) (driver : Driver) (H : HistoryView δ) : Prop where
  init : ∀ w d, ∃ n s, S.execute (initStatement driver) (w, d) = (.ok n, s)
  history : ∀ w d, ∃ rs s, S.fetch (historyStatement driver) (w, H.touch d) = (.ok rs, s)

/-- So can the greatest version. -/
structure AnswersHistory (S : Store ω δ) (driver : Driver) (H : HistoryView δ) : Prop where
  reads : ReadsHistory S driver H
  latest : ∀ w d, ∃ rs s, S.fetch (latestStatement driver) (w, H.touch d) = (.ok rs, s)

/-- A script that does not write the history. -/
def LeavesHistory (S : Store ω δ) (H : HistoryView δ) (sql : String) : Prop :=
  ∀ now, H.rows (S.execute (script sql) now).2.2 = H.rows now.2

/-- The statements of the migrator are among those that a store speaks for. -/
structure CoversMigrations (covered : Coverage) (driver : Driver) (ms : List Migration) : Prop where
  init : covered.alone (initStatement driver)
  latest : covered.alone (latestStatement driver)
  history : covered.alone (historyStatement driver)
  record : ∀ r, covered.inside (recordStatement driver r)
  forget : ∀ v, covered.inside (forgetStatement driver v)
  up : ∀ m ∈ ms, covered.inside (script m.up)
  down : ∀ m ∈ ms, ∀ sql ∈ m.down, covered.inside (script sql)

variable {S : Store ω δ} {driver : Driver} {H : HistoryView δ} {d d' : δ}

theorem KeepsHistory.versions_nodup (hS : KeepsHistory S driver H) (d : δ) :
    ((H.rows d).map (·.version)).Nodup := by
  refine List.pairwise_map.mpr ((hS.sorted d).imp fun {a b} hlt heq => ?_)
  rw [heq] at hlt
  exact Int64.lt_irrefl hlt

/-- The laws speak of statements that succeed, so statements may be late. -/
theorem KeepsHistory.slowed (hS : KeepsHistory S driver H) (slow : Statement → Bool) :
    KeepsHistory (S.slowed slow) driver H :=
  { hS with
    init := fun h => hS.init (Store.execute_of_slowed h)
    latest := fun h => hS.latest (Store.fetch_of_slowed h)
    history := fun h => hS.history (Store.fetch_of_slowed h)
    record := fun h => hS.record (Store.execute_of_slowed h)
    forget := fun h => hS.forget (Store.execute_of_slowed h) }

theorem LeavesHistory.slowed {sql : String} (h : LeavesHistory S H sql)
    (slow : Statement → Bool) : LeavesHistory (S.slowed slow) H sql := by
  intro now
  simp only [Store.slowed]
  cases slow (script sql) with
  | true => rfl
  | false => exact h now

theorem CoversMigrations.subset {covered : Coverage} {ms ns : List Migration}
    (h : CoversMigrations covered driver ns) (hsub : ms ⊆ ns) :
    CoversMigrations covered driver ms :=
  { h with
    up := fun m hm => h.up m (hsub hm)
    down := fun m hm => h.down m (hsub hm) }

namespace HistoryView

theorem Read.rows (hd : H.Read d d') (hS : KeepsHistory S driver H) : H.rows d' = H.rows d := by
  rcases hd with rfl | rfl
  · rfl
  · exact hS.rows_touch d

/-- Once the table is there, reading the history changes nothing. -/
theorem Read.of_touch (hd : H.Read (H.touch d) d') (hS : KeepsHistory S driver H) :
    d' = H.touch d := by
  rcases hd with rfl | rfl
  · rfl
  · exact hS.touch_touch d

theorem latest_touch (hS : KeepsHistory S driver H) : H.latest (H.touch d) = H.latest d := by
  unfold latest
  rw [hS.rows_touch]

end HistoryView

/-! ## Reading rows -/

/-- A row is read back if its time is. -/
theorem ofRecord_record {r : Row} {t : Timestamp}
    (ht : Timestamp.parse r.appliedAt.toList = .ok t) :
    Applied.ofRecord r.record = .ok ⟨r.version, r.name, r.checksum, t, r.executionMillis⟩ := by
  have hwritten : r.record.get "applied_at" Value.asText = .ok r.appliedAt := rfl
  have hversion : r.record.get "version" Value.asInt = .ok r.version := rfl
  have hname : r.record.get "name" Value.asText = .ok r.name := rfl
  have hchecksum : r.record.get "checksum" Value.asText = .ok r.checksum := rfl
  have hmillis : r.record.get "execution_time_ms" Value.asInt = .ok r.executionMillis := rfl
  simp only [Applied.ofRecord, hwritten, ht, hversion, hname, hchecksum, hmillis, bind, Except.bind,
    pure, Except.pure]

/-- Rows whose times can be read are read back in order. -/
theorem mapM_ofRecord {rows : List Row}
    (ht : ∀ r ∈ rows, ∃ t, Timestamp.parse r.appliedAt.toList = .ok t) :
    ∃ as, (rows.map Row.record).mapM Applied.ofRecord = .ok as ∧
      as.map (fun a => (a.version, a.name, a.checksum)) =
        rows.map fun r => (r.version, r.name, r.checksum) := by
  induction rows with
  | nil => exact ⟨[], rfl, rfl⟩
  | cons r rest ih =>
    obtain ⟨as, has, hfields⟩ := ih fun r' hr' => ht r' (List.mem_cons_of_mem r hr')
    obtain ⟨t, hr⟩ := ht r List.mem_cons_self
    refine ⟨⟨r.version, r.name, r.checksum, t, r.executionMillis⟩ :: as, ?_, ?_⟩
    · rw [List.map_cons, List.mapM_cons, ofRecord_record hr, has]
      rfl
    · rw [List.map_cons, List.map_cons, hfields]

/-! ## Reading the greatest version -/

/-- Reading the greatest version: its two statements in turn, of which the first may have created
the table when the second one fails. -/
inductive ReadsLatest (S : Store ω δ) (driver : Driver) (H : HistoryView δ) :
    ω × δ → Except Error (Option Int64) → ω × δ → Prop
  | notCreated {w w' : ω} {d d₁ : δ} {cause : Error} :
      S.execute (initStatement driver) (w, d) = (.error cause, w', d₁) →
      ReadsLatest S driver H (w, d) (.error cause) (w', d)
  | unread {w w₁ w' : ω} {d d₂ : δ} {n : Nat} {cause : Error} :
      S.execute (initStatement driver) (w, d) = (.ok n, w₁, H.touch d) →
      S.fetch (latestStatement driver) (w₁, H.touch d) = (.error cause, w', d₂) →
      ReadsLatest S driver H (w, d) (.error cause) (w', H.touch d)
  | answered {w w₁ w' : ω} {d : δ} {n : Nat} {rs : List Record} :
      S.execute (initStatement driver) (w, d) = (.ok n, w₁, H.touch d) →
      S.fetch (latestStatement driver) (w₁, H.touch d) = (.ok rs, w', H.touch d) →
      ReadsLatest S driver H (w, d) (.ok (H.latest d)) (w', H.touch d)

namespace ReadsLatest

variable {w : ω} {now : ω × δ}

theorem read {r : Except Error (Option Int64)} (h : ReadsLatest S driver H (w, d) r now) :
    H.Read d now.2 := by
  cases h with
  | notCreated _ => exact .inl rfl
  | unread _ _ => exact .inr rfl
  | answered _ _ => exact .inr rfl

theorem of_ok {v : Option Int64} (h : ReadsLatest S driver H (w, d) (.ok v) now) :
    now.2 = H.touch d ∧ v = H.latest d := by
  cases h with
  | answered _ _ => exact ⟨rfl, rfl⟩

/-- It fails only where the table cannot be created or read. -/
theorem not_answers {cause : Error} (h : ReadsLatest S driver H (w, d) (.error cause) now) :
    ¬ AnswersHistory S driver H := by
  intro hA
  cases h with
  | notCreated hinit =>
    obtain ⟨n, s, hok⟩ := hA.reads.init w d
    cases hinit.symm.trans hok
  | @unread _ w₁ _ _ _ _ _ _ hlatest =>
    obtain ⟨rs, s, hok⟩ := hA.latest w₁ d
    cases hlatest.symm.trans hok

end ReadsLatest

section

variable {e : Engine σ} {covered : Coverage} {dl : Deadline} {ms : List Migration}
variable {p : Pooled σ} {w : ω}

/-! ## Reading the history -/

theorem init_ends (h : e.Refines dl S covered view) (hS : KeepsHistory S driver H)
    (hcov : CoversMigrations covered driver ms) (hp : p.Shows view (w, .idle d)) :
    ∃ r w' d', Ends view (init (e.executor driver dl)) p r (w', .idle d') ∧ H.Read d d' ∧
      (r = .ok () → d' = H.touch d) ∧ (ReadsHistory S driver H → r = .ok ()) := by
  have hrun := (h.execute_alone_ends driver hcov.init hp).map (Except.map fun _ => ())
  rcases hq : S.execute (initStatement driver) (w, d) with ⟨r, w', d'⟩
  rw [hq] at hrun
  cases r with
  | ok n =>
    rw [hS.init hq] at hrun
    exact ⟨.ok (), w', H.touch d, hrun, .inr rfl, fun _ => rfl, fun _ => rfl⟩
  | error cause =>
    refine ⟨.error cause, w', d, hrun, .inl rfl, nofun, fun hR => ?_⟩
    obtain ⟨n, s, hok⟩ := hR.init w d
    rw [hq] at hok
    cases hok

/-- Reading the greatest version runs its two statements, and stops at the one that fails. -/
theorem currentVersion_reads (h : e.Refines dl S covered view) (hS : KeepsHistory S driver H)
    (hcov : CoversMigrations covered driver ms) (hp : p.Shows view (w, .idle d)) :
    ∃ r w' d', Ends view (currentVersion (e.executor driver dl)) p r (w', .idle d') ∧
      ReadsLatest S driver H (w, d) r (w', d') := by
  obtain ⟨p₁, hrun₁, hle₁, hp₁⟩ :=
    (h.execute_alone_ends driver hcov.init hp).map (Except.map fun _ => ())
  rcases hinit : S.execute (initStatement driver) (w, d) with ⟨r, w₁, d₁⟩
  rw [hinit] at hrun₁ hp₁
  cases r with
  | error cause =>
    exact ⟨.error cause, w₁, d, .after hrun₁ hle₁ (.pure hp₁), .notCreated hinit⟩
  | ok n =>
    obtain rfl := hS.init hinit
    have hfetch := h.fetch_alone_ends driver hcov.latest hp₁
    rcases hlatest : S.fetch (latestStatement driver) (w₁, H.touch d) with ⟨r, w₂, d₂⟩
    rw [whenOk_ok, hlatest] at hfetch
    cases r with
    | error cause =>
      exact ⟨.error cause, w₂, H.touch d,
        .after hrun₁ hle₁ (hfetch.bind fun _ _ hp₂ => .pure hp₂), .unread hinit hlatest⟩
    | ok rs =>
      obtain ⟨rfl, rfl⟩ := hS.latest hlatest
      -- The one row that is answered reads as the greatest version, null as none.
      have hread : (latestRecord (H.latest (H.touch d))).get "version"
          (Value.asOptional Value.asInt) = .ok (H.latest d) := by
        rw [HistoryView.latest_touch hS]
        cases H.latest d with
        | none => rfl
        | some v => rfl
      refine ⟨.ok (H.latest d), w₂, H.touch d, .after hrun₁ hle₁ (hfetch.bind fun _ _ hp₂ => ?_),
        .answered hinit hlatest⟩
      rw [← hread]
      exact .pure hp₂

/-- The query for the greatest version answers it or fails. -/
theorem currentVersion_ends (h : e.Refines dl S covered view) (hS : KeepsHistory S driver H)
    (hcov : CoversMigrations covered driver ms) (hp : p.Shows view (w, .idle d)) :
    ∃ r w' d', Ends view (currentVersion (e.executor driver dl)) p r (w', .idle d') ∧ H.Read d d' ∧
      (∀ v, r = .ok v → d' = H.touch d ∧ v = H.latest d) ∧
      (AnswersHistory S driver H → ∃ v, r = .ok v) := by
  obtain ⟨r, w', d', hends, hreads⟩ := currentVersion_reads h hS hcov hp
  refine ⟨r, w', d', hends, hreads.read, ?_, fun hA => ?_⟩
  · rintro v rfl
    exact hreads.of_ok
  · cases r with
    | ok v => exact ⟨v, rfl⟩
    | error cause => exact absurd hA hreads.not_answers

/-- What is pending is what is beyond the greatest version. -/
theorem pending_ends (h : e.Refines dl S covered view) (hS : KeepsHistory S driver H)
    (hcov : CoversMigrations covered driver ms) (hp : p.Shows view (w, .idle d)) :
    ∃ r w' d', Ends view (pending (e.executor driver dl) ms) p r (w', .idle d') ∧ H.Read d d' ∧
      (∀ todo, r = .ok todo → d' = H.touch d ∧ todo = newer ((H.latest d).getD 0) ms) ∧
      (AnswersHistory S driver H → ∃ todo, r = .ok todo) := by
  obtain ⟨r, w₁, d₁, hcurrent, hread, hlatest, hanswers⟩ := currentVersion_ends h hS hcov hp
  cases r with
  | error cause =>
    refine ⟨.error cause, w₁, d₁, hcurrent.bind fun _ _ hp₁ => .pure hp₁, hread, nofun,
      fun hA => ?_⟩
    obtain ⟨v, hv⟩ := hanswers hA
    cases hv
  | ok v =>
    obtain ⟨htouch, rfl⟩ := hlatest v rfl
    exact ⟨.ok (newer ((H.latest d).getD 0) ms), w₁, d₁,
      hcurrent.bind fun _ _ hp₁ => .pure hp₁, hread,
      fun todo htodo => ⟨htouch, (Except.ok.inj htodo).symm⟩, fun _ => ⟨_, rfl⟩⟩

/-- The rows are read back, or an error is answered. -/
theorem applied_ends (h : e.Refines dl S covered view) (hS : KeepsHistory S driver H)
    (hcov : CoversMigrations covered driver ms) (hp : p.Shows view (w, .idle d)) :
    ∃ r w' d', Ends view (applied (e.executor driver dl)) p r (w', .idle d') ∧ H.Read d d' ∧
      (∀ as, r = .ok as → d' = H.touch d) ∧
      (ReadsHistory S driver H → r = ((H.rows d).map Row.record).mapM Applied.ofRecord) := by
  obtain ⟨r, w₁, d₁, hinit, hread, htouch, hready⟩ := init_ends h hS hcov hp
  cases r with
  | error cause =>
    refine ⟨.error cause, w₁, d₁, hinit.bind fun _ _ hp₁ => .pure hp₁, hread, nofun, fun hR => ?_⟩
    cases hready hR
  | ok _ =>
    obtain rfl := htouch rfl
    obtain ⟨p₁, hrun₁, hle₁, hp₁⟩ := hinit
    have hfetch := h.fetch_alone_ends driver hcov.history hp₁
    rcases hq : S.fetch (historyStatement driver) (w₁, H.touch d) with ⟨r, w₂, d₂⟩
    rw [hq] at hfetch
    cases r with
    | error cause =>
      refine ⟨.error cause, w₂, H.touch d,
        .after hrun₁ hle₁ (hfetch.bind fun _ _ hp₂ => .pure hp₂), .inr rfl, nofun, fun hR => ?_⟩
      obtain ⟨rs, s, hok⟩ := hR.history w₁ d
      rw [hq] at hok
      cases hok
    | ok rs =>
      obtain ⟨rfl, rfl⟩ := hS.history hq
      rw [hS.rows_touch] at hfetch
      exact ⟨((H.rows d).map Row.record).mapM Applied.ofRecord, w₂, H.touch d,
        .after hrun₁ hle₁ (hfetch.bind fun _ _ hp₂ => .pure hp₂), .inr rfl,
        fun _ _ => rfl, fun _ => rfl⟩

/-- Comparing rows with definitions may warn, and changes nothing. -/
theorem compare_ends (e : Engine σ) (driver : Driver) {v : ω × Phase δ} (ms : List Migration)
    (as : List Applied) :
    ∀ {p : Pooled σ}, p.Shows view v →
      ∃ r, Ends view (compare (e.executor driver dl) ms as) p r v := by
  induction as with
  | nil =>
    intro p hp
    exact ⟨.ok (), .pure hp⟩
  | cons a rest ih =>
    intro p hp
    unfold compare
    cases definition? ms a.version with
    | none =>
      obtain ⟨p₁, hrun, hle, hp₁⟩ :=
        Engine.Refines.warn_ends (e := e) driver (n := .undefinedMigration a.version) hp
      obtain ⟨r, hr⟩ := ih hp₁
      exact ⟨r, .after hrun hle hr⟩
    | some m =>
      by_cases hsum : m.checksum = a.checksum
      · simp only [hsum, if_true]
        exact ih hp
      · simp only [hsum, if_false]
        exact ⟨_, .pure hp⟩

theorem verify_ends (h : e.Refines dl S covered view) (hS : KeepsHistory S driver H)
    (hcov : CoversMigrations covered driver ms) (hp : p.Shows view (w, .idle d)) :
    ∃ r w' d', Ends view (verify (e.executor driver dl) ms) p r (w', .idle d') ∧ H.Read d d' ∧
      (r = .ok () → d' = H.touch d) := by
  obtain ⟨r, w₁, d₁, happlied, hread, htouch, -⟩ := applied_ends h hS hcov hp
  cases r with
  | error cause =>
    exact ⟨.error cause, w₁, d₁, happlied.bind fun _ _ hp₁ => .pure hp₁, hread, nofun⟩
  | ok as =>
    obtain ⟨p₁, hrun₁, hle₁, hp₁⟩ := happlied
    obtain ⟨r, hr⟩ := compare_ends e driver ms as hp₁
    exact ⟨r, w₁, d₁, .after hrun₁ hle₁ hr, hread, fun _ => htouch as rfl⟩

end

end DataAccess.Access.Migrator
