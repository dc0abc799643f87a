import DataAccess.Config.Serial
import DataAccess.Config.Typed
import DataAccess.Proofs.Config.Locations

/-!
# Written and read back

A configuration that is written to a tree and read again is the same one (`Config.ofJson_toJson`).
Two things can get lost on the way and are assumed not to: a sample rate that is not finite, and a
duration whose seconds in double precision do not read back. Whole seconds always do
(`Duration.typed_toJson_of_whole`).
-/

namespace DataAccess

open Number Json

theorem ofBinary64_of_finite {x : Binary64} (h : x.isFinite = true) : ofBinary64 x = .float x :=
  if_pos h

/-! ### Durations -/

namespace Duration

/-- What the strict reader accepts, the reader of raw configurations accepts as well. -/
theorem asDuration_of_typed {v : Json} {d : Duration} (h : Typed.duration v = .ok d) :
    Config.asDuration v = .ok d := by
  unfold Typed.duration at h
  unfold Config.asDuration
  cases v with
  | integer i =>
    dsimp only at h ⊢
    split at h
    · cases h
    · next hi =>
      rw [if_neg hi]
      -- The kernel shall not look at how the nearest double is found.
      generalize ofSeconds (.ofInt i) = r at h ⊢
      cases hd : ofSeconds? i.toNat with
      | some d' =>
        rw [hd] at h
        cases h
        rfl
      | none =>
        rw [hd] at h
        cases r <;> cases h
        rfl
  | float x =>
    dsimp only at h ⊢
    cases hx : ofSeconds x <;> rw [hx] at h <;> cases h
    rfl
  | text s =>
    dsimp only at h ⊢
    cases hs : parse s <;> rw [hs] at h <;> cases h
    rfl
  | _ => cases h

/-- Whole seconds are read back. -/
theorem typed_toJson_of_whole {d : Duration} (h : d.nanos = 0) :
    Typed.duration d.toJson = .ok d := by
  have hneg : ¬ (d.seconds : Int) < 0 := by omega
  have hword : ofSeconds? d.seconds = some d := by
    rw [ofSeconds?, if_pos d.seconds_lt]
    refine congrArg some ?_
    obtain ⟨seconds, nanos, hseconds, hnanos⟩ := d
    obtain rfl : nanos = 0 := h
    rw [ofWholeSeconds, mk.injEq]
    exact ⟨UInt64.toNat_ofNat_of_lt' hseconds, rfl⟩
  unfold Typed.duration
  rw [toJson, if_pos h]
  dsimp only
  rw [if_neg hneg, Int.toNat_natCast, hword]

theorem typed_float {x : Binary64} {d : Duration} (h : ofSeconds x = .ok d) :
    Typed.duration (.float x) = .ok d := by
  unfold Typed.duration
  dsimp only
  rw [h]

/-- Other durations are read back if their seconds in double precision are. -/
theorem typed_toJson_of_fraction {d : Duration} (hnanos : d.nanos ≠ 0)
    (hfinite : d.toSeconds.isFinite = true) (h : ofSeconds d.toSeconds = .ok d) :
    Typed.duration d.toJson = .ok d := by
  have hfloat : d.toJson = .float d.toSeconds := by
    rw [toJson, if_neg hnanos, ofBinary64_of_finite hfinite]
  rw [hfloat]
  exact typed_float h

end Duration

namespace Config

variable {α : Type} {ms : Members} {key : String} {v : Json} {a : α}

/-! ### Readers -/

theorem readAt_of_find {decode : Json → Except Fault α} (hfind : Members.find? ms key = some v)
    (hnull : v ≠ .null) (ha : decode v = .ok a) (named : String) :
    readAt decode ms named key = .ok (some a) := by
  unfold readAt
  rw [Members.present?_eq_some.mpr ⟨hfind, hnull⟩]
  dsimp only
  rw [ha]

theorem readOr_of_find {decode : Json → Except Fault α} (hfind : Members.find? ms key = some v)
    (hnull : v ≠ .null) (ha : decode v = .ok a) (default : α) (named : String) :
    readOr decode default ms named key = .ok a := by
  rw [readOr, readAt_of_find hfind hnull ha]
  rfl

theorem readOr_duration {d : Duration} (hfind : Members.find? ms key = some d.toJson)
    (hd : Typed.duration d.toJson = .ok d) (default : Duration) (named : String) :
    readOr asDuration default ms named key = .ok d := by
  refine readOr_of_find hfind ?_ (Duration.asDuration_of_typed hd) default named
  intro hnull
  rw [hnull] at hd
  cases hd

theorem readOr_count {n : UInt32} (hfind : Members.find? ms key = some (Pool.countToJson n))
    (default : UInt32) (named : String) : readOr asCount default ms named key = .ok n :=
  readOr_of_find hfind nofun (asCount_eq_ok_iff.mpr (.count n)) default named

theorem readAt_section_ofMembers {l : List (String × Json)}
    (hfind : Members.find? ms key = some (.ofMembers l)) (named : String) :
    readAt asSection ms named key = .ok (some (Members.ofList l)) :=
  readAt_of_find hfind nofun (asSection_eq_ok_iff.mpr (.section _)) named

/-! ### Pools and sections -/

/-- The durations of a pool. -/
def poolDurations (p : Pool) : List Duration := [p.lifetime, p.idleTime, p.acquire]

theorem readPool_toJson {p : Pool}
    (h : ∀ d ∈ poolDurations p, Typed.duration d.toJson = .ok d) (defaults : Pool)
    (named : String) : readPool defaults named p.toJson.members = .ok p := by
  have hfind : ∀ key, Members.find? p.toJson.members key = _ := Members.find?_ofList _
  unfold readPool
  rw [readOr_count (hfind "max_open_conns"), readOr_count (hfind "max_idle_conns"),
    readOr_duration (hfind "conn_max_lifetime") (h _ (by simp [poolDurations])),
    readOr_duration (hfind "conn_max_idle_time") (h _ (by simp [poolDurations])),
    readOr_duration (hfind "acquire_timeout") (h _ (by simp [poolDurations]))]
  rfl

theorem readSection_toJson {s : Section}
    (h : ∀ d ∈ poolDurations s.pool, Typed.duration d.toJson = .ok d) (driver : Driver)
    (named : String) : readSection driver named s.toJson.members = .ok s := by
  have hfind : ∀ key, Members.find? s.toJson.members key = _ := Members.find?_ofList _
  unfold readSection
  rw [readOr_of_find (hfind "dsn") nofun (asText_eq_ok_iff.mpr (.text s.dsn)),
    readAt_section_ofMembers (hfind "pool_config")]
  show (readPool driver.defaultPool (join named "pool_config") s.pool.toJson.members >>= fun p =>
    pure (Section.mk s.dsn p)) = _
  rw [readPool_toJson h]
  rfl

/-! ### Configurations -/

theorem readObservability_toJson {o : Observability} (hrate : o.sampleRate.isFinite = true)
    (hslow : Typed.duration o.slowThreshold.toJson = .ok o.slowThreshold) :
    readObservability o.toJson.members = .ok o := by
  have hfind : ∀ key, Members.find? o.toJson.members key = _ := Members.find?_ofList _
  unfold readObservability
  dsimp only
  rw [readOr_duration (hfind "slow_query_threshold") hslow,
    readOr_of_find (hfind "log_sql") nofun (asBool_eq_ok_iff.mpr (.truth o.logSql)),
    readOr_of_find ((hfind "sample_rate").trans (congrArg some (ofBinary64_of_finite hrate))) nofun
      (asNumber_eq_ok_iff.mpr (.double o.sampleRate))]
  rfl

theorem lookup_sectionMember (k key : String) (s : Option Section) :
    (sectionMember k s).reverse.lookup key = if key = k then s.map Section.toJson else none := by
  cases s with
  | none => simp [sectionMember]
  | some s => exact Members.find?_cons k key s.toJson []

theorem find?_toJson_section {c : Config} {d : Driver} {key : String}
    (hkey : d.sectionKey? = some key) :
    Members.find? c.toJson.members key = (c.section? d).map Section.toJson := by
  show Members.find? (Members.ofList _) key = _
  rw [Members.find?_ofList]
  cases d <;> cases hkey
  all_goals simp [List.lookup_append, lookup_sectionMember, List.lookup_cons, section?]

/-- The durations of a configuration. -/
def durations (c : Config) : List Duration :=
  c.observability.slowThreshold ::
    ([c.sqlite, c.mysql, c.postgresql].flatMap Option.toList).flatMap fun s => poolDurations s.pool

theorem mem_durations {c : Config} {d : Driver} {s : Section} (hs : c.section? d = some s)
    {t : Duration} (ht : t ∈ poolDurations s.pool) : t ∈ c.durations := by
  refine .tail _ (List.mem_flatMap.mpr ⟨s, List.mem_flatMap.mpr ⟨some s, ?_, ?_⟩, ht⟩)
  · rw [← hs]
    cases d
    · exact .head _
    · exact .tail _ (.head _)
    · exact .tail _ (.tail _ (.head _))
    · cases hs
  · exact Option.mem_toList.mpr rfl

theorem readDriver_toJson {c : Config}
    (h : ∀ d ∈ c.durations, Typed.duration d.toJson = .ok d) (driver : Driver) :
    readDriver driver c.toJson.members = .ok (c.section? driver) := by
  unfold readDriver
  cases hkey : driver.sectionKey? with
  | none =>
    cases driver <;> cases hkey
    rfl
  | some key =>
    have hfind := find?_toJson_section (c := c) hkey
    dsimp only
    cases hs : c.section? driver with
    | none =>
      rw [hs] at hfind
      have hnone : readAt asSection c.toJson.members "" key = .ok none := by
        unfold readAt
        rw [Members.present?_eq_none.mpr (.inl hfind)]
      rw [hnone]
      rfl
    | some s =>
      rw [hs] at hfind
      rw [readAt_section_ofMembers hfind]
      show (readSection driver key s.toJson.members >>= fun s => pure (some s)) = _
      rw [readSection_toJson fun d hd => h d (mem_durations hs hd)]
      rfl

/-- A configuration is read back from what it is written to. -/
theorem ofJson_toJson (c : Config) (hrate : c.observability.sampleRate.isFinite = true)
    (hdurations : ∀ d ∈ c.durations, Typed.duration d.toJson = .ok d) :
    ofJson c.toJson = .ok c := by
  have hdriver : Members.find? c.toJson.members "driver" = some (.text c.driver) := by
    show Members.find? (Members.ofList _) _ = _
    rw [Members.find?_ofList]
    simp [List.lookup_append, lookup_sectionMember, List.lookup_cons]
  have hobservability : Members.find? c.toJson.members "observability_config" =
      some c.observability.toJson := by
    show Members.find? (Members.ofList _) _ = _
    rw [Members.find?_ofList]
    simp
  show ofMembers c.toJson.members = _
  unfold ofMembers
  rw [readOr_of_find hdriver nofun (asText_eq_ok_iff.mpr (.text c.driver)),
    readAt_section_ofMembers hobservability, readDriver_toJson hdurations .sqlite,
    readDriver_toJson hdurations .mysql, readDriver_toJson hdurations .postgresql]
  show (readObservability c.observability.toJson.members >>= _) = _
  rw [readObservability_toJson hrate (hdurations _ (.head _))]
  rfl

/-- Two drivers, and 200 milliseconds among the durations. -/
theorem ofJson_toJson_ofDsn :
    let c := (Config.ofDsn .mysql "mysql://db/app").setSection .sqlite (.ofDsn .sqlite "app.db")
    c.observability.sampleRate.isFinite = true ∧
      (∀ d ∈ c.durations, Typed.duration d.toJson = .ok d) ∧ ofJson c.toJson = .ok c := by
  intro c
  have hrate : c.observability.sampleRate.isFinite = true := by decide +kernel
  have hslow : Typed.duration c.observability.slowThreshold.toJson =
      .ok c.observability.slowThreshold :=
    Duration.typed_toJson_of_fraction (by decide) (by decide +kernel) (by decide +kernel)
  have hdurations : ∀ d ∈ c.durations, Typed.duration d.toJson = .ok d := by
    have hwhole : ∀ d ∈ c.durations.tail, d.nanos = 0 := by decide
    intro d hd
    rcases List.mem_cons.mp hd with rfl | hd
    · exact hslow
    · exact Duration.typed_toJson_of_whole (hwhole d hd)
  exact ⟨hrate, hdurations, ofJson_toJson c hrate hdurations⟩

end Config

end DataAccess
