import DataAccess.Proofs.Config.Locations

/-!
# Reading location by location

`Visits` says what it is to read some locations in order: either nothing ill-formed stands there,
and what is read mirrors the tree, or the error names the first location where something does.
Readings one after the other visit the locations of both (`Visits.bind`), so there is one lemma for each
reader, up to `visits_ofMembers` for all locations.
-/

namespace DataAccess.Config

open Number Json

variable {α β : Type} {root : Json}

/-! ### Readings -/

/-- A reading of locations in order: it answers something with a property if none of them is
ill-formed, and else an error that names the first one that is. -/
def Visits (root : Json) (ls : List Location) (r : Except Error α) (good : α → Prop) : Prop :=
  match r with
  | .ok a => (∀ l ∈ ls, ¬ IllFormed root l) ∧ good a
  | .error e => ∃ before l after, ls = before ++ l :: after ∧ (∀ b ∈ before, ¬ IllFormed root b) ∧
      IllFormed root l ∧ e.field = some (dotted l.path)

theorem Visits.nothing {good : α → Prop} {a : α} (h : good a) : Visits root [] (.ok a) good :=
  ⟨nofun, h⟩

/-- Locations below a place where there is nothing are not ill-formed. -/
theorem Visits.absent {ls : List Location} {good : α → Prop} {a : α}
    (hls : ∀ l ∈ ls, root.at? l.path = none) (h : good a) : Visits root ls (.ok a) good := by
  refine ⟨fun l hl => ?_, h⟩
  rintro ⟨v, hv, -⟩
  rw [hls l hl] at hv
  cases hv

theorem Visits.bind {s t : List Location} {r : Except Error α} {f : α → Except Error β}
    {mid : α → Prop} {good : β → Prop} (h : Visits root s r mid)
    (hf : ∀ a, mid a → Visits root t (f a) good) : Visits root (s ++ t) (r >>= f) good := by
  cases r with
  | error e =>
    obtain ⟨before, l, after, rfl, hbefore, hl, he⟩ := h
    exact ⟨before, l, after ++ t, List.append_assoc .., hbefore, hl, he⟩
  | ok a =>
    obtain ⟨hs, ha⟩ := h
    show Visits root (s ++ t) (f a) good
    have hrest := hf a ha
    cases hfa : f a with
    | error e =>
      rw [hfa] at hrest
      obtain ⟨before, l, after, rfl, hbefore, hl, he⟩ := hrest
      refine ⟨s ++ before, l, after, (List.append_assoc ..).symm, fun b hb => ?_, hl, he⟩
      rcases List.mem_append.mp hb with hb | hb
      · exact hs b hb
      · exact hbefore b hb
    | ok b =>
      rw [hfa] at hrest
      refine ⟨fun l hl => ?_, hrest.2⟩
      rcases List.mem_append.mp hl with hl | hl
      · exact hs l hl
      · exact hrest.1 l hl

theorem Visits.mono {ls : List Location} {r : Except Error α} {good good' : α → Prop}
    (h : Visits root ls r good) (himp : ∀ a, good a → good' a) : Visits root ls r good' := by
  cases r with
  | error e => exact h
  | ok a => exact ⟨h.1, himp a h.2⟩

theorem Visits.map {ls : List Location} {r : Except Error α} {mid : α → Prop} {good : β → Prop}
    {f : α → β} (h : Visits root ls r mid) (hf : ∀ a, mid a → good (f a)) :
    Visits root ls (r.map f) good := by
  cases r with
  | error e => exact h
  | ok a => exact ⟨h.1, hf a h.2⟩

/-! ### One location -/

theorem join_dotted {path : List String} (h : (dotted path).isEmpty = path.isEmpty) (key : String) :
    join (dotted path) key = dotted (path ++ [key]) := by
  unfold join
  rw [h]
  cases path with
  | nil => exact String.intercalate_singleton.symm
  | cons k rest =>
    have hpath := String.intercalate_append_of_ne_nil (l := k :: rest) (m := [key]) (s := ".")
      (List.cons_ne_nil k rest) (List.cons_ne_nil key [])
    rw [String.intercalate_singleton] at hpath
    exact hpath.symm

theorem Fault.field_at (fault : Fault) (field : String) : (fault.at field).field = some field := by
  cases fault <;> rfl

/-- What a location holds: something that stands for `a`, or nothing, which counts as a default. -/
def Held (root : Json) (path : List String) (k : Kind) (default a : k.Value) : Prop :=
  (∃ v, root.at? path = some v ∧ v ≠ .null ∧ Stands k v a) ∨
    ((root.at? path = none ∨ root.at? path = some .null) ∧ a = default)

section

variable {path : List String} {k : Kind} {default a b : k.Value}

theorem not_absent {v : Json} (hv : root.at? path = some v) (hnull : v ≠ .null) :
    ¬ (root.at? path = none ∨ root.at? path = some .null) := by
  rw [hv]
  exact fun h => h.elim nofun fun h => hnull (Option.some.inj h)

theorem Held.unique (ha : Held root path k default a) (hb : Held root path k default b) : a = b := by
  rcases ha with ⟨v, hv, hnull, ha⟩ | ⟨habsent, rfl⟩
  · rcases hb with ⟨w, hw, -, hb⟩ | ⟨habsent, -⟩
    · obtain rfl := Option.some.inj (hv.symm.trans hw)
      exact ha.unique hb
    · exact absurd habsent (not_absent hv hnull)
  · rcases hb with ⟨w, hw, hnull, -⟩ | ⟨-, rfl⟩
    · exact absurd habsent (not_absent hw hnull)
    · rfl

/-- What is not null at a location stands for what is held there. -/
theorem Held.stands {v : Json} (h : Held root path k default a) (hat : root.at? path = some v)
    (hnull : v ≠ .null) : Stands k v a := by
  rcases h with ⟨w, hw, -, hstands⟩ | ⟨habsent, -⟩
  · rwa [Option.some.inj (hat.symm.trans hw)]
  · exact absurd habsent (not_absent hat hnull)

/-- What stands at a location is held there. -/
theorem Held.eq_of_stands {v : Json} (h : Held root path k default a) (hat : root.at? path = some v)
    (hv : Stands k v b) : a = b := by
  refine (h.stands hat ?_).unique hv
  rintro rfl
  cases hv

theorem Held.not_illFormed (h : Held root path k default a) : ¬ IllFormed root ⟨path, k⟩ := by
  rintro ⟨v, hv, hnull, hill⟩
  rcases h with ⟨w, hw, -, hstands⟩ | ⟨habsent, -⟩
  · obtain rfl := Option.some.inj (hw.symm.trans hv)
    exact hill a hstands
  · exact not_absent hv hnull habsent

end

/-- A place below one that is read: the members there, and its path as errors write it. -/
structure Below (root : Json) (path : List String) (ms : Members) : Prop where
  found : root.at? path = some (.object ms)
  named : (dotted path).isEmpty = path.isEmpty

section

variable {path : List String} {ms : Members} {key : String} {k : Kind}

theorem visits_readAt {decode : Json → Except Fault k.Value}
    (hdecode : ∀ {v a}, decode v = .ok a ↔ Stands k v a) (h : Below root path ms) :
    Visits root [⟨path ++ [key], k⟩] (readAt decode ms (dotted path) key) fun o =>
      (∃ v a, o = some a ∧ root.at? (path ++ [key]) = some v ∧ v ≠ .null ∧ Stands k v a) ∨
        o = none ∧ (root.at? (path ++ [key]) = none ∨ root.at? (path ++ [key]) = some .null) := by
  have hat := at?_append_key h.found key
  unfold readAt
  split
  · next hnone =>
    rw [Members.present?_eq_none, ← hat] at hnone
    refine ⟨fun l hl => ?_, .inr ⟨rfl, hnone⟩⟩
    rw [List.mem_singleton.mp hl]
    rintro ⟨v, hv, hnull, -⟩
    exact not_absent hv hnull hnone
  · next v hv =>
    rw [Members.present?_eq_some, ← hat] at hv
    obtain ⟨hv, hnull⟩ := hv
    split
    · next a ha =>
      have hstands := hdecode.mp ha
      refine ⟨fun l hl => ?_, .inl ⟨v, a, rfl, hv, hnull, hstands⟩⟩
      rw [List.mem_singleton.mp hl]
      rintro ⟨w, hw, -, hill⟩
      obtain rfl := Option.some.inj (hv.symm.trans hw)
      exact hill a hstands
    · next fault hfault =>
      refine ⟨[], _, [], rfl, nofun, ⟨v, hv, hnull, fun a ha => ?_⟩, ?_⟩
      · cases hfault.symm.trans (hdecode.mpr ha)
      · rw [Fault.field_at, join_dotted h.named]

theorem visits_readOr {decode : Json → Except Fault k.Value}
    (hdecode : ∀ {v a}, decode v = .ok a ↔ Stands k v a) (h : Below root path ms)
    (key : String) (default : k.Value) :
    Visits root [⟨path ++ [key], k⟩] (readOr decode default ms (dotted path) key)
      (Held root (path ++ [key]) k default) := by
  refine (visits_readAt hdecode h).map fun o ho => ?_
  rcases ho with ⟨v, a, rfl, hv⟩ | ⟨rfl, hnone⟩
  · exact .inl ⟨v, hv.1, hv.2.1, hv.2.2⟩
  · exact .inr ⟨hnone, rfl⟩

/-- An object at a location is found there, and otherwise there is nothing. -/
theorem visits_readAt_section (h : Below root path ms)
    (hnamed : (dotted (path ++ [key])).isEmpty = (path ++ [key]).isEmpty) :
    Visits root [⟨path ++ [key], .section⟩] (readAt asSection ms (dotted path) key) fun o =>
      (∃ sect, o = some sect ∧ Below root (path ++ [key]) sect) ∨
        o = none ∧ (root.at? (path ++ [key]) = none ∨ root.at? (path ++ [key]) = some .null) := by
  refine (visits_readAt (k := .section) asSection_eq_ok_iff h).mono fun o ho => ?_
  rcases ho with ⟨v, sect, rfl, hv, -, ⟨⟩⟩ | hnone
  · exact .inl ⟨sect, rfl, hv, hnamed⟩
  · exact .inr hnone

end

/-! ### Pools and sections -/

/-- A pool is what a place holds, over some defaults. -/
structure PoolMirrors (root : Json) (path : List String) (defaults p : Pool) : Prop where
  maxOpen : Held root (path ++ ["max_open_conns"]) .count defaults.maxOpen p.maxOpen
  maxIdle : Held root (path ++ ["max_idle_conns"]) .count defaults.maxIdle p.maxIdle
  lifetime : Held root (path ++ ["conn_max_lifetime"]) .duration defaults.lifetime p.lifetime
  idleTime : Held root (path ++ ["conn_max_idle_time"]) .duration defaults.idleTime p.idleTime
  acquire : Held root (path ++ ["acquire_timeout"]) .duration defaults.acquire p.acquire

theorem PoolMirrors.unique {path : List String} {defaults p q : Pool}
    (hp : PoolMirrors root path defaults p) (hq : PoolMirrors root path defaults q) : p = q := by
  obtain ⟨maxOpen, maxIdle, lifetime, idleTime, acquire⟩ := p
  rw [Pool.mk.injEq]
  exact ⟨hp.maxOpen.unique hq.maxOpen, hp.maxIdle.unique hq.maxIdle,
    hp.lifetime.unique hq.lifetime, hp.idleTime.unique hq.idleTime, hp.acquire.unique hq.acquire⟩

theorem PoolMirrors.not_illFormed {path : List String} {defaults p : Pool}
    (h : PoolMirrors root path defaults p) : ∀ l ∈ poolLocations path, ¬ IllFormed root l := by
  simp only [poolLocations, List.forall_mem_cons]
  exact ⟨h.maxOpen.not_illFormed, h.maxIdle.not_illFormed, h.lifetime.not_illFormed,
    h.idleTime.not_illFormed, h.acquire.not_illFormed, List.forall_mem_nil _⟩

/-- A section is what a key of a configuration holds, over the defaults of a driver. -/
structure SectionMirrors (root : Json) (driver : Driver) (key : String) (s : Section) : Prop where
  present : ∃ ms, root.at? [key] = some (.object ms)
  dsn : Held root [key, "dsn"] .text "" s.dsn
  pool : PoolMirrors root [key, "pool_config"] driver.defaultPool s.pool

theorem visits_readPool {path : List String} {ms : Members} (defaults : Pool)
    (h : Below root path ms) :
    Visits root (poolLocations path) (readPool defaults (dotted path) ms)
      (PoolMirrors root path defaults) := by
  unfold readPool
  refine .bind (visits_readOr (k := .count) asCount_eq_ok_iff h _ _) fun maxOpen hopen => ?_
  refine .bind (visits_readOr (k := .count) asCount_eq_ok_iff h _ _) fun maxIdle hidle => ?_
  refine .bind (visits_readOr (k := .duration) asDuration_eq_ok_iff h _ _)
    fun lifetime hlifetime => ?_
  refine .bind (visits_readOr (k := .duration) asDuration_eq_ok_iff h _ _)
    fun idleTime hidleTime => ?_
  refine .bind (t := []) (visits_readOr (k := .duration) asDuration_eq_ok_iff h _ _)
    fun acquire hacquire => ?_
  exact .nothing ⟨hopen, hidle, hlifetime, hidleTime, hacquire⟩

/-- Where there is no pool the defaults count. -/
theorem visits_defaultPool {path : List String} (defaults : Pool)
    (h : root.at? path = none ∨ root.at? path = some .null) :
    Visits root (poolLocations path) (.ok defaults) (PoolMirrors root path defaults) := by
  have hbelow : ∀ key, root.at? (path ++ [key]) = none := fun key => at?_below h key []
  refine .absent (fun l hl => ?_) ?_
  · simp only [poolLocations, List.mem_cons, List.not_mem_nil, or_false] at hl
    rcases hl with rfl | rfl | rfl | rfl | rfl
    all_goals exact hbelow _
  · exact ⟨.inr ⟨.inl (hbelow _), rfl⟩, .inr ⟨.inl (hbelow _), rfl⟩, .inr ⟨.inl (hbelow _), rfl⟩,
      .inr ⟨.inl (hbelow _), rfl⟩, .inr ⟨.inl (hbelow _), rfl⟩⟩

theorem visits_readSection (driver : Driver) {key : String} {ms : Members}
    (h : Below root [key] ms) :
    Visits root (inSection key) (readSection driver (dotted [key]) ms)
      (SectionMirrors root driver key) := by
  have hnamed : (dotted [key, "pool_config"]).isEmpty = false := by simp [dotted]
  unfold readSection
  refine .bind (s := [_])
    (visits_readOr (k := .text) asText_eq_ok_iff h "dsn" "") fun dsn hdsn => ?_
  refine .bind (s := [_]) (visits_readAt_section h hnamed) fun o ho => ?_
  rcases ho with ⟨pool, rfl, hpool⟩ | ⟨rfl, hnone⟩
  · rw [join_dotted h.named]
    refine .bind (t := []) (visits_readPool _ hpool) fun p hp => ?_
    exact .nothing ⟨⟨ms, h.found⟩, hdsn, hp⟩
  · exact (visits_defaultPool driver.defaultPool hnone).map (f := fun p => (⟨dsn, p⟩ : Section))
      fun p hp => ⟨⟨ms, h.found⟩, hdsn, hp⟩

/-- What is read for a driver: its section if there is an object, and otherwise nothing. -/
def DriverMirrors (root : Json) (driver : Driver) (key : String) : Option Section → Prop
  | some s => SectionMirrors root driver key s
  | none => ∀ ms, root.at? [key] ≠ some (.object ms)

theorem visits_readDriver {driver : Driver} {key : String} {ms : Members}
    (hkey : driver.sectionKey? = some key) :
    Visits (.object ms) (⟨[key], .section⟩ :: inSection key) (readDriver driver ms)
      (DriverMirrors (.object ms) driver key) := by
  have hroot : Below (.object ms) [] ms := ⟨rfl, rfl⟩
  have hnamed : (dotted [key]).isEmpty = false := by
    cases driver <;> cases hkey <;> rfl
  unfold readDriver
  rw [hkey]
  refine .bind (s := [_]) (t := inSection key) (visits_readAt_section hroot hnamed) fun o ho => ?_
  rcases ho with ⟨sect, rfl, hsect⟩ | ⟨rfl, hnone⟩
  · exact (visits_readSection driver hsect).map fun s hs => hs
  · refine .absent (fun l hl => ?_) fun sect hsect => ?_
    · obtain ⟨k, rest, hpath⟩ := path_of_mem_inSection hl
      rw [hpath]
      exact at?_below hnone k rest
    · rw [List.nil_append, hsect] at hnone
      exact hnone.elim nofun nofun

/-! ### Configurations -/

/-- Observability settings are what a configuration holds, over the standard ones. -/
structure ObservabilityMirrors (root : Json) (o : Observability) : Prop where
  slowThreshold : Held root ["observability_config", "slow_query_threshold"] .duration
    Observability.standard.slowThreshold o.slowThreshold
  logSql : Held root ["observability_config", "log_sql"] .truth
    Observability.standard.logSql o.logSql
  sampleRate : Held root ["observability_config", "sample_rate"] .number
    Observability.standard.sampleRate o.sampleRate

theorem ObservabilityMirrors.unique {b b' : Observability} (h : ObservabilityMirrors root b)
    (h' : ObservabilityMirrors root b') : b = b' := by
  obtain ⟨slowThreshold, logSql, sampleRate⟩ := b
  rw [Observability.mk.injEq]
  exact ⟨h.slowThreshold.unique h'.slowThreshold, h.logSql.unique h'.logSql,
    h.sampleRate.unique h'.sampleRate⟩

theorem ObservabilityMirrors.not_illFormed {b : Observability} (h : ObservabilityMirrors root b) :
    ∀ l ∈ inObservability, ¬ IllFormed root l := by
  simp only [inObservability, List.forall_mem_cons]
  exact ⟨h.slowThreshold.not_illFormed, h.logSql.not_illFormed, h.sampleRate.not_illFormed,
    List.forall_mem_nil _⟩

/-- A configuration is what a tree holds: each setting that is there, and defaults for the others;
each section that is there, and no others. -/
structure Mirrors (root : Json) (c : Config) : Prop where
  driver : Held root ["driver"] .text "" c.driver
  observability : ObservabilityMirrors root c.observability
  sections : ∀ d key, d.sectionKey? = some key → DriverMirrors root d key (c.section? d)

/-- Where there is something below the key of a driver, there is a section for it. -/
theorem Mirrors.section_of_at? {c : Config} {d : Driver} {key k : String} {rest : List String}
    {v : Json} (h : Mirrors root c) (hkey : d.sectionKey? = some key)
    (hat : root.at? (key :: k :: rest) = some v) :
    ∃ s, c.section? d = some s ∧ SectionMirrors root d key s := by
  have hsection := h.sections d key hkey
  cases hs : c.section? d with
  | none =>
    rw [hs] at hsection
    obtain ⟨ms, hms⟩ := object_of_at? hat
    exact absurd hms (hsection ms)
  | some s =>
    rw [hs] at hsection
    exact ⟨s, rfl, hsection⟩

theorem visits_readObservability {ms : Members} (h : Below root ["observability_config"] ms) :
    Visits root inObservability (readObservability ms) (ObservabilityMirrors root) := by
  unfold readObservability
  refine .bind (s := [_]) (visits_readOr (k := .duration) asDuration_eq_ok_iff h _ _)
    fun slow hslow => ?_
  refine .bind (s := [_]) (visits_readOr (k := .truth) asBool_eq_ok_iff h _ _) fun log hlog => ?_
  refine .bind (s := [_]) (t := []) (visits_readOr (k := .number) asNumber_eq_ok_iff h _ _)
    fun rate hrate => ?_
  exact .nothing ⟨hslow, hlog, hrate⟩

/-- Where there are no observability settings the standard ones count. -/
theorem visits_standard (h : root.at? ["observability_config"] = none ∨
    root.at? ["observability_config"] = some .null) :
    Visits root inObservability (.ok Observability.standard) (ObservabilityMirrors root) := by
  have hbelow : ∀ key, root.at? ["observability_config", key] = none :=
    fun key => at?_below h key []
  refine .absent (fun l hl => ?_) ?_
  · simp only [inObservability, List.mem_cons, List.not_mem_nil, or_false] at hl
    rcases hl with rfl | rfl | rfl
    all_goals exact hbelow _
  · exact ⟨.inr ⟨.inl (hbelow _), rfl⟩, .inr ⟨.inl (hbelow _), rfl⟩, .inr ⟨.inl (hbelow _), rfl⟩⟩

/-- The drivers come last. -/
theorem visits_drivers {ms : Members} {driver : String} {observability : Observability}
    (hdriver : Held (.object ms) ["driver"] .text "" driver)
    (hobservability : ObservabilityMirrors (.object ms) observability) :
    Visits (.object ms)
      (["sqlite_config", "mysql_config", "postgresql_config"].flatMap fun key =>
        ⟨[key], .section⟩ :: inSection key)
      (do
        let sqlite ← readDriver .sqlite ms
        let mysql ← readDriver .mysql ms
        let postgresql ← readDriver .postgresql ms
        return { driver, sqlite, mysql, postgresql, observability })
      (Mirrors (.object ms)) := by
  refine .bind (visits_readDriver rfl) fun sqlite hsqlite => ?_
  refine .bind (visits_readDriver rfl) fun mysql hmysql => ?_
  refine .bind (visits_readDriver rfl) fun postgresql hpostgresql => ?_
  refine .nothing ⟨hdriver, hobservability, fun d key hkey => ?_⟩
  cases d <;> cases hkey
  · exact hsqlite
  · exact hmysql
  · exact hpostgresql

/-- Reading a raw configuration visits all locations in order. -/
theorem visits_ofMembers (ms : Members) :
    Visits (.object ms) locations (ofMembers ms) (Mirrors (.object ms)) := by
  have hroot : Below (.object ms) [] ms := ⟨rfl, rfl⟩
  unfold ofMembers
  refine .bind (s := [_]) (visits_readOr (k := .text) asText_eq_ok_iff hroot "driver" "")
    fun driver hdriver => ?_
  refine .bind (s := [_]) (visits_readAt_section hroot rfl) fun o ho => ?_
  rcases ho with ⟨sect, rfl, hsect⟩ | ⟨rfl, hnone⟩
  · exact (visits_readObservability hsect).bind fun _ => visits_drivers hdriver
  · exact (visits_standard hnone).bind fun _ => visits_drivers hdriver

/-- What is read mirrors the tree. -/
theorem mirrors_of_ofMembers {ms : Members} {c : Config} (h : ofMembers ms = .ok c) :
    Mirrors (.object ms) c := by
  have hvisits := visits_ofMembers ms
  rw [h] at hvisits
  exact hvisits.2

end DataAccess.Config
