import DataAccess.Proofs.Config.Agreement
import DataAccess.Proofs.Json.Members
import DataAccess.Proofs.Factory.Build

/-!
# The ways of a factory agree

A factory makes managers in three ways: strictly from a configuration, leniently from a raw one, and
leniently from a source. The lenient ways are the strict one, with a manager without a database in
place of its error (`Factory.ways_agree`). Nothing else can differ: the work that opens the database
is the same, whatever effects it has.
-/

namespace DataAccess

open Json Text

/-! ### Another driver -/

namespace Config

variable {ms : Members} {k key : String}

theorem present?_insert_of_ne (h : key ≠ k) (v : Json) :
    (Members.insert k v ms).present? key = ms.present? key := by
  unfold Members.present?
  rw [Members.find?_insert, if_neg h]

theorem present?_insert_text (s : String) :
    (Members.insert k (.text s) ms).present? k = some (.text s) := by
  rw [Members.present?_eq_some, Members.find?_insert, if_pos rfl]
  exact ⟨rfl, nofun⟩

theorem readAt_insert_of_ne {α : Type} (decode : Json → Except Fault α) (h : key ≠ k) (v : Json)
    (path : String) : readAt decode (Members.insert k v ms) path key = readAt decode ms path key := by
  unfold readAt
  rw [present?_insert_of_ne h]

theorem readDriver_insert (d : Driver) (v : Json) :
    readDriver d (Members.insert "driver" v ms) = readDriver d ms := by
  unfold readDriver
  cases d with
  | none => rfl
  | sqlite => exact congrArg (· >>= _) (readAt_insert_of_ne asSection (by decide) v "")
  | mysql => exact congrArg (· >>= _) (readAt_insert_of_ne asSection (by decide) v "")
  | postgresql => exact congrArg (· >>= _) (readAt_insert_of_ne asSection (by decide) v "")

/-- To put a driver into a raw configuration is to put it into what is read. A driver that is not a
text would be an error, so there must be none. -/
theorem ofMembers_insert_driver (h : ∀ v, ms.present? "driver" = some v → ∃ s, v = .text s)
    (name : String) : ofMembers (Members.insert "driver" (.text name) ms) =
      (ofMembers ms).map fun c => { c with driver := name } := by
  have hname : readOr asText "" (Members.insert "driver" (.text name) ms) "" "driver" =
      .ok name := by
    rw [readOr, readAt, present?_insert_text]
    rfl
  obtain ⟨s, hs⟩ : ∃ s, readOr asText "" ms "" "driver" = .ok s := by
    rw [readOr, readAt]
    cases hv : ms.present? "driver" with
    | none => exact ⟨"", rfl⟩
    | some v =>
      obtain ⟨s, rfl⟩ := h v hv
      exact ⟨s, rfl⟩
  -- All other keys are read as before, so only the name that is put into the result differs.
  unfold ofMembers
  rw [hname, hs, readAt_insert_of_ne asSection (by decide), readDriver_insert, readDriver_insert,
    readDriver_insert]
  show _ = (fun c : Config => { c with driver := name }) <$> (Except.ok s >>= _)
  rw [ok_bind, ok_bind, map_bind]
  apply bind_congr
  intro sect
  cases sect with
  | none => simp only [map_bind, map_pure]
  | some sect => simp only [map_bind, map_pure]

/-- Without overrides a source of members is read like the object that a key leads to. -/
theorem load_of_source {root : Members} {o : Override}
    (hroot : sourceOfMembers root key = .ok (.object ms)) (hdriver : nonBlank o.driver = none)
    (hdsn : nonBlank o.dsn = none) : (load (sourceOfMembers root) key o).1 = ofMembers ms := by
  rw [load, hroot]
  dsimp only [ofJson]
  cases ofMembers ms with
  | error e => rfl
  | ok c =>
    have hkept : c.applyOverride o = ⟨c, [], .ok ()⟩ := by
      rw [applyOverride, hdriver]
      dsimp only
      rw [overrideDsn, hdsn]
    dsimp only
    rw [hkept]

end Config

namespace Access

open Config Observation

variable {σ : Type} {m : Type → Type} [Monad m]

/-! ### What is made -/

structure Made (name : String) (d : Driver) (o : Observability) (made : Manager σ) : Prop where
  name : made.name = name
  driver : made.driver = d
  observability : made.observability = o

namespace Factory

/-- The strict way from a raw configuration. -/
def strict (f : Factory) (connect : ConnectIn m σ) (raw : Members) : BuildingIn m (Manager σ) := do
  let c ← MonadExcept.ofExcept ((Config.ofMembers raw).mapError .config)
  f.build connect c

/-- A manager without a database in place of an error. -/
def replaced (f : Factory) : Except Error (Manager σ) → Manager σ
  | .ok made => made
  | .error _ => .withoutDatabase f.name (f.plugin .standard)

end Factory

section

variable [LawfulMonad m]

theorem connect_made (t : Adapter.Target) (connect : ConnectIn m σ) (name : String) (d : Driver)
    (p : Plugin) : Always (fun r => ∀ made, r = .ok made → Made name d p.settings made)
      (t.connect connect name d p) := by
  unfold Adapter.Target.connect
  split
  · refine .pure fun made hmade => ?_
    cases hmade
  · refine (Always.trivial _).bind fun r _ => ?_
    cases r with
    | error failure =>
      refine .pure fun made hmade => ?_
      cases hmade
    | ok connection =>
      refine .pure fun made hmade => ?_
      rw [← Except.ok.inj hmade]
      exact ⟨rfl, rfl, rfl⟩

theorem open_made (connect : ConnectIn m σ) (name : String) (d : Driver) (s : Config.Section)
    (p : Plugin) (notices : List Notice) :
    Always (fun r => ∀ made, r.1 = .ok made → Made name d p.settings made)
      ((Manager.open connect name d s p).run.run notices) := by
  cases htarget : Adapter.target d s with
  | error e =>
    rw [open_of_error htarget]
    refine .pure fun made hmade => ?_
    cases hmade
  | ok t =>
    rw [open_of_target htarget]
    exact (connect_made t connect name d p).map fun r hr => hr

namespace Factory

theorem build_made (f : Factory) (connect : ConnectIn m σ) (c : Config) (notices : List Notice) :
    Always (fun r => ∀ made, r.1 = .ok made →
        ∃ d : Driver, c.driver = d.name ∧ Made f.name d c.observability made)
      ((f.build connect c).run.run notices) := by
  cases h : c.validate with
  | error e =>
    rw [build_of_error h]
    refine .pure fun made hmade => ?_
    cases hmade
  | ok u =>
    -- A valid configuration names a driver, and has a section for it unless that is none.
    obtain ⟨d, hd⟩ := mem_names_iff.1 (validate_eq_ok_iff.1 h).driver
    by_cases hnone : d = .none
    · subst hnone
      rw [build_of_none h hd]
      refine .pure fun made hmade => ⟨.none, hd, ?_⟩
      rw [← Except.ok.inj hmade]
      exact ⟨rfl, rfl, rfl⟩
    · obtain ⟨s, -, hs, -⟩ := section_of_validate h hd hnone
      rw [build_of_section h hd hnone hs]
      refine (open_made connect f.name d s _ notices).mono fun r hr made hmade => ?_
      exact ⟨d, hd, hr made hmade⟩

/-! ### The ways -/

theorem run_fallback (f : Factory) (cause : Error) (notices : List Notice) :
    (f.fallback cause : ReportingIn m (Manager σ)).run notices =
      pure (f.replaced (.error cause), .fallback f.name cause :: notices) := by
  have hmodify : (modify (.fallback f.name cause :: ·) : ReportingIn m PUnit).run notices =
      pure (PUnit.unit, .fallback f.name cause :: notices) := rfl
  rw [fallback, StateT.run_bind, hmodify, pure_bind]
  rfl

theorem run_lenient (f : Factory) (work : BuildingIn m (Manager σ)) (notices : List Notice) :
    Prod.fst <$> (f.lenient work).run notices = (fun r => f.replaced r.1) <$> work.run.run notices := by
  have hrun : (f.lenient work).run notices = work.run.run notices >>= fun r =>
      (match r.1 with
        | .ok made => (pure made : ReportingIn m (Manager σ))
        | .error cause => f.fallback cause).run r.2 := rfl
  rw [hrun, map_bind, map_eq_pure_bind]
  apply bind_congr
  intro r
  obtain ⟨r, left⟩ := r
  cases r with
  | ok made => exact map_pure _ _
  | error cause =>
    show Prod.fst <$> (f.fallback cause).run left = _
    rw [run_fallback]
    exact map_pure _ _

/-- What the strict way answers, and what stands for it: a manager with the driver and the settings
of the configuration, or one without either. -/
structure Degrades (f : Factory) (raw : Members) (r : Except Error (Manager σ)) : Prop where
  name : (f.replaced r).name = f.name
  driver : (f.replaced r).driver = .none ↔
    (∃ e, r = .error e) ∨ ∃ c, Config.ofMembers raw = .ok c ∧ c.driver = Driver.none.name
  configured : ∀ made, r = .ok made → ∃ c d, Config.ofMembers raw = .ok c ∧
    c.driver = Driver.name d ∧ Made f.name d c.observability made
  standard : ∀ e, r = .error e → (f.replaced r).observability = .standard

theorem degrades_error (f : Factory) (raw : Members) (e : Error) :
    f.Degrades raw (.error e : Except Error (Manager σ)) := by
  refine ⟨rfl, iff_of_true rfl (.inl ⟨e, rfl⟩), ?_, fun _ _ => rfl⟩
  intro made hmade
  cases hmade

theorem degrades_ok {f : Factory} {raw : Members} {c : Config} {d : Driver} {made : Manager σ}
    (hraw : Config.ofMembers raw = .ok c) (hd : c.driver = d.name)
    (hmade : Made f.name d c.observability made) : f.Degrades raw (.ok made) := by
  refine ⟨hmade.name, ?_, ?_, ?_⟩
  · show made.driver = .none ↔ _
    rw [hmade.driver]
    constructor
    · rintro rfl
      exact .inr ⟨c, hraw, hd⟩
    · rintro (⟨e, he⟩ | ⟨c', hraw', hnone⟩)
      · cases he
      · -- Names of drivers are distinct, so one that is called none is none.
        cases hraw.symm.trans hraw'
        exact Driver.name_injective (hd.symm.trans hnone)
  · intro made' hmade'
    cases hmade'
    exact ⟨c, d, hraw, hd, hmade⟩
  · intro e he
    cases he

theorem strict_degrades (f : Factory) (connect : ConnectIn m σ) (raw : Members)
    (notices : List Notice) :
    Always (fun r => f.Degrades raw r.1) ((f.strict connect raw).run.run notices) := by
  unfold strict
  cases hraw : Config.ofMembers raw with
  | error e =>
    have hthrow := ofExcept_error_bind (.config e) (f.build connect)
    rw [Except.mapError, hthrow]
    exact .pure (degrades_error f raw (.config e))
  | ok c =>
    rw [Except.mapError, ofExcept_ok_bind]
    refine (build_made f connect c notices).mono fun r hr => ?_
    obtain ⟨r, left⟩ := r
    cases r with
    | error e => exact degrades_error f raw e
    | ok made =>
      obtain ⟨d, hd, hmade⟩ := hr made rfl
      exact degrades_ok hraw hd hmade

theorem buildRaw_of_ok {raw : Members} {c : Config} (h : Config.ofMembers raw = .ok c)
    (f : Factory) (connect : ConnectIn m σ) (driverName : String) :
    f.buildRaw connect driverName raw = f.lenient (f.build connect (selecting driverName c)) := by
  unfold buildRaw
  rw [h, Except.mapError, ofExcept_ok_bind]

theorem buildRaw_of_error {raw : Members} {e : Config.Error} (h : Config.ofMembers raw = .error e)
    (f : Factory) (connect : ConnectIn m σ) (driverName : String) :
    f.buildRaw connect driverName raw = f.lenient (throw (.config e)) := by
  unfold buildRaw
  rw [h, Except.mapError, ofExcept_error_bind]

/-- A driver that is given by its name counts as if it were the one of the configuration. -/
theorem buildRaw_insert_driver (f : Factory) (connect : ConnectIn m σ) {raw : Members}
    {driverName : String} (hname : isAllBlank driverName = false)
    (hraw : ∀ v, raw.present? "driver" = some v → ∃ s, v = .text s) :
    f.buildRaw connect driverName raw =
      f.buildRaw connect "" (Members.insert "driver" (.text driverName) raw) := by
  have hinsert := ofMembers_insert_driver hraw driverName
  cases hread : Config.ofMembers raw with
  | error e =>
    rw [hread] at hinsert
    rw [buildRaw_of_error hread, buildRaw_of_error hinsert]
  | ok c =>
    rw [hread] at hinsert
    rw [buildRaw_of_ok hread, buildRaw_of_ok hinsert, selecting, hname]
    rfl

/-- The lenient ways of a factory are the strict one, whose errors they replace, and a driver that is
given by its name may as well be put into the raw configuration. -/
theorem ways_agree (f : Factory) (connect : ConnectIn m σ) (raw : Members) :
    f.buildRaw connect "" raw = f.lenient (f.strict connect raw) ∧
    (∀ root key o, sourceOfMembers root key = .ok (.object raw) → nonBlank o.driver = none →
      nonBlank o.dsn = none →
        f.buildFrom connect (sourceOfMembers root) key o = f.lenient (f.strict connect raw)) ∧
    (∀ notices, Prod.fst <$> (f.lenient (f.strict connect raw)).run notices =
      (fun r => f.replaced r.1) <$> (f.strict connect raw).run.run notices) ∧
    (∀ notices, Always (fun r => f.Degrades raw r.1) ((f.strict connect raw).run.run notices)) ∧
    (∀ driverName, isAllBlank driverName = false →
      (∀ v, raw.present? "driver" = some v → ∃ s, v = .text s) →
        f.buildRaw connect driverName raw =
          f.buildRaw connect "" (Members.insert "driver" (.text driverName) raw)) := by
  refine ⟨rfl, ?_, fun notices => run_lenient f _ notices,
    strict_degrades f connect raw, ?_⟩
  · intro root key o hroot hdriver hdsn
    unfold buildFrom
    rw [load_of_source hroot hdriver hdsn]
    rfl
  · intro driverName hname hraw
    exact buildRaw_insert_driver f connect hname hraw

end Factory

end

namespace Factory

/-- A database in memory. -/
def memoryMembers : Members :=
  [("driver", .text "sqlite"), ("sqlite_config", .object [("dsn", .text ":memory:")])]

/-- A source that has it below another key. -/
def serviceMembers : Members := [("service", .object [("main", .object memoryMembers)])]

/-- Connections to nothing, that are always made. -/
def connected : ConnectIn Id Unit := fun _ _ _ => .ok ()

theorem ways_agree_memory :
    (sourceOfMembers serviceMembers "service.main" = .ok (.object memoryMembers) ∧
      nonBlank (some " ") = none ∧ isAllBlank "mysql" = false) ∧
    buildFrom ⟨"svc", false⟩ connected (sourceOfMembers serviceMembers) "service.main"
        ⟨none, some " "⟩ = lenient ⟨"svc", false⟩ (strict ⟨"svc", false⟩ connected memoryMembers) ∧
    buildRaw ⟨"svc", false⟩ connected "mysql" memoryMembers =
      buildRaw ⟨"svc", false⟩ connected "" (Members.insert "driver" (.text "mysql") memoryMembers) := by
  have hsource : sourceOfMembers serviceMembers "service.main" = .ok (.object memoryMembers) := rfl
  have hblank : nonBlank (some " ") = none := by decide
  have hname : isAllBlank "mysql" = false := by decide
  obtain ⟨-, hfrom, -, -, hdriver⟩ := ways_agree ⟨"svc", false⟩ connected memoryMembers
  refine ⟨⟨hsource, hblank, hname⟩, hfrom _ _ ⟨none, some " "⟩ hsource rfl hblank, ?_⟩
  apply hdriver "mysql" hname
  intro v hv
  exact ⟨"sqlite", (Option.some.inj hv).symm⟩

end Factory

end Access

end DataAccess
