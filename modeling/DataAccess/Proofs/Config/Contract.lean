import DataAccess.Access.Adapter
import DataAccess.Proofs.Number.Order

/-!
# The configuration contract

What a configuration promises once it has passed its check, as a predicate: `Config.Contract` says
it of the selected driver, its section and the sample rate, and of nothing else.

* `Config.validate_eq_ok_iff`: the check accepts exactly the configurations that keep the contract;
* `Config.validate_congr`: it reads no section but the one of the selected driver;
* `Access.Adapter.validate_eq_ok_iff`: an adapter, which checks its section again in its own way,
  asks for the same.
-/

namespace DataAccess

open Number Text

/-! ### Texts -/

theorem isAllBlank_eq_false_iff {s : String} :
    isAllBlank s = false ↔ ∃ c ∈ s.toList, isBlank c = false := by
  rw [isAllBlank, List.all_eq_false]
  simp only [Bool.not_eq_true]

/-! ### Drivers -/

namespace Driver

theorem mem_all (d : Driver) : d ∈ all := by cases d <;> decide

theorem name_injective : Function.Injective name := by
  intro d d' h
  cases d <;> cases d' <;> first | rfl | exact absurd h (by decide)

theorem ofName?_eq_some {s : String} {d : Driver} : ofName? s = some d ↔ s = d.name := by
  constructor
  · intro h
    unfold ofName? at h
    have hname := List.find?_some h
    exact (beq_iff_eq.1 hname).symm
  · rintro rfl
    cases d <;> rfl

theorem isAllBlank_name (d : Driver) : isAllBlank d.name = false := by cases d <;> rfl

end Driver

/-! ### Pools -/

/-- What is asked of the parameters of a pool. -/
structure Pool.Contract (p : Pool) : Prop where
  bounds : p.maxOpen = 0 ∨ p.maxIdle ≤ p.maxOpen
  acquire : 0 < p.acquire.inNanos

theorem Duration.isZero_eq_false_iff {d : Duration} : d.isZero = false ↔ 0 < d.inNanos := by
  rw [isZero, inNanos, Bool.and_eq_false_iff, beq_eq_false_iff_ne, beq_eq_false_iff_ne]
  omega

theorem Pool.validate_eq_ok_iff {p : Pool} {field : String} :
    p.validate field = .ok () ↔ p.Contract := by
  unfold Pool.validate
  split
  · next hbounds =>
    rw [Bool.and_eq_true, decide_eq_true_eq, decide_eq_true_eq] at hbounds
    obtain ⟨hopen, hidle⟩ := hbounds
    refine iff_of_false nofun fun h => ?_
    obtain hzero | hle := h.bounds
    · rw [hzero] at hopen
      exact UInt32.lt_irrefl 0 hopen
    · exact UInt32.not_lt.2 hle hidle
  · next hbounds =>
    rw [Bool.and_eq_true, decide_eq_true_eq, decide_eq_true_eq, not_and_or, gt_iff_lt, gt_iff_lt,
      UInt32.not_lt, UInt32.not_lt, UInt32.le_zero_iff] at hbounds
    split
    · next hzero =>
      refine iff_of_false nofun fun h => ?_
      rw [Duration.isZero_eq_false_iff.2 h.acquire] at hzero
      cases hzero
    · next hpos =>
      rw [Bool.not_eq_true] at hpos
      exact iff_of_true rfl ⟨hbounds, Duration.isZero_eq_false_iff.1 hpos⟩

/-! ### Sections -/

/-- What is asked of the section of a driver. -/
structure Config.Section.Contract (s : Config.Section) : Prop where
  dsn : ∃ c ∈ s.dsn.toList, isBlank c = false
  pool : s.pool.Contract

theorem Config.Section.validate_eq_ok_iff {s : Config.Section} {field : String} :
    s.validate field = .ok () ↔ s.Contract := by
  unfold Config.Section.validate
  split
  · next hblank =>
    refine iff_of_false nofun fun h => ?_
    rw [isAllBlank_eq_false_iff.2 h.dsn] at hblank
    cases hblank
  · next hdsn =>
    rw [Bool.not_eq_true, isAllBlank_eq_false_iff] at hdsn
    rw [Pool.validate_eq_ok_iff]
    exact ⟨fun h => ⟨hdsn, h⟩, fun h => h.pool⟩

/-- An adapter asks of its section what the configuration asks of it. -/
theorem Access.Adapter.validate_eq_ok_iff {d : Driver} {s : Config.Section} :
    Access.Adapter.validate d s = .ok () ↔ s.Contract := by
  unfold Access.Adapter.validate
  split
  · next hblank =>
    refine iff_of_false nofun fun h => ?_
    rw [isAllBlank_eq_false_iff.2 h.dsn] at hblank
    cases hblank
  · next hdsn =>
    rw [Bool.not_eq_true, isAllBlank_eq_false_iff] at hdsn
    split
    · next hpool => exact iff_of_true rfl ⟨hdsn, Pool.validate_eq_ok_iff.1 hpool⟩
    · next hpool =>
      refine iff_of_false nofun fun h => ?_
      rw [Pool.validate_eq_ok_iff.2 h.pool] at hpool
      cases hpool

/-! ### Observability -/

/-- What is asked of the sample rate: to be a number from zero to one. -/
def Observability.Contract (o : Observability) : Prop :=
  ∃ rate : ℚ, o.sampleRate.value? = some rate ∧ 0 ≤ rate ∧ rate ≤ 1

theorem Observability.validate_eq_ok_iff {o : Observability} :
    o.validate = .ok () ↔ o.Contract := by
  unfold Observability.validate
  split
  · next h => exact iff_of_true rfl ((Binary64.mem_unit_iff _).1 h)
  · next h => exact iff_of_false nofun fun hc => h ((Binary64.mem_unit_iff _).2 hc)

/-! ### Configurations -/

namespace Config

/-- The contract of a configuration. -/
structure Contract (c : Config) : Prop where
  driver : c.driver ∈ ["sqlite", "mysql", "postgresql", "none"]
  selected : ∀ d : Driver, c.driver = d.name → d ≠ .none →
    ∃ s, c.section? d = some s ∧ s.Contract
  observability : c.observability.Contract

theorem mem_names_iff {s : String} :
    s ∈ ["sqlite", "mysql", "postgresql", "none"] ↔ ∃ d : Driver, s = d.name := by
  constructor
  · intro h
    obtain ⟨d, -, hd⟩ := List.mem_map.1 (show s ∈ Driver.all.map Driver.name from h)
    exact ⟨d, hd.symm⟩
  · rintro ⟨d, rfl⟩
    exact List.mem_map.2 ⟨d, d.mem_all, rfl⟩

theorem selectedDriver_of_name {c : Config} {d : Driver} (h : c.driver = d.name) :
    c.selectedDriver = .ok d := by
  rw [selectedDriver, h, d.isAllBlank_name, if_neg Bool.false_ne_true, Driver.parse,
    Driver.ofName?_eq_some.2 rfl]

theorem selectedDriver_eq_ok_iff {c : Config} {d : Driver} :
    c.selectedDriver = .ok d ↔ c.driver = d.name := by
  refine ⟨fun h => ?_, selectedDriver_of_name⟩
  unfold selectedDriver Driver.parse at h
  split at h
  · cases h
  · split at h
    · next d' hd => exact Except.ok.inj h ▸ Driver.ofName?_eq_some.1 hd
    · cases h

/-- The name alone decides which driver is selected. -/
theorem selectedDriver_congr {c c' : Config} (h : c'.driver = c.driver) :
    c'.selectedDriver = c.selectedDriver := by
  rw [selectedDriver, selectedDriver, h]

/-- Once the driver is known, its section and the sample rate are left to be checked. -/
theorem validate_of_name {c : Config} {d : Driver} (h : c.driver = d.name) :
    c.validate = (do c.validateSection d; c.observability.validate) := by
  rw [validate, selectedDriver_of_name h]
  rfl

theorem validateSection_eq_ok_iff {c : Config} {d : Driver} :
    c.validateSection d = .ok () ↔ (d ≠ .none → ∃ s, c.section? d = some s ∧ s.Contract) := by
  unfold validateSection
  split
  · next hkey =>
    have hd : d = .none := by cases d <;> simp_all [Driver.sectionKey?]
    exact iff_of_true rfl fun h => absurd hd h
  · next key hkey =>
    have hd : d ≠ .none := by rintro rfl; cases hkey
    split
    · next hs => exact iff_of_false nofun fun h => by simpa [hs] using h hd
    · next s hs =>
      rw [Section.validate_eq_ok_iff]
      exact ⟨fun h _ => ⟨s, hs, h⟩, fun h => by
        obtain ⟨s', hs', hc⟩ := h hd
        rw [hs, Option.some.injEq] at hs'
        exact hs' ▸ hc⟩

/-- The check accepts exactly the configurations that keep the contract. -/
theorem validate_eq_ok_iff {c : Config} : c.validate = .ok () ↔ c.Contract := by
  constructor
  · intro h
    cases hd : c.selectedDriver with
    | error e => rw [validate, hd] at h; cases h
    | ok d =>
      have hname := selectedDriver_eq_ok_iff.1 hd
      rw [validate_of_name hname] at h
      cases hs : c.validateSection d with
      | error e => rw [hs] at h; cases h
      | ok u =>
        rw [hs] at h
        refine ⟨mem_names_iff.2 ⟨d, hname⟩, fun d' hd' => ?_, Observability.validate_eq_ok_iff.1 h⟩
        have : d' = d := Driver.name_injective (hd'.symm.trans hname)
        exact this ▸ validateSection_eq_ok_iff.1 hs
  · intro h
    obtain ⟨d, hname⟩ := mem_names_iff.1 h.driver
    rw [validate_of_name hname, validateSection_eq_ok_iff.2 (h.selected d hname)]
    exact Observability.validate_eq_ok_iff.2 h.observability

/-- The check reads no section but the one of the selected driver. -/
theorem validate_congr {c c' : Config} (hdriver : c'.driver = c.driver)
    (hsection : ∀ d, c.driver = d.name → c'.section? d = c.section? d)
    (hobservability : c'.observability = c.observability) : c'.validate = c.validate := by
  have hselected := selectedDriver_congr hdriver
  cases hd : c.selectedDriver with
  | error e => rw [validate, validate, hselected, hd]; rfl
  | ok d =>
    have hname := selectedDriver_eq_ok_iff.1 hd
    rw [validate_of_name hname, validate_of_name (hdriver.trans hname), validateSection,
      validateSection, hsection d hname, hobservability]

end Config

end DataAccess
