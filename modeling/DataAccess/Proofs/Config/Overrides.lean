import DataAccess.Config.Source
import DataAccess.Proofs.Config.Contract

/-!
# Overriding a configuration

An override names a driver, and then gives a data source name to the driver that is selected. The
second part depends on the first one, and it may fail after the first one has been done.

`Overriding` says what is left of a configuration either way: the name of the driver is the new one,
and no section but that of the selected driver changes, of which the pool is kept. The rest follows
from it: overriding once more changes nothing (`applyOverride_again`), and what has been overridden
passes the check as soon as the pool and the sample rate do (`Overriding.validate`).
-/

namespace DataAccess.Config

open Text

variable {c : Config} {o : Override} {d d' : Driver} {s s' : Section} {name dsn : String}

/-- The pool of a driver in a configuration: that of its section, or else the default one. -/
def poolOf (c : Config) (d : Driver) : Pool := ((c.section? d).map (·.pool)).getD d.defaultPool

/-- What overriding makes of a configuration, whether it succeeds or not. -/
structure Overriding (c : Config) (o : Override) (r : Overridden) : Prop where
  driver : r.config.driver = (nonBlank o.driver).getD c.driver
  observability : r.config.observability = c.observability
  /-- A section stays as it is unless its driver is selected and gets a data source name. -/
  other : ∀ d, nonBlank o.dsn = none ∨ r.config.driver ≠ d.name →
    r.config.section? d = c.section? d
  /-- The selected driver keeps its pool, or has the default one if it had no section. -/
  selected : ∀ d dsn, nonBlank o.dsn = some dsn → r.config.driver = d.name → d ≠ .none →
    r.config.section? d = some ⟨dsn, c.poolOf d⟩
  /-- A data source name is for nobody if the name of the driver is missing or unknown. -/
  fails : ∀ e, r.result = .error e ↔ nonBlank o.dsn ≠ none ∧
    (isAllBlank r.config.driver = true ∧ e = .missingField "driver" ∨
      isAllBlank r.config.driver = false ∧ (∀ d : Driver, r.config.driver ≠ d.name) ∧
        e = .unknownDriver r.config.driver)

/-! ### Sections -/

@[simp] theorem driver_setSection : (c.setSection d s).driver = c.driver := by cases d <;> rfl

@[simp] theorem observability_setSection : (c.setSection d s).observability = c.observability := by
  cases d <;> rfl

theorem section?_setSection (hd : d ≠ .none) : (c.setSection d s).section? d = some s := by
  cases d with
  | none => exact absurd rfl hd
  | sqlite | mysql | postgresql => rfl

theorem section?_setSection_of_ne (h : d' ≠ d) :
    (c.setSection d s).section? d' = c.section? d' := by
  cases d <;> cases d' <;> first | rfl | exact absurd rfl h

theorem setSection_setSection : (c.setSection d s).setSection d s' = c.setSection d s' := by
  cases d <;> rfl

/-- Whether there is a section or not, the pool of the driver is kept. -/
theorem setDsn_eq : c.setDsn d dsn = c.setSection d ⟨dsn, c.poolOf d⟩ := by
  unfold setDsn poolOf
  cases c.section? d with
  | none => rfl
  | some s => rfl

theorem poolOf_setDsn : (c.setDsn d dsn).poolOf d = c.poolOf d := by
  rw [setDsn_eq]
  cases d with
  | none => rfl
  | sqlite | mysql | postgresql => rfl

theorem setDsn_setDsn : (c.setDsn d dsn).setDsn d dsn = c.setDsn d dsn := by
  rw [setDsn_eq (c := c.setDsn d dsn), poolOf_setDsn, setDsn_eq, setSection_setSection]

/-! ### The name of the driver -/

/-- No driver is selected just when the name is missing or unknown. -/
theorem selectedDriver_eq_error_iff {e : Error} : c.selectedDriver = .error e ↔
    isAllBlank c.driver = true ∧ e = .missingField "driver" ∨
      isAllBlank c.driver = false ∧ (∀ d : Driver, c.driver ≠ d.name) ∧
        e = .unknownDriver c.driver := by
  unfold selectedDriver Driver.parse
  split
  · next hblank => simp [hblank, eq_comm]
  · next hblank =>
    cases hd : Driver.ofName? c.driver with
    | some d =>
      have hname := Driver.ofName?_eq_some.mp hd
      refine iff_of_false nofun fun h => ?_
      rcases h with ⟨hblank', -⟩ | ⟨-, hnone, -⟩
      · exact hblank hblank'
      · exact hnone d hname
    | none =>
      have hnone : ∀ d : Driver, c.driver ≠ d.name := fun d hname => by
        rw [Driver.ofName?_eq_some.mpr hname] at hd
        cases hd
      simp [hblank, hnone, eq_comm]

/-- A configuration with the driver that an override names. -/
def named (c : Config) (o : Override) : Config :=
  { c with driver := (nonBlank o.driver).getD c.driver }

theorem applyOverride_eq : (c.applyOverride o).config = ((c.named o).overrideDsn o.dsn).config ∧
    (c.applyOverride o).result = ((c.named o).overrideDsn o.dsn).result := by
  unfold applyOverride named
  cases nonBlank o.driver with
  | none => exact ⟨rfl, rfl⟩
  | some name => exact ⟨rfl, rfl⟩

/-! ### Data source names -/

section

variable {given : Option String}

theorem overrideDsn_of_blank (h : nonBlank given = none) :
    c.overrideDsn given = ⟨c, [], .ok ()⟩ := by
  simp only [overrideDsn, h]

theorem overrideDsn_of_error {e : Error} (h : nonBlank given = some dsn)
    (hd : c.selectedDriver = .error e) : c.overrideDsn given = ⟨c, [], .error e⟩ := by
  simp only [overrideDsn, h, hd]

theorem overrideDsn_of_none (h : nonBlank given = some dsn) (hd : c.selectedDriver = .ok .none) :
    c.overrideDsn given = ⟨c, [.dsnIgnored], .ok ()⟩ := by
  simp only [overrideDsn, h, hd]

theorem overrideDsn_of_ok (h : nonBlank given = some dsn) (hd : c.selectedDriver = .ok d)
    (hne : d ≠ .none) : c.overrideDsn given = ⟨c.setDsn d dsn, [.dsn d], .ok ()⟩ := by
  cases d with
  | none => exact absurd rfl hne
  | sqlite | mysql | postgresql => simp only [overrideDsn, h, hd]

theorem driver_setDsn : (c.setDsn d dsn).driver = c.driver := by rw [setDsn_eq, driver_setSection]

/-- The driver that is selected stays selected, so the same happens once more. -/
theorem overrideDsn_again (c : Config) (given : Option String) :
    (c.overrideDsn given).config.overrideDsn given = c.overrideDsn given ∧
      (c.overrideDsn given).config.driver = c.driver := by
  cases h : nonBlank given with
  | none =>
    have hrun := overrideDsn_of_blank (c := c) h
    rw [hrun]
    exact ⟨hrun, rfl⟩
  | some dsn =>
    cases hd : c.selectedDriver with
    | error e =>
      have hrun := overrideDsn_of_error h hd
      rw [hrun]
      exact ⟨hrun, rfl⟩
    | ok d =>
      by_cases hne : d = .none
      · have hrun := overrideDsn_of_none h (hne ▸ hd)
        rw [hrun]
        exact ⟨hrun, rfl⟩
      · have hd' : (c.setDsn d dsn).selectedDriver = .ok d :=
          (selectedDriver_congr driver_setDsn).trans hd
        have hrun := overrideDsn_of_ok h hd' hne
        rw [overrideDsn_of_ok h hd hne]
        rw [setDsn_setDsn] at hrun
        exact ⟨hrun, driver_setDsn⟩

end

/-! ### Overriding -/

theorem driver_applyOverride (c : Config) (o : Override) :
    (c.applyOverride o).config.driver = (nonBlank o.driver).getD c.driver := by
  rw [applyOverride_eq.1, (overrideDsn_again _ _).2]
  rfl

/-- Overriding once more changes and answers the same. -/
theorem applyOverride_again (c : Config) (o : Override) :
    (c.applyOverride o).config.applyOverride o = c.applyOverride o := by
  unfold applyOverride
  cases nonBlank o.driver with
  | none => exact (c.overrideDsn_again o.dsn).1
  | some name =>
    -- The configuration has the name already, so putting it there changes nothing.
    have hsame : ∀ r : Overridden, r.config.driver = name →
        ({ r.config with driver := name } : Config) = r.config := by
      rintro r rfl
      rfl
    obtain ⟨hagain, hdriver⟩ := ({ c with driver := name } : Config).overrideDsn_again o.dsn
    simp only [hsame _ hdriver, hagain]

theorem section?_named : (c.named o).section? d = c.section? d := by
  cases d with
  | sqlite | mysql | postgresql | none => rfl

/-- Once the driver is named, what overriding makes of a configuration is what becomes of its data
source name. -/
theorem Overriding.of_named {r : Overridden}
    (h : Overriding (c.named o) ⟨none, o.dsn⟩ ((c.named o).overrideDsn o.dsn))
    (hconfig : r.config = ((c.named o).overrideDsn o.dsn).config)
    (hresult : r.result = ((c.named o).overrideDsn o.dsn).result) : Overriding c o r where
  driver := by rw [hconfig, h.driver]; rfl
  observability := by rw [hconfig, h.observability]; rfl
  other := by
    intro d hd
    rw [hconfig] at hd ⊢
    rw [h.other d hd, section?_named]
  selected := by
    intro d dsn hdsn hd hne
    rw [hconfig] at hd ⊢
    rw [h.selected d dsn hdsn hd hne, poolOf, section?_named, poolOf]
  fails := by
    intro e
    rw [hresult, hconfig]
    exact h.fails e

/-- Nothing changes if there is no data source name, or no driver to give it to. -/
theorem Overriding.of_same {given : Option String} {notes : List OverrideNote}
    {result : Except Error Unit}
    (hnone : ∀ d : Driver, c.driver = d.name → d ≠ .none → nonBlank given = none)
    (hfails : ∀ e, result = .error e ↔ nonBlank given ≠ none ∧ c.selectedDriver = .error e) :
    Overriding c ⟨none, given⟩ ⟨c, notes, result⟩ where
  driver := rfl
  observability := rfl
  other := fun _ _ => rfl
  selected := by
    intro d dsn hdsn hname hne
    cases hdsn.symm.trans (hnone d hname hne)
  fails := fun e => by rw [hfails, selectedDriver_eq_error_iff]

/-- Giving a data source name to a driver changes its section alone. -/
theorem Overriding.of_setDsn {given : Option String} {notes : List OverrideNote}
    (h : nonBlank given = some dsn) (hname : c.driver = d.name) (hne : d ≠ .none) :
    Overriding c ⟨none, given⟩ ⟨c.setDsn d dsn, notes, .ok ()⟩ where
  driver := driver_setDsn
  observability := by rw [setDsn_eq, observability_setSection]
  other := by
    intro d' hd'
    rw [setDsn_eq]
    refine section?_setSection_of_ne fun heq => ?_
    rcases hd' with hblank | hother
    · cases h.symm.trans hblank
    · exact hother (driver_setDsn.trans (heq ▸ hname))
  selected := by
    intro d' dsn' hdsn' hd' _
    obtain rfl := Option.some.inj (h.symm.trans hdsn')
    obtain rfl := Driver.name_injective (hname.symm.trans (driver_setDsn.symm.trans hd'))
    rw [setDsn_eq, section?_setSection hne]
  fails := by
    intro e
    have hselected : (c.setDsn d dsn).selectedDriver = .ok d :=
      selectedDriver_of_name (driver_setDsn.trans hname)
    rw [← selectedDriver_eq_error_iff, hselected]
    exact iff_of_false nofun fun h => by cases h.2

/-- Giving a data source name does what `Overriding` says. -/
theorem overrideDsn_overriding (c : Config) (given : Option String) :
    Overriding c ⟨none, given⟩ (c.overrideDsn given) := by
  cases h : nonBlank given with
  | none =>
    rw [overrideDsn_of_blank h]
    exact .of_same (fun _ _ _ => h) fun e => by simp [h]
  | some dsn =>
    cases hd : c.selectedDriver with
    | error e =>
      rw [overrideDsn_of_error h hd]
      refine .of_same (fun d hname _ => ?_) fun e' => by simp [h, hd]
      cases hd.symm.trans (selectedDriver_of_name hname)
    | ok d =>
      have hname := selectedDriver_eq_ok_iff.mp hd
      by_cases hne : d = .none
      · subst hne
        rw [overrideDsn_of_none h hd]
        refine .of_same (fun d hname' hne => ?_) fun e' => by simp [hd]
        exact absurd (Driver.name_injective (hname'.symm.trans hname)) hne
      · rw [overrideDsn_of_ok h hd hne]
        exact .of_setDsn h hname hne

/-- Overriding does what `Overriding` says. -/
theorem applyOverride_overriding (c : Config) (o : Override) :
    Overriding c o (c.applyOverride o) :=
  .of_named (overrideDsn_overriding _ _) applyOverride_eq.1 applyOverride_eq.2

namespace Overriding

variable {r : Overridden}

/-- Overriding does not fail if a driver has the name that is there then. -/
theorem succeeds (h : Overriding c o r) (hname : r.config.driver = d.name) : r.result = .ok () := by
  cases hr : r.result with
  | ok _ => rfl
  | error e =>
    obtain ⟨-, ⟨hblank, -⟩ | ⟨-, hnone, -⟩⟩ := (h.fails e).mp hr
    · rw [hname, d.isAllBlank_name] at hblank
      cases hblank
    · exact absurd hname (hnone d)

/-- What has been overridden passes the check if the pool of its driver and the sample rate do. -/
theorem validate (h : Overriding c o r) (hname : r.config.driver = d.name)
    (hdsn : nonBlank o.dsn = some dsn) (hpool : d ≠ .none → (c.poolOf d).Contract)
    (hrate : c.observability.Contract) : r.config.validate = .ok () := by
  have hnonblank : isAllBlank dsn = false := by
    simpa using (Option.filter_eq_some_iff.mp hdsn).2
  rw [validate_of_name hname, validateSection_eq_ok_iff.mpr fun hne =>
    ⟨_, h.selected d dsn hdsn hname hne, isAllBlank_eq_false_iff.mp hnonblank, hpool hne⟩,
    h.observability]
  exact Observability.validate_eq_ok_iff.mpr hrate

/-- A section that is there keeps its pool. -/
theorem keeps_pool (h : Overriding c o r) (hs : c.section? d = some s) :
    ∃ dsn, r.config.section? d = some ⟨dsn, s.pool⟩ := by
  have hpool : c.poolOf d = s.pool := by
    rw [poolOf, hs]
    rfl
  have hne : d ≠ .none := by
    rintro rfl
    cases hs
  by_cases hother : nonBlank o.dsn = none ∨ r.config.driver ≠ d.name
  · exact ⟨s.dsn, (h.other d hother).trans hs⟩
  · obtain ⟨hdsn, hname⟩ := not_or.mp hother
    obtain ⟨dsn, hdsn⟩ := Option.ne_none_iff_exists'.mp hdsn
    exact ⟨dsn, hpool ▸ h.selected d dsn hdsn (not_not.mp hname) hne⟩

/-- A failure leaves all sections as they were. -/
theorem section?_of_error {e : Error} (h : Overriding c o r) (hr : r.result = .error e) (d : Driver) :
    r.config.section? d = c.section? d := by
  refine h.other d (.inr fun hname => ?_)
  cases hr.symm.trans (h.succeeds hname)

/-- A configuration that passes the check still does with another data source name. -/
theorem validate_of_valid (h : Overriding c o r) (hc : c.validate = .ok ())
    (hdriver : nonBlank o.driver = none) : r.result = .ok () ∧ r.config.validate = .ok () := by
  have hcontract := validate_eq_ok_iff.mp hc
  obtain ⟨d, hname⟩ := mem_names_iff.mp hcontract.driver
  have hsame : r.config.driver = c.driver := by rw [h.driver, hdriver, Option.getD_none]
  refine ⟨h.succeeds (hsame.trans hname), ?_⟩
  cases hdsn : nonBlank o.dsn with
  | none => rw [validate_congr hsame (fun d _ => h.other d (.inl hdsn)) h.observability, hc]
  | some dsn =>
    refine h.validate (hsame.trans hname) hdsn (fun hne => ?_) hcontract.observability
    obtain ⟨s, hs, hsection⟩ := hcontract.selected d hname hne
    rw [poolOf, hs]
    exact hsection.pool

end Overriding

/-! ### What may be left out -/

theorem nonBlank_of_blank (h : isAllBlank name = true) : nonBlank (some name) = none := by
  simp [nonBlank, h]

/-- A value that is blank is as good as none. -/
theorem applyOverride_of_blank (h : isAllBlank name = true) (c : Config) (o : Override) :
    c.applyOverride { o with driver := some name } = c.applyOverride { o with driver := none } ∧
      c.applyOverride { o with dsn := some name } = c.applyOverride { o with dsn := none } := by
  have hnone : nonBlank none = none := rfl
  simp only [applyOverride, overrideDsn, nonBlank_of_blank h, hnone, and_self]

/-- The driver `none` has no use for a data source name. -/
theorem applyOverride_of_none (h : (c.applyOverride o).config.driver = Driver.none.name) :
    (c.applyOverride o).config = (c.applyOverride { o with dsn := none }).config := by
  have hdriver : (c.named o).driver = Driver.none.name := by
    rw [← h, driver_applyOverride]
    rfl
  have hblank : (c.named o).overrideDsn none = ⟨c.named o, [], .ok ()⟩ := overrideDsn_of_blank rfl
  have hnamed : (c.applyOverride { o with dsn := none }).config = c.named o :=
    applyOverride_eq.1.trans (congrArg Overridden.config hblank)
  rw [applyOverride_eq.1, hnamed]
  cases hdsn : nonBlank o.dsn with
  | none => rw [overrideDsn_of_blank hdsn]
  | some dsn => rw [overrideDsn_of_none hdsn (selectedDriver_of_name hdriver)]

/-- **Overriding is idempotent and local, and keeps configurations valid.** Doing it once more changes
and answers the same. It leaves what `Overriding` says: sections that are there keep their pools, and
none changes if it fails. A blank value is as good as none, and so is a data source name for the
driver `none`. What passed the check still does with another data source name; and so does what has
been given a driver and a data source name, if the pool of this driver and the sample rate do. -/
theorem override_once_and_locally (c : Config) (o : Override) :
    (c.applyOverride o).config.applyOverride o = c.applyOverride o ∧
    Overriding c o (c.applyOverride o) ∧
    (∀ d s, c.section? d = some s →
      ∃ dsn, (c.applyOverride o).config.section? d = some ⟨dsn, s.pool⟩) ∧
    (∀ e, (c.applyOverride o).result = .error e →
      ∀ d, (c.applyOverride o).config.section? d = c.section? d) ∧
    (∀ s, isAllBlank s = true →
      c.applyOverride { o with driver := some s } = c.applyOverride { o with driver := none } ∧
      c.applyOverride { o with dsn := some s } = c.applyOverride { o with dsn := none }) ∧
    ((c.applyOverride o).config.driver = Driver.none.name →
      (c.applyOverride o).result = .ok () ∧
      (c.applyOverride o).config = (c.applyOverride { o with dsn := none }).config) ∧
    (c.validate = .ok () → nonBlank o.driver = none →
      (c.applyOverride o).result = .ok () ∧ (c.applyOverride o).config.validate = .ok ()) ∧
    ∀ d dsn field, o.driver = some (Driver.name d) → nonBlank o.dsn = some dsn →
      (c.poolOf d).validate field = .ok () → c.observability.validate = .ok () →
      (c.applyOverride o).result = .ok () ∧ (c.applyOverride o).config.validate = .ok () := by
  have h := applyOverride_overriding c o
  refine ⟨applyOverride_again c o, h, fun d s => h.keeps_pool, fun e => h.section?_of_error,
    fun s hs => applyOverride_of_blank hs c o, fun hnone => ⟨h.succeeds hnone, ?_⟩,
    h.validate_of_valid, ?_⟩
  · exact applyOverride_of_none hnone
  · intro d dsn field hdriver hdsn hpool hrate
    have hname : (c.applyOverride o).config.driver = d.name := by
      have hkept : nonBlank (some d.name) = some d.name :=
        Option.filter_eq_some_iff.mpr ⟨rfl, by rw [d.isAllBlank_name]; rfl⟩
      rw [h.driver, hdriver, hkept, Option.getD_some]
    exact ⟨h.succeeds hname, h.validate hname hdsn
      (fun _ => Pool.validate_eq_ok_iff.mp hpool) (Observability.validate_eq_ok_iff.mp hrate)⟩

end DataAccess.Config
