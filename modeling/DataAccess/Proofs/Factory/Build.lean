import DataAccess.Access.Factory
import DataAccess.Proofs.Config.Contract
import DataAccess.Proofs.Dsn.Refusal

/-!
# Building managers

What comes of building a manager follows from the check of its configuration alone: a configuration
that fails the check is refused with the error of the check, and no connection is tried; one that
passes is refused for its data source name or by the probe, and for nothing else.

Connections are made in any lawful monad, so what is said here holds for every effect that opening a
database may have. `Always P work` says that each result of `work` satisfies `P`.

* `Factory.build_of_error`, `Factory.build_of_none`, `Factory.build_of_section`: the three ways of
  building;
* `Factory.build_failsOnly`: how building fails after the check;
* `Factory.validate_decides_build`: the check, the contract and building together.
-/

namespace DataAccess.Access

open Observation

variable {σ : Type} {m : Type → Type} [Monad m]

/-! ### Results of effects -/

section Always

variable {α β : Type} {P : α → Prop} {Q : β → Prop}

/-- Each result of a piece of work satisfies `P`: the work may as well answer results that come with
a proof of it. -/
def Always (P : α → Prop) (work : m α) : Prop :=
  ∃ proven : m {a // P a}, Subtype.val <$> proven = work

namespace Always

variable [LawfulMonad m]

theorem pure {a : α} (h : P a) : Always P (Pure.pure a : m α) := ⟨Pure.pure ⟨a, h⟩, map_pure _ _⟩

theorem trivial (work : m α) : Always (fun _ => True) work :=
  ⟨(fun a => ⟨a, True.intro⟩) <$> work, by rw [← comp_map]; exact id_map work⟩

theorem bind {work : m α} {next : α → m β} (h : Always P work)
    (hnext : ∀ a, P a → Always Q (next a)) : Always Q (work >>= next) := by
  obtain ⟨proven, rfl⟩ := h
  refine ⟨proven >>= fun a => (hnext a.1 a.2).choose, ?_⟩
  rw [map_bind, bind_map_left]
  exact bind_congr fun a => (hnext a.1 a.2).choose_spec

theorem mono {Q : α → Prop} {work : m α} (h : Always P work) (hPQ : ∀ a, P a → Q a) :
    Always Q work := by
  rw [← bind_pure work]
  exact h.bind fun a ha => pure (hPQ a ha)

theorem map {work : m α} {f : α → β} (h : Always P work) (hf : ∀ a, P a → Q (f a)) :
    Always Q (f <$> work) := by
  rw [map_eq_pure_bind]
  exact h.bind fun a ha => pure (hf a ha)

end Always

/-- Building that fails with certain errors only, whatever has been reported before. -/
def FailsOnly (P : Error → Prop) (work : BuildingIn m α) : Prop :=
  ∀ notices, Always (fun r => ∀ e, r.1 = .error e → P e) (work.run.run notices)

end Always

/-! ### Opening -/

/-- The errors of opening the database of a driver. -/
inductive Opening (d : Driver) : Error → Prop where
  | dsn (reason : String) : Opening d (.invalidDsn d reason)
  | connect (cause : BackendError) : Opening d (.connect d cause)
  | silent : Opening d (.probeTimeout probeLimit)

theorem ProbeFailure.toError_opening (d : Driver) (failure : ProbeFailure) :
    Opening d (failure.toError d) := by
  cases failure with
  | refused cause => exact .connect cause
  | silent => exact .silent

/-- The errors that a caller is at fault for. -/
theorem Error.isCallerError_iff (e : Error) : e.isCallerError = true ↔
    (∃ cause, e = .config cause) ∨ (∃ d reason, e = .invalidDsn d reason) ∨
    (∃ message, e = .invalidConfig message) ∨ (∃ operation, e = .missingConditions operation) ∨
    ∃ operation, e = .missingValues operation := by
  cases e <;> simp [Error.isCallerError]

/-- A caller is at fault for an error of opening exactly if it is about the data source name. -/
theorem Opening.isCallerError_iff {d : Driver} {e : Error} (h : Opening d e) :
    e.isCallerError = true ↔ (∃ cause, e = .config cause) ∨ ∃ d reason, e = .invalidDsn d reason := by
  cases h <;> simp [Error.isCallerError]

variable [LawfulMonad m]

theorem connect_always (t : Adapter.Target) (connect : ConnectIn m σ) (name : String) (d : Driver)
    (p : Plugin) : Always (fun r => ∀ e, r = .error e → Opening d e) (t.connect connect name d p) := by
  unfold Adapter.Target.connect
  split
  · refine .pure fun e he => ?_
    rw [← Except.error.inj he]
    exact .dsn _
  · refine (Always.trivial _).bind fun r _ => ?_
    cases r with
    | error failure =>
      refine .pure fun e he => ?_
      rw [← Except.error.inj he]
      exact failure.toError_opening d
    | ok connection => exact .pure nofun

theorem ofExcept_error_bind {α β : Type} (e : Error) (next : α → BuildingIn m β) :
    MonadExcept.ofExcept (.error e : Except Error α) >>= next = throw e := by
  refine ExceptT.ext ?_
  simp [MonadExcept.ofExcept]

theorem ofExcept_ok_bind {α β : Type} (a : α) (next : α → BuildingIn m β) :
    MonadExcept.ofExcept (.ok a : Except Error α) >>= next = next a := by
  rw [MonadExcept.ofExcept, pure_bind]

theorem modify_bind_run {α : Type} (f : List Notice → List Notice) (next : BuildingIn m α)
    (notices : List Notice) :
    ((modify f : BuildingIn m PUnit) >>= fun _ => next).run.run notices =
      next.run.run (f notices) := by
  have hmodify : (StateT.modifyGet fun s => (PUnit.unit, f s) : StateT _ m _).run notices =
      pure (PUnit.unit, f notices) := rfl
  simp [modify, modifyGet, MonadStateOf.modifyGet, ExceptT.run_bind, hmodify]

/-- Opening the database of a target: its notices are reported, and there is one connection to be
made. -/
theorem open_of_target {d : Driver} {s : Config.Section} {t : Adapter.Target}
    (h : Adapter.target d s = .ok t) (connect : ConnectIn m σ) (name : String) (p : Plugin)
    (notices : List Notice) :
    (Manager.open connect name d s p).run.run notices =
      (fun r => (r, t.notices.reverse ++ notices)) <$> t.connect connect name d p := by
  rw [Manager.open, h, ofExcept_ok_bind, modify_bind_run, map_eq_pure_bind]
  rfl

/-- Opening fails with the errors of the adapter, and then without a connection. -/
theorem open_of_error {d : Driver} {s : Config.Section} {e : Error}
    (h : Adapter.target d s = .error e) (connect : ConnectIn m σ) (name : String) (p : Plugin) :
    Manager.open connect name d s p = throw e := by
  rw [Manager.open, h, ofExcept_error_bind]

/-- How the database of a section that keeps the contract fails to open. -/
theorem open_failsOnly {d : Driver} (hd : d ≠ .none) {s : Config.Section} (hs : s.Contract)
    (connect : ConnectIn m σ) (name : String) (p : Plugin) :
    FailsOnly (Opening d) (Manager.open connect name d s p) := by
  intro notices
  have htarget : Adapter.target d s = Adapter.resolve d s := by
    rw [Adapter.target, Adapter.validate_eq_ok_iff.2 hs]
    rfl
  cases hresolve : Adapter.resolve d s with
  | error e =>
    obtain ⟨reason, rfl⟩ := Adapter.resolve_refuses hd s e hresolve
    rw [open_of_error (htarget.trans hresolve)]
    refine .pure fun e he => ?_
    rw [← Except.error.inj he]
    exact .dsn reason
  | ok t =>
    rw [open_of_target (htarget.trans hresolve)]
    exact (connect_always t connect name d p).map fun r hr => hr

/-! ### Building -/

namespace Factory

variable {c : Config} {d : Driver}

/-- A configuration that fails its check is refused, and no connection is tried. -/
theorem build_of_error {e : Config.Error} (h : c.validate = .error e) (f : Factory)
    (connect : ConnectIn m σ) : f.build connect c = throw (.config e) := by
  rw [build, h]
  exact ofExcept_error_bind _ _

/-- Without a driver there is nothing to be opened. -/
theorem build_of_none (h : c.validate = .ok ()) (hd : c.driver = Driver.none.name) (f : Factory)
    (connect : ConnectIn m σ) :
    f.build connect c = pure (.withoutDatabase f.name (f.plugin c.observability)) := by
  rw [build, h, Config.selectedDriver_of_name hd]
  exact (ofExcept_ok_bind _ _).trans (ofExcept_ok_bind _ _)

/-- The selected section is there and passes the check of its adapter. -/
theorem section_of_validate (h : c.validate = .ok ()) (hd : c.driver = d.name) (hnone : d ≠ .none) :
    ∃ s, c.section? d = some s ∧ sectionOf c d = .ok s ∧ Adapter.validate d s = .ok () := by
  obtain ⟨s, hs, hcontract⟩ := (Config.validate_eq_ok_iff.1 h).selected d hd hnone
  refine ⟨s, hs, ?_, Adapter.validate_eq_ok_iff.2 hcontract⟩
  rw [sectionOf, hs]

/-- With a driver its database is opened. -/
theorem build_of_section (h : c.validate = .ok ()) (hd : c.driver = d.name) (hnone : d ≠ .none)
    {s : Config.Section} (hs : sectionOf c d = .ok s) (f : Factory) (connect : ConnectIn m σ) :
    f.build connect c = Manager.open connect f.name d s (f.plugin c.observability) := by
  rw [build, h, Config.selectedDriver_of_name hd]
  refine (ofExcept_ok_bind _ _).trans ((ofExcept_ok_bind _ _).trans ?_)
  cases d with
  | none => exact absurd rfl hnone
  | _ =>
    dsimp only
    rw [hs]
    exact ofExcept_ok_bind _ _

/-- A configuration that passed its check is refused for its data source name or by the probe. -/
theorem build_failsOnly (h : c.validate = .ok ()) (hd : c.driver = d.name) (f : Factory)
    (connect : ConnectIn m σ) : FailsOnly (Opening d) (f.build connect c) := by
  by_cases hnone : d = .none
  · subst hnone
    rw [build_of_none h hd]
    exact fun notices => .pure nofun
  · obtain ⟨s, -, hs, hvalid⟩ := section_of_validate h hd hnone
    rw [build_of_section h hd hnone hs]
    exact open_failsOnly hnone (Adapter.validate_eq_ok_iff.1 hvalid) connect _ _

/-- Whatever comes of the check, the caller is at fault for an error of building exactly if it is
about the configuration or the data source name. -/
theorem build_callerErrors (f : Factory) (connect : ConnectIn m σ) (c : Config) :
    FailsOnly (fun e => e.isCallerError = true ↔
      (∃ cause, e = .config cause) ∨ ∃ d reason, e = .invalidDsn d reason) (f.build connect c) := by
  intro notices
  cases h : c.validate with
  | error cause =>
    rw [build_of_error h]
    refine .pure fun e he => ?_
    rw [← Except.error.inj he]
    exact iff_of_true rfl (.inl ⟨cause, rfl⟩)
  | ok u =>
    obtain ⟨d, hd⟩ := Config.mem_names_iff.1 (Config.validate_eq_ok_iff.1 h).driver
    refine (build_failsOnly h hd f connect notices).mono fun r hr e he => ?_
    exact (hr e he).isCallerError_iff

/-- The check is exactly the contract, it reads the selected section alone, and nothing after it
checks more: the section is there and passes the check of its adapter, so building fails only for
the data source name or by the probe. A configuration that fails the check is refused with that
error before any connection is tried. -/
theorem validate_decides_build (c : Config) :
    (c.validate = .ok () ↔ c.Contract) ∧
    (∀ c' : Config, c'.driver = c.driver →
      (∀ d : Driver, c.driver = d.name → c'.section? d = c.section? d) →
      c'.observability = c.observability → c'.validate = c.validate) ∧
    (c.validate = .ok () → ∀ d : Driver, c.driver = d.name → d ≠ .none →
      ∃ s, c.section? d = some s ∧ sectionOf c d = .ok s ∧ Adapter.validate d s = .ok ()) ∧
    (∀ {σ : Type} {m : Type → Type} [Monad m] [LawfulMonad m] (f : Factory)
      (connect : ConnectIn m σ),
      (c.validate = .ok () → ∀ d : Driver, c.driver = d.name →
        FailsOnly (Opening d) (f.build connect c)) ∧
      (∀ e, c.validate = .error e → f.build connect c = throw (.config e)) ∧
      FailsOnly (fun e => e.isCallerError = true ↔
        (∃ cause, e = .config cause) ∨ ∃ d reason, e = .invalidDsn d reason)
        (f.build connect c)) ∧
    (∀ e : Error, e.isCallerError = true ↔
      (∃ cause, e = .config cause) ∨ (∃ d reason, e = .invalidDsn d reason) ∨
      (∃ message, e = .invalidConfig message) ∨ (∃ operation, e = .missingConditions operation) ∨
      ∃ operation, e = .missingValues operation) := by
  refine ⟨Config.validate_eq_ok_iff, ?_, ?_, ?_, Error.isCallerError_iff⟩
  · intro c' hdriver hsection hobservability
    exact Config.validate_congr hdriver hsection hobservability
  · intro h d hd hnone
    exact section_of_validate h hd hnone
  · intro σ m _ _ f connect
    exact ⟨fun h d hd => build_failsOnly h hd f connect, fun e h => build_of_error h f connect,
      build_callerErrors f connect c⟩

/-- A database in memory passes the check, so it is opened; MySQL without a section does not, so
nothing is. -/
theorem validate_decides_build_memory :
    (Config.sqliteMemory.validate = .ok () ∧
      FailsOnly (Opening .sqlite) (build (m := Id) ⟨"svc", false⟩
        (fun _ _ _ => (.ok () : Except ProbeFailure Unit)) Config.sqliteMemory)) ∧
    ∀ {σ : Type} {m : Type → Type} [Monad m] [LawfulMonad m] (connect : ConnectIn m σ),
      build ⟨"svc", false⟩ connect { Config.noDatabase with driver := "mysql" } =
        throw (.config (.missingDriverConfig "mysql" "mysql_config")) := by
  have hmemory : Config.sqliteMemory.validate = .ok () := by decide +kernel
  have hmissing : ({ Config.noDatabase with driver := "mysql" } : Config).validate =
      .error (.missingDriverConfig "mysql" "mysql_config") := by decide +kernel
  refine ⟨⟨hmemory, ?_⟩, ?_⟩
  · obtain ⟨-, -, -, hbuild, -⟩ := validate_decides_build Config.sqliteMemory
    exact (hbuild _ _).1 hmemory .sqlite rfl
  · intro σ m _ _ connect
    obtain ⟨-, -, -, hbuild, -⟩ :=
      validate_decides_build { Config.noDatabase with driver := "mysql" }
    exact (hbuild _ connect).2.1 _ hmissing

/-- An adapter that is asked on its own answers a blank data source name with a third kind of error
that the caller is at fault for. -/
theorem blank_dsn_is_callerError :
    ∃ e, Adapter.validate .mysql (.ofDsn .mysql "") = .error e ∧
      ¬ (e.isCallerError = true ↔
        (∃ cause, e = .config cause) ∨ ∃ d reason, e = .invalidDsn d reason) := by
  refine ⟨.invalidConfig "mysql_config.dsn must not be empty", by decide +kernel, ?_⟩
  rw [not_iff]
  simp [Error.isCallerError]

end Factory

end DataAccess.Access
