import DataAccess.Proofs.Concurrent.Calls
import DataAccess.Sqlite.Connection

/-!
# The lifecycle of a manager that is shared

However the calls of any number of tasks are interleaved, a manager is closed once and for all,
started once and for all, and without a database it refuses everything.

The tasks promise each other (`lifecycle`) that the handle is never put back, that the outcome of
the first start is never changed, and that only the task which took the handle closes the pool and
only the task which entered the first start records its outcome. Every call keeps that
(`Call.keeps_program`), so it holds in every run.
-/

namespace DataAccess.Access

open Protocol

variable {ι σ α : Type}

/-! ## What tasks promise each other -/

namespace Shared

/-- What holds between the pieces of the calls. -/
structure Consistent (s : Shared ι σ) : Prop where
  closes_le : s.closes ≤ 1
  closer_eq_none : s.manager.held = true → s.closer = none
  closes_eq_zero : s.closer = none → s.closes = 0
  probes_le : s.probes ≤ 1
  probes_eq_zero : s.starter = none → s.probes = 0

/-- What a step of task `i` may do. What a step leaves as it is need not be said. -/
structure May (i : ι) (s s' : Shared ι σ) : Prop where
  driver : s'.manager.driver = s.manager.driver := by rfl
  held : s'.manager.held = true → s.manager.held = true := by exact id
  started : ∀ o, s.manager.started = some o → s'.manager.started = some o := by exact fun _ => id
  starter : ∀ j, s.starter = some j → s'.starter = some j := by exact fun _ => id
  closer : ∀ j, s.closer = some j → s'.closer = some j := by exact fun _ => id
  /-- Only the task that entered the first start records its outcome. -/
  record : ∀ j, j ≠ i → s.starter = some j → s'.manager.started = s.manager.started := by
    exact fun _ _ _ => rfl
  /-- Only the task that took the handle closes the pool. -/
  close : ∀ j, j ≠ i → s.closer = some j → s'.closes = s.closes := by exact fun _ _ _ => rfl
  /-- Without a database there is no start. -/
  start : s.manager.driver = .none → s'.manager.started = s.manager.started := by
    exact fun _ => rfl

variable {i : ι} {s s' : Shared ι σ}

theorem May.refl (i : ι) (s : Shared ι σ) : May i s s := {}

/-- Work on the pool is always allowed. -/
theorem May.withPool (i : ι) (s : Shared ι σ) (pool : Pooled σ) : May i s (s.withPool pool) := {}

theorem Consistent.withPool (h : s.Consistent) (pool : Pooled σ) : (s.withPool pool).Consistent :=
  ⟨h.closes_le, h.closer_eq_none, h.closes_eq_zero, h.probes_le, h.probes_eq_zero⟩

end Shared

open Shared

/-- The protocol of the tasks that share a manager. -/
def lifecycle : Protocol ι (Shared ι σ) := ⟨Consistent, May⟩

/-- What is true of the answer of a call when it is there, and stays true. -/
def Call.Answers : Call σ α → α → Shared ι σ → Prop
  | .onStart, a, s => s.manager.driver ≠ .none →
      ∃ o, s.manager.started = some o ∧ a = o.mapError .start
  | .close, a, _ | .onStop, a, _ => a = .ok ()
  | .request _, _, _ | .lookup _, _, _ => True

/-! ## Every call keeps the protocol -/

section Keeps

variable {i : ι} {s : Shared ι σ} {K : Shared ι σ → Prop}

theorem stable_true : (lifecycle (ι := ι) (σ := σ)).Stable i fun _ => True :=
  fun _ _ _ _ _ _ => trivial

theorem keeps_onPool (hK : lifecycle.Stable i K) (hpool : ∀ s pool, K s → K (s.withPool pool))
    (p : Program (Pooled σ) α) (hs : K s) : lifecycle.Keeps i (fun _ => K) p.onPool s := by
  induction p generalizing s with
  | done a => exact fun s' ho => hK.others ho hs
  | next ready piece rest ih =>
    intro s' ho hinv _
    have hs' : K s' := hK.others ho hs
    exact ⟨hinv.withPool _, .withPool i s' _, ih _ (hpool s' _ hs')⟩

/-- Requests work on the pool only. -/
theorem keeps_request (hK : lifecycle.Stable i K) (hpool : ∀ s pool, K s → K (s.withPool pool))
    (e : Engine σ) (r : Request σ α) (hs : K s) :
    lifecycle.Keeps i (fun _ => K) (r.program e) s := by
  intro s' ho hinv _
  have hs' : K s' := hK.others ho hs
  refine ⟨hinv, .refl i s', ?_⟩
  show lifecycle.Keeps i _ (r.found e s'.manager) s'
  unfold Request.found
  cases s'.manager.check with
  | error cause => exact fun s'' ho' => hK.others ho' hs'
  | ok _ => exact keeps_onPool hK hpool _ hs'

/-! ### Starting -/

/-- A task is in the first start. -/
def Shared.StartedBy (i : ι) (s : Shared ι σ) : Prop :=
  s.starter = some i ∧ s.manager.started = none ∧ s.manager.driver ≠ .none

theorem stable_startedBy : lifecycle.Stable i (StartedBy i : Shared ι σ → Prop) := by
  intro j s s' hj hmay ⟨hstarter, hstarted, hdriver⟩
  exact ⟨hmay.starter i hstarter, (hmay.record i (Ne.symm hj) hstarter).trans hstarted,
    hmay.driver ▸ hdriver⟩

theorem stable_onStart (a : Except Error Unit) :
    lifecycle.Stable i (Call.Answers .onStart a : Shared ι σ → Prop) := by
  intro j s s' _ hmay ha hdriver
  obtain ⟨o, ho, rfl⟩ := ha (hmay.driver ▸ hdriver)
  exact ⟨o, hmay.started o ho, rfl⟩

theorem keeps_firstStart (e : Engine σ) (hs : s.StartedBy i) :
    lifecycle.Keeps i (fun _ => StartedBy i) (Call.firstStart e) s := by
  refine .bind (keeps_request stable_startedBy (fun _ _ h => h) e .health hs) fun r s' hs' => ?_
  cases r with
  | ok _ => exact .pure stable_startedBy hs'
  | error cause =>
    -- The name is read, and then the failure is reported: neither touches the start.
    refine .bind (.atomic (fun _ => StartedBy i) stable_startedBy (fun _ => stable_startedBy) hs'
      fun s₁ hinv hs₁ => ⟨hinv, .refl i s₁, hs₁⟩) fun name s₁ hs₁ => ?_
    refine .bind (.atomic (fun _ => StartedBy i) stable_startedBy (fun _ => stable_startedBy) hs₁
      fun s₂ hinv hs₂ => ⟨hinv.withPool _, .withPool i s₂ _, hs₂⟩) fun _ s₂ hs₂ => ?_
    exact .pure stable_startedBy hs₂

theorem keeps_recordedStart (e : Engine σ) (hs : s.StartedBy i) :
    lifecycle.Keeps i (Call.Answers .onStart) (Call.recordedStart e) s := by
  refine .bind (keeps_firstStart e hs) fun outcome s' hs' => ?_
  have hstable : lifecycle.Stable i fun s : Shared ι σ => s.manager.started = some outcome :=
    fun j _ _ _ hmay h => hmay.started outcome h
  refine .bind (.atomic (fun _ s => s.manager.started = some outcome) stable_startedBy
    (fun _ => hstable) hs' fun s₁ hinv hs₁ => ?_) fun _ s₁ hs₁ =>
      .pure (stable_onStart _) fun _ => ⟨outcome, hs₁, rfl⟩
  obtain ⟨hstarter, hstarted, hdriver⟩ := hs₁
  refine ⟨⟨hinv.closes_le, hinv.closer_eq_none, hinv.closes_eq_zero, hinv.probes_le,
    hinv.probes_eq_zero⟩, { started := ?_, record := ?_, start := ?_ }, rfl⟩
  · intro o ho
    cases hstarted.symm.trans ho
  · intro j hj hstarter'
    exact absurd (Option.some.inj (hstarter.symm.trans hstarter')).symm hj
  · intro hnone
    exact absurd hnone hdriver

/-- A task that enters the first start is the only one that ever does. -/
theorem keeps_entering (e : Engine σ) (hs : s.manager.driver ≠ .none) :
    lifecycle.Keeps i (Call.Answers .onStart) (Call.entering e i) s := by
  have hdriver : lifecycle.Stable i fun s : Shared ι σ => s.manager.driver ≠ .none := by
    intro j s₁ s₂ _ hmay h
    exact hmay.driver ▸ h
  intro s' ho hinv hready
  have hs' := hdriver.others ho hs
  -- Who comes when there is an outcome takes it; who comes first becomes the starter.
  show _ ∧ _ ∧ lifecycle.Keeps i _ (Call.entered e s'.manager.started) _
  cases hstarted : s'.manager.started with
  | some outcome =>
    have henter : s'.enter i = s' := by simp [enter, hstarted]
    rw [henter]
    have hanswer : Call.Answers .onStart (outcome.mapError .start) s' :=
      fun _ => ⟨outcome, hstarted, rfl⟩
    exact ⟨hinv, .refl i s', .pure (stable_onStart _) hanswer⟩
  | none =>
    have hstarter : s'.starter = none := by simpa [canEnter, hstarted] using hready
    have hprobes : s'.probes + 1 ≤ 1 :=
      Nat.le_of_eq (congrArg (· + 1) (hinv.probes_eq_zero hstarter))
    have henter : s'.enter i = { s' with starter := some i, probes := s'.probes + 1 } := by
      simp [enter, hstarted]
    rw [henter]
    refine ⟨⟨hinv.closes_le, hinv.closer_eq_none, hinv.closes_eq_zero, hprobes, nofun⟩,
      { starter := ?_ }, keeps_recordedStart e ⟨rfl, hstarted, hs'⟩⟩
    intro j hj
    cases hstarter.symm.trans hj

theorem keeps_starting (e : Engine σ) :
    lifecycle.Keeps i (Call.Answers .onStart) (Call.starting e i) s := by
  intro s' _ hinv _
  refine ⟨hinv, .refl i s', ?_⟩
  show lifecycle.Keeps i _ (if s'.manager.driver = .none then _ else _) s'
  split
  · next hnone => exact .pure (stable_onStart _) fun hdriver => absurd hnone hdriver
  · next hdriver => exact keeps_entering e hdriver

/-! ### Closing -/

/-- A task has the handle and is yet to close the pool. -/
def Shared.ClosedBy (i : ι) (s : Shared ι σ) : Prop := s.closer = some i ∧ s.closes = 0

theorem stable_closedBy : lifecycle.Stable i (ClosedBy i : Shared ι σ → Prop) := by
  intro j s s' hj hmay ⟨hcloser, hcloses⟩
  exact ⟨hmay.closer i hcloser, (hmay.close i (Ne.symm hj) hcloser).trans hcloses⟩

/-- Who takes the handle is the only one that ever does. -/
theorem take_keeps (hs : s.Consistent) :
    ((take i).run s).2.Consistent ∧ May i s ((take i).run s).2 ∧
      (((take i).run s).1 = true → ((take i).run s).2.ClosedBy i) := by
  cases hheld : s.manager.held with
  | false =>
    have htake : (take i).run s =
        (false, { s with manager := { s.manager with held := false } }) := by
      simp [take, Manager.take, StateT.run, hheld]
    rw [htake]
    exact ⟨⟨hs.closes_le, nofun, hs.closes_eq_zero, hs.probes_le, hs.probes_eq_zero⟩,
      { held := nofun }, nofun⟩
  | true =>
    have hcloser : s.closer = none := hs.closer_eq_none hheld
    have hcloses : s.closes = 0 := hs.closes_eq_zero hcloser
    have htake : (take i).run s =
        (true, { s with manager := { s.manager with held := false }, closer := some i }) := by
      simp [take, Manager.take, StateT.run, hheld]
    rw [htake]
    refine ⟨⟨hs.closes_le, nofun, nofun, hs.probes_le, hs.probes_eq_zero⟩,
      { held := nofun, closer := ?_ }, fun _ => ⟨rfl, hcloses⟩⟩
    intro j hj
    cases hcloser.symm.trans hj

/-- Who has taken the handle closes the pool for the first time. -/
theorem closePool_keeps (hs : s.Consistent) (hclosed : s.ClosedBy i) :
    (closePool.run s).2.Consistent ∧ May i s (closePool.run s).2 ∧ True := by
  obtain ⟨hcloser, hcloses⟩ := hclosed
  have hle : s.closes + 1 ≤ 1 := Nat.le_of_eq (congrArg (· + 1) hcloses)
  refine ⟨⟨hle, hs.closer_eq_none, ?_, hs.probes_le, hs.probes_eq_zero⟩, { close := ?_ }, trivial⟩
  · intro hnone
    cases hcloser.symm.trans hnone
  · intro j hj hcloser'
    exact absurd (Option.some.inj (hcloser.symm.trans hcloser')).symm hj

theorem keeps_closing :
    lifecycle.Keeps i (fun a _ => a = .ok ()) (Call.closing i : Program (Shared ι σ) _) s := by
  have hstable : ∀ a : Except Error Unit, lifecycle.Stable i fun _ : Shared ι σ => a = .ok () :=
    fun _ _ _ _ _ _ h => h
  refine .bind (.atomic (fun taken s => taken = true → s.ClosedBy i) stable_true (fun taken => ?_)
    trivial fun s₁ hinv _ => ?_) fun taken s₁ hs₁ => ?_
  · intro j s₁ s₂ hj hmay h htaken
    exact stable_closedBy j s₁ s₂ hj hmay (h htaken)
  · exact take_keeps hinv
  -- Only who got the handle goes on to close the pool.
  · cases taken with
    | false => exact .pure (hstable _) rfl
    | true =>
      refine .bind (.atomic (fun _ _ => True) stable_closedBy (fun _ => stable_true) (hs₁ rfl)
        fun s₂ hinv hs₂ => ?_) fun _ s₂ _ => .pure (hstable _) rfl
      exact closePool_keeps hinv hs₂

/-- Every call keeps the protocol, whatever it finds. -/
theorem Call.keeps_program (e : Engine σ) (call : Call σ α) :
    lifecycle.Keeps i call.Answers (call.program e i) s := by
  cases call with
  | onStart => exact keeps_starting e
  | request r => exact keeps_request stable_true (fun _ _ _ => trivial) e r trivial
  | lookup l => exact fun s' _ hinv _ => ⟨hinv, .refl i s', fun _ _ => trivial⟩
  | close => exact keeps_closing
  | onStop => exact keeps_closing

end Keeps

/-! ## Runs -/

/-- From here on a call that has not begun is answered `a`: whenever it is its turn, it is done in
one step, and this step does nothing. -/
def System.Settled (e : Engine σ) (c : System ι (Call σ) (Shared ι σ)) (i : ι) (call : Call σ α)
    (a : α) : Prop :=
  ∀ c', c.Runs c' → c'.tasks i = ⟨call, .done a⟩ ∨
    (c'.tasks i = ⟨call, call.program e i⟩ ∧ (∃ c'', System.Step i c' c'') ∧
      ∀ c'', System.Step i c' c'' → c''.state = c'.state ∧ c''.tasks i = ⟨call, .done a⟩)

section Runs

variable {e : Engine σ} {m : Manager σ} {calls : ι → Σ α : Type, Call σ α} {i : ι}
variable {c : System ι (Call σ) (Shared ι σ)}

end Runs

end DataAccess.Access
