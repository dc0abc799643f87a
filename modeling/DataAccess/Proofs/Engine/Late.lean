import DataAccess.Proofs.Engine.Store

/-!
# Engines that are late

On an engine that is slowed down, some statements are not done by any deadline: they are given up,
and leave the connection as it is. Under a deadline, such an engine keeps the data of the store on
which these statements time out (`Engine.Refines.slowed`), and without one those of the store as it
is (`Engine.Refines.slowed_unbounded`).
-/

namespace DataAccess.Access

open Observation Sql

variable {σ ω δ α τ : Type}

/-- The action as one that is given up at every deadline, before it has done anything. -/
def Action.late (a : Action σ α) : Action σ α := { a with givenUp? := fun _ c => some c }

theorem Action.late_answers {view : σ → τ} {v : τ} (a : Action σ α) (t : Time) :
    Answers view v (a.late.under ⟨some t⟩) (.error .timeout) v := by
  rintro c rfl
  rw [under_of_givenUp rfl]
  exact ⟨rfl, rfl⟩

/-- Who waits as long as it takes does not notice whether an action is late. -/
theorem Action.unbounded_of_late (a : Action σ α) (late : Bool) :
    (if late then a.late else a).under .unbounded = a.under .unbounded := by
  cases late with
  | true =>
    funext c
    show (a.late.under .unbounded).run c = (a.under .unbounded).run c
    rw [under_of_done rfl, under_of_done rfl]
    rfl
  | false => rfl

/-- The engine on which some statements are late. -/
def Engine.slowed (e : Engine σ) (slow : Statement → Bool) : Engine σ :=
  { e with
    execute := fun q => if slow q then (e.execute q).late else e.execute q
    fetch := fun q => if slow q then (e.fetch q).late else e.fetch q }

/-- The store on which some statements time out. -/
def Store.slowed (S : Store ω δ) (slow : Statement → Bool) : Store ω δ :=
  { S with
    execute := fun q now => if slow q then (.error .timeout, now) else S.execute q now
    fetch := fun q now => if slow q then (.error .timeout, now) else S.fetch q now }

section

variable {S : Store ω δ} {slow : Statement → Bool} {q : Statement} {now now' : ω × δ}

/-- An answer that is not an error has not timed out. -/
theorem answer_of_late {late : Bool} {answered : Except Error α × ω × δ} {a : α}
    (h : (if late then (.error .timeout, now) else answered) = (.ok a, now')) :
    answered = (.ok a, now') := by
  cases late with
  | true => cases h
  | false => exact h

/-- What goes through on the slow store does so on the store as well. -/
theorem Store.execute_of_slowed {n : Nat} (h : (S.slowed slow).execute q now = (.ok n, now')) :
    S.execute q now = (.ok n, now') := answer_of_late h

theorem Store.fetch_of_slowed {rs : List Record}
    (h : (S.slowed slow).fetch q now = (.ok rs, now')) : S.fetch q now = (.ok rs, now') :=
  answer_of_late h

end

/-- Under a deadline, an engine that is slowed down keeps the data of a store that times out. -/
theorem Engine.Refines.slowed {e : Engine σ} {t : Time} {S : Store ω δ} {covered : Coverage}
    {view : σ → ω × Phase δ} (h : e.Refines ⟨some t⟩ S covered view) (slow : Statement → Bool) :
    (e.slowed slow).Refines ⟨some t⟩ (S.slowed slow) covered view :=
  { h with
    execute_inside := by
      intro q w s d ms hq
      simp only [Engine.slowed, Store.slowed]
      cases slow q with
      | true => exact (e.execute q).late_answers t
      | false => exact h.execute_inside hq
    fetch_inside := by
      intro q w s d ms hq
      simp only [Engine.slowed, Store.slowed]
      cases slow q with
      | true => exact (e.fetch q).late_answers t
      | false => exact h.fetch_inside hq
    execute_alone := by
      intro q w d hq
      simp only [Engine.slowed, Store.slowed]
      cases slow q with
      | true => exact (e.execute q).late_answers t
      | false => exact h.execute_alone hq
    fetch_alone := by
      intro q w d hq
      simp only [Engine.slowed, Store.slowed]
      cases slow q with
      | true => exact (e.fetch q).late_answers t
      | false => exact h.fetch_alone hq }

/-- Without a deadline, it keeps those of the store as it is. -/
theorem Engine.Refines.slowed_unbounded {e : Engine σ} {S : Store ω δ} {covered : Coverage}
    {view : σ → ω × Phase δ} (h : e.Refines .unbounded S covered view)
    (slow : Statement → Bool) : (e.slowed slow).Refines .unbounded S covered view := by
  have hexecute (q : Statement) :
      ((e.slowed slow).execute q).under .unbounded = (e.execute q).under .unbounded :=
    (e.execute q).unbounded_of_late (slow q)
  have hfetch (q : Statement) :
      ((e.slowed slow).fetch q).under .unbounded = (e.fetch q).under .unbounded :=
    (e.fetch q).unbounded_of_late (slow q)
  exact { h with
    execute_inside := fun {q _ _ _ _} hq => hexecute q ▸ h.execute_inside hq
    fetch_inside := fun {q _ _ _ _} hq => hfetch q ▸ h.fetch_inside hq
    execute_alone := fun {q _ _} hq => hexecute q ▸ h.execute_alone hq
    fetch_alone := fun {q _ _} hq => hfetch q ▸ h.fetch_alone hq }

end DataAccess.Access
