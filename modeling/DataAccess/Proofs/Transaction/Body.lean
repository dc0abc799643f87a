import DataAccess.Proofs.Engine.Executor

/-!
# Bodies of transactions

A `Body` is what may run in a transaction: statements, readings of the depth, and savepoints with
bodies of their own, to any depth, each step chosen by what the steps before it answered. It ends
where it likes, with a value, an error or a panic.

A body has two meanings. `Body.run` runs it on an open transaction. `Body.meaning` is what nested
transactions are meant to be: it works on the data alone, without names and marks, and a savepoint
whose body fails or panics contributes nothing.
-/

namespace DataAccess.Access

open Sql

variable {ω δ π ε α : Type}

/-- A body that ends with a value of type `α` or an error of type `ε`, or panics. -/
inductive Body (π : Type) : Type → Type → Type 1 where
  /-- Return, fail or panic. -/
  | done {ε α : Type} (exit : Exit π ε α) : Body π ε α
  | execute {ε α : Type} (q : Statement) (next : Except Error Nat → Body π ε α) : Body π ε α
  | fetch {ε α : Type} (q : Statement) (next : Except Error (List Record) → Body π ε α) :
      Body π ε α
  /-- Ask for the number of open savepoints. -/
  | askDepth {ε α : Type} (next : Nat → Body π ε α) : Body π ε α
  /-- Run a body in a savepoint, and go on with how it ended: handle an error or pass it on. -/
  | savepoint {ε α ε' β : Type} (ofError : Error → ε') (inner : Body π ε' β)
      (next : Exit π ε' β → Body π ε α) : Body π ε α

namespace Exit

/-- What is left of a change: all of it after a value, nothing after an error or a panic. -/
def keep (exit : Exit π ε α) (new old : δ) : δ :=
  match exit with
  | .value _ => new
  | .error _ => old
  | .panic _ => old

end Exit

namespace Body

/-- Run a body on an open transaction. -/
def run {m : Type → Type} [Monad m] {ε α : Type} :
    Body π ε α → Transaction m → m (Exit π ε α)
  | .done exit, _ => return exit
  | .execute q next, t => do (next (← t.session.execute q)).run t
  | .fetch q next, t => do (next (← t.session.fetch q)).run t
  | .askDepth next, t => (next t.depth).run t
  | .savepoint ofError inner next, t => do (next (← t.savepoint ofError inner.run)).run t

/-- What a body inside `depth` savepoints is meant to do to the world and the data. -/
def meaning (S : Store ω δ) {ε α : Type} :
    Body π ε α → (depth : Nat) → ω × δ → Exit π ε α × ω × δ
  | .done exit, _, now => (exit, now)
  | .execute q next, depth, now =>
    (next (S.execute q now).1).meaning S depth (S.execute q now).2
  | .fetch q next, depth, now =>
    (next (S.fetch q now).1).meaning S depth (S.fetch q now).2
  | .askDepth next, depth, now => (next depth).meaning S depth now
  | .savepoint _ inner next, depth, now =>
    let r := inner.meaning S (depth + 1) now
    (next r.1).meaning S depth (r.2.1, r.1.keep r.2.2 now.2)

/-- A body whose statements are all of some kind, whatever it is answered. -/
def Uses (plain : Statement → Prop) {ε α : Type} : Body π ε α → Prop
  | .done _ => True
  | .execute q next => plain q ∧ ∀ r, (next r).Uses plain
  | .fetch q next => plain q ∧ ∀ r, (next r).Uses plain
  | .askDepth next => ∀ k, (next k).Uses plain
  | .savepoint _ inner next => inner.Uses plain ∧ ∀ r, (next r).Uses plain

theorem uses_all {ε α : Type} (f : Body π ε α) : f.Uses fun _ => True := by
  induction f with
  | done exit => trivial
  | execute q next ih => exact ⟨trivial, ih⟩
  | fetch q next ih => exact ⟨trivial, ih⟩
  | askDepth next ih => exact ih
  | savepoint ofError inner next ihInner ihNext => exact ⟨ihInner, ihNext⟩

end Body

end DataAccess.Access
