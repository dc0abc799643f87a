import DataAccess.Access.Transaction
import Mathlib.Logic.Function.Basic
import Mathlib.Logic.Relation

/-!
# Programs that share a state

A program works on a state in pieces, and between two pieces others may work on it. A system is a
state with any number of tasks, of which one after the other takes a step, in any order.

Tasks are told apart from each other by what they promise (`Protocol`): an invariant, and for each
task what its steps may do. A program keeps a protocol (`Protocol.Keeps`) if each of its steps does,
whatever the others did before it. Whether it does is a matter of the program alone;
`System.Runs.keeps` puts the tasks together.
-/

namespace DataAccess.Access

open Relation

/-! ## Programs -/

/-- A program on a state. -/
inductive Program (S α : Type) where
  | done (a : α)
  /-- A piece of work, which waits until the state is ready for it. What is left to do depends on
  the state that it finds. -/
  | next (ready : S → Bool) (piece : S → S) (rest : S → Program S α)

namespace Program

variable {S α β : Type}

/-- A program and what follows from its answer. -/
protected def bind : Program S α → (α → Program S β) → Program S β
  | done a, f => f a
  | next ready piece rest, f => next ready piece fun s => (rest s).bind f

instance : Monad (Program S) where
  pure := done
  bind := Program.bind

protected theorem bind_assoc {γ : Type} (p : Program S α) (f : α → Program S β) (g : β → Program S γ) :
    (p >>= f) >>= g = p >>= fun a => f a >>= g := by
  induction p with
  | done a => rfl
  | next ready piece rest ih => exact congrArg (next ready piece) (funext ih)

/-- Work in one piece. -/
def atomic (work : StateM S α) : Program S α :=
  next (fun _ => true) (fun s => (work.run s).2) fun s => done (work.run s).1

instance : MonadLift (StateM S) (Program S) := ⟨atomic⟩

/-- What a program does by itself, as if it never had to wait. -/
def run : Program S α → StateM S α
  | done a => pure a
  | next _ piece rest => fun s => (rest s).run (piece s)

@[simp] theorem run_pure (a : α) : (pure a : Program S α).run = pure a := rfl

@[simp] theorem run_bind (p : Program S α) (f : α → Program S β) :
    (p >>= f).run = p.run >>= fun a => (f a).run := by
  induction p with
  | done a => rfl
  | next ready piece rest ih =>
    funext s
    exact congrFun (ih s) (piece s)

/-- A turn of a program: its next piece, if it has one and need not wait. -/
def advance : Program S α → S → S × Program S α
  | done a, s => (s, done a)
  | next ready piece rest, s =>
    if ready s then (piece s, rest s) else (s, next ready piece rest)

/-- A program is done after at most some steps, and waits for none of them. -/
def Within : Nat → Program S α → Prop
  | _, done _ => True
  | 0, next .. => False
  | n + 1, next ready _ rest => (∀ s, ready s = true) ∧ ∀ s, Within n (rest s)

end Program

/-! ## Protocols -/

/-- What tasks promise each other: what holds between their steps, and what a step of each of them
may do. -/
structure Protocol (ι S : Type) where
  inv : S → Prop
  may : ι → S → S → Prop

namespace Protocol

variable {ι S α β : Type} (P : Protocol ι S) (i : ι)

/-- What the others may do while a task makes no step. -/
def Others : S → S → Prop := ReflTransGen fun s s' => ∃ j, j ≠ i ∧ P.may j s s'

/-- A property of the state that the others keep. -/
def Stable (K : S → Prop) : Prop := ∀ j s s', j ≠ i → P.may j s s' → K s → K s'

/-- From a state on, each step of a program is one that its task may take, and its answer is as it
should be, whatever the others do meanwhile. -/
def Keeps (post : α → S → Prop) : Program S α → S → Prop
  | .done a, s => ∀ s', P.Others i s s' → post a s'
  | .next ready piece rest, s => ∀ s', P.Others i s s' → P.inv s' → ready s' = true →
      P.inv (piece s') ∧ P.may i s' (piece s') ∧ Keeps post (rest s') (piece s')

variable {P i} {post : α → S → Prop} {p : Program S α} {s s' : S}

theorem Stable.others {K : S → Prop} (hK : P.Stable i K) (h : P.Others i s s') (hs : K s) :
    K s' := by
  induction h with
  | refl => exact hs
  | tail _ hstep ih =>
    obtain ⟨j, hj, hmay⟩ := hstep
    exact hK j _ _ hj hmay ih

theorem Keeps.others (h : P.Keeps i post p s) (ho : P.Others i s s') : P.Keeps i post p s' := by
  cases p with
  | done a => exact fun s'' ho' => h s'' (ho.trans ho')
  | next ready piece rest => exact fun s'' ho' => h s'' (ho.trans ho')

/-- An answer that is as it should be and stays so. -/
theorem Keeps.pure {a : α} (hstable : P.Stable i (post a)) (h : post a s) :
    P.Keeps i post (pure a) s :=
  fun _ ho => hstable.others ho h

theorem Keeps.mono {post' : α → S → Prop} (h : P.Keeps i post p s)
    (himp : ∀ a s', post a s' → post' a s') : P.Keeps i post' p s := by
  induction p generalizing s with
  | done a => exact fun s' ho => himp a s' (h s' ho)
  | next ready piece rest ih =>
    intro s' ho hinv hready
    obtain ⟨hinv', hmay, hrest⟩ := h s' ho hinv hready
    exact ⟨hinv', hmay, ih s' hrest⟩

/-- A program after which the rest keeps the protocol, given what its answer says. -/
theorem Keeps.bind {mid : α → S → Prop} {post : β → S → Prop} {f : α → Program S β}
    (h : P.Keeps i mid p s) (hf : ∀ a s', mid a s' → P.Keeps i post (f a) s') :
    P.Keeps i post (p >>= f) s := by
  induction p generalizing s with
  | done a => exact hf a s (h s .refl)
  | next ready piece rest ih =>
    intro s' ho hinv hready
    obtain ⟨hinv', hmay, hrest⟩ := h s' ho hinv hready
    exact ⟨hinv', hmay, ih s' hrest⟩

/-- Work in one piece, from a property that the others keep to a property that they keep. -/
theorem Keeps.atomic {work : StateM S α} {K : S → Prop} (post : α → S → Prop)
    (hK : P.Stable i K) (hpost : ∀ a, P.Stable i (post a)) (hs : K s)
    (h : ∀ s', P.inv s' → K s' → P.inv (work.run s').2 ∧ P.may i s' (work.run s').2 ∧
      post (work.run s').1 (work.run s').2) :
    P.Keeps i post (.atomic work) s := by
  intro s' ho hinv _
  obtain ⟨hinv', hmay, ha⟩ := h s' hinv (hK.others ho hs)
  exact ⟨hinv', hmay, .pure (hpost _) ha⟩

end Protocol

/-! ## Systems -/

/-- A task: the call that it makes, and what is left of its program. -/
structure Caller (L : Type → Type 1) (S : Type) where
  {answer : Type}
  call : L answer
  rest : Program S answer

/-- A state with the tasks that work on it. -/
structure System (ι : Type) (L : Type → Type 1) (S : Type) where
  state : S
  tasks : ι → Caller L S

namespace System

variable {ι S : Type} {L : Type → Type 1} {c c' c'' : System ι L S} {i : ι}

/-- A step of one task: the piece that is next, if the state is ready for it. -/
inductive Step (i : ι) (c c' : System ι L S) : Prop
  | intro {α : Type} {call : L α} {ready : S → Bool} {piece : S → S} {rest : S → Program S α}
    (task : c.tasks i = ⟨call, .next ready piece rest⟩) (ready : ready c.state = true)
    (state : c'.state = piece c.state) (own : c'.tasks i = ⟨call, rest c.state⟩)
    (others : ∀ j, j ≠ i → c'.tasks j = c.tasks j)

/-- Steps of any tasks in any order. -/
def Runs : System ι L S → System ι L S → Prop := ReflTransGen fun c c' => ∃ i, Step i c c'

/-- The turn of a task: its next step, if it has one and need not wait. -/
def turn [DecidableEq ι] (c : System ι L S) (i : ι) : System ι L S :=
  match c.tasks i with
  | ⟨call, .next ready piece rest⟩ =>
    if ready c.state then ⟨piece c.state, Function.update c.tasks i ⟨call, rest c.state⟩⟩ else c
  | ⟨_, .done _⟩ => c

/-- The turns of some tasks, one after the other. -/
def turns [DecidableEq ι] (c : System ι L S) (is : List ι) : System ι L S := is.foldl turn c

/-- A turn is a matter of the task and the state alone. -/
theorem turn_eq [DecidableEq ι] (c : System ι L S) (i : ι) :
    c.turn i = ⟨((c.tasks i).rest.advance c.state).1, Function.update c.tasks i
      ⟨(c.tasks i).call, ((c.tasks i).rest.advance c.state).2⟩⟩ := by
  rw [turn]
  have hself : Function.update c.tasks i (c.tasks i) = c.tasks := Function.update_eq_self i c.tasks
  cases htask : c.tasks i with
  | mk call program =>
    rw [htask] at hself
    cases program with
    | done a =>
      show c = ⟨c.state, Function.update c.tasks i ⟨call, .done a⟩⟩
      rw [hself]
    | next ready piece rest =>
      dsimp only [Program.advance]
      split
      · rfl
      · rw [hself]

theorem step_turn [DecidableEq ι] {α : Type} {call : L α} {ready : S → Bool} {piece : S → S}
    {rest : S → Program S α} (htask : c.tasks i = ⟨call, .next ready piece rest⟩)
    (hready : ready c.state = true) : Step i c (c.turn i) := by
  have hturn : c.turn i = ⟨piece c.state, Function.update c.tasks i ⟨call, rest c.state⟩⟩ := by
    rw [turn, htask]
    exact if_pos hready
  rw [hturn]
  exact ⟨htask, hready, rfl, Function.update_self .., fun j hj => Function.update_of_ne hj ..⟩

/-- Turns make a run, also those of tasks that wait or are done. -/
theorem runs_turns [DecidableEq ι] (c : System ι L S) (is : List ι) : c.Runs (c.turns is) := by
  induction is generalizing c with
  | nil => exact .refl
  | cons i rest ih =>
    refine .trans ?_ (ih (c.turn i))
    cases htask : c.tasks i with
    | mk call program =>
      cases program with
      | done a =>
        have hturn : c.turn i = c := by rw [turn, htask]
        rw [hturn]
      | next ready piece rest =>
        by_cases hready : ready c.state = true
        · exact .single ⟨i, step_turn htask hready⟩
        · have hturn : c.turn i = c := by
            rw [turn, htask]
            exact if_neg hready
          rw [hturn]

/-- What a step does is what the task has next. -/
theorem Step.own_eq {α : Type} {call : L α} {ready : S → Bool} {piece : S → S}
    {rest : S → Program S α} (h : Step i c c')
    (htask : c.tasks i = ⟨call, .next ready piece rest⟩) :
    c'.state = piece c.state ∧ c'.tasks i = ⟨call, rest c.state⟩ := by
  obtain ⟨htask', -, hstate, hown, -⟩ := h
  cases htask.symm.trans htask'
  exact ⟨hstate, hown⟩

/-- The protocol holds in a system: the invariant, and every task keeps it from here on. -/
structure Keeps (P : Protocol ι S) (post : ∀ {α}, L α → α → S → Prop) (c : System ι L S) :
    Prop where
  inv : P.inv c.state
  tasks : ∀ i, P.Keeps i (post (c.tasks i).call) (c.tasks i).rest c.state

variable {P : Protocol ι S} {post : ∀ {α}, L α → α → S → Prop}

/-- A step is one that its task may take, and the protocol goes on to hold. -/
theorem Step.keeps (h : Step i c c') (hc : c.Keeps P post) :
    P.may i c.state c'.state ∧ c'.Keeps P post := by
  obtain ⟨htask, hready, hstate, hown, hothers⟩ := h
  have hkeeps := hc.tasks i
  rw [htask] at hkeeps
  obtain ⟨hinv, hmay, hrest⟩ := hkeeps c.state .refl hc.inv hready
  rw [← hstate] at hinv hmay hrest
  refine ⟨hmay, hinv, fun j => ?_⟩
  -- The task has kept its part; for every other one it was a step of the others.
  by_cases hj : j = i
  · subst hj
    rw [hown]
    exact hrest
  · rw [hothers j hj]
    exact (hc.tasks j).others (.single ⟨i, Ne.symm hj, hmay⟩)

theorem Runs.keeps (h : Runs c c') (hc : c.Keeps P post) : c'.Keeps P post := by
  induction h with
  | refl => exact hc
  | tail _ hstep ih =>
    obtain ⟨i, hstep⟩ := hstep
    exact (hstep.keeps ih).2

/-- What no task may change stays as it is. -/
theorem Runs.invariant (K : S → Prop) (hK : ∀ i s s', P.may i s s' → K s → K s')
    (h : Runs c c') (hc : c.Keeps P post) (hs : K c.state) : K c'.state := by
  induction h with
  | refl => exact hs
  | tail hruns hstep ih =>
    obtain ⟨i, hstep⟩ := hstep
    exact hK i _ _ (hstep.keeps (Runs.keeps hruns hc)).1 ih

/-- The answer of a task that is done. -/
theorem Keeps.answer {α : Type} {call : L α} {a : α} (hc : c.Keeps P post)
    (htask : c.tasks i = ⟨call, .done a⟩) : post call a c.state := by
  have hkeeps := hc.tasks i
  rw [htask] at hkeeps
  exact hkeeps c.state .refl

end System

end DataAccess.Access
