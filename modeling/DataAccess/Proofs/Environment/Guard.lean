import Mathlib.Data.List.Infix
import Mathlib.Data.List.Nodup
import DataAccess.Environment.Guard

/-!
# Guards restore the environment

Guards nest, and each remembers only the first value it saw of a variable, so an inner guard
remembers what an outer one has set, and the outer one what was there before. The invariant of a
run is `Unwinds s t`: dropping the guards that `t` has on top of `s` leads back to `s`.

* `restore_put` — a guard restores the same environment before and after a change through it.
* `Unwinds.step` — every step keeps the invariant, as long as it stays on top of `s`.
* `guards_restore` — a guard that is dropped leaves what was there before it, and all of them
  together leave the first environment, in whatever order each puts its values back.
-/

namespace DataAccess.Environment

namespace Guard

variable {g g' : Guard} {env : Environment}

/-- The variables that a guard has touched. -/
def names (g : Guard) : List String := g.map Prod.fst

@[simp] theorem restore_nil : restore [] env = env := rfl

@[simp] theorem restore_cons (entry : String × Option String) :
    restore (entry :: g) env = g.restore (env.put entry.1 entry.2) := rfl

theorem lookup_eq_none_iff {n : String} : g.lookup n = none ↔ n ∉ g.names := by
  simp only [List.lookup_eq_none_iff, names, List.mem_map]
  grind

/-- What a guard restores: the value it remembers of a variable, or the one that is there. -/
theorem restore_apply (hg : g.names.Nodup) (env : Environment) (n : String) :
    g.restore env n = (g.lookup n).getD (env n) := by
  induction g generalizing env with
  | nil => rfl
  | cons entry rest ih =>
    obtain ⟨name, value⟩ := entry
    obtain ⟨hname, hrest⟩ := List.nodup_cons.mp hg
    rw [restore_cons, ih hrest]
    by_cases hn : n = name
    · subst hn
      have hnone : List.lookup n rest = none := lookup_eq_none_iff.mpr hname
      simp [hnone]
    · simp [List.lookup_cons, beq_false_of_ne hn, hn]

/-- The values may be put back in any order. -/
theorem restore_perm (hg : g.names.Nodup) (h : g'.Perm g) (env : Environment) :
    g'.restore env = g.restore env := by
  refine List.Perm.foldl_eq' h (fun a ha b hb env => ?_) env
  funext n
  by_cases hab : a = b
  · rw [hab]
  · -- Two entries have two names, so the one does not undo the other.
    have hne : a.1 ≠ b.1 := fun heq =>
      hab (List.inj_on_of_nodup_map hg (h.mem_iff.mp ha) (h.mem_iff.mp hb) heq)
    simp only [put]
    grind

theorem remember_of_mem {name : String} (h : name ∈ g.names) : g.remember env name = g := by
  have : g.lookup name ≠ none := fun hnone => lookup_eq_none_iff.mp hnone h
  simp [remember, Option.isSome_iff_ne_none.mpr this]

theorem remember_of_not_mem {name : String} (h : name ∉ g.names) :
    g.remember env name = (name, env name) :: g := by
  simp [remember, lookup_eq_none_iff.mpr h]

theorem nodup_remember (hg : g.names.Nodup) (env : Environment) (name : String) :
    (g.remember env name).names.Nodup := by
  by_cases h : name ∈ g.names
  · rwa [remember_of_mem h]
  · rw [remember_of_not_mem h]
    exact List.nodup_cons.mpr ⟨h, hg⟩

/-- A change through a guard does not change what the guard restores. -/
theorem restore_put (hg : g.names.Nodup) (env : Environment) (name : String)
    (value : Option String) :
    (g.remember env name).restore (env.put name value) = g.restore env := by
  funext n
  by_cases h : name ∈ g.names
  · rw [remember_of_mem h, restore_apply hg, restore_apply hg]
    by_cases hn : n = name
    · subst hn
      obtain ⟨old, hold⟩ := Option.ne_none_iff_exists'.mp fun hnone =>
        lookup_eq_none_iff.mp hnone h
      simp [hold]
    · rw [put_other env value hn]
  · rw [remember_of_not_mem h, restore_cons]
    congr 1
    funext m
    simp only [put]
    split <;> simp_all

end Guard

namespace Guarded

/-- A step on nested guards. -/
inductive Step where
  /-- Create a guard that takes some variables away. -/
  | push (names : List String)
  | set (name value : String)
  | remove (name : String)
  | drop

/-- An environment without guards. -/
def start (env : Environment) : Guarded := ⟨env, []⟩

/-- Take a step. Without a guard nothing can be set, removed or dropped. -/
def step (s : Guarded) : Step → Guarded
  | .push names => s.push names
  | .set name value => s.put name (some value)
  | .remove name => s.put name none
  | .drop => s.drop

/-- Take some steps. -/
def run (s : Guarded) (steps : List Step) : Guarded := steps.foldl step s

variable {s t : Guarded}

@[simp] theorem run_append (s : Guarded) (before after : List Step) :
    s.run (before ++ after) = (s.run before).run after := List.foldl_append

@[simp] theorem run_cons (s : Guarded) (a : Step) (steps : List Step) :
    s.run (a :: steps) = (s.step a).run steps := rfl

@[simp] theorem run_nil (s : Guarded) : s.run [] = s := rfl

theorem guards_length_put (s : Guarded) (name : String) (value : Option String) :
    (s.put name value).guards.length = s.guards.length := by
  unfold put
  split <;> simp_all

/-- Dropping the guards that `t` has on top of `s` leads back to `s`. -/
def Unwinds (s t : Guarded) : Prop :=
  ∃ upper, t.guards = upper ++ s.guards ∧ (∀ g ∈ upper, Guard.names g |>.Nodup) ∧
    upper.foldl (fun env g => Guard.restore g env) t.env = s.env

/-- The innermost guard of `t`, if there is one, is on top of `s`. -/
def OnTop (s t : Guarded) : Prop := t.guards = [] ∨ s.guards.length < t.guards.length

namespace Unwinds

theorem refl (s : Guarded) : Unwinds s s := ⟨[], rfl, nofun, rfl⟩

theorem guards_length_le (h : Unwinds s t) : s.guards.length ≤ t.guards.length := by
  obtain ⟨upper, hguards, -⟩ := h
  simp [hguards]

/-- On top of no guards is every guard. -/
theorem onTop (_ : Unwinds s t) (hs : s.guards = []) : OnTop s t := by
  cases ht : t.guards with
  | nil => exact .inl ht
  | cons g outer => exact .inr (by simp [hs, ht])

/-- A guard on top of `s` is one of the upper ones. -/
theorem cases_onTop (h : Unwinds s t) (ht : OnTop s t) :
    t.guards = [] ∨ ∃ g upper, t.guards = g :: (upper ++ s.guards) ∧ g.names.Nodup ∧
      (∀ g ∈ upper, Guard.names g |>.Nodup) ∧
      upper.foldl (fun env g => Guard.restore g env) (g.restore t.env) = s.env := by
  obtain ⟨upper, hguards, hnodup, hback⟩ := h
  rcases ht with ht | ht
  · exact .inl ht
  · cases upper with
    | nil => simp [hguards] at ht
    | cons g upper =>
      exact .inr ⟨g, upper, hguards, hnodup g List.mem_cons_self,
        fun g' hg' => hnodup g' (List.mem_cons_of_mem g hg'), hback⟩

theorem put (h : Unwinds s t) (ht : OnTop s t) (name : String) (value : Option String) :
    Unwinds s (t.put name value) := by
  rcases h.cases_onTop ht with hnil | ⟨g, upper, hguards, hg, hupper, hback⟩
  · simpa [Guarded.put, hnil] using h
  · have hput : t.put name value =
        ⟨t.env.put name value, g.remember t.env name :: (upper ++ s.guards)⟩ := by
      simp [Guarded.put, hguards]
    rw [hput]
    refine ⟨g.remember t.env name :: upper, rfl, ?_, ?_⟩
    · simp only [List.mem_cons, forall_eq_or_imp]
      exact ⟨Guard.nodup_remember hg t.env name, hupper⟩
    · rw [List.foldl_cons, Guard.restore_put hg]
      exact hback

theorem drop (h : Unwinds s t) (ht : OnTop s t) : Unwinds s t.drop := by
  rcases h.cases_onTop ht with hnil | ⟨g, upper, hguards, -, hupper, hback⟩
  · simpa [Guarded.drop, hnil] using h
  · have hdrop : t.drop = ⟨g.restore t.env, upper ++ s.guards⟩ := by
      simp [Guarded.drop, hguards]
    rw [hdrop]
    exact ⟨upper, rfl, hupper, hback⟩

theorem putAll (h : Unwinds s t) (ht : s.guards.length < t.guards.length) (names : List String) :
    Unwinds s (names.foldl (fun t name => t.put name none) t) := by
  induction names generalizing t with
  | nil => exact h
  | cons name names ih =>
    exact ih (h.put (.inr ht) name none) (by rwa [guards_length_put])

/-- A new guard has touched nothing, and then takes the variables away one by one. -/
theorem push (h : Unwinds s t) (names : List String) : Unwinds s (t.push names) := by
  have hfresh : Unwinds s ⟨t.env, [] :: t.guards⟩ := by
    obtain ⟨upper, hguards, hnodup, hback⟩ := h
    refine ⟨[] :: upper, by simp [hguards], ?_, hback⟩
    simpa [Guard.names] using hnodup
  exact hfresh.putAll (Nat.lt_succ_of_le h.guards_length_le) names

/-- What one step keeps. -/
theorem step (h : Unwinds s t) (ht : OnTop s t) (a : Step) : Unwinds s (t.step a) := by
  cases a with
  | push names => exact h.push names
  | set name value => exact h.put ht name (some value)
  | remove name => exact h.put ht name none
  | drop => exact h.drop ht

/-- What a run keeps whose every step is on top of `s`. -/
theorem run (h : Unwinds s t) {steps : List Step}
    (htop : ∀ before a, before ++ [a] <+: steps → OnTop s (t.run before)) :
    Unwinds s (t.run steps) := by
  induction steps generalizing t with
  | nil => exact h
  | cons a rest ih =>
    refine ih (h.step (htop [] a ⟨rest, rfl⟩) a) fun before b hbefore => ?_
    exact htop (a :: before) b (List.cons_prefix_cons.mpr ⟨rfl, hbefore⟩)

/-- Without guards below, every step is on top. -/
theorem run_of_nil (h : Unwinds s t) (hs : s.guards = []) (steps : List Step) :
    Unwinds s (t.run steps) := by
  induction steps generalizing t with
  | nil => exact h
  | cons a rest ih => exact ih (h.step (h.onTop hs) a)

theorem eq_of_length (h : Unwinds s t) (hlen : t.guards.length = s.guards.length) : t = s := by
  obtain ⟨upper, hguards, -, hback⟩ := h
  have hupper : upper = [] := by simpa [hguards] using hlen
  subst hupper
  obtain ⟨env, guards⟩ := t
  simp_all

theorem dropAll_eq (h : Unwinds s t) (hs : s.guards = []) : t.dropAll = s := by
  obtain ⟨upper, hguards, -, hback⟩ := h
  rw [hs, List.append_nil] at hguards
  obtain ⟨env, guards⟩ := s
  simp_all [dropAll]

end Unwinds

/-! ## Guards that are dropped -/

/-- A guard is created for some variables, and stays until, some steps later, it is the innermost
one: the next drop is its own. -/
def Spans (s : Guarded) (names : List String) (inner : List Step) : Prop :=
  (∀ before, before <+: inner → s.guards.length < ((s.push names).run before).guards.length) ∧
    ((s.push names).run inner).guards.length = s.guards.length + 1

theorem guards_length_drop (s : Guarded) : s.drop.guards.length = s.guards.length - 1 := by
  unfold drop
  split <;> simp_all

theorem guards_length_drops (s : Guarded) (n : Nat) :
    (s.run (.replicate n .drop)).guards.length = s.guards.length - n := by
  induction n generalizing s with
  | zero => rfl
  | succ n ih =>
    rw [List.replicate_succ, run_cons, ih, step, guards_length_drop]
    omega

/-- A guard that is dropped leaves everything as it was before the guard. -/
theorem drop_of_spans {names : List String} {inner : List Step} (h : s.Spans names inner) :
    ((s.push names).run inner).drop = s := by
  have hopen : Unwinds s ((s.push names).run inner) :=
    ((Unwinds.refl s).push names).run fun before a ha =>
      .inr (h.1 before ((List.prefix_append before [a]).trans ha))
  have htop : OnTop s ((s.push names).run inner) := .inr (h.2 ▸ Nat.lt_succ_self _)
  exact (hopen.drop htop).eq_of_length (by rw [guards_length_drop, h.2, Nat.add_sub_cancel])

/-- **Guards restore the environment.** After any steps on any environment, a guard that is dropped
leaves every variable, and every guard around it, as it was right before the guard was created. All
guards together leave the first environment, dropped at once or one by one. The order in which a
guard puts its values back does not matter. -/
theorem guards_restore (env : Environment) (steps : List Step) :
    (∀ names inner, ((start env).run steps).Spans names inner →
      (start env).run (steps ++ .push names :: (inner ++ [.drop])) = (start env).run steps) ∧
    ((start env).run steps).dropAll = start env ∧
    (start env).run (steps ++ .replicate ((start env).run steps).guards.length .drop) =
      start env ∧
    ∀ g ∈ ((start env).run steps).guards, ∀ g' : Guard, g'.Perm g → g'.restore = g.restore := by
  have hback : Unwinds (start env) ((start env).run steps) := (Unwinds.refl _).run_of_nil rfl steps
  refine ⟨fun names inner h => ?_, hback.dropAll_eq rfl, ?_, ?_⟩
  · have hdrop := drop_of_spans h
    simpa [step] using hdrop
  · rw [run_append]
    refine (hback.run_of_nil rfl _).eq_of_length ?_
    rw [guards_length_drops, Nat.sub_self]
    rfl
  · obtain ⟨upper, hguards, hnodup, -⟩ := hback
    intro g hg g' hg'
    rw [hguards] at hg
    have hg : g ∈ upper := by simpa [start] using hg
    exact funext (Guard.restore_perm (hnodup g hg) hg')

/-- Two guards touch one variable: the inner one takes it away, sets it twice and gives back what
the outer one has set. -/
theorem guards_restore_nested :
    let env : Environment := .ofList [("HOME", "/root"), ("LANG", "C")]
    let steps : List Step := [.push ["HOME"], .set "HOME" "/tmp", .remove "LANG"]
    let inner : List Step := [.set "LANG" "en", .push [], .remove "LANG", .drop, .set "HOME" "/"]
    ((start env).run steps).Spans ["HOME", "LANG"] inner ∧
      (start env).run (steps ++ .push ["HOME", "LANG"] :: (inner ++ [.drop])) =
        (start env).run steps ∧
      ((start env).run steps).env "HOME" = some "/tmp" ∧
      ((start env).run steps).dropAll = start env := by
  intro env steps inner
  have hspans : ((start env).run steps).Spans ["HOME", "LANG"] inner := by
    have hall : ∀ before ∈ inner.inits, ((start env).run steps).guards.length <
        ((((start env).run steps).push ["HOME", "LANG"]).run before).guards.length := by decide
    exact ⟨fun before hbefore => hall before ((List.mem_inits _ _).mpr hbefore), rfl⟩
  have hrestored := guards_restore env steps
  exact ⟨hspans, hrestored.1 _ _ hspans, rfl, hrestored.2.1⟩

end Guarded

end DataAccess.Environment
