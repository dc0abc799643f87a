import DataAccess.Proofs.Config.Shape

/-!
# What errors are about

`Blames` says of a reading that each of its errors is what the reader of one location finds at fault
with the tree that stands there, and names that location. There is one lemma for each reader, up to
`blames_ofMembers` for all locations.

Together with the order in which locations are visited this settles the whole error, and not only
its field: `ofMembers_of_first_fault`.
-/

namespace DataAccess.Config

open Json

variable {α β : Type} {root : Json}

/-- The reader of settings of a kind. -/
def Kind.decode : (k : Kind) → Json → Except Fault k.Value
  | .text => asText
  | .truth => asBool
  | .number => asNumber
  | .count => asCount
  | .duration => asDuration
  | .section => asSection

theorem Kind.decode_eq_ok_iff {k : Kind} {v : Json} {a : k.Value} :
    k.decode v = .ok a ↔ Stands k v a := by
  cases k with
  | text => exact asText_eq_ok_iff
  | truth => exact asBool_eq_ok_iff
  | number => exact asNumber_eq_ok_iff
  | count => exact asCount_eq_ok_iff
  | duration => exact asDuration_eq_ok_iff
  | «section» => exact asSection_eq_ok_iff

/-- Every error of a reading is the fault of what stands at one of some locations, and names it. -/
def Blames (root : Json) (ls : List Location) (r : Except Error α) : Prop :=
  ∀ e, r = .error e → ∃ l ∈ ls, ∃ v fault, root.at? l.path = some v ∧
    l.kind.decode v = .error fault ∧ e = fault.at (dotted l.path)

namespace Blames

theorem ok {ls : List Location} (a : α) : Blames root ls (.ok a) := fun _ => nofun

theorem bind {s t : List Location} {r : Except Error α} {f : α → Except Error β}
    (h : Blames root s r) (hf : ∀ a, r = .ok a → Blames root t (f a)) :
    Blames root (s ++ t) (r >>= f) := by
  intro e he
  cases r with
  | error e' =>
    cases he
    obtain ⟨l, hl, hfault⟩ := h e rfl
    exact ⟨l, List.mem_append_left t hl, hfault⟩
  | ok a =>
    obtain ⟨l, hl, hfault⟩ := hf a rfl e he
    exact ⟨l, List.mem_append_right s hl, hfault⟩

theorem map {ls : List Location} {r : Except Error α} (f : α → β) (h : Blames root ls r) :
    Blames root ls (r.map f) := by
  cases r with
  | error e => exact fun e' he => h e' (by cases he; rfl)
  | ok a => exact ok (f a)

end Blames

section

variable {path : List String} {ms : Members} {key : String}

theorem blames_readAt (k : Kind) (h : Below root path ms) (key : String) :
    Blames root [⟨path ++ [key], k⟩] (readAt k.decode ms (dotted path) key) := by
  intro e he
  unfold readAt at he
  split at he
  · cases he
  · next v hv =>
    split at he
    · cases he
    · next fault hfault =>
      cases he
      rw [Members.present?_eq_some, ← at?_append_key h.found] at hv
      exact ⟨_, List.mem_singleton_self _, v, fault, hv.1, hfault, by rw [join_dotted h.named]⟩

theorem blames_readOr (k : Kind) (h : Below root path ms) (key : String) (default : k.Value) :
    Blames root [⟨path ++ [key], k⟩] (readOr k.decode default ms (dotted path) key) :=
  (blames_readAt k h key).map _

theorem blames_readPool (defaults : Pool) (h : Below root path ms) :
    Blames root (poolLocations path) (readPool defaults (dotted path) ms) := by
  unfold readPool
  refine .bind (blames_readOr .count h _ _) fun maxOpen _ => ?_
  refine .bind (blames_readOr .count h _ _) fun maxIdle _ => ?_
  refine .bind (blames_readOr .duration h _ _) fun lifetime _ => ?_
  refine .bind (blames_readOr .duration h _ _) fun idleTime _ => ?_
  exact .bind (t := []) (blames_readOr .duration h _ _) fun acquire _ => .ok _

theorem blames_readObservability (h : Below root ["observability_config"] ms) :
    Blames root inObservability (readObservability ms) := by
  unfold readObservability
  refine .bind (s := [_]) (blames_readOr .duration h _ _) fun slow _ => ?_
  refine .bind (s := [_]) (blames_readOr .truth h _ _) fun log _ => ?_
  exact .bind (s := [_]) (t := []) (blames_readOr .number h _ _) fun rate _ => .ok _

/-- What is read as a section is below the place where it was read. -/
theorem below_of_readAt_section {sect : Members} (h : Below root path ms)
    (hnamed : (dotted (path ++ [key])).isEmpty = (path ++ [key]).isEmpty)
    (hread : readAt asSection ms (dotted path) key = .ok (some sect)) :
    Below root (path ++ [key]) sect :=
  ⟨(at?_append_key h.found key).trans (find?_of_readAt_section hread), hnamed⟩

theorem blames_readSection (driver : Driver) (h : Below root [key] ms) :
    Blames root (inSection key) (readSection driver (dotted [key]) ms) := by
  have hnamed : (dotted [key, "pool_config"]).isEmpty = false := by simp [dotted]
  unfold readSection
  refine .bind (s := [_]) (blames_readOr .text h "dsn" "") fun dsn _ => ?_
  refine .bind (s := [_]) (blames_readAt .section h "pool_config") fun o ho => ?_
  cases o with
  | none => exact .ok _
  | some pool =>
    have hpool : Below root [key, "pool_config"] pool := below_of_readAt_section h hnamed ho
    show Blames root _ (readPool _ (join (dotted [key]) "pool_config") pool >>= _)
    rw [join_dotted h.named]
    exact .bind (t := []) (blames_readPool _ hpool) fun p _ => .ok _

theorem blames_readDriver {driver : Driver} (hkey : driver.sectionKey? = some key) :
    Blames (.object ms) (⟨[key], .section⟩ :: inSection key) (readDriver driver ms) := by
  have hroot : Below (.object ms) [] ms := ⟨rfl, rfl⟩
  have hnamed : (dotted [key]).isEmpty = false := by
    cases driver <;> cases hkey <;> rfl
  unfold readDriver
  rw [hkey]
  refine .bind (s := [_]) (t := inSection key) (blames_readAt .section hroot key) fun o ho => ?_
  cases o with
  | none => exact .ok _
  | some sect =>
    have hsect : Below (.object ms) [key] sect := below_of_readAt_section hroot hnamed ho
    exact (blames_readSection driver hsect).map some

end

/-- Every error in reading a raw configuration is the fault of what stands at one location. -/
theorem blames_ofMembers (ms : Members) : Blames (.object ms) locations (ofMembers ms) := by
  have hroot : Below (.object ms) [] ms := ⟨rfl, rfl⟩
  have hdrivers : ∀ driver observability, Blames (.object ms)
      (["sqlite_config", "mysql_config", "postgresql_config"].flatMap fun key =>
        ⟨[key], .section⟩ :: inSection key)
      (do
        let sqlite ← readDriver .sqlite ms
        let mysql ← readDriver .mysql ms
        let postgresql ← readDriver .postgresql ms
        return ({ driver, sqlite, mysql, postgresql, observability } : Config)) := by
    intro driver observability
    refine .bind (blames_readDriver rfl) fun sqlite _ => ?_
    refine .bind (blames_readDriver rfl) fun mysql _ => ?_
    exact .bind (blames_readDriver rfl) fun postgresql _ => .ok _
  unfold ofMembers
  refine .bind (s := [_]) (blames_readOr .text hroot "driver" "") fun driver _ => ?_
  refine .bind (s := [_]) (blames_readAt .section hroot "observability_config") fun o ho => ?_
  cases o with
  | none => exact .bind (s := inObservability) (.ok _) fun b _ => hdrivers driver b
  | some sect =>
    have hsect := below_of_readAt_section hroot rfl ho
    exact .bind (blames_readObservability hsect) fun b _ => hdrivers driver b

/-- A list is cut in one way only before the first element with a property. -/
theorem first_unique {α : Type} {p : α → Prop} {before before' after after' : List α} {x x' : α}
    (h : before ++ x :: after = before' ++ x' :: after') (hbefore : ∀ b ∈ before, ¬ p b)
    (hbefore' : ∀ b ∈ before', ¬ p b) (hx : p x) (hx' : p x') : x = x' := by
  rcases List.append_eq_append_iff.mp h with ⟨between, rfl, hrest⟩ | ⟨between, rfl, hrest⟩
  · cases between with
    | nil => exact (List.cons.inj hrest).1
    | cons y ys =>
      obtain rfl := (List.cons.inj hrest).1
      exact absurd hx (hbefore' x (by simp))
  · cases between with
    | nil => exact (List.cons.inj hrest).1.symm
    | cons y ys =>
      obtain rfl := (List.cons.inj hrest).1
      exact absurd hx' (hbefore x' (by simp))

/-- **The first fault is the error.** If something other than null is refused at a location, and
nothing is ill-formed at those before it, the error is this refusal and names this location. -/
theorem ofMembers_of_first_fault {ms : Members} {before after : List Location} {l : Location}
    {v : Json} {fault : Fault} (hls : locations = before ++ l :: after)
    (hbefore : ∀ b ∈ before, ¬ IllFormed (.object ms) b)
    (hat : (Json.object ms).at? l.path = some v) (hnull : v ≠ .null)
    (hfault : l.kind.decode v = .error fault) :
    ofMembers ms = .error (fault.at (dotted l.path)) := by
  have hill : IllFormed (.object ms) l := by
    refine ⟨v, hat, hnull, fun a ha => ?_⟩
    cases hfault.symm.trans (Kind.decode_eq_ok_iff.mpr ha)
  have hvisits := visits_ofMembers ms
  cases hr : ofMembers ms with
  | ok c =>
    rw [hr] at hvisits
    exact absurd hill (hvisits.1 l (by simp [hls]))
  | error e =>
    rw [hr] at hvisits
    obtain ⟨before', l', after', hls', hbefore', hill', hfield⟩ := hvisits
    obtain rfl : l = l' := first_unique (hls.symm.trans hls') hbefore hbefore' hill hill'
    -- The error is a fault at some location, which by its name is this one.
    obtain ⟨l', hl', v', fault', hat', hfault', rfl⟩ := blames_ofMembers ms e hr
    rw [Fault.field_at] at hfield
    obtain rfl : l' = l := List.inj_on_of_nodup_map nodup_dotted_locations hl' (by simp [hls])
      (Option.some.inj hfield)
    obtain rfl := Option.some.inj (hat.symm.trans hat')
    rw [Except.error.inj (hfault.symm.trans hfault')]

end DataAccess.Config
