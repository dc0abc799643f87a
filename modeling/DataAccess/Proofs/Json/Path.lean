import DataAccess.Proofs.Json.Members

/-!
# Paths into trees

A path is a list of keys, followed from object to object. `at?` answers what it leads to and
`replaceAt` puts another tree there. A null that is put somewhere hides what was below it, and of
all other places only the objects on the way have changed, which are objects still
(`at?_replaceAt_null`, `at?_replaceAt_of_not_prefix`).

`outline` is what can be seen of a tree without looking into objects.
-/

namespace DataAccess.Json

/-! ### Places -/

/-- What a path leads to. -/
def at? : Json → List String → Option Json
  | v, [] => some v
  | v, k :: rest => (v.members.find? k).bind fun w => w.at? rest

@[simp] theorem at?_nil (v : Json) : v.at? [] = some v := rfl

theorem at?_cons (v : Json) (k : String) (rest : List String) :
    v.at? (k :: rest) = (v.members.find? k).bind fun w => w.at? rest := rfl

theorem at?_append (v : Json) (p q : List String) :
    v.at? (p ++ q) = (v.at? p).bind fun w => w.at? q := by
  induction p generalizing v with
  | nil => rfl
  | cons k rest ih =>
    rw [List.cons_append, at?_cons, at?_cons, Option.bind_assoc]
    exact congrArg _ (funext fun w => ih w)

/-- What a path and one more key lead to. -/
theorem at?_append_key {v : Json} {p : List String} {ms : Members} (h : v.at? p = some (.object ms))
    (key : String) : v.at? (p ++ [key]) = ms.find? key := by
  rw [at?_append, h, Option.bind_some, at?_cons]
  exact Option.bind_fun_some _

/-- Below a place that does not exist or holds null there is nothing. -/
theorem at?_below {v : Json} {p : List String} (h : v.at? p = none ∨ v.at? p = some .null)
    (key : String) (rest : List String) : v.at? (p ++ key :: rest) = none := by
  rw [at?_append]
  rcases h with h | h
  · rw [h, Option.bind_none]
  · rw [h]
    rfl

/-- Below a key there is something in an object only. -/
theorem object_of_at? {root v : Json} {key k : String} {rest : List String}
    (h : root.at? (key :: k :: rest) = some v) : ∃ ms, root.at? [key] = some (.object ms) := by
  rw [at?_cons, Option.bind_eq_some_iff] at h
  obtain ⟨u, hu, hbelow⟩ := h
  have hat : root.at? [key] = some u := by
    rw [at?_cons, hu]
    rfl
  cases u with
  | object ms => exact ⟨ms, hat⟩
  | _ => cases hbelow

/-! ### Replacing -/

/-- Put a tree where a path leads to; nothing changes if it leads nowhere. -/
def replaceAt (new : Json) : List String → Json → Json
  | [], _ => new
  | k :: rest, .object ms =>
    .object (ms.map fun m => if m.1 = k then (m.1, replaceAt new rest m.2) else m)
  | _ :: _, v => v

theorem at?_replaceAt_self {new v w : Json} {p : List String} (h : v.at? p = some w) :
    (replaceAt new p v).at? p = some new := by
  induction p generalizing v with
  | nil => rfl
  | cons k rest ih =>
    rw [at?_cons, Option.bind_eq_some_iff] at h
    obtain ⟨u, hu, hw⟩ := h
    cases v with
    | object ms =>
      rw [replaceAt, at?_cons, members, Members.find?_map, if_pos rfl]
      have hfind : Members.find? ms k = some u := hu
      rw [hfind, Option.map_some, Option.bind_some]
      exact ih hw
    | _ => cases hu

/-- With a null put in one place, what is not null in any place stood there before, or it is an
object on the way, as it was before. -/
theorem at?_replaceAt_null {v w : Json} {p q : List String} (hw : w ≠ .null)
    (h : (replaceAt .null p v).at? q = some w) :
    v.at? q = some w ∨ ∃ ms ms', w = .object ms ∧ v.at? q = some (.object ms') := by
  induction p generalizing v q with
  | nil =>
    cases q with
    | nil => exact absurd (Option.some.inj h).symm hw
    | cons k rest => cases h
  | cons a rest ih =>
    cases v with
    | object ms =>
      rw [replaceAt] at h
      cases q with
      | nil => exact .inr ⟨_, ms, (Option.some.inj h).symm, rfl⟩
      | cons b q =>
        rw [at?_cons, members, Members.find?_map] at h
        rw [at?_cons, members]
        by_cases hb : b = a
        · subst hb
          rw [if_pos rfl, Option.bind_map, Option.bind_eq_some_iff] at h
          obtain ⟨u, hu, h⟩ := h
          rw [hu, Option.bind_some]
          exact ih h
        · rw [if_neg hb] at h
          exact .inl h
    | _ => exact .inl h

/-- What is not in a place stays when the place is replaced, apart from objects on the way there,
which are objects still. -/
theorem at?_replaceAt_of_not_prefix (new : Json) {v w : Json} {p q : List String}
    (hout : ¬ p <+: q) (h : v.at? q = some w) : (replaceAt new p v).at? q = some w ∨
      ∃ ms ms', w = .object ms ∧ (replaceAt new p v).at? q = some (.object ms') := by
  induction p generalizing v q with
  | nil => exact absurd List.nil_prefix hout
  | cons a rest ih =>
    cases v with
    | object ms =>
      rw [replaceAt]
      cases q with
      | nil => exact .inr ⟨ms, _, (Option.some.inj h).symm, rfl⟩
      | cons b q =>
        rw [at?_cons, members] at h
        rw [at?_cons, members, Members.find?_map]
        by_cases hb : b = a
        · subst hb
          obtain ⟨u, hu, huw⟩ := Option.bind_eq_some_iff.mp h
          have hrest : ¬ rest <+: q := fun hin => hout (List.cons_prefix_cons.mpr ⟨rfl, hin⟩)
          rw [if_pos rfl, hu, Option.map_some, Option.bind_some]
          exact ih hrest huw
        · rw [if_neg hb]
          exact .inl h
    | _ => exact .inl h

/-! ### Outlines -/

/-- A tree without what is inside objects. -/
def outline : Json → Json
  | .object _ => .object []
  | v => v

end DataAccess.Json
