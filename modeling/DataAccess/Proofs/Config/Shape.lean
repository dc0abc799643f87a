import DataAccess.Proofs.Config.Agreement

/-!
# The shape of a raw configuration

Reading a raw configuration is decided at its locations: it succeeds exactly if none of them is
ill-formed, and otherwise the error names the first one that is (`ofMembers_shape`). The value that
is named is really at fault: with a null in its place everything up to it is well-formed.
-/

namespace DataAccess.Config

open Number Json

variable {ms : Members}

theorem exists_ofMembers_eq_ok_iff (ms : Members) :
    (∃ c, ofMembers ms = .ok c) ↔ ∀ l ∈ locations, ¬ IllFormed (.object ms) l := by
  have hvisits := visits_ofMembers ms
  constructor
  · rintro ⟨c, hc⟩
    rw [hc] at hvisits
    exact hvisits.1
  · intro hall
    cases hr : ofMembers ms with
    | ok c => exact ⟨c, rfl⟩
    | error e =>
      rw [hr] at hvisits
      obtain ⟨before, l, after, hls, -, hl, -⟩ := hvisits
      exact absurd hl (hall l (by simp [hls]))

/-- With a null at its location, a tree is still an object. -/
theorem exists_replaceAt_eq_object {l : Location} (hl : l ∈ locations) (new : Json) (ms : Members) :
    ∃ ms', replaceAt new l.path (.object ms) = .object ms' := by
  have hpath : ∀ l ∈ locations, l.path ≠ [] := by
    simp [locations, inObservability, inSection, poolLocations]
  cases h : l.path with
  | nil => exact absurd h (hpath l hl)
  | cons k rest => exact ⟨_, rfl⟩

/-- With a null at the first ill-formed location, the next error is about a later one. -/
theorem field_of_replaceAt_null {before after : List Location} {l : Location}
    (hls : locations = before ++ l :: after) (hbefore : ∀ b ∈ before, ¬ IllFormed (.object ms) b)
    (hl : IllFormed (.object ms) l) {e : Error}
    (he : ofJson (replaceAt .null l.path (.object ms)) = .error e) :
    ∃ l' ∈ after, IllFormed (.object ms) l' ∧ e.field = some (dotted l'.path) := by
  have hmem : l ∈ locations := by simp [hls]
  obtain ⟨ms', hms'⟩ := exists_replaceAt_eq_object hmem .null ms
  rw [hms'] at he
  have hvisits := visits_ofMembers ms'
  rw [show ofMembers ms' = .error e from he] at hvisits
  obtain ⟨before', l', after', hls', -, hill, hfield⟩ := hvisits
  rw [← hms'] at hill
  have hold : IllFormed (.object ms) l' := hill.of_replaceAt_null
  -- The new location is neither among the earlier ones nor the one with the null.
  have hmem' : l' ∈ before ++ l :: after := by simp [← hls, hls']
  rcases List.mem_append.mp hmem' with hmem' | hmem'
  · exact absurd hold (hbefore l' hmem')
  · rcases List.mem_cons.mp hmem' with rfl | hmem'
    · exact absurd hill (not_illFormed_replaceAt_null hl)
    · exact ⟨l', hmem', hold, hfield⟩

set_option maxRecDepth 4000 in
/-- No two locations have the same name, so the field of an error tells which one it is. -/
theorem nodup_dotted_locations : (locations.map fun l => dotted l.path).Nodup := by decide

/-- Reading a raw configuration accepts what is well-formed at all locations. It blames the first
location that is not, and that one alone until it is corrected. The result is what the locations
hold, over the defaults of each driver, and nothing else matters. -/
theorem ofMembers_shape (ms : Members) :
    ((∃ c, ofMembers ms = .ok c) ↔ ∀ l ∈ locations, ¬ IllFormed (.object ms) l) ∧
    (∀ e, ofMembers ms = .error e → ∃ before l after, locations = before ++ l :: after ∧
      (∀ b ∈ before, ¬ IllFormed (.object ms) b) ∧ IllFormed (.object ms) l ∧
      e.field = some (dotted l.path) ∧
      ∀ e', ofJson (replaceAt .null l.path (.object ms)) = .error e' →
        ∃ l' ∈ after, IllFormed (.object ms) l' ∧ e'.field = some (dotted l'.path)) ∧
    (∀ c, ofMembers ms = .ok c → Mirrors (.object ms) c) ∧
    (∀ ms', Agree locations (.object ms) (.object ms') → ofMembers ms' = ofMembers ms) ∧
    (locations.map fun l => dotted l.path).Nodup := by
  have hvisits := visits_ofMembers ms
  refine ⟨exists_ofMembers_eq_ok_iff ms, fun e he => ?_, fun c hc => ?_, fun ms' hagree => ?_,
    nodup_dotted_locations⟩
  · rw [he] at hvisits
    obtain ⟨before, l, after, hls, hbefore, hl, hfield⟩ := hvisits
    exact ⟨before, l, after, hls, hbefore, hl, hfield,
      fun e' he' => field_of_replaceAt_null hls hbefore hl he'⟩
  · rw [hc] at hvisits
    exact hvisits.2
  · exact (ofMembers_congr hagree).symm

/-- The first of two faults is the one that is named. -/
example : (ofMembers [("sqlite_config", .object [("dsn", .null), ("pool_config", .object
    [("max_idle_conns", .text "many"), ("max_open_conns", .integer (-1))])])]) =
      .error (.invalidValue "sqlite_config.pool_config.max_open_conns"
        "expected a non-negative integer, got -1") := by
  decide +kernel

end DataAccess.Config
