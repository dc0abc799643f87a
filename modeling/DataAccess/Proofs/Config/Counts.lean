import DataAccess.Proofs.Config.Faults
import DataAccess.Proofs.Number.Order

/-!
# Connection counts

A number in a tree has an exact value, whichever way it is written (`Json.numberValue?`). It stands
for a connection count just if this value is an integer from zero to `2 ^ 32 - 1`: a double that is
too large is cut to the largest word on the way, which is no count either.

`counts_exact` says so of the counts of each driver in a whole configuration.
-/

namespace DataAccess

open Number Json

namespace Json

/-- The exact value of a number, none for a double that is infinite or not a number. -/
def numberValue? : Json → Option ℚ
  | .integer i => some i
  | .float x => x.value?
  | _ => none

theorem isSome_number? {v : Json} :
    v.number?.isSome = true ↔ (∃ i, v = .integer i) ∨ ∃ x, v = .float x := by
  cases v <;> simp [number?]

end Json

namespace Config

variable {root v : Json}

/-! ### One number -/

/-- What stands for a count is a number with the count as its value. -/
theorem stands_count_iff {n : UInt32} :
    Stands .count v n ↔ v.numberValue? = some (n.toNat : ℚ) := by
  constructor
  · intro h
    cases h with
    | count n => exact congrArg some (Int.cast_natCast _)
    | wholeCount n x hx =>
      have hvalue := Binary64.toInt?_eq_some_iff.mp hx
      rwa [Int.cast_natCast] at hvalue
  · intro h
    cases v with
    | integer i =>
      have hi : (i : ℚ) = ((n.toNat : Int) : ℚ) := by
        rw [Int.cast_natCast]
        exact Option.some.inj h
      rw [Int.cast_injective hi]
      exact .count n
    | float x =>
      refine .wholeCount n x (Binary64.toInt?_eq_some_iff.mpr ?_)
      rwa [Int.cast_natCast]
    | _ => cases h

/-- An integer up to the largest count is the value of a number just if the number stands for a
count. -/
theorem exists_stands_count_iff :
    (∃ n, Stands .count v n) ↔ ∃ n : Nat, n ≤ 2 ^ 32 - 1 ∧ v.numberValue? = some (n : ℚ) := by
  constructor
  · rintro ⟨n, hn⟩
    exact ⟨n.toNat, Nat.le_sub_one_of_lt n.toNat_lt, stands_count_iff.mp hn⟩
  · rintro ⟨n, hle, hn⟩
    refine ⟨UInt32.ofNat n, stands_count_iff.mpr ?_⟩
    rwa [UInt32.toNat_ofNat_of_lt' (Nat.lt_of_le_of_lt hle (by decide))]

/-- Whatever number is refused as a count is refused for its value. -/
theorem asCount_of_number (hv : v.number?.isSome = true) {fault : Fault}
    (h : asCount v = .error fault) : ∃ message, fault = .value message := by
  have hnat : ∀ {m : Nat}, asCountOfNat m = .error fault → ∃ message, fault = .value message := by
    intro m hm
    unfold asCountOfNat at hm
    split at hm
    · cases hm
    · cases hm
      exact ⟨_, rfl⟩
  rcases isSome_number?.mp hv with ⟨i, rfl⟩ | ⟨x, rfl⟩
  · rw [asCount] at h
    split at h
    · cases h
      exact ⟨_, rfl⟩
    · exact hnat h
  · rw [asCount] at h
    split at h
    · split at h
      · cases h
        exact ⟨_, rfl⟩
      · exact hnat h
    · cases h
      exact ⟨_, rfl⟩

/-! ### Where counts are -/

/-- The keys of the counts of a pool. -/
abbrev countKeys : List String := ["max_open_conns", "max_idle_conns"]

/-- The counts of a pool by their keys. -/
inductive PoolCounts (p : Pool) : String → UInt32 → Prop
  | maxOpen : PoolCounts p "max_open_conns" p.maxOpen
  | maxIdle : PoolCounts p "max_idle_conns" p.maxIdle

/-- A count of a pool is what stands at its location. -/
theorem PoolMirrors.counts {path : List String} {defaults p : Pool} {field : String}
    (h : PoolMirrors root path defaults p) (hfield : field ∈ countKeys)
    (hat : root.at? (path ++ [field]) = some v) (hnull : v ≠ .null) :
    ∃ n, PoolCounts p field n ∧ Stands .count v n := by
  simp only [List.mem_cons, List.not_mem_nil, or_false] at hfield
  rcases hfield with rfl | rfl
  · exact ⟨p.maxOpen, .maxOpen, h.maxOpen.stands hat hnull⟩
  · exact ⟨p.maxIdle, .maxIdle, h.maxIdle.stands hat hnull⟩

theorem count_mem_locations {d : Driver} {key field : String} (hkey : d.sectionKey? = some key)
    (hfield : field ∈ countKeys) : ⟨[key, "pool_config", field], .count⟩ ∈ locations := by
  simp only [List.mem_cons, List.not_mem_nil, or_false] at hfield
  cases d <;> cases hkey
  all_goals
    rcases hfield with rfl | rfl
    all_goals simp [locations, inSection, poolLocations]

theorem dotted_count (key field : String) :
    dotted [key, "pool_config", field] = key ++ ".pool_config." ++ field := by
  have hdots : ".pool_config." = "." ++ "pool_config" ++ "." := rfl
  rw [hdots, ← String.append_assoc, ← String.append_assoc]
  rfl

/-- **Connection counts are read exactly.** Take any number in the place of a count of a driver. If
the configuration is read, the count is the value of the number. It is read just if this value is an
integer from zero to `2 ^ 32 - 1` and nothing is ill-formed elsewhere. If the value is anything
else, and nothing is ill-formed at an earlier location, the error is an invalid value of this
field. -/
theorem counts_exact {d : Driver} {key field : String} {ms : Members}
    (hkey : d.sectionKey? = some key) (hfield : field ∈ countKeys)
    (hat : (Json.object ms).at? [key, "pool_config", field] = some v)
    (hv : v.number?.isSome = true) :
    (∀ c, ofMembers ms = .ok c → ∃ s n, c.section? d = some s ∧ PoolCounts s.pool field n ∧
      v.numberValue? = some (n.toNat : ℚ)) ∧
    ((∃ c, ofMembers ms = .ok c) ↔
      (∃ n : Nat, n ≤ 2 ^ 32 - 1 ∧ v.numberValue? = some (n : ℚ)) ∧
      ∀ l ∈ locations, l ≠ ⟨[key, "pool_config", field], .count⟩ → ¬ IllFormed (.object ms) l) ∧
    ((¬ ∃ n : Nat, n ≤ 2 ^ 32 - 1 ∧ v.numberValue? = some (n : ℚ)) → ∀ before after,
      locations = before ++ ⟨[key, "pool_config", field], .count⟩ :: after →
      (∀ l ∈ before, ¬ IllFormed (.object ms) l) →
      ∃ message, ofMembers ms =
        .error (.invalidValue (key ++ ".pool_config." ++ field) message)) := by
  have hnull : v ≠ .null := by
    rintro rfl
    cases hv
  have hmem := count_mem_locations hkey hfield
  refine ⟨fun c hc => ?_, ?_, fun hno before after hls hbefore => ?_⟩
  · obtain ⟨s, hs, hsection⟩ := (mirrors_of_ofMembers hc).section_of_at? hkey hat
    obtain ⟨n, hcount, hstands⟩ := hsection.pool.counts hfield hat hnull
    exact ⟨s, n, hs, hcount, stands_count_iff.mp hstands⟩
  · rw [exists_ofMembers_eq_ok_iff, ← exists_stands_count_iff]
    constructor
    · intro h
      refine ⟨?_, fun l hl _ => h l hl⟩
      by_contra hno
      exact h _ hmem ⟨v, hat, hnull, fun n hn => hno ⟨n, hn⟩⟩
    · rintro ⟨⟨n, hn⟩, h⟩ l hl
      by_cases hsame : l = ⟨[key, "pool_config", field], .count⟩
      · rw [hsame]
        rintro ⟨w, hw, -, hill⟩
        obtain rfl := Option.some.inj (hat.symm.trans hw)
        exact hill n hn
      · exact h l hl hsame
  · rw [← exists_stands_count_iff] at hno
    cases hread : asCount v with
    | ok n => exact absurd ⟨n, asCount_eq_ok_iff.mp hread⟩ hno
    | error fault =>
      obtain ⟨message, rfl⟩ := asCount_of_number hv hread
      have herror := ofMembers_of_first_fault hls hbefore hat hnull hread
      rw [dotted_count] at herror
      exact ⟨message, herror⟩

/-- A negative zero is read as no connections, and `2 ^ 64` is refused, though it is no larger than
the largest word once it is cut. -/
theorem counts_exact_doubles :
    let config : Json → Members := fun v =>
      [("sqlite_config", .object [("pool_config", .object [("max_open_conns", v)])])]
    let zero : Json := .float (.finite true ⟨0, by decide⟩)
    let large : Json := .float (.finite false ⟨1087 * binade, by decide⟩)
    (∃ c s n, ofMembers (config zero) = .ok c ∧ c.section? .sqlite = some s ∧
      PoolCounts s.pool "max_open_conns" n ∧ n = 0) ∧
    large.numberValue? = some (2 ^ 64) ∧
    ∃ message, ofMembers (config large) =
      .error (.invalidValue "sqlite_config.pool_config.max_open_conns" message) := by
  intro config zero large
  have hfield : "max_open_conns" ∈ countKeys := .head _
  have hat : ∀ v : Json, (Json.object (config v)).at?
      ["sqlite_config", "pool_config", "max_open_conns"] = some v := fun _ => rfl
  have hzero : zero.numberValue? = some 0 := by
    have hvalue := Binary64.toInt?_eq_some_iff.mp
      (show (Binary64.finite true ⟨0, by decide⟩).toInt? = some 0 by rfl)
    rwa [Int.cast_zero] at hvalue
  have hlarge : large.numberValue? = some (2 ^ 64) := by
    have hvalue := Binary64.toInt?_eq_some_iff.mp
      (show (Binary64.finite false ⟨1087 * binade, by decide⟩).toInt? = some (2 ^ 64) by rfl)
    exact hvalue.trans (congrArg some (by norm_num))
  have habsent : ∀ {l : Location}, (Json.object (config large)).at? l.path = none →
      ¬ IllFormed (.object (config large)) l := by
    rintro l hnone ⟨v, hv, -⟩
    cases hnone.symm.trans hv
  have hsection : ∀ {path : List String} {ms : Members},
      (Json.object (config large)).at? path = some (.object ms) →
      ¬ IllFormed (.object (config large)) ⟨path, .section⟩ := by
    rintro path ms hms ⟨v, hv, -, hill⟩
    obtain rfl := Option.some.inj (hms.symm.trans hv)
    exact hill ms (.section ms)
  have hbefore : ∀ l ∈ locations.take 8, ¬ IllFormed (.object (config large)) l := by
    simp only [locations, inObservability, inSection, poolLocations, List.cons_append,
      List.nil_append, List.flatMap_cons, List.take_succ_cons, List.take_zero, List.forall_mem_cons]
    exact ⟨habsent rfl, habsent rfl, habsent rfl, habsent rfl, habsent rfl, hsection rfl,
      habsent rfl, hsection rfl, List.forall_mem_nil _⟩
  refine ⟨?_, hlarge, ?_⟩
  · obtain ⟨c, hc⟩ : ∃ c, Config.ofMembers (config zero) = .ok c := ⟨_, rfl⟩
    obtain ⟨s, n, hs, hcount, hn⟩ :=
      (counts_exact (d := .sqlite) rfl hfield (hat zero) rfl).1 c hc
    refine ⟨c, s, n, hc, hs, hcount, UInt32.toNat_inj.mp ?_⟩
    exact_mod_cast Option.some.inj (hn.symm.trans hzero)
  · refine (counts_exact (d := .sqlite) rfl hfield (hat large) rfl).2.2 ?_
      (locations.take 8) (locations.drop 9) rfl hbefore
    rintro ⟨n, hle, hn⟩
    have hvalue : n = 2 ^ 64 := by
      exact_mod_cast Option.some.inj (hn.symm.trans hlarge)
    omega

end Config

end DataAccess
