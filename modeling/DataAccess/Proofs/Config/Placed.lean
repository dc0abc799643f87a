import DataAccess.Proofs.Config.Shape
import DataAccess.Proofs.Config.Strict

/-!
# Strict and raw readings of the same object

An object may be read strictly on its own, or as the pool or the observability settings of a raw
configuration that can be read otherwise (`Placed`). The configuration is then read just if the object
is mirrored, so both readings come down to the same (`strict_iff_raw`): they answer the same, apart
from a null, which counts as absent in a raw configuration only, and from a double for a count.
-/

namespace DataAccess.Config

open Json

variable {root o : Members} {path : List String} {l : Location}

/-! ### An object in a configuration -/

/-- An object in a place of a raw configuration, which can be read with a null there instead. -/
structure Placed (root : Members) (path : List String) (o : Members) : Prop where
  holds : (Json.object root).at? path = some (.object o)
  rest : ∃ c, ofJson (replaceAt .null path (.object root)) = .ok c

namespace Placed

/-- What is ill-formed is in that place. -/
theorem not_illFormed (h : Placed root path o) (hl : l ∈ locations) (hout : ¬ path <+: l.path) :
    ¬ IllFormed (.object root) l := by
  intro hill
  obtain ⟨c, hc⟩ := h.rest
  have hill := hill.replaceAt .null hout
  cases hroot : replaceAt .null path (.object root) with
  | object ms =>
    rw [hroot] at hc hill
    exact (exists_ofMembers_eq_ok_iff ms).mp ⟨c, hc⟩ l hl hill
  | _ =>
    rw [hroot] at hc
    cases hc

/-- The configuration is read if nothing inside the object is ill-formed. -/
theorem exists_ofMembers (h : Placed root path o) {inside : List Location}
    (hpath : ∀ l ∈ locations, path <+: l.path → l = ⟨path, .section⟩ ∨ l ∈ inside)
    (hinside : ∀ l ∈ inside, ¬ IllFormed (.object root) l) : ∃ c, ofMembers root = .ok c := by
  refine (exists_ofMembers_eq_ok_iff root).mpr fun l hl => ?_
  -- The object itself is no fault, so what is left is inside of it or elsewhere.
  by_cases hin : path <+: l.path
  · rcases hpath l hl hin with rfl | hl
    · rintro ⟨v, hv, -, hill⟩
      obtain rfl := Option.some.inj (h.holds.symm.trans hv)
      exact hill o (.section o)
    · exact hinside l hl
  · exact h.not_illFormed hl hin

end Placed

/-- The locations in the pool of a driver. -/
theorem location_in_pool {d : Driver} {key : String} (hkey : d.sectionKey? = some key) :
    ∀ l ∈ locations, [key, "pool_config"] <+: l.path →
      l = ⟨[key, "pool_config"], .section⟩ ∨ l ∈ poolLocations [key, "pool_config"] := by
  cases d <;> cases hkey
  all_goals
    simp [locations, inSection, inObservability, poolLocations, List.cons_prefix_cons]

theorem location_in_observability : ∀ l ∈ locations, ["observability_config"] <+: l.path →
    l = ⟨["observability_config"], .section⟩ ∨ l ∈ inObservability := by
  simp [locations, inSection, inObservability, poolLocations, List.cons_prefix_cons]

/-- A configuration with an object as a pool is read with the pool that mirrors the object. -/
theorem Placed.exists_pool_iff {d : Driver} {key : String} (hkey : d.sectionKey? = some key)
    (h : Placed root [key, "pool_config"] o) {p : Pool} :
    (∃ c s, ofMembers root = .ok c ∧ c.section? d = some s ∧ s.pool = p) ↔
      PoolMirrors (.object root) [key, "pool_config"] d.defaultPool p := by
  constructor
  · rintro ⟨c, s, hc, hs, rfl⟩
    have hsection := (mirrors_of_ofMembers hc).sections d key hkey
    rw [hs] at hsection
    exact SectionMirrors.pool hsection
  · intro hp
    obtain ⟨c, hc⟩ := h.exists_ofMembers (location_in_pool hkey) hp.not_illFormed
    obtain ⟨s, hs, hsection⟩ := (mirrors_of_ofMembers hc).section_of_at? hkey h.holds
    exact ⟨c, s, hc, hs, hsection.pool.unique hp⟩

/-- A configuration with an object as its observability settings is read with those that mirror
it. -/
theorem Placed.exists_observability_iff (h : Placed root ["observability_config"] o)
    {b : Observability} : (∃ c, ofMembers root = .ok c ∧ c.observability = b) ↔
      ObservabilityMirrors (.object root) b := by
  constructor
  · rintro ⟨c, hc, rfl⟩
    exact (mirrors_of_ofMembers hc).observability
  · intro hb
    obtain ⟨c, hc⟩ := h.exists_ofMembers location_in_observability hb.not_illFormed
    exact ⟨c, hc, (mirrors_of_ofMembers hc).observability.unique hb⟩

/-- **The strict and the raw reading of an object agree.** An object with distinct keys is read
strictly as a pool just if none of the keys of a pool holds null, none of the counts is a double, and
a raw configuration with this object as the pool of MySQL or PostgreSQL is read with that pool. It is
read strictly as observability settings just if none of their keys holds null and a raw configuration
with this object as its observability settings is read with those. The rest of the configuration may
be anything that can be read. -/
theorem strict_iff_raw (o : Members) (hdistinct : (o.map Prod.fst).Nodup) :
    (∀ d ∈ [Driver.mysql, .postgresql], ∀ key, d.sectionKey? = some key →
      ∀ root, Placed root [key, "pool_config"] o → ∀ p, Typed.pool (.object o) = .ok p ↔
        (∀ key ∈ ["max_open_conns", "max_idle_conns", "conn_max_lifetime", "conn_max_idle_time",
          "acquire_timeout"], o.find? key ≠ some .null) ∧
        (∀ key ∈ ["max_open_conns", "max_idle_conns"], ∀ x, o.find? key ≠ some (.float x)) ∧
        ∃ c s, ofMembers root = .ok c ∧ c.section? d = some s ∧ s.pool = p) ∧
    ∀ root, Placed root ["observability_config"] o → ∀ b, Typed.observability (.object o) = .ok b ↔
      (∀ key ∈ ["slow_query_threshold", "log_sql", "sample_rate"], o.find? key ≠ some .null) ∧
      ∃ c, ofMembers root = .ok c ∧ c.observability = b := by
  constructor
  · intro d hd key hkey root h p
    have hdefault : d.defaultPool = .standard := by
      simp only [List.mem_cons, List.not_mem_nil, or_false] at hd
      rcases hd with rfl | rfl <;> rfl
    rw [Typed.pool_eq_ok_iff hdistinct h.holds, h.exists_pool_iff hkey, hdefault]
  · intro root h b
    rw [Typed.observability_eq_ok_iff hdistinct h.holds, h.exists_observability_iff]

/-- An object that is a pool in one configuration and observability settings in another one. -/
theorem strict_iff_raw_shared :
    let o : Members := [("acquire_timeout", .text "15s"), ("log_sql", .bool true),
      ("max_open_conns", .integer 4)]
    let pooled : Members := [("driver", .text "postgresql"),
      ("postgresql_config", .object [("dsn", .text "postgres://db/app"), ("pool_config", .object o)])]
    let observed : Members := [("observability_config", .object o)]
    (o.map Prod.fst).Nodup ∧ Placed pooled ["postgresql_config", "pool_config"] o ∧
      Placed observed ["observability_config"] o ∧
      (∃ c s, ofMembers pooled = .ok c ∧ c.section? .postgresql = some s ∧
        s.pool = { Pool.standard with maxOpen := 4, acquire := .ofWholeSeconds 15 }) ∧
      ∃ c, ofMembers observed = .ok c ∧
        c.observability = { Observability.standard with logSql := true } := by
  intro o pooled observed
  have hdistinct : (o.map Prod.fst).Nodup := by decide
  have hpooled : Placed pooled ["postgresql_config", "pool_config"] o := ⟨rfl, ⟨_, rfl⟩⟩
  have hobserved : Placed observed ["observability_config"] o := ⟨rfl, ⟨_, rfl⟩⟩
  have hparse : Duration.parse "15s" = .ok (.ofWholeSeconds 15) := by decide +kernel
  have hduration : Typed.duration (.text "15s") = .ok (.ofWholeSeconds 15) := by
    rw [Typed.duration, hparse]
  have htyped : Typed.pool (.object o) =
      .ok { Pool.standard with maxOpen := 4, acquire := .ofWholeSeconds 15 } := by
    simp [Typed.pool, Typed.readRecord, Typed.readMembers, Typed.poolFields, o, hduration,
      Except.map]
    rfl
  obtain ⟨hpool, hobservability⟩ := strict_iff_raw o hdistinct
  exact ⟨hdistinct, hpooled, hobserved,
    ((hpool .postgresql (by decide) _ rfl pooled hpooled _).mp htyped).2.2,
    ((hobservability observed hobserved _).mp rfl).2⟩

end DataAccess.Config
