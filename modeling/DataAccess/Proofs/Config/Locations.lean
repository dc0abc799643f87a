import DataAccess.Config.Raw
import DataAccess.Proofs.Duration.Whole
import DataAccess.Proofs.Json.Path

/-!
# The locations of a raw configuration

Where settings stand in a raw configuration (`locations`, in the order in which they are visited),
and which trees stand for which settings (`Stands`), said without the readers. The readers of
single values are those of `Stands`: `asCount_eq_ok_iff` and its siblings.

A null that takes the place of a location makes no other one ill-formed
(`IllFormed.of_replaceAt_null`), and mends only what is inside of that place
(`IllFormed.replaceAt`).
-/

namespace DataAccess.Config

open Number Json

/-! ### Kinds of settings -/

/-- What belongs at a location. -/
inductive Kind where
  | text
  | truth
  | number
  | count
  | duration
  | section

/-- What a setting of a kind is. -/
abbrev Kind.Value : Kind → Type
  | .text => String
  | .truth => Bool
  | .number => Binary64
  | .count => UInt32
  | .duration => Duration
  | .section => Members

/-- The trees that stand for a setting. -/
inductive Stands : (k : Kind) → Json → k.Value → Prop
  | text (s : String) : Stands .text (.text s) s
  | truth (b : Bool) : Stands .truth (.bool b) b
  | integer (i : Int) : Stands .number (.integer i) (.ofInt i)
  | double (x : Binary64) : Stands .number (.float x) x
  | count (n : UInt32) : Stands .count (.integer n.toNat) n
  /-- A double without a fraction may stand for a count. -/
  | wholeCount (n : UInt32) (x : Binary64) (hx : x.toInt? = some (n.toNat : Int)) :
    Stands .count (.float x) n
  | seconds (n : UInt64) : Stands .duration (.integer n.toNat) (.ofWholeSeconds n)
  | fraction (x : Binary64) (d : Duration) (hd : Duration.ofSeconds x = .ok d) :
    Stands .duration (.float x) d
  | written (s : String) (d : Duration) (hd : Duration.parse s = .ok d) :
    Stands .duration (.text s) d
  | section (ms : Members) : Stands .section (.object ms) ms

/-- An object stands for a section and for nothing else. -/
theorem stands_object_iff {k : Kind} {ms : Members} :
    (∃ a, Stands k (.object ms) a) ↔ k = .section := by
  constructor
  · rintro ⟨a, ha⟩
    cases ha
    rfl
  · rintro rfl
    exact ⟨ms, .section ms⟩

/-- Objects fit at sections only, whatever they hold. -/
theorem not_stands_object {k : Kind} {ms : Members} (h : ∀ a, ¬ Stands k (.object ms) a)
    (ms' : Members) : ∀ a, ¬ Stands k (.object ms') a := by
  intro a ha
  obtain ⟨b, hb⟩ := stands_object_iff.mpr (stands_object_iff.mp ⟨a, ha⟩)
  exact h b hb

/-! ### Readers of single values -/

variable {v : Json}

theorem asText_eq_ok_iff {s : String} : asText v = .ok s ↔ Stands .text v s := by
  constructor
  · intro h
    cases v <;> cases h
    exact .text s
  · rintro ⟨⟩
    rfl

theorem asBool_eq_ok_iff {b : Bool} : asBool v = .ok b ↔ Stands .truth v b := by
  constructor
  · intro h
    cases v <;> cases h
    exact .truth b
  · rintro ⟨⟩
    rfl

theorem asNumber_eq_ok_iff {x : Binary64} : asNumber v = .ok x ↔ Stands .number v x := by
  constructor
  · intro h
    cases v <;> cases h
    · exact .integer _
    · exact .double _
  · rintro ⟨⟩ <;> rfl

theorem asSection_eq_ok_iff {ms : Members} : asSection v = .ok ms ↔ Stands .section v ms := by
  constructor
  · intro h
    cases v <;> cases h
    exact .section ms
  · rintro ⟨⟩
    rfl

theorem asCountOfNat_eq_ok_iff {m : Nat} {n : UInt32} :
    asCountOfNat m = .ok n ↔ m = n.toNat := by
  unfold asCountOfNat
  constructor
  · intro h
    split at h
    · next hm =>
      cases h
      exact (UInt32.toNat_ofNat_of_lt hm).symm
    · cases h
  · rintro rfl
    rw [if_pos n.toNat_lt_size, UInt32.ofNat_toNat]

/-- Cutting to a word does not make a number a count. -/
theorem min_largestWord_eq_iff {m : Nat} {n : UInt32} :
    min m largestWord = n.toNat ↔ m = n.toNat := by
  have hn : n.toNat < 4294967296 := n.toNat_lt
  have hword : largestWord = 18446744073709551615 := rfl
  omega

theorem asCount_eq_ok_iff {n : UInt32} : asCount v = .ok n ↔ Stands .count v n := by
  constructor
  · intro h
    cases v with
    | integer i =>
      rw [asCount] at h
      split at h
      · cases h
      · next hi =>
        have hn := asCountOfNat_eq_ok_iff.mp h
        rw [show i = (n.toNat : Int) by omega]
        exact .count n
    | float x =>
      rw [asCount] at h
      split at h
      · next i hx =>
        split at h
        · cases h
        · next hi =>
          have hn := min_largestWord_eq_iff.mp (asCountOfNat_eq_ok_iff.mp h)
          exact .wholeCount n x (hx.trans (congrArg some (by omega)))
      · cases h
    | _ => cases h
  · intro h
    cases h with
    | count n =>
      have hn : ¬ (n.toNat : Int) < 0 := by omega
      rw [asCount, if_neg hn, Int.toNat_natCast]
      exact asCountOfNat_eq_ok_iff.mpr rfl
    | wholeCount n x hx =>
      have hn : ¬ (n.toNat : Int) < 0 := by omega
      rw [asCount, hx]
      dsimp only
      rw [if_neg hn, Int.toNat_natCast]
      exact asCountOfNat_eq_ok_iff.mpr (min_largestWord_eq_iff.mpr rfl)

/-- An integer is read as a duration exactly if it fits in a word. -/
theorem asDuration_integer {i : Int} {d : Duration} :
    asDuration (.integer i) = .ok d ↔ ∃ n : UInt64, i = n.toNat ∧ d = .ofWholeSeconds n := by
  rw [asDuration]
  dsimp only
  by_cases hi : 0 ≤ i ∧ i < UInt64.size
  · obtain ⟨hnonneg, hlt⟩ := hi
    have hword : i.toNat < UInt64.size := by omega
    rw [if_neg (Int.not_lt.mpr hnonneg), Duration.ofSeconds?, if_pos hword]
    dsimp only
    constructor
    · intro h
      refine ⟨UInt64.ofNat i.toNat, ?_, (Except.ok.inj h).symm⟩
      rw [UInt64.toNat_ofNat_of_lt' hword]
      omega
    · rintro ⟨n, rfl, rfl⟩
      rw [Int.toNat_natCast, UInt64.ofNat_toNat]
  · -- What is left is the nearest double, which is refused.
    have hnone : (if i < 0 then none else Duration.ofSeconds? i.toNat) = none := by
      split
      · rfl
      · next hneg => exact if_neg (by omega)
    obtain ⟨e, he⟩ := Duration.ofSeconds_ofInt_eq_error (i := i) (by omega)
    rw [hnone, he]
    refine iff_of_false nofun ?_
    rintro ⟨n, rfl, -⟩
    have hn : n.toNat < UInt64.size := n.toNat_lt_size
    omega

theorem asDuration_eq_ok_iff {d : Duration} : asDuration v = .ok d ↔ Stands .duration v d := by
  constructor
  · intro h
    cases v with
    | integer i =>
      obtain ⟨n, rfl, rfl⟩ := asDuration_integer.mp h
      exact .seconds n
    | float x =>
      rw [asDuration] at h
      dsimp only at h
      split at h
      · next hx =>
        cases h
        exact .fraction x d hx
      · cases h
    | text s =>
      rw [asDuration] at h
      dsimp only at h
      split at h
      · next hs =>
        cases h
        exact .written s d hs
      · cases h
    | _ => cases h
  · intro h
    cases h with
    | seconds n => exact asDuration_integer.mpr ⟨n, rfl, rfl⟩
    | fraction x d hd =>
      rw [asDuration, hd]
    | written s d hd =>
      rw [asDuration, hd]

/-- A tree stands for one setting of a kind. -/
theorem Stands.unique {k : Kind} {a b : k.Value} (ha : Stands k v a)
    (hb : Stands k v b) : a = b := by
  have hok : ∀ {ε α : Type} {r : Except ε α} {x y : α}, r = .ok x → r = .ok y → x = y :=
    fun hx hy => Except.ok.inj (hx.symm.trans hy)
  cases k with
  | text => exact hok (asText_eq_ok_iff.mpr ha) (asText_eq_ok_iff.mpr hb)
  | truth => exact hok (asBool_eq_ok_iff.mpr ha) (asBool_eq_ok_iff.mpr hb)
  | number => exact hok (asNumber_eq_ok_iff.mpr ha) (asNumber_eq_ok_iff.mpr hb)
  | count => exact hok (asCount_eq_ok_iff.mpr ha) (asCount_eq_ok_iff.mpr hb)
  | duration => exact hok (asDuration_eq_ok_iff.mpr ha) (asDuration_eq_ok_iff.mpr hb)
  | «section» => exact hok (asSection_eq_ok_iff.mpr ha) (asSection_eq_ok_iff.mpr hb)

/-! ### Locations -/

/-- A place for a setting: the keys on the way to it, and what belongs there. -/
structure Location where
  path : List String
  kind : Kind

/-- The keys of a path with dots between them. -/
def dotted (path : List String) : String := ".".intercalate path

/-- The locations in a pool. -/
def poolLocations (path : List String) : List Location :=
  [⟨path ++ ["max_open_conns"], .count⟩,
    ⟨path ++ ["max_idle_conns"], .count⟩,
    ⟨path ++ ["conn_max_lifetime"], .duration⟩,
    ⟨path ++ ["conn_max_idle_time"], .duration⟩,
    ⟨path ++ ["acquire_timeout"], .duration⟩]

/-- The locations in the section with a key. -/
def inSection (key : String) : List Location :=
  ⟨[key, "dsn"], .text⟩ :: ⟨[key, "pool_config"], .section⟩ :: poolLocations [key, "pool_config"]

/-- The locations in the observability settings. -/
def inObservability : List Location :=
  [⟨["observability_config", "slow_query_threshold"], .duration⟩,
    ⟨["observability_config", "log_sql"], .truth⟩,
    ⟨["observability_config", "sample_rate"], .number⟩]

/-- All locations, in the order in which they are visited. -/
def locations : List Location :=
  [⟨["driver"], .text⟩, ⟨["observability_config"], .section⟩] ++ inObservability ++
    ["sqlite_config", "mysql_config", "postgresql_config"].flatMap fun key =>
      ⟨[key], .section⟩ :: inSection key

theorem path_of_mem_inSection {key : String} {l : Location} (h : l ∈ inSection key) :
    ∃ k rest, l.path = [key] ++ k :: rest := by
  simp only [inSection, poolLocations, List.mem_cons, List.not_mem_nil, or_false] at h
  rcases h with rfl | rfl | rfl | rfl | rfl | rfl | rfl
  all_goals exact ⟨_, _, rfl⟩

/-- A tree holds something at a location that does not belong there. -/
def IllFormed (root : Json) (l : Location) : Prop :=
  ∃ v, root.at? l.path = some v ∧ v ≠ .null ∧ ∀ a, ¬ Stands l.kind v a

/-- With a null in one place, what is ill-formed was so before. -/
theorem IllFormed.of_replaceAt_null {root : Json} {p : List String} {l : Location}
    (h : IllFormed (replaceAt .null p root) l) : IllFormed root l := by
  obtain ⟨v, hv, hnull, hstands⟩ := h
  rcases at?_replaceAt_null hnull hv with hsame | ⟨ms, ms', rfl, hobject⟩
  · exact ⟨v, hsame, hnull, hstands⟩
  · exact ⟨.object ms', hobject, nofun, not_stands_object hstands ms'⟩

/-- Replacing something does not mend what is ill-formed elsewhere. -/
theorem IllFormed.replaceAt (new : Json) {root : Json} {path : List String} {l : Location}
    (hout : ¬ path <+: l.path) (h : IllFormed root l) :
    IllFormed (replaceAt new path root) l := by
  obtain ⟨v, hv, hnull, hstands⟩ := h
  rcases at?_replaceAt_of_not_prefix new hout hv with hsame | ⟨ms, ms', rfl, hobject⟩
  · exact ⟨v, hsame, hnull, hstands⟩
  · exact ⟨.object ms', hobject, nofun, not_stands_object hstands ms'⟩

/-- A null is not ill-formed. -/
theorem not_illFormed_replaceAt_null {root : Json} {l : Location} (h : IllFormed root l) :
    ¬ IllFormed (replaceAt .null l.path root) l := by
  rintro ⟨v, hv, hnull, -⟩
  obtain ⟨w, hw, -, -⟩ := h
  rw [at?_replaceAt_self hw] at hv
  exact hnull (Option.some.inj hv).symm

end DataAccess.Config
