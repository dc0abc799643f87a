import DataAccess.Proofs.Config.Reading
import DataAccess.Proofs.Config.RoundTrip

/-!
# The strict reading

The strict reader of a record goes through the members of an object and puts the value of each into
its part of the record. The keys are distinct and so are the parts (`Parts`), so in the end each part
holds what its key does, or what it held before (`readMembers_eq_ok_iff`); the order does not matter.

The strict readers of single values accept what stands for a setting, apart from a null and from a
double that stands for a count (`Acceptable`). So a pool is read strictly just if it mirrors the object
and all its values are acceptable (`pool_eq_ok_iff`), and so are observability settings
(`observability_eq_ok_iff`).
-/

namespace DataAccess.Typed

open Json Config Number

/-! ### Single values -/

/-- A value that a strict reader may accept: no null, and no double where a count belongs. -/
structure Acceptable (k : Kind) (v? : Option Json) : Prop where
  present : v? ≠ some .null
  whole : k = .count → ∀ x, v? ≠ some (.float x)

theorem acceptable_none {k : Kind} : Acceptable k none := ⟨nofun, nofun⟩

section

variable {v : Json}

/-- What stands for a setting is acceptable, unless it is a double that stands for a count. -/
theorem acceptable_of_stands {k : Kind} {a : k.Value} (h : Stands k v a)
    (hcount : k = .count → ∀ x, v ≠ .float x) : Acceptable k (some v) where
  present := by
    rintro ⟨⟩
    cases h
  whole := fun hk x hx => hcount hk x (Option.some.inj hx)

theorem count_eq_ok_iff {n : UInt32} :
    count v = .ok n ↔ Acceptable .count (some v) ∧ Stands .count v n := by
  constructor
  · intro h
    cases v with
    | integer i =>
      rw [count] at h
      split at h
      · next hi =>
        have hlt : i.toNat < UInt32.size := by omega
        have hn : (n.toNat : Int) = i := by
          rw [← Except.ok.inj h, UInt32.toNat_ofNat_of_lt' hlt]
          omega
        have hstands : Stands .count (.integer i) n := hn ▸ .count n
        exact ⟨acceptable_of_stands hstands nofun, hstands⟩
      · cases h
    | _ => cases h
  · rintro ⟨hacceptable, hstands⟩
    cases hstands with
    | count n =>
      have hn : n.toNat < UInt32.size := n.toNat_lt_size
      rw [count, if_pos (by omega), Int.toNat_natCast, UInt32.ofNat_toNat]
    | wholeCount n x hx => exact absurd rfl (hacceptable.whole rfl x)

theorem duration_eq_ok_iff {d : Duration} :
    duration v = .ok d ↔ Acceptable .duration (some v) ∧ Stands .duration v d := by
  constructor
  · intro h
    have hstands := asDuration_eq_ok_iff.mp (Duration.asDuration_of_typed h)
    exact ⟨acceptable_of_stands hstands nofun, hstands⟩
  · rintro ⟨-, hstands⟩
    cases hstands with
    | seconds n => exact Duration.typed_toJson_of_whole (d := .ofWholeSeconds n) rfl
    | fraction x d hd => exact Duration.typed_float hd
    | written s d hd =>
      unfold duration
      dsimp only
      rw [hd]

theorem bool_eq_ok_iff {b : Bool} :
    bool v = .ok b ↔ Acceptable .truth (some v) ∧ Stands .truth v b := by
  constructor
  · intro h
    cases v <;> cases h
    exact ⟨acceptable_of_stands (.truth b) nofun, .truth b⟩
  · rintro ⟨-, ⟨⟩⟩
    rfl

theorem number_eq_ok_iff {x : Binary64} :
    number v = .ok x ↔ Acceptable .number (some v) ∧ Stands .number v x := by
  constructor
  · intro h
    cases v <;> cases h
    · exact ⟨acceptable_of_stands (.integer _) nofun, .integer _⟩
    · exact ⟨acceptable_of_stands (.double _) nofun, .double _⟩
  · rintro ⟨-, ⟨⟩ | ⟨⟩⟩ <;> rfl

end

/-! ### Parts of a record -/

/-- A part of a record, with the strict reader of what belongs there. -/
structure Part (α : Type) where
  key : String
  kind : Kind
  decode : Json → Except Error kind.Value
  get : α → kind.Value
  set : α → kind.Value → α
  decode_eq_ok_iff : ∀ v x, decode v = .ok x ↔ Acceptable kind (some v) ∧ Stands kind v x
  get_set : ∀ a x, get (set a x) = x

/-- The field of a part, which replaces it by what is read. -/
def Part.field {α : Type} (p : Part α) : Field α := ⟨p.key, fun a v => (p.decode v).map (p.set a)⟩

/-- All parts of a record, under different keys. To replace one leaves the others. -/
structure Parts (α : Type) where
  all : List (Part α)
  distinct : (all.map Part.key).Nodup
  apart : ∀ p ∈ all, ∀ q ∈ all, p.key ≠ q.key → ∀ a x, p.get (q.set a x) = p.get a
  ext : ∀ a b, (∀ p ∈ all, p.get a = p.get b) → a = b

/-- What a part is after reading: what its key holds, or what it was. -/
def Part.Becomes {α : Type} (p : Part α) (ms : Members) (a b : α) : Prop :=
  match ms.find? p.key with
  | none => p.get b = p.get a
  | some v => p.decode v = .ok (p.get b)

section

variable {α : Type} {p : Part α} {a b : α} {ms : Members} {key : String} {v : Json}

theorem Part.becomes_of_none (h : ms.find? p.key = none) :
    p.Becomes ms a b ↔ p.get b = p.get a := by
  rw [Becomes, h]

theorem Part.becomes_cons_self : p.Becomes ((p.key, v) :: ms) a b ↔ p.decode v = .ok (p.get b) := by
  rw [Becomes, Members.find?_cons, if_pos rfl]

theorem Part.becomes_cons_of_ne (h : p.key ≠ key) :
    p.Becomes ((key, v) :: ms) a b ↔ p.Becomes ms a b := by
  rw [Becomes, Members.find?_cons, if_neg h, Becomes]

/-- Only what a part was before matters. -/
theorem Part.becomes_congr {a' : α} (h : p.get a = p.get a') :
    p.Becomes ms a b ↔ p.Becomes ms a' b := by
  rw [Becomes, h, Becomes]

theorem readMembers_of_none {fields : List (Field α)} (h : fields.find? (·.key == key) = none) :
    readMembers fields a ((key, v) :: ms) = readMembers fields a ms := by
  rw [readMembers, h]

theorem readMembers_of_some {fields : List (Field α)}
    (h : fields.find? (·.key == key) = some p.field) :
    readMembers fields a ((key, v) :: ms) = .ok b ↔
      ∃ x, p.decode v = .ok x ∧ readMembers fields (p.set a x) ms = .ok b := by
  rw [readMembers, h]
  dsimp only [Part.field]
  cases p.decode v <;> simp [Except.map]

/-- Reading the members of an object reads the parts of a record, one by one. -/
theorem readMembers_eq_ok_iff (R : Parts α) (hdistinct : (ms.map Prod.fst).Nodup) :
    readMembers (R.all.map Part.field) a ms = .ok b ↔ ∀ p ∈ R.all, p.Becomes ms a b := by
  -- The record changes from member to member, so it is not fixed in the induction.
  induction ms generalizing a with
  | nil =>
    have hsame : ∀ p : Part α, p.Becomes [] a b ↔ p.get b = p.get a := fun p =>
      Part.becomes_of_none rfl
    simp only [readMembers, Except.ok.injEq, hsame]
    exact ⟨fun h p _ => h ▸ rfl, fun h => (R.ext b a h).symm⟩
  | cons m ms ih =>
    obtain ⟨key, v⟩ := m
    obtain ⟨hnew, hms⟩ := List.nodup_cons.mp hdistinct
    have hfind : (R.all.map Part.field).find? (·.key == key) =
        (R.all.find? (·.key == key)).map Part.field := List.find?_map ..
    cases hq : R.all.find? (·.key == key) with
    | none =>
      rw [hq] at hfind
      rw [readMembers_of_none hfind, ih hms]
      refine forall₂_congr fun p hp => (Part.becomes_cons_of_ne ?_).symm
      simpa using List.find?_eq_none.mp hq p hp
    | some q =>
      rw [hq] at hfind
      obtain rfl : q.key = key := by simpa using List.find?_some hq
      have hqmem := List.mem_of_find?_eq_some hq
      rw [readMembers_of_some hfind]
      -- The key does not occur again, so this part is done, and the others are as before.
      have hself : ∀ x, q.Becomes ms (q.set a x) b ↔ q.get b = x := fun x => by
        rw [Part.becomes_of_none (Members.find?_eq_none hnew), q.get_set]
      have hother : ∀ x, ∀ p ∈ R.all, p ≠ q →
          (p.Becomes ms (q.set a x) b ↔ p.Becomes ((q.key, v) :: ms) a b) := by
        intro x p hp hne
        have hkey : p.key ≠ q.key := fun h => hne (List.inj_on_of_nodup_map R.distinct hp hqmem h)
        rw [Part.becomes_congr (R.apart p hp q hqmem hkey a x), Part.becomes_cons_of_ne hkey]
      constructor
      · rintro ⟨x, hx, hrest⟩ p hp
        have hp' := (ih hms).mp hrest p hp
        by_cases hpq : p = q
        · subst hpq
          rw [Part.becomes_cons_self, hx, (hself x).mp hp']
        · exact (hother x p hp hpq).mp hp'
      · intro h
        refine ⟨q.get b, Part.becomes_cons_self.mp (h q hqmem), (ih hms).mpr fun p hp => ?_⟩
        by_cases hpq : p = q
        · exact hpq ▸ (hself _).mpr rfl
        · exact (hother _ p hp hpq).mpr (h p hp)

/-- What a part becomes, in terms of the tree that the object is in. -/
theorem Part.becomes_iff {root : Json} {path : List String}
    (hroot : root.at? path = some (.object ms)) :
    p.Becomes ms a b ↔ Acceptable p.kind (ms.find? p.key) ∧
      Held root (path ++ [p.key]) p.kind (p.get a) (p.get b) := by
  rw [Becomes, Held, at?_append_key hroot]
  cases ms.find? p.key with
  | none => simp [acceptable_none]
  | some v =>
    dsimp only
    rw [p.decode_eq_ok_iff]
    constructor
    · rintro ⟨hv, hstands⟩
      exact ⟨hv, .inl ⟨v, rfl, fun h => hv.present (congrArg some h), hstands⟩⟩
    · rintro ⟨hv, ⟨w, hw, -, hstands⟩ | ⟨hnone | hnull, -⟩⟩
      · exact ⟨hv, Option.some.inj hw ▸ hstands⟩
      · cases hnone
      · exact absurd hnull hv.present

end

/-! ### Pools and observability settings -/

section

variable {α : Type}

/-- A part that is a count. -/
def Part.count (key : String) (get : α → UInt32) (set : α → UInt32 → α)
    (get_set : ∀ a n, get (set a n) = n) : Part α where
  key
  kind := .count
  decode := Typed.count
  get
  set
  decode_eq_ok_iff := fun _ _ => count_eq_ok_iff
  get_set

/-- A part that is a duration. -/
def Part.duration (key : String) (get : α → Duration) (set : α → Duration → α)
    (get_set : ∀ a d, get (set a d) = d) : Part α where
  key
  kind := .duration
  decode := Typed.duration
  get
  set
  decode_eq_ok_iff := fun _ _ => duration_eq_ok_iff
  get_set

end

/-- The parts of a pool. -/
def poolParts : Parts Pool where
  all := [
    .count "max_open_conns" Pool.maxOpen (fun p n => { p with maxOpen := n }) fun _ _ => rfl,
    .count "max_idle_conns" Pool.maxIdle (fun p n => { p with maxIdle := n }) fun _ _ => rfl,
    .duration "conn_max_lifetime" Pool.lifetime (fun p d => { p with lifetime := d })
      fun _ _ => rfl,
    .duration "conn_max_idle_time" Pool.idleTime (fun p d => { p with idleTime := d })
      fun _ _ => rfl,
    .duration "acquire_timeout" Pool.acquire (fun p d => { p with acquire := d }) fun _ _ => rfl]
  distinct := by decide
  apart := by
    intro p hp q hq hkey a x
    simp only [List.mem_cons, List.not_mem_nil, or_false] at hp hq
    rcases hp with rfl | rfl | rfl | rfl | rfl <;> rcases hq with rfl | rfl | rfl | rfl | rfl
    all_goals first | rfl | exact absurd rfl hkey
  ext := by
    rintro ⟨_, _, _, _, _⟩ ⟨_, _, _, _, _⟩ h
    simp only [List.forall_mem_cons] at h
    obtain ⟨⟨⟩, ⟨⟩, ⟨⟩, ⟨⟩, ⟨⟩, -⟩ := h
    rfl

/-- The parts of observability settings. -/
def observabilityParts : Parts Observability where
  all := [
    .duration "slow_query_threshold" Observability.slowThreshold
      (fun o d => { o with slowThreshold := d }) fun _ _ => rfl,
    { key := "log_sql"
      kind := .truth
      decode := bool
      get := Observability.logSql
      set := fun o b => { o with logSql := b }
      decode_eq_ok_iff := fun _ _ => bool_eq_ok_iff
      get_set := fun _ _ => rfl },
    { key := "sample_rate"
      kind := .number
      decode := number
      get := Observability.sampleRate
      set := fun o x => { o with sampleRate := x }
      decode_eq_ok_iff := fun _ _ => number_eq_ok_iff
      get_set := fun _ _ => rfl }]
  distinct := by decide
  apart := by
    intro p hp q hq hkey o x
    simp only [List.mem_cons, List.not_mem_nil, or_false] at hp hq
    rcases hp with rfl | rfl | rfl <;> rcases hq with rfl | rfl | rfl
    all_goals first | rfl | exact absurd rfl hkey
  ext := by
    rintro ⟨_, _, _⟩ ⟨_, _, _⟩ h
    simp only [List.forall_mem_cons] at h
    obtain ⟨⟨⟩, ⟨⟩, ⟨⟩, -⟩ := h
    rfl

section

variable {root : Json} {path : List String} {o : Members}

/-- A pool is read strictly just if it mirrors the object and all its values are acceptable. -/
theorem pool_eq_ok_iff {p : Pool} (hdistinct : (o.map Prod.fst).Nodup)
    (hroot : root.at? path = some (.object o)) :
    pool (.object o) = .ok p ↔
      (∀ key ∈ ["max_open_conns", "max_idle_conns", "conn_max_lifetime", "conn_max_idle_time",
        "acquire_timeout"], o.find? key ≠ some .null) ∧
      (∀ key ∈ ["max_open_conns", "max_idle_conns"], ∀ x, o.find? key ≠ some (.float x)) ∧
      PoolMirrors root path .standard p := by
  have hread : pool (.object o) = .ok p ↔ ∀ q ∈ poolParts.all, q.Becomes o .standard p :=
    readMembers_eq_ok_iff poolParts hdistinct
  simp only [hread, Part.becomes_iff hroot, poolParts, List.forall_mem_cons]
  constructor
  · rintro ⟨⟨hopen, hopen'⟩, ⟨hidle, hidle'⟩, ⟨hlifetime, hlifetime'⟩, ⟨hidleTime, hidleTime'⟩,
      ⟨hacquire, hacquire'⟩, -⟩
    exact ⟨⟨hopen.present, hidle.present, hlifetime.present, hidleTime.present, hacquire.present,
      List.forall_mem_nil _⟩, ⟨hopen.whole rfl, hidle.whole rfl, List.forall_mem_nil _⟩,
      ⟨hopen', hidle', hlifetime', hidleTime', hacquire'⟩⟩
  · rintro ⟨⟨hopen, hidle, hlifetime, hidleTime, hacquire, -⟩, ⟨hopen', hidle', -⟩, h⟩
    exact ⟨⟨⟨hopen, fun _ => hopen'⟩, h.maxOpen⟩, ⟨⟨hidle, fun _ => hidle'⟩, h.maxIdle⟩,
      ⟨⟨hlifetime, nofun⟩, h.lifetime⟩, ⟨⟨hidleTime, nofun⟩, h.idleTime⟩,
      ⟨⟨hacquire, nofun⟩, h.acquire⟩, List.forall_mem_nil _⟩

/-- Likewise for observability settings, which have no counts. -/
theorem observability_eq_ok_iff {b : Observability} (hdistinct : (o.map Prod.fst).Nodup)
    (hroot : root.at? ["observability_config"] = some (.object o)) :
    observability (.object o) = .ok b ↔
      (∀ key ∈ ["slow_query_threshold", "log_sql", "sample_rate"], o.find? key ≠ some .null) ∧
      ObservabilityMirrors root b := by
  have hread : observability (.object o) = .ok b ↔
      ∀ q ∈ observabilityParts.all, q.Becomes o .standard b :=
    readMembers_eq_ok_iff observabilityParts hdistinct
  simp only [hread, Part.becomes_iff hroot, observabilityParts, List.forall_mem_cons]
  constructor
  · rintro ⟨⟨hslow, hslow'⟩, ⟨hlog, hlog'⟩, ⟨hrate, hrate'⟩, -⟩
    exact ⟨⟨hslow.present, hlog.present, hrate.present, List.forall_mem_nil _⟩,
      ⟨hslow', hlog', hrate'⟩⟩
  · rintro ⟨⟨hslow, hlog, hrate, -⟩, h⟩
    exact ⟨⟨⟨hslow, nofun⟩, h.slowThreshold⟩, ⟨⟨hlog, nofun⟩, h.logSql⟩,
      ⟨⟨hrate, nofun⟩, h.sampleRate⟩, List.forall_mem_nil _⟩

end

end DataAccess.Typed
