import DataAccess.Proofs.Config.Shape
import DataAccess.Proofs.Config.Strict
import DataAccess.Proofs.Duration.Terms

/-!
# Whole seconds in three forms

A whole number of seconds is written as an integer, as a double or as a text of hours, minutes and
seconds (`InSeconds`). Up to `2 ^ 53` all of them are read as the same duration, by both readers and
wherever a duration belongs (`seconds_agree`): in a raw configuration, in a pool and in observability
settings.
-/

namespace DataAccess

open Number Json

namespace Config

variable {root v : Json} {d : Duration}

/-! ### The forms -/

/-- The trees that write a whole number of seconds. -/
inductive InSeconds (n : Nat) : Json → Prop
  | integer : InSeconds n (.integer n)
  | float (x : Binary64) (hx : x.value? = some (n : ℚ)) : InSeconds n (.float x)
  | text (s : String) (ts : List (Duration.Numeral × Duration.Unit)) (hs : Duration.Writes s ts)
    (hts : Duration.Weighs ts n) : InSeconds n (.text s)

/-- Each form stands for the duration. -/
theorem InSeconds.stands (h : InSeconds d.seconds v) (hle : d.seconds ≤ 2 ^ 53)
    (hd : d.nanos = 0) : Stands .duration v d := by
  cases h with
  | integer =>
    have htyped := Duration.typed_toJson_of_whole hd
    rw [Duration.toJson, if_pos hd] at htyped
    exact (Typed.duration_eq_ok_iff.mp htyped).2
  | float x hx => exact .fraction x d (Duration.ofSeconds_of_value hd hx)
  | text s ts hs hts =>
    refine .written s d ?_
    rw [Duration.parse_of_writes hs, Duration.total_of_weighs hts hle,
      Duration.ofSeconds_ofNat hd hle]

/-! ### Where durations are -/

/-- The durations of a pool by their keys. -/
inductive PoolHas (p : Pool) : String → Duration → Prop
  | lifetime : PoolHas p "conn_max_lifetime" p.lifetime
  | idleTime : PoolHas p "conn_max_idle_time" p.idleTime
  | acquire : PoolHas p "acquire_timeout" p.acquire

/-- The keys of the durations of a pool. -/
abbrev poolDurationKeys : List String :=
  ["conn_max_lifetime", "conn_max_idle_time", "acquire_timeout"]

/-- The durations of a configuration by the keys on the way to them. -/
inductive HasDuration (c : Config) : List String → Duration → Prop
  | slow : HasDuration c ["observability_config", "slow_query_threshold"]
      c.observability.slowThreshold
  | pool {driver : Driver} {key field : String} {s : Section} {d : Duration}
    (hkey : driver.sectionKey? = some key) (hs : c.section? driver = some s)
    (hd : PoolHas s.pool field d) : HasDuration c [key, "pool_config", field] d

theorem durations_of_section {key : String} {l : Location} (hl : l ∈ inSection key)
    (hkind : l.kind = .duration) :
    ∃ field ∈ poolDurationKeys, l.path = [key, "pool_config", field] := by
  simp only [inSection, poolLocations, List.mem_cons, List.not_mem_nil, or_false] at hl
  rcases hl with rfl | rfl | rfl | rfl | rfl | rfl | rfl
  · cases hkind
  · cases hkind
  · cases hkind
  · cases hkind
  · exact ⟨"conn_max_lifetime", by simp, rfl⟩
  · exact ⟨"conn_max_idle_time", by simp, rfl⟩
  · exact ⟨"acquire_timeout", by simp, rfl⟩

/-- Durations belong in the observability settings and in the pools of the drivers. -/
theorem durations_of_locations {l : Location} (hl : l ∈ locations) (hkind : l.kind = .duration) :
    l.path = ["observability_config", "slow_query_threshold"] ∨
      ∃ driver key field, Driver.sectionKey? driver = some key ∧ field ∈ poolDurationKeys ∧
        l.path = [key, "pool_config", field] := by
  have hdriver : ∀ key ∈ ["sqlite_config", "mysql_config", "postgresql_config"],
      ∃ driver, Driver.sectionKey? driver = some key := by
    simp only [List.forall_mem_cons]
    exact ⟨⟨.sqlite, rfl⟩, ⟨.mysql, rfl⟩, ⟨.postgresql, rfl⟩, List.forall_mem_nil _⟩
  rcases List.mem_append.mp hl with hl | hl
  · simp only [inObservability, List.cons_append, List.nil_append, List.mem_cons, List.not_mem_nil,
      or_false] at hl
    rcases hl with rfl | rfl | rfl | rfl | rfl
    · cases hkind
    · cases hkind
    · exact .inl rfl
    · cases hkind
    · cases hkind
  · obtain ⟨key, hkey, hl⟩ := List.mem_flatMap.mp hl
    obtain ⟨driver, hdriver⟩ := hdriver key hkey
    rcases List.mem_cons.mp hl with rfl | hl
    · cases hkind
    · obtain ⟨field, hfield, hpath⟩ := durations_of_section hl hkind
      exact .inr ⟨driver, key, field, hdriver, hfield, hpath⟩

theorem PoolMirrors.has {path : List String} {defaults p : Pool} {field : String}
    (h : PoolMirrors root path defaults p) (hfield : field ∈ poolDurationKeys)
    (hat : root.at? (path ++ [field]) = some v) (hv : Stands .duration v d) :
    PoolHas p field d := by
  simp only [List.mem_cons, List.not_mem_nil, or_false] at hfield
  rcases hfield with rfl | rfl | rfl
  · obtain rfl := h.lifetime.eq_of_stands hat hv
    exact .lifetime
  · obtain rfl := h.idleTime.eq_of_stands hat hv
    exact .idleTime
  · obtain rfl := h.acquire.eq_of_stands hat hv
    exact .acquire

/-- What is read at the location of a duration is what stands there. -/
theorem Mirrors.hasDuration {c : Config} {l : Location} (h : Mirrors root c) (hl : l ∈ locations)
    (hkind : l.kind = .duration) (hat : root.at? l.path = some v) (hv : Stands .duration v d) :
    HasDuration c l.path d := by
  rcases durations_of_locations hl hkind with hslow | ⟨driver, key, field, hkey, hfield, hpath⟩
  · rw [hslow] at hat ⊢
    obtain rfl := h.observability.slowThreshold.eq_of_stands hat hv
    exact .slow
  · rw [hpath] at hat ⊢
    obtain ⟨s, hs, hsection⟩ := h.section_of_at? hkey hat
    exact .pool hkey hs (hsection.pool.has hfield hat hv)

/-- **Whole seconds agree in all forms.** An integer, a double and a text that write the same number
of seconds, up to `2 ^ 53`, are read as exactly that many seconds. Where a duration belongs in a raw
configuration they are no fault, and if nothing else is, the configuration is read with that duration
there. The strict readers of pools and observability settings read the same. -/
theorem seconds_agree (n : Nat) (hn : n ≤ 2 ^ 53) (v : Json) (hv : InSeconds n v) :
    ∃ d : Duration, d.seconds = n ∧ d.nanos = 0 ∧
      asDuration v = .ok d ∧ Typed.duration v = .ok d ∧
      (∀ ms, ∀ l ∈ locations, l.kind = .duration → (Json.object ms).at? l.path = some v →
        ((∃ c, ofMembers ms = .ok c) ↔
          ∀ l' ∈ locations, l' ≠ l → ¬ IllFormed (.object ms) l') ∧
        ∀ c, ofMembers ms = .ok c → HasDuration c l.path d) ∧
      (∀ (o : Members) (p : Pool), (o.map Prod.fst).Nodup → Typed.pool (.object o) = .ok p →
        ∀ field ∈ poolDurationKeys, o.find? field = some v → PoolHas p field d) ∧
      ∀ (o : Members) (b : Observability), (o.map Prod.fst).Nodup →
        Typed.observability (.object o) = .ok b →
        o.find? "slow_query_threshold" = some v → b.slowThreshold = d := by
  have hword : n < UInt64.size := Nat.lt_of_le_of_lt hn (by decide)
  obtain ⟨d, rfl, hd⟩ : ∃ d : Duration, d.seconds = n ∧ d.nanos = 0 :=
    ⟨⟨n, 0, hword, by decide⟩, rfl, rfl⟩
  have hstands : Stands .duration v d := hv.stands hn hd
  refine ⟨d, rfl, hd, asDuration_eq_ok_iff.mpr hstands,
    Typed.duration_eq_ok_iff.mpr ⟨Typed.acceptable_of_stands hstands nofun, hstands⟩, ?_, ?_, ?_⟩
  · intro ms l hl hkind hat
    constructor
    · rw [exists_ofMembers_eq_ok_iff]
      constructor
      · intro h l' hl' _
        exact h l' hl'
      · intro h l' hl'
        by_cases hsame : l' = l
        · subst hsame
          obtain ⟨path, kind⟩ := l'
          obtain rfl : kind = .duration := hkind
          rintro ⟨w, hw, -, hill⟩
          obtain rfl := Option.some.inj (hat.symm.trans hw)
          exact hill d hstands
        · exact h l' hl' hsame
    · intro c hc
      exact (mirrors_of_ofMembers hc).hasDuration hl hkind hat hstands
  · intro o p hdistinct hp field hfield hfind
    obtain ⟨-, -, hmirrors⟩ := (Typed.pool_eq_ok_iff hdistinct (at?_nil (.object o))).mp hp
    refine hmirrors.has hfield ?_ hstands
    rw [at?_append_key (at?_nil (.object o)), hfind]
  · intro o b hdistinct hb hfind
    have hroot : (Json.object [("observability_config", .object o)]).at? ["observability_config"] =
        some (.object o) := rfl
    obtain ⟨-, hmirrors⟩ := (Typed.observability_eq_ok_iff hdistinct hroot).mp hb
    refine hmirrors.slowThreshold.eq_of_stands ?_ hstands
    exact (at?_append_key hroot _).trans hfind

section

open Duration Text

/-- Terms in any order, with zeros in front, a point at the end and blanks between them. -/
theorem seconds_agree_mixed :
    let s := " 15s 1h\t030.m"
    let o : Members := [("slow_query_threshold", .text s)]
    5415 ≤ 2 ^ 53 ∧ InSeconds 5415 (.text s) ∧
      ∃ d : Duration, d.seconds = 5415 ∧ d.nanos = 0 ∧ Typed.duration (.text s) = .ok d ∧
        ∃ c, ofMembers [("observability_config", .object o)] = .ok c ∧
          HasDuration c ["observability_config", "slow_query_threshold"] d := by
  intro s o
  have hspace : isAlphabetic ' ' = false := by decide
  have htab : isAlphabetic '\t' = false := by decide
  have hminutes : Spelled [(⟨['0', '3', '0'], some []⟩, .minute)] ['\t', '0', '3', '0', '.', 'm'] :=
    @Spelled.cons ⟨['0', '3', '0'], some []⟩ .minute [] ['\t'] ['m'] [] (by simp [isBlank])
      ⟨by simp [Numeral.digits, isDigit], by simp [Numeral.digits]⟩ (.head _) (by simp) .nil
  have hhours : Spelled [(⟨['1'], none⟩, .hour), (⟨['0', '3', '0'], some []⟩, .minute)]
      [' ', '1', 'h', '\t', '0', '3', '0', '.', 'm'] :=
    @Spelled.cons ⟨['1'], none⟩ .hour _ [' '] ['h'] _ (by simp [isBlank])
      ⟨by simp [Numeral.digits, isDigit], by simp [Numeral.digits]⟩ (.head _) (by simp [htab])
      hminutes
  have hseconds : Spelled [(⟨['1', '5'], none⟩, .second), (⟨['1'], none⟩, .hour),
      (⟨['0', '3', '0'], some []⟩, .minute)]
      ['1', '5', 's', ' ', '1', 'h', '\t', '0', '3', '0', '.', 'm'] :=
    @Spelled.cons ⟨['1', '5'], none⟩ .second _ [] ['s'] _ (List.forall_mem_nil _)
      ⟨by simp [Numeral.digits, isDigit], by simp [Numeral.digits]⟩ (.head _) (by simp [hspace])
      hhours
  have hbody : Body s ['1', '5', 's', ' ', '1', 'h', '\t', '0', '3', '0', '.', 'm'] :=
    .inl (by decide +kernel)
  have hwrites : Writes s _ := ⟨List.cons_ne_nil _ _, _, hbody, hseconds⟩
  have hweighs : Weighs _ 5415 := @Weighs.cons ⟨['1', '5'], none⟩ .second 1 _ _ rfl rfl
    (@Weighs.cons ⟨['1'], none⟩ .hour 3600 _ _ rfl rfl
      (@Weighs.cons ⟨['0', '3', '0'], some []⟩ .minute 60 _ _ rfl rfl .nil))
  have hform : InSeconds 5415 (.text s) := .text s _ hwrites hweighs
  obtain ⟨d, hn, hd, hraw, htyped, hread, -, -⟩ := seconds_agree 5415 (by decide) (.text s) hform
  refine ⟨by decide, hform, d, hn, hd, htyped, ?_⟩
  have hfind : Members.find? o "slow_query_threshold" = some (.text s) := rfl
  have hslow : readOr asDuration Observability.standard.slowThreshold o "observability_config"
      "slow_query_threshold" = .ok d := by
    have hnull : Json.text s ≠ .null := by simp
    rw [readOr, readAt_of_find hfind hnull hraw]
    rfl
  have hobservability : readObservability o =
      .ok { Observability.standard with slowThreshold := d } := by
    unfold readObservability
    dsimp only
    rw [hslow]
    rfl
  obtain ⟨c, hc⟩ : ∃ c, ofMembers [("observability_config", .object o)] = .ok c := by
    show ∃ c, (readObservability o >>= fun observability => Except.ok
      (⟨"", none, none, none, observability⟩ : Config)) = .ok c
    rw [hobservability]
    exact ⟨_, rfl⟩
  have hlocation : ⟨["observability_config", "slow_query_threshold"], .duration⟩ ∈ locations := by
    simp [locations, inObservability]
  exact ⟨c, hc, (hread _ _ hlocation rfl rfl).2 c hc⟩

end

end Config

end DataAccess
