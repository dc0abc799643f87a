import DataAccess.Proofs.Config.Reading

/-!
# Keys that do not count

A reader looks at its locations only, and into an object only where a section belongs. So two trees
that `Agree` there are read alike, whatever their other keys hold (`ofMembers_congr`).
-/

namespace DataAccess.Config

open Number Json

variable {α : Type} {root root' : Json} {p : List String} {ms ms' : Members} {key : String}

/-- Two trees hold the same at some locations, apart from what is inside objects. -/
def Agree (ls : List Location) (root root' : Json) : Prop :=
  ∀ l ∈ ls, (root.at? l.path).map outline = (root'.at? l.path).map outline

theorem outline_eq_null_iff {v : Json} : v.outline = .null ↔ v = .null := by
  cases v <;> simp [outline]

/-- What is present has the same outline. -/
theorem present?_outline (h : (ms.find? key).map outline = (ms'.find? key).map outline) :
    (ms.present? key).map outline = (ms'.present? key).map outline := by
  cases hv : ms.present? key with
  | none =>
    have hv' : ms'.present? key = none := by
      rw [Members.present?_eq_none] at hv ⊢
      rcases hv with hv | hv
      · rw [hv] at h
        exact .inl (Option.map_eq_none_iff.mp h.symm)
      · rw [hv] at h
        obtain ⟨w, hw, hnull⟩ := Option.map_eq_some_iff.mp h.symm
        rw [outline_eq_null_iff.mp hnull] at hw
        exact .inr hw
    rw [hv']
  | some v =>
    obtain ⟨hfind, hnull⟩ := Members.present?_eq_some.mp hv
    rw [hfind] at h
    obtain ⟨w, hw, hvw⟩ := Option.map_eq_some_iff.mp h.symm
    have hv' : ms'.present? key = some w := by
      refine Members.present?_eq_some.mpr ⟨hw, ?_⟩
      rintro rfl
      exact hnull (outline_eq_null_iff.mp hvw.symm)
    rw [hv', Option.map_some, Option.map_some, hvw]

theorem readAt_congr {decode : Json → Except Fault α} (hdecode : ∀ v, decode v.outline = decode v)
    (h : (ms.find? key).map outline = (ms'.find? key).map outline) (path : String) :
    readAt decode ms path key = readAt decode ms' path key := by
  have hpresent := present?_outline h
  unfold readAt
  cases hv : ms.present? key with
  | none =>
    rw [hv] at hpresent
    rw [Option.map_eq_none_iff.mp hpresent.symm]
  | some v =>
    rw [hv] at hpresent
    obtain ⟨w, hw, hvw⟩ := Option.map_eq_some_iff.mp hpresent.symm
    rw [hw]
    dsimp only
    rw [← hdecode v, ← hdecode w, hvw]

theorem find?_of_readAt_section {named : String} {sect : Members}
    (h : readAt asSection ms named key = .ok (some sect)) :
    Members.find? ms key = some (.object sect) := by
  unfold readAt at h
  split at h
  · cases h
  · next v hv =>
    obtain ⟨hfind, -⟩ := Members.present?_eq_some.mp hv
    split at h
    · next a ha =>
      cases h
      cases asSection_eq_ok_iff.mp ha
      exact hfind
    · cases h

/-- A section is found in both places, or the two are read alike. -/
theorem readAt_section_congr (named : String)
    (h : (Members.find? ms key).map outline = (Members.find? ms' key).map outline) :
    (∃ s s', readAt asSection ms named key = .ok (some s) ∧
      readAt asSection ms' named key = .ok (some s')) ∨
    readAt asSection ms named key = readAt asSection ms' named key := by
  -- Without its members a section is read like anything else.
  have hmap : ∀ ms, readAt (fun v => (asSection v).map fun _ => ()) ms named key =
      (readAt asSection ms named key).map (Option.map fun _ => ()) := by
    intro ms
    unfold readAt
    cases ms.present? key with
    | none => rfl
    | some v => cases v <;> rfl
  have hcongr : readAt (fun v => (asSection v).map fun _ => ()) ms named key =
      readAt (fun v => (asSection v).map fun _ => ()) ms' named key :=
    readAt_congr (fun v => by cases v <;> rfl) h named
  rw [hmap, hmap] at hcongr
  cases hr : readAt asSection ms named key with
  | error e =>
    rw [hr] at hcongr
    cases hr' : readAt asSection ms' named key with
    | error e' =>
      rw [hr'] at hcongr
      cases hcongr
      exact .inr rfl
    | ok o =>
      rw [hr'] at hcongr
      cases hcongr
  | ok o =>
    rw [hr] at hcongr
    cases hr' : readAt asSection ms' named key with
    | error e' =>
      rw [hr'] at hcongr
      cases hcongr
    | ok o' =>
      rw [hr'] at hcongr
      cases o <;> cases o' <;> cases hcongr
      · exact .inr rfl
      · exact .inl ⟨_, _, rfl, rfl⟩

/-! ### Readers -/

theorem ok_bind {β : Type} (a : α) (f : α → Except Error β) : (Except.ok a >>= f) = f a := rfl

theorem readOr_congr {decode : Json → Except Fault α} (hdecode : ∀ v, decode v.outline = decode v)
    {s : List Location} {l : Location} (hl : l ∈ s) (hkey : l.path = p ++ [key])
    (hagree : Agree s root root') (h : root.at? p = some (.object ms))
    (h' : root'.at? p = some (.object ms')) (default : α) (named : String) :
    readOr decode default ms named key = readOr decode default ms' named key := by
  have hl := hagree l hl
  rw [hkey, at?_append_key h, at?_append_key h'] at hl
  unfold readOr
  rw [readAt_congr hdecode hl]

theorem asText_outline (v : Json) : asText v.outline = asText v := by cases v <;> rfl

theorem asBool_outline (v : Json) : asBool v.outline = asBool v := by cases v <;> rfl

theorem asNumber_outline (v : Json) : asNumber v.outline = asNumber v := by cases v <;> rfl

theorem asCount_outline (v : Json) : asCount v.outline = asCount v := by cases v <;> rfl

theorem asDuration_outline (v : Json) : asDuration v.outline = asDuration v := by cases v <;> rfl

theorem readPool_congr (hagree : Agree (poolLocations p) root root')
    (h : root.at? p = some (.object ms)) (h' : root'.at? p = some (.object ms'))
    (defaults : Pool) (named : String) :
    readPool defaults named ms = readPool defaults named ms' := by
  have hcount : ∀ key default, ⟨p ++ [key], .count⟩ ∈ poolLocations p →
      readOr asCount default ms named key = readOr asCount default ms' named key :=
    fun key default hl => readOr_congr asCount_outline hl rfl hagree h h' default named
  have hduration : ∀ key default, ⟨p ++ [key], .duration⟩ ∈ poolLocations p →
      readOr asDuration default ms named key = readOr asDuration default ms' named key :=
    fun key default hl => readOr_congr asDuration_outline hl rfl hagree h h' default named
  unfold readPool
  rw [hcount _ _ (by simp [poolLocations]), hcount _ _ (by simp [poolLocations]),
    hduration _ _ (by simp [poolLocations]), hduration _ _ (by simp [poolLocations]),
    hduration _ _ (by simp [poolLocations])]

theorem readSection_congr (driver : Driver) (hagree : Agree (inSection key) root root')
    (h : root.at? [key] = some (.object ms)) (h' : root'.at? [key] = some (.object ms'))
    (named : String) : readSection driver named ms = readSection driver named ms' := by
  have hdsn : readOr asText "" ms named "dsn" = readOr asText "" ms' named "dsn" :=
    readOr_congr asText_outline (.head _) rfl hagree h h' "" named
  have hpool := hagree ⟨[key] ++ ["pool_config"], .section⟩ (by simp [inSection])
  rw [at?_append_key h, at?_append_key h'] at hpool
  unfold readSection
  rw [hdsn]
  rcases readAt_section_congr named hpool with ⟨p, p', hp, hp'⟩ | hsame
  · have hat : root.at? [key, "pool_config"] = some (.object p) :=
      (at?_append_key h _).trans (find?_of_readAt_section hp)
    have hat' : root'.at? [key, "pool_config"] = some (.object p') :=
      (at?_append_key h' _).trans (find?_of_readAt_section hp')
    have hread := readPool_congr (fun l hl => hagree l (.tail _ (.tail _ hl))) hat hat'
      driver.defaultPool (join named "pool_config")
    simp only [hp, hp', ok_bind, hread]
  · rw [← hsame]

theorem readDriver_congr {driver : Driver} (hkey : driver.sectionKey? = some key)
    (hagree : Agree (⟨[key], .section⟩ :: inSection key) (.object ms) (.object ms')) :
    readDriver driver ms = readDriver driver ms' := by
  have hroot : ∀ ms, (Json.object ms).at? [key] = Members.find? ms key :=
    fun ms => at?_append_key (p := []) rfl key
  have hsect := hagree _ (.head _)
  rw [hroot, hroot] at hsect
  unfold readDriver
  rw [hkey]
  dsimp only
  rcases readAt_section_congr "" hsect with ⟨p, p', hp, hp'⟩ | hsame
  · have hread := readSection_congr driver (fun l hl => hagree l (.tail _ hl))
      ((hroot ms).trans (find?_of_readAt_section hp))
      ((hroot ms').trans (find?_of_readAt_section hp')) key
    simp only [hp, hp', ok_bind, hread]
  · rw [← hsame]

theorem readObservability_congr (hagree : Agree inObservability root root')
    (h : root.at? ["observability_config"] = some (.object ms))
    (h' : root'.at? ["observability_config"] = some (.object ms')) :
    readObservability ms = readObservability ms' := by
  unfold readObservability
  dsimp only
  rw [readOr_congr asDuration_outline (.head _) rfl hagree h h',
    readOr_congr asBool_outline (.tail _ (.head _)) rfl hagree h h',
    readOr_congr asNumber_outline (.tail _ (.tail _ (.head _))) rfl hagree h h']

/-- Configurations that agree at all locations are read alike. -/
theorem ofMembers_congr (hagree : Agree locations (.object ms) (.object ms')) :
    ofMembers ms = ofMembers ms' := by
  have hroot : ∀ ms key, (Json.object ms).at? [key] = Members.find? ms key :=
    fun ms => at?_append_key (p := []) rfl
  have hdriver : readOr asText "" ms "" "driver" = readOr asText "" ms' "" "driver" :=
    readOr_congr (p := []) asText_outline (.head _) rfl hagree rfl rfl "" ""
  have hsections : ∀ key ∈ ["sqlite_config", "mysql_config", "postgresql_config"],
      Agree (⟨[key], .section⟩ :: inSection key) (.object ms) (.object ms') := by
    intro key hkey l hl
    exact hagree l (List.mem_append_right _ (List.mem_flatMap.mpr ⟨key, hkey, hl⟩))
  have hsqlite : readDriver .sqlite ms = readDriver .sqlite ms' :=
    readDriver_congr rfl (hsections _ (.head _))
  have hmysql : readDriver .mysql ms = readDriver .mysql ms' :=
    readDriver_congr rfl (hsections _ (.tail _ (.head _)))
  have hpostgresql : readDriver .postgresql ms = readDriver .postgresql ms' :=
    readDriver_congr rfl (hsections _ (.tail _ (.tail _ (.head _))))
  have hsect := hagree ⟨["observability_config"], .section⟩ (.tail _ (.head _))
  rw [hroot, hroot] at hsect
  unfold ofMembers
  rw [hdriver, hsqlite, hmysql, hpostgresql]
  rcases readAt_section_congr "" hsect with ⟨p, p', hp, hp'⟩ | hsame
  · have hread := readObservability_congr
      (fun l hl => hagree l (List.mem_append_left _ (.tail _ (.tail _ hl))))
      ((hroot ms _).trans (find?_of_readAt_section hp))
      ((hroot ms' _).trans (find?_of_readAt_section hp'))
    simp only [hp, hp', ok_bind, hread]
  · rw [← hsame]

end DataAccess.Config
