import DataAccess.Url.Path
import DataAccess.Proofs.Url.Percent

/-!
# Paths read back

A path that was read has no dot segments any more and all its segments in encoded form
(`normal_ofText`), so that reading what is written of it changes nothing (`ofText_text`).
-/

namespace DataAccess.Url.Path

open Number Percent

/-- A segment that reading a path leaves as it is. -/
structure IsPlain (s : List Char) : Prop where
  encoded : Encoded inPath s
  slash : '/' ∉ s
  here : isHere s = false
  above : isAbove s = false

/-- A path that reading leaves as it is. -/
def Normal (p : Path) : Prop := ∀ s ∈ p, IsPlain s

theorem isPlain_nil : IsPlain [] := ⟨nofun, nofun, rfl, rfl⟩

/-! ## Walking -/

theorem climb_subset (before : List (List Char)) : climb before ⊆ before := by
  unfold climb
  split
  · exact List.Subset.refl _
  · split
    · exact List.Subset.refl _
    · exact List.subset_cons_self _ _

/-- A walk keeps the segments that are not dots, and may end with an empty one. -/
theorem forall_mem_walk {P : List Char → Prop} (hnil : P []) {before segments : List (List Char)}
    (hbefore : ∀ s ∈ before, P s)
    (hsegments : ∀ s ∈ segments, isHere s = false → isAbove s = false → P s) :
    ∀ s ∈ walk before segments, P s := by
  fun_induction walk before segments with
  | case1 before => exact hbefore
  | case2 before last _ =>
    exact List.forall_mem_cons.mpr ⟨hnil, fun s hs => hbefore s (climb_subset before hs)⟩
  | case3 before last _ _ => exact List.forall_mem_cons.mpr ⟨hnil, hbefore⟩
  | case4 before last habove hhere =>
    have hlast : P last := by simp_all
    exact List.forall_mem_cons.mpr ⟨hlast, hbefore⟩
  | case5 before s rest _ _ ih =>
    exact ih (fun s hs => hbefore s (climb_subset before hs)) (List.forall_mem_cons.mp hsegments).2
  | case6 before s rest _ _ _ ih => exact ih hbefore (List.forall_mem_cons.mp hsegments).2
  | case7 before s rest _ habove hhere ih =>
    have hs : P s := by simp_all
    exact ih (List.forall_mem_cons.mpr ⟨hs, hbefore⟩) (List.forall_mem_cons.mp hsegments).2

/-- Without dots a walk passes every segment. -/
theorem walk_of_normal {p : Path} (hp : Normal p) (before : List (List Char)) :
    walk before p = p.reverse ++ before := by
  induction p generalizing before with
  | nil => simp [walk]
  | cons s rest ih =>
    obtain ⟨hs, hrest⟩ := List.forall_mem_cons.mp hp
    cases rest with
    | nil => simp [walk, hs.here, hs.above]
    | cons t rest => simp [walk, hs.here, hs.above, ih hrest]

/-! ## Reading -/

theorem not_mem_of_mem_splitOn {x : Char} {cs l : List Char} (h : l ∈ cs.splitOn x) : x ∉ l := by
  induction cs generalizing l with
  | nil => simp_all [List.splitOn]
  | cons c cs ih =>
    rw [List.splitOn, List.splitOnP_cons_eq_if_modifyHead] at h
    split at h
    · rcases List.mem_cons.mp h with rfl | h
      · exact List.not_mem_nil
      · exact ih h
    · next hne =>
      have hne : c ≠ x := by simpa using hne
      change l ∈ (cs.splitOn x).modifyHead (List.cons c) at h
      cases hsplit : cs.splitOn x with
      | nil => simp [hsplit] at h
      | cons first others =>
        rw [hsplit] at h ih
        rcases List.mem_cons.mp h with rfl | h
        · exact List.not_mem_cons_of_ne_of_not_mem hne.symm (ih List.mem_cons_self)
        · exact ih (List.mem_cons_of_mem first h)

/-- A slash between segments is never written as a code, nor is a code written with one. -/
theorem slash_not_mem_encode {cs : List Char} (h : '/' ∉ cs) : '/' ∉ encode inPath cs := by
  have hset : LeavesCodes fun c => inPath c || c == '/' :=
    leavesCodes_of_ascii (by decide) (by decide)
  have hother : ∀ c ∈ cs, (c == '/') = false := fun c hc =>
    beq_eq_false_iff_ne.mpr (ne_of_mem_of_not_mem hc h)
  exact (encoded_encode_or hset hother).not_mem rfl

theorem normal_ofText (cs : List Char) : Normal (ofText cs) := by
  have hplain : ∀ s ∈ ((cs.filter (!isPassedOver ·)).splitOn '/').map (encode inPath),
      isHere s = false → isAbove s = false → IsPlain s := by
    intro s hs hhere habove
    obtain ⟨l, hl, rfl⟩ := List.mem_map.mp hs
    exact ⟨encoded_encode leavesCodes_inPath l,
      slash_not_mem_encode (not_mem_of_mem_splitOn hl), hhere, habove⟩
  intro s hs
  unfold ofText at hs
  dsimp only at hs
  split at hs
  · cases hs
  · exact forall_mem_walk isPlain_nil (List.forall_mem_nil _)
      (fun t ht => hplain t (List.mem_of_mem_drop ht)) s (List.mem_reverse.mp hs)
  · exact forall_mem_walk isPlain_nil (List.forall_mem_nil _) hplain s (List.mem_reverse.mp hs)

/-! ## Reading back -/

theorem intercalate_text (p : Path) : ['/'].intercalate ([] :: p) = p.text := by
  have hfirst : ∀ s : List Char, ['/'].intercalate (s :: p) = s ++ p.text := by
    induction p with
    | nil => simp [text]
    | cons t rest ih =>
      intro s
      rw [List.intercalate_cons_cons, ih]
      simp [text]
  simpa using hfirst []

theorem splitOn_text (p : Path) (hp : Normal p) : p.text.splitOn '/' = [] :: p := by
  have hfree : ∀ s ∈ [] :: p, '/' ∉ s :=
    List.forall_mem_cons.mpr ⟨List.not_mem_nil, fun s hs => (hp s hs).slash⟩
  have hsplit := List.splitOn_intercalate '/' hfree (List.cons_ne_nil _ _)
  rwa [intercalate_text] at hsplit

theorem mem_text {p : Path} (hp : Normal p) {c : Char} (h : c ∈ p.text) :
    c = '/' ∨ (inPath c = false ∧ c.toNat < 128) := by
  obtain ⟨s, hs, hc⟩ := List.mem_flatMap.mp h
  rcases List.mem_cons.mp hc with rfl | hc
  · exact .inl rfl
  · exact .inr ((hp s hs).encoded c hc)

theorem inPath_of_isPassedOver {c : Char} (h : isPassedOver c = true) : inPath c = true := by
  simp only [isPassedOver, Bool.or_eq_true, beq_iff_eq] at h
  rcases h with (rfl | rfl) | rfl <;> rfl

/-- **A path reads back.** -/
theorem ofText_text {p : Path} (hp : Normal p) : ofText p.text = p := by
  cases p with
  | nil => rfl
  | cons s rest =>
    have hkept : (text (s :: rest)).filter (!isPassedOver ·) = text (s :: rest) := by
      refine List.filter_eq_self.mpr fun c hc => ?_
      rcases mem_text hp hc with rfl | ⟨hc, -⟩
      · rfl
      · simpa using mt inPath_of_isPassedOver (by simp [hc])
    have hsame : (s :: rest).map (encode inPath) = s :: rest :=
      (List.map_congr_left fun t ht => encode_of_encoded (hp t ht).encoded).trans (List.map_id _)
    have hread : ofText (text (s :: rest)) =
        (walk [] (((text (s :: rest)).splitOn '/').map (encode inPath) |>.drop 1)).reverse := by
      simp only [ofText, hkept]
      rfl
    rw [hread, splitOn_text _ hp, List.map_cons, List.drop_one, List.tail_cons, hsame,
      walk_of_normal hp, List.append_nil, List.reverse_reverse]

end DataAccess.Url.Path
