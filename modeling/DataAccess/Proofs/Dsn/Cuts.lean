import DataAccess.Dsn.Mysql
import DataAccess.Proofs.Url.ReadsBack

/-!
# Cuts

Data source names are taken apart at single characters, at the first one or at the last. A text that
is put together from parts is cut into these parts again, as long as the mark between them stands in
none that is looked through (`cutAt_mark`, `cutAtLast?_mark`, `parameters_joined`).
-/

namespace DataAccess.Dsn

open Url

variable {c : Char} {before after cs : List Char}

/-! ## The first mark and the last one -/

theorem cutAt_mark (h : c ∉ before) : cutAt c (before ++ c :: after) = (before, some after) := by
  obtain ⟨hbefore, hafter⟩ := @cut_mark _ _ after h
  rw [cutAt, hafter, hbefore]

theorem cutAt_no_mark (h : c ∉ cs) : cutAt c cs = (cs, none) := by
  rw [cutAt, (cut_no_mark h).2]

/-- Whether there is a mark or not, what comes before it is cut off. -/
theorem cutAt_fst (c : Char) (cs : List Char) : (cutAt c cs).1 = cs.takeWhile (· != c) := by
  by_cases h : c ∈ cs
  · obtain ⟨before, after, rfl, hfree⟩ := List.eq_append_cons_of_mem h
    rw [cutAt_mark hfree, (cut_mark hfree).1]
  · rw [cutAt_no_mark h, (cut_no_mark h).1]

theorem cutAt_snd_subset : ((cutAt c cs).2.getD []) ⊆ cs := by
  by_cases h : c ∈ cs
  · obtain ⟨before, after, rfl, hfree⟩ := List.eq_append_cons_of_mem h
    rw [cutAt_mark hfree]
    exact fun x hx => List.mem_append_right _ (List.mem_cons_of_mem c hx)
  · rw [cutAt_no_mark h]
    exact List.nil_subset cs

/-- The last mark is the one that has none after it. -/
theorem cutAtLast?_mark (h : c ∉ after) :
    cutAtLast? c (before ++ c :: after) = some (before, after) := by
  have hreverse : (before ++ c :: after).reverse = after.reverse ++ c :: before.reverse := by simp
  have hcut := @cutAt_mark c after.reverse before.reverse (by simpa using h)
  rw [cutAtLast?, hreverse, hcut]
  simp

theorem cutAtLast?_no_mark (h : c ∉ cs) : cutAtLast? c cs = none := by
  rw [cutAtLast?, cutAt_no_mark (by simpa using h)]

theorem cutAtLast?_eq_some (h : cutAtLast? c cs = some (before, after)) :
    cs = before ++ c :: after ∧ c ∉ after := by
  by_cases hc : c ∈ cs
  · obtain ⟨tail, lead, hcs, hfree⟩ := List.eq_append_cons_of_mem (List.mem_reverse.mpr hc)
    have hsplit : cs = lead.reverse ++ c :: tail.reverse := by
      rw [← List.reverse_reverse cs, hcs]
      simp
    have hlast : c ∉ tail.reverse := mt List.mem_reverse.mp hfree
    rw [hsplit, cutAtLast?_mark hlast] at h
    obtain ⟨rfl, rfl⟩ := Prod.mk.inj (Option.some.inj h)
    exact ⟨hsplit, hlast⟩
  · rw [cutAtLast?_no_mark hc] at h
    cases h

/-- A lead without the mark ends before the mark. -/
theorem prefix_of_append_mark {lead cs rest : List Char} {mark : Char} (hmark : mark ∉ lead)
    (h : lead <+: cs ++ mark :: rest) : lead <+: cs := by
  induction cs generalizing lead with
  | nil =>
    rcases List.prefix_cons_iff.mp h with rfl | ⟨tail, rfl, -⟩
    · exact List.nil_prefix
    · exact absurd List.mem_cons_self hmark
  | cons c cs ih =>
    rcases List.prefix_cons_iff.mp h with rfl | ⟨tail, rfl, htail⟩
    · exact List.nil_prefix
    · exact List.cons_prefix_cons.mpr ⟨rfl, ih (mt (List.mem_cons_of_mem c) hmark) htail⟩

/-! ## Parameters -/

section Joined

variable {ps qs : List (List Char)} {p : List Char}

theorem joined_cons (hps : ps ≠ []) :
    ['&'].intercalate (p :: ps) = p ++ '&' :: ['&'].intercalate ps := by
  obtain ⟨q, ps, rfl⟩ := List.exists_cons_of_ne_nil hps
  rw [List.intercalate_cons_cons, List.append_assoc, List.singleton_append]

theorem joined_append (hps : ps ≠ []) (hqs : qs ≠ []) :
    ['&'].intercalate (ps ++ qs) = ['&'].intercalate ps ++ '&' :: ['&'].intercalate qs := by
  induction ps with
  | nil => exact absurd rfl hps
  | cons p ps ih =>
    cases ps with
    | nil => rw [List.singleton_append, joined_cons hqs, List.intercalate_singleton]
    | cons q ps =>
      have hrest := ih (List.cons_ne_nil q ps)
      rw [List.cons_append, joined_cons (by simp), hrest, joined_cons (List.cons_ne_nil q ps),
        List.append_assoc, List.cons_append]

/-- What is joined stands in the text. -/
theorem infix_joined (h : p ∈ ps) : p <:+: ['&'].intercalate ps := by
  induction ps with
  | nil => cases h
  | cons q ps ih =>
    cases ps with
    | nil =>
      obtain rfl := List.mem_singleton.mp h
      exact ⟨[], [], by simp⟩
    | cons r ps =>
      rw [joined_cons (List.cons_ne_nil r ps)]
      rcases List.mem_cons.mp h with rfl | h
      · exact (List.prefix_append _ _).isInfix
      · exact (ih h).trans ((List.suffix_cons _ _).trans (List.suffix_append _ _)).isInfix

theorem mem_of_mem_joined {x : Char} (h : x ∈ ['&'].intercalate ps) :
    x = '&' ∨ ∃ p ∈ ps, x ∈ p := by
  induction ps with
  | nil => cases h
  | cons p ps ih =>
    cases ps with
    | nil => exact .inr ⟨p, List.mem_cons_self, by simpa using h⟩
    | cons q ps =>
      rw [joined_cons (List.cons_ne_nil q ps)] at h
      rcases List.mem_append.mp h with h | h
      · exact .inr ⟨p, List.mem_cons_self, h⟩
      · rcases List.mem_cons.mp h with rfl | h
        · exact .inl rfl
        · exact (ih h).imp_right fun ⟨r, hr, hx⟩ => ⟨r, List.mem_cons_of_mem p hr, hx⟩

/-- **Joined parameters are read back**, the empty ones aside. -/
theorem parameters_joined (hps : ∀ p ∈ ps, '&' ∉ p) :
    parameters (some (['&'].intercalate ps)) = ps.filter (!·.isEmpty) := by
  rw [parameters, Option.getD_some]
  cases ps with
  | nil => rfl
  | cons p ps => rw [List.splitOn_intercalate '&' hps (List.cons_ne_nil p ps)]

end Joined

theorem parameters_subset {query : Option (List Char)} {p : List Char}
    (h : p ∈ parameters query) : p ⊆ query.getD [] := by
  intro x hx
  have hjoined := infix_joined (List.mem_filter.mp h).1
  rw [List.intercalate_splitOn] at hjoined
  exact hjoined.subset hx

end DataAccess.Dsn
