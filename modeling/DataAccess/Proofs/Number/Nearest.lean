import DataAccess.Proofs.Duration.Whole

/-!
# The nearest double

How far a double is from the quotient that it stands for. With `2 ^ (53 + j)` units or more out of
reach, the nearest magnitude is at most half of `2 ^ j` units away (`nearest_within`), and it is the
quotient itself if that is a multiple of `2 ^ j` (`magnitude_nearestOrdinal_mul`).

`Binary64.Measures` says how many units a double has that is finite and not negative. On such
doubles the operations are one rounding of the exact result (`Measures.add` and its siblings), and
whole numbers up to `2 ^ 53` are not rounded at all (`ofNat_add` and its siblings). With infinity they
are closed under sums, and under products with finite factors that are not zero (`NonNegative`).
-/

namespace DataAccess.Number

variable {num den n : Nat}

/-! ### Rounding a quotient -/

/-- Two naturals that are at most `e` apart. -/
def Within (a b e : Nat) : Prop := a ≤ b + e ∧ b ≤ a + e

/-- A rounded quotient is at most half the divisor away. -/
theorem roundHalfEven_within (num : Nat) (h : 0 < den) :
    Within (2 * (roundHalfEven num den * den)) (2 * num) den := by
  have hdiv := Nat.div_add_mod' num den
  have hlt := Nat.mod_lt num h
  have hsucc : (num / den + 1) * den = num / den * den + den := Nat.succ_mul ..
  unfold roundHalfEven Within
  dsimp only
  split
  · omega
  · split
    · omega
    · split
      · omega
      · omega

/-- A quotient that is less than half away from a natural is rounded to it. -/
theorem roundHalfEven_eq (hlow : 2 * (n * den) < 2 * num + den)
    (hhigh : 2 * num < 2 * (n * den) + den) : roundHalfEven num den = n := by
  obtain ⟨hle, hge⟩ := roundHalfEven_within num (show 0 < den by omega)
  have hbelow : roundHalfEven num den * den < (n + 1) * den := by
    rw [Nat.succ_mul]
    omega
  have habove : n * den < (roundHalfEven num den + 1) * den := by
    rw [Nat.succ_mul]
    omega
  have hlt := Nat.lt_of_mul_lt_mul_right hbelow
  have hgt := Nat.lt_of_mul_lt_mul_right habove
  omega

theorem roundHalfEven_le_succ (num den : Nat) : roundHalfEven num den ≤ num / den + 1 := by
  unfold roundHalfEven
  dsimp only
  split
  · omega
  · split
    · omega
    · split
      · omega
      · omega

/-- Only the ratio counts. -/
theorem roundHalfEven_mul_mul (num den : Nat) {c : Nat} (hc : 0 < c) :
    roundHalfEven (num * c) (den * c) = roundHalfEven num den := by
  have hlt (a b : Nat) : a * c < b * c ↔ a < b := Nat.mul_lt_mul_right hc
  unfold roundHalfEven
  dsimp only
  rw [Nat.mul_div_mul_right _ _ hc, Nat.mul_mod_mul_right, ← Nat.mul_assoc]
  simp only [hlt]

/-! ### Rounding to a magnitude -/

/-- The magnitude that `r` steps of `2 ^ e` units reach. -/
theorem magnitude_steps {e r : Nat} (hr : r ≤ 2 * binade) (h : e = 0 ∨ binade ≤ r) :
    magnitude (e * binade + r) = r * 2 ^ e := by
  rcases Nat.lt_or_ge r binade with hsmall | hlarge
  · obtain rfl : e = 0 := by omega
    rw [Nat.zero_mul, Nat.zero_add, magnitude, if_pos hsmall, Nat.pow_zero, Nat.mul_one]
  · rcases Nat.lt_or_ge r (2 * binade) with hin | hend
    · have hplace : e * binade + r = (e + 1) * binade + (r - binade) := by
        rw [Nat.add_one_mul]
        omega
      rw [hplace, magnitude_eq (by omega), Nat.shiftLeft_eq, Nat.add_sub_cancel' hlarge]
    · -- The last step is the first magnitude of the next exponent.
      have hplace : e * binade + r = (e + 1 + 1) * binade + 0 := by
        rw [Nat.add_one_mul, Nat.add_one_mul]
        omega
      rw [hplace, magnitude_eq binade_pos, Nat.shiftLeft_eq, Nat.pow_succ]
      obtain rfl : r = 2 * binade := by omega
      rw [Nat.add_zero, Nat.mul_comm (2 ^ e) 2, ← Nat.mul_assoc, Nat.mul_comm binade 2]

/-- The exponent that a quotient is rounded with. -/
def exponentOf (num den : Nat) : Nat := (num / den).log2 - 52

theorem magnitude_nearestOrdinal (num den : Nat) :
    magnitude (nearestOrdinal num den) =
      roundHalfEven num (den * 2 ^ exponentOf num den) * 2 ^ exponentOf num den := by
  have hplace : nearestOrdinal num den =
      exponentOf num den * binade + roundHalfEven num (den * 2 ^ exponentOf num den) := by
    rw [nearestOrdinal, ← exponentOf, Nat.shiftLeft_eq]
  have hdiv : num / (den * 2 ^ exponentOf num den) = num / den / 2 ^ exponentOf num den :=
    (Nat.div_div_eq_div_mul ..).symm
  rw [hplace]
  refine magnitude_steps ?_ ?_
  · have hlt : num / den / 2 ^ exponentOf num den < 2 * binade := by
      rw [Nat.div_lt_iff_lt_mul (Nat.two_pow_pos _)]
      refine Nat.lt_of_lt_of_le Nat.lt_log2_self ?_
      calc 2 ^ ((num / den).log2 + 1) ≤ 2 ^ (53 + exponentOf num den) :=
            Nat.pow_le_pow_right (by decide) (by unfold exponentOf; omega)
        _ = 2 * binade * 2 ^ exponentOf num den := Nat.pow_add ..
    have hsucc := roundHalfEven_le_succ num (den * 2 ^ exponentOf num den)
    omega
  · rcases Nat.eq_zero_or_pos (exponentOf num den) with hzero | hpos
    · exact .inl hzero
    · refine .inr (Nat.le_trans ?_ (div_le_roundHalfEven ..))
      have hne : num / den ≠ 0 := by
        intro h
        rw [exponentOf, h] at hpos
        exact absurd hpos (by decide)
      rw [hdiv, Nat.le_div_iff_mul_le (Nat.two_pow_pos _)]
      calc binade * 2 ^ exponentOf num den = 2 ^ (52 + exponentOf num den) :=
            (Nat.pow_add 2 52 _).symm
        _ ≤ 2 ^ (num / den).log2 :=
          Nat.pow_le_pow_right (by decide) (by unfold exponentOf at hpos ⊢; omega)
        _ ≤ num / den := Nat.log2_self_le hne

theorem nearestOrdinal_mul_mul (num den : Nat) {c : Nat} (hc : 0 < c) :
    nearestOrdinal (num * c) (den * c) = nearestOrdinal num den := by
  have hshift (e : Nat) : (den * c) <<< e = den <<< e * c := by
    rw [Nat.shiftLeft_eq, Nat.shiftLeft_eq, Nat.mul_right_comm]
  unfold nearestOrdinal
  dsimp only
  rw [Nat.mul_div_mul_right _ _ hc, hshift, roundHalfEven_mul_mul _ _ hc]

/-- A quotient with fewer than `2 ^ (53 + j)` units is rounded in steps of at most `2 ^ j`. -/
theorem exponentOf_le {j : Nat} (h : num < den * 2 ^ (53 + j)) : exponentOf num den ≤ j := by
  have hlt : num / den < 2 ^ (53 + j) := Nat.div_lt_of_lt_mul h
  rcases Nat.eq_zero_or_pos (num / den) with hzero | hpos
  · rw [exponentOf, hzero]
    exact Nat.zero_le j
  · have hlog := (Nat.log2_lt hpos.ne').mpr hlt
    unfold exponentOf
    omega

/-- **The nearest magnitude is at most half a step away.** -/
theorem nearest_within {j : Nat} (hden : 0 < den) (h : num < den * 2 ^ (53 + j)) :
    Within (2 * (magnitude (nearestOrdinal num den) * den)) (2 * num) (den * 2 ^ j) := by
  have hstep : den * 2 ^ exponentOf num den ≤ den * 2 ^ j :=
    Nat.mul_le_mul_left den (Nat.pow_le_pow_right (by decide) (exponentOf_le h))
  obtain ⟨hle, hge⟩ := roundHalfEven_within num
    (Nat.mul_pos hden (Nat.two_pow_pos (exponentOf num den)))
  rw [magnitude_nearestOrdinal, Nat.mul_assoc, Nat.mul_comm (2 ^ _) den]
  exact ⟨by omega, by omega⟩

/-- The same in ones: below `2 ^ j` a double is at most `2 ^ (j - 54)` away. -/
theorem nearest_within_ones {j : Nat} (hden : 0 < den)
    (h : num < den * (2 ^ j * Binary64.unitsPerOne)) :
    Within (2 ^ 54 * (magnitude (nearestOrdinal num den) * den)) (2 ^ 54 * num)
      (den * (2 ^ j * Binary64.unitsPerOne)) := by
  have hone : 2 ^ j * Binary64.unitsPerOne = 2 ^ (53 + (j + 1021)) := by
    have hplace : 53 + (j + 1021) = j + 1074 := by omega
    rw [hplace, two_pow_units]
  have hstep : den * 2 ^ (53 + (j + 1021)) = 2 ^ 53 * (den * 2 ^ (j + 1021)) := by
    rw [Nat.pow_add, Nat.mul_left_comm]
  rw [hone] at h ⊢
  obtain ⟨hle, hge⟩ := nearest_within hden h
  rw [hstep]
  exact ⟨by omega, by omega⟩

/-- **A quotient of 53 bits is not rounded.** -/
theorem magnitude_nearestOrdinal_mul {m j : Nat} (hm : m < 2 ^ 53) (hden : 0 < den) :
    magnitude (nearestOrdinal (m * 2 ^ j * den) den) = m * 2 ^ j := by
  have hexponent : exponentOf (m * 2 ^ j * den) den ≤ j := by
    refine exponentOf_le ?_
    rw [Nat.mul_comm den, Nat.pow_add]
    exact Nat.mul_lt_mul_of_pos_right (Nat.mul_lt_mul_of_pos_right hm (Nat.two_pow_pos j)) hden
  rw [magnitude_nearestOrdinal]
  generalize exponentOf (m * 2 ^ j * den) den = e at hexponent
  have hpow : 2 ^ j = 2 ^ (j - e) * 2 ^ e := by
    rw [← Nat.pow_add, Nat.sub_add_cancel hexponent]
  have hnum : m * 2 ^ j * den = m * 2 ^ (j - e) * (den * 2 ^ e) := by
    rw [hpow]
    simp only [Nat.mul_assoc, Nat.mul_comm, Nat.mul_left_comm]
  rw [hnum, roundHalfEven_mul_self _ (Nat.mul_pos hden (Nat.two_pow_pos e)), hpow, Nat.mul_assoc]

/-! ### Doubles by their units -/

namespace Binary64

/-- A finite double that is not negative, with the number of its units. -/
def Measures (x : Binary64) (u : Nat) : Prop :=
  ∃ k : Fin ordinalCount, x = .finite false k ∧ magnitude k.val = u

section

variable {x y : Binary64} {a b u : Nat}

theorem Measures.unique (hx : x.Measures u) (hy : y.Measures u) : x = y := by
  obtain ⟨k, rfl, hk⟩ := hx
  obtain ⟨l, rfl, rfl⟩ := hy
  rw [Fin.ext (magnitude_strictMono.injective hk)]

theorem Measures.isFinite (h : x.Measures u) : x.isFinite = true := by
  obtain ⟨k, rfl, -⟩ := h
  rfl

/-- A magnitude below `2 ^ 1024` has an ordinal. -/
theorem lt_ordinalCount {k j : Nat} (hj : j ≤ 1024) (h : magnitude k < 2 ^ j * unitsPerOne) :
    k < ordinalCount := by
  have hplace : j + 1074 = 52 + (j + 1022) := by omega
  rw [← two_pow_units, hplace, ← magnitude_binade, magnitude_strictMono.lt_iff_lt] at h
  exact Nat.lt_of_lt_of_le h (Nat.mul_le_mul_right binade (by omega))

/-- What does not overflow is finite. -/
theorem measures_ofUnits {j : Nat} (hj : j ≤ 1024)
    (h : magnitude (nearestOrdinal num den) < 2 ^ j * unitsPerOne) :
    (ofUnits false num den).Measures (magnitude (nearestOrdinal num den)) := by
  have hlt := lt_ordinalCount hj h
  refine ⟨⟨nearestOrdinal num den, hlt⟩, ?_, rfl⟩
  rw [ofUnits, ofOrdinal, dif_pos hlt]

theorem Measures.add (hx : x.Measures a) (hy : y.Measures b) :
    x + y = ofUnits false (a + b) 1 := by
  obtain ⟨k, rfl, rfl⟩ := hx
  obtain ⟨l, rfl, rfl⟩ := hy
  show add (finite false k) (finite false l) = _
  rw [add]
  exact if_pos rfl

theorem Measures.mul (hx : x.Measures a) (hy : y.Measures b) :
    x * y = ofUnits false (a * b) unitsPerOne := by
  obtain ⟨k, rfl, rfl⟩ := hx
  obtain ⟨l, rfl, rfl⟩ := hy
  show mul (finite false k) (finite false l) = _
  rw [mul, bne_self_eq_false]

theorem Measures.div (hx : x.Measures a) (hy : y.Measures b) (hb : 0 < b) :
    x / y = ofUnits false (a * unitsPerOne) b := by
  obtain ⟨k, rfl, rfl⟩ := hx
  obtain ⟨l, rfl, rfl⟩ := hy
  have hl : ¬ (l.val == 0) = true := by
    intro h
    rw [beq_iff_eq.mp h] at hb
    exact Nat.lt_irrefl 0 hb
  show div (finite false k) (finite false l) = _
  rw [div, if_neg hl, bne_self_eq_false]

end

/-! ### Whole numbers -/

/-- Up to `2 ^ 53` a whole number has no more than 53 bits, apart from zeros at its end. -/
theorem exists_bits {n : Nat} (h : n ≤ 2 ^ 53) : ∃ m i, m < 2 ^ 53 ∧ n = m * 2 ^ i := by
  rcases Nat.lt_or_eq_of_le h with hlt | rfl
  · exact ⟨n, 0, hlt, (Nat.mul_one n).symm⟩
  · exact ⟨1, 53, Nat.one_lt_two_pow (by decide), (Nat.one_mul _).symm⟩

/-- A quotient that is such a number is not rounded. -/
theorem measures_ofUnits_whole {n den : Nat} (h : n ≤ 2 ^ 53) (hden : 0 < den) :
    (ofUnits false (n * unitsPerOne * den) den).Measures (n * unitsPerOne) := by
  have hfits : n * unitsPerOne < 2 ^ 54 * unitsPerOne :=
    Nat.mul_lt_mul_of_pos_right (by omega) unitsPerOne_pos
  have hunits : magnitude (nearestOrdinal (n * unitsPerOne * den) den) = n * unitsPerOne := by
    obtain ⟨m, i, hm, rfl⟩ := exists_bits h
    rw [Nat.mul_assoc m, ← two_pow_units]
    exact magnitude_nearestOrdinal_mul hm hden
  rw [← hunits] at hfits
  have hmeasures := measures_ofUnits (by decide) hfits
  rwa [hunits] at hmeasures

/-- A whole number of 53 bits is its own double. -/
theorem measures_ofNat {n : Nat} (h : n ≤ 2 ^ 53) : (ofNat n).Measures (n * unitsPerOne) := by
  have hwhole := measures_ofUnits_whole h Nat.one_pos
  rwa [Nat.mul_one] at hwhole

/-- The sum of whole numbers is exact. -/
theorem ofNat_add {a b : Nat} (h : a + b ≤ 2 ^ 53) : ofNat a + ofNat b = ofNat (a + b) := by
  rw [(measures_ofNat (by omega)).add (measures_ofNat (by omega)), ← Nat.add_mul]
  rfl

/-- The product of whole numbers is exact. -/
theorem ofNat_mul {a b : Nat} (ha : a ≤ 2 ^ 53) (hb : b ≤ 2 ^ 53) (h : a * b ≤ 2 ^ 53) :
    ofNat a * ofNat b = ofNat (a * b) := by
  have hunits : a * unitsPerOne * (b * unitsPerOne) = a * b * unitsPerOne * unitsPerOne := by
    simp only [Nat.mul_assoc, Nat.mul_left_comm]
  rw [(measures_ofNat ha).mul (measures_ofNat hb), hunits]
  exact (measures_ofUnits_whole h unitsPerOne_pos).unique (measures_ofNat h)

/-- The quotient of whole numbers is rounded once. -/
theorem ofNat_div {a b : Nat} (ha : a ≤ 2 ^ 53) (hb : b ≤ 2 ^ 53) (hpos : 0 < b) :
    ofNat a / ofNat b = ofRatio false a b := by
  rw [(measures_ofNat ha).div (measures_ofNat hb) (Nat.mul_pos hpos unitsPerOne_pos), ofRatio,
    ofUnits, ofUnits, nearestOrdinal_mul_mul _ _ unitsPerOne_pos]

/-! ### Doubles that are not negative -/

/-- A double that is not below zero; negative zero does not count. -/
def NonNegative (x : Binary64) : Prop := x = .infinity false ∨ ∃ k, x = .finite false k

theorem nonNegative_ofOrdinal (k : Nat) : (ofOrdinal false k).NonNegative := by
  unfold ofOrdinal
  split
  · exact .inr ⟨_, rfl⟩
  · exact .inl rfl

theorem nonNegative_ofNat (n : Nat) : (ofNat n).NonNegative := by
  rw [ofNat, ofRatio, ofUnits]
  exact nonNegative_ofOrdinal _

theorem nonNegative_ofDecimal (digits : Nat) (exponent : Int) :
    (ofDecimal ⟨false, digits, exponent⟩).NonNegative := by
  unfold ofDecimal
  dsimp only
  split
  · exact nonNegative_ofOrdinal _
  · split
    · exact .inl rfl
    · split
      · exact nonNegative_ofOrdinal _
      · exact nonNegative_ofOrdinal _

section

variable {x y : Binary64}

theorem NonNegative.add (hx : x.NonNegative) (hy : y.NonNegative) : (x + y).NonNegative := by
  rcases hx with rfl | ⟨k, rfl⟩
  · rcases hy with rfl | ⟨l, rfl⟩
    · exact .inl rfl
    · exact .inl rfl
  · rcases hy with rfl | ⟨l, rfl⟩
    · exact .inl rfl
    · rw [Measures.add ⟨k, rfl, rfl⟩ ⟨l, rfl, rfl⟩]
      exact nonNegative_ofOrdinal _

/-- A product with infinity is a number if the factor is not zero. -/
theorem NonNegative.mul (hx : x.NonNegative) {l : Fin ordinalCount} (hl : l.val ≠ 0) :
    (x * .finite false l).NonNegative := by
  rcases hx with rfl | ⟨k, rfl⟩
  · refine .inl ?_
    show mul (.infinity false) (.finite false l) = _
    rw [mul, if_neg (by simpa using hl), bne_self_eq_false]
  · rw [Measures.mul ⟨k, rfl, rfl⟩ ⟨l, rfl, rfl⟩]
    exact nonNegative_ofOrdinal _

theorem exists_of_pos (hfinite : x.isFinite = true) (hpos : lt zero x = true) :
    ∃ k, x = .finite false k ∧ k.val ≠ 0 := by
  have hzero : zero = .finite false ⟨0, by decide⟩ := by decide +kernel
  rw [hzero] at hpos
  cases x with
  | nan => cases hfinite
  | infinity s => cases hfinite
  | finite s k =>
    cases s with
    | true => simp [lt, le] at hpos
    | false =>
      refine ⟨k, rfl, ?_⟩
      intro hk
      simp [lt, le, hk] at hpos

end

end Binary64

end DataAccess.Number
