import DataAccess.Duration.Seconds
import DataAccess.Proofs.Number.Order

/-!
# Whole numbers of seconds

An integer that is negative or does not fit in a word is no duration, not even as the double that is
nearest to it: rounding to a double does not bring it back below `2 ^ 64`
(`Duration.ofSeconds_ofInt_eq_error`).
-/

namespace DataAccess

namespace Number

theorem div_le_roundHalfEven (num den : Nat) : num / den ≤ roundHalfEven num den := by
  unfold roundHalfEven
  dsimp only
  split
  · exact Nat.le_refl _
  · split
    · exact Nat.le_succ _
    · split
      · exact Nat.le_refl _
      · exact Nat.le_succ _

/-- From `2 ^ (52 + k)` units on, ordinals are in the binade `k + 1` or beyond. -/
theorem le_nearestOrdinal {num j k : Nat} (hj : 52 + k ≤ j) (h : 2 ^ j ≤ num) :
    (k + 1) * binade ≤ nearestOrdinal num 1 := by
  have hnum : num ≠ 0 := (Nat.lt_of_lt_of_le (Nat.two_pow_pos _) h).ne'
  have hlog : j ≤ num.log2 := (Nat.le_log2 hnum).mpr h
  obtain ⟨e, he⟩ : ∃ e, num.log2 = 52 + e := ⟨num.log2 - 52, by omega⟩
  have hpow : binade * 2 ^ e ≤ num := by
    have hself := Nat.log2_self_le hnum
    rw [he, Nat.pow_add] at hself
    exact hself
  have hround : binade ≤ roundHalfEven num (1 <<< e) := by
    refine Nat.le_trans ?_ (div_le_roundHalfEven num (1 <<< e))
    rw [Nat.one_shiftLeft, Nat.le_div_iff_mul_le (Nat.two_pow_pos e)]
    exact hpow
  have hle : k * binade ≤ e * binade := Nat.mul_le_mul_right binade (by omega)
  rw [nearestOrdinal, Nat.div_one, he, Nat.add_sub_cancel_left, Nat.add_one_mul]
  exact Nat.add_le_add hle hround

/-- The first magnitude of a binade. -/
theorem magnitude_binade (k : Nat) : magnitude ((k + 1) * binade) = 2 ^ (52 + k) := by
  have h := magnitude_eq (q := k) binade_pos
  rw [Nat.add_zero, Nat.add_zero, Nat.shiftLeft_eq] at h
  rw [h, Nat.pow_add]

theorem two_pow_units (j : Nat) : 2 ^ (j + 1074) = 2 ^ j * Binary64.unitsPerOne := by
  rw [Nat.pow_add, ← Nat.one_shiftLeft 1074]

theorem two_pow_le_units {n j : Nat} (h : 2 ^ j ≤ n) :
    2 ^ (j + 1074) ≤ n * Binary64.unitsPerOne := by
  rw [two_pow_units]
  exact Nat.mul_le_mul_right _ h

end Number

namespace Duration

open Number

theorem ofSeconds_of_negative {k : Fin ordinalCount} (h : 0 < k.val) :
    ofSeconds (.finite true k) = .error (.negativeSeconds (.finite true k)) := by
  refine if_pos ?_
  rw [Bool.true_and]
  exact bne_iff_ne.mpr h.ne'

theorem ofSeconds_of_large {k : Fin ordinalCount}
    (h : UInt64.size * Binary64.unitsPerOne ≤ magnitude k.val) :
    ofSeconds (.finite false k) = .error (.overflow (.finite false k)) := by
  have hnanos : ¬ roundHalfEven (magnitude k.val * 1_000_000_000) Binary64.unitsPerOne /
      1_000_000_000 < UInt64.size := by
    refine Nat.not_lt.mpr ((Nat.le_div_iff_mul_le (by decide)).mpr ?_)
    refine Nat.le_trans ?_ (div_le_roundHalfEven _ _)
    rw [Nat.le_div_iff_mul_le Binary64.unitsPerOne_pos, Nat.mul_right_comm]
    exact Nat.mul_le_mul_right _ h
  unfold ofSeconds
  dsimp only
  rw [Bool.false_and, if_neg Bool.false_ne_true]
  exact dif_neg hnanos

/-- An integer that does not fit in a word without a sign is no number of seconds. -/
theorem ofSeconds_ofInt_eq_error {i : Int} (h : i < 0 ∨ (UInt64.size : Int) ≤ i) :
    ∃ e, ofSeconds (.ofInt i) = .error e := by
  unfold Binary64.ofInt Binary64.ofRatio Binary64.ofUnits Binary64.ofOrdinal
  rcases h with hneg | hlarge
  · -- The double is not zero, so its sign counts.
    have habs : 2 ^ 0 ≤ i.natAbs := by omega
    have hord := le_nearestOrdinal (k := 1022) (by decide) (two_pow_le_units habs)
    rw [decide_eq_true hneg]
    split
    · exact ⟨_, ofSeconds_of_negative (Nat.lt_of_lt_of_le (by decide) hord)⟩
    · exact ⟨_, rfl⟩
  · have hneg : ¬ i < 0 := Int.not_lt.mpr (Int.le_trans (Int.natCast_nonneg _) hlarge)
    have habs : 2 ^ 64 ≤ i.natAbs := by
      have hsize : UInt64.size = 2 ^ 64 := rfl
      omega
    have hord := le_nearestOrdinal (k := 1086) (by decide) (two_pow_le_units habs)
    rw [decide_eq_false hneg]
    split
    · have hmag := magnitude_strictMono.monotone hord
      rw [magnitude_binade, show 52 + 1086 = 64 + 1074 from rfl, two_pow_units] at hmag
      exact ⟨_, ofSeconds_of_large hmag⟩
    · exact ⟨_, rfl⟩

end Duration

end DataAccess
