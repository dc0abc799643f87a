import DataAccess.Proofs.Config.RoundTrip
import DataAccess.Proofs.Number.Nearest

/-!
# Durations that read back

A duration is written as its seconds in double precision, which is exact for whole seconds only. With
a fraction it is rounded twice on the way out and once on the way back. Below `2 ^ 23` seconds what
the first two roundings add up to (`toSeconds_near`) is less than half a nanosecond, so that the last
one undoes it (`ofSeconds_near`), and the duration reads back (`typed_toJson`).
-/

namespace DataAccess.Duration

open Number Binary64

variable {d : Duration}

/-- What is less than half a nanosecond away from a duration is read as that duration. -/
theorem ofSeconds_near {x : Binary64} {u : Nat} (hx : x.Measures u)
    (hlow : 2 * (d.inNanos * unitsPerOne) < 2 * (u * 1_000_000_000) + unitsPerOne)
    (hhigh : 2 * (u * 1_000_000_000) < 2 * (d.inNanos * unitsPerOne) + unitsPerOne) :
    ofSeconds x = .ok d := by
  obtain ⟨k, rfl, rfl⟩ := hx
  have hnanos := roundHalfEven_eq hlow hhigh
  obtain ⟨seconds, nanos, hseconds, hlt⟩ := d
  have hdiv : (seconds * 1_000_000_000 + nanos) / 1_000_000_000 = seconds := by omega
  have hmod : (seconds * 1_000_000_000 + nanos) % 1_000_000_000 = nanos := by omega
  unfold ofSeconds
  simp only [Bool.false_and, Bool.false_eq_true, if_false, hnanos, inNanos, hdiv, hmod, hseconds,
    dite_true]

/-- The nanoseconds in seconds, rounded once. -/
theorem fraction_near (d : Duration) : ∃ f, (ofRatio false d.nanos 1_000_000_000).Measures f ∧
    Within (2 ^ 54 * (f * 1_000_000_000)) (2 ^ 54 * (d.nanos * unitsPerOne))
      (1_000_000_000 * unitsPerOne) := by
  have hlt := d.nanos_lt
  have hpos := unitsPerOne_pos
  have hbelow : d.nanos * unitsPerOne < 1_000_000_000 * (2 ^ 0 * unitsPerOne) := by
    rw [Nat.pow_zero, Nat.one_mul]
    exact Nat.mul_lt_mul_of_pos_right hlt hpos
  have hnear := nearest_within_ones (by decide) hbelow
  rw [Nat.pow_zero, Nat.one_mul] at hbelow hnear
  refine ⟨_, measures_ofUnits (j := 1) (by decide) ?_, hnear⟩
  obtain ⟨hle, -⟩ := hnear
  generalize unitsPerOne = one at *
  omega

/-- **The seconds of a duration in double precision** are less than half a nanosecond away from it,
below `2 ^ 23` seconds. -/
theorem toSeconds_near (h : d.seconds < 2 ^ 23) : ∃ u, d.toSeconds.Measures u ∧
    2 * (d.inNanos * unitsPerOne) < 2 * (u * 1_000_000_000) + unitsPerOne ∧
    2 * (u * 1_000_000_000) < 2 * (d.inNanos * unitsPerOne) + unitsPerOne := by
  have hlt := d.nanos_lt
  obtain ⟨f, hf, hfle, hfge⟩ := fraction_near d
  have hquotient : ofNat d.nanos / ofNat 1_000_000_000 = ofRatio false d.nanos 1_000_000_000 :=
    ofNat_div (by omega) (by decide) (by decide)
  have hsum : d.toSeconds = ofUnits false (d.seconds * unitsPerOne + f) 1 := by
    rw [toSeconds, hquotient]
    exact (measures_ofNat (by omega)).add hf
  have hseconds : d.seconds * unitsPerOne + unitsPerOne ≤ 2 ^ 23 * unitsPerOne := by
    rw [← Nat.succ_mul]
    exact Nat.mul_le_mul_right _ h
  have hnanos : d.nanos * unitsPerOne + unitsPerOne ≤ 1_000_000_000 * unitsPerOne := by
    rw [← Nat.succ_mul]
    exact Nat.mul_le_mul_right _ hlt
  have hpos := unitsPerOne_pos
  have hbelow : d.seconds * unitsPerOne + f < 1 * (2 ^ 23 * unitsPerOne) := by
    generalize unitsPerOne = one at *
    omega
  have hnear := nearest_within_ones Nat.one_pos hbelow
  rw [Nat.mul_one, Nat.one_mul] at hnear
  have hunits : d.inNanos * unitsPerOne =
      1_000_000_000 * (d.seconds * unitsPerOne) + d.nanos * unitsPerOne := by
    rw [inNanos, Nat.add_mul, Nat.mul_right_comm, Nat.mul_comm]
  rw [hsum, hunits]
  obtain ⟨hle, hge⟩ := hnear
  refine ⟨_, measures_ofUnits (j := 24) (by decide) ?_, ?_, ?_⟩
  all_goals
    generalize magnitude (nearestOrdinal (d.seconds * unitsPerOne + f) 1) = u at *
    generalize unitsPerOne = one at *
    omega

/-- **A duration reads back** if it is whole seconds, or less than `2 ^ 23` seconds. -/
theorem typed_toJson (d : Duration) (h : d.nanos = 0 ∨ d.seconds < 2 ^ 23) :
    Typed.duration d.toJson = .ok d := by
  by_cases hwhole : d.nanos = 0
  · exact typed_toJson_of_whole hwhole
  · obtain ⟨u, hu, hlow, hhigh⟩ := toSeconds_near (h.resolve_left hwhole)
    exact typed_toJson_of_fraction hwhole hu.isFinite (ofSeconds_near hu hlow hhigh)

/-- The longest duration with a fraction that is sure to read back, and the longest of all. -/
theorem typed_toJson_longest :
    let fraction : Duration := ⟨2 ^ 23 - 1, 999_999_999, by decide, by decide⟩
    let whole : Duration := .ofWholeSeconds 0xFFFFFFFFFFFFFFFF
    (fraction.nanos = 0 ∨ fraction.seconds < 2 ^ 23) ∧ (whole.nanos = 0 ∨ whole.seconds < 2 ^ 23) ∧
      Typed.duration fraction.toJson = .ok fraction ∧ Typed.duration whole.toJson = .ok whole := by
  intro fraction whole
  have hfraction : fraction.nanos = 0 ∨ fraction.seconds < 2 ^ 23 := .inr (by decide)
  have hwhole : whole.nanos = 0 ∨ whole.seconds < 2 ^ 23 := .inl rfl
  exact ⟨hfraction, hwhole, typed_toJson fraction hfraction, typed_toJson whole hwhole⟩

/-- From `2 ^ 23` seconds on a nanosecond can become two. -/
example : ofSeconds (toSeconds ⟨2 ^ 23, 1, by decide, by decide⟩) =
    .ok ⟨2 ^ 23, 2, by decide, by decide⟩ := by decide +kernel

end DataAccess.Duration
