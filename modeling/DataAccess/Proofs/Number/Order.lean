import DataAccess.Number.Binary64
import Mathlib.Data.Rat.Cast.Order
import Mathlib.Order.Monotone.Basic
import Mathlib.Algebra.Order.Field.Rat
import Mathlib.Tactic.Positivity

/-!
# Order of doubles

The comparison of doubles is the order of the rational numbers that they stand for.

* `magnitude_strictMono`: a larger ordinal is a larger magnitude;
* `Binary64.le_iff_value`: two finite doubles compare as their values do;
* `Binary64.toInt?_eq_some_iff`: the doubles without a fraction are those with an integer as their
  value;
* `Binary64.mem_unit_iff`: the doubles from zero to one are those with a value from zero to one, so
  neither a not-a-number nor an infinity is among them.
-/

namespace DataAccess.Number

/-! ### Magnitudes -/

theorem binade_pos : 0 < binade := by decide

/-- The ordinals of a binade start with its exponent and count up the significand. -/
theorem magnitude_eq {q r : Nat} (hr : r < binade) :
    magnitude ((q + 1) * binade + r) = (binade + r) <<< q := by
  have hge : ¬ (q + 1) * binade + r < binade := by
    rw [Nat.add_one_mul]
    omega
  have hdiv : ((q + 1) * binade + r) / binade = q + 1 := by
    rw [Nat.mul_comm, Nat.mul_add_div binade_pos, Nat.div_eq_of_lt hr, Nat.add_zero]
  have hmod : ((q + 1) * binade + r) % binade = r := by
    rw [Nat.mul_comm, Nat.mul_add_mod, Nat.mod_eq_of_lt hr]
  rw [magnitude, if_neg hge, hdiv, hmod, Nat.add_sub_cancel]

theorem magnitude_lt_succ (n : Nat) : magnitude n < magnitude (n + 1) := by
  obtain hsmall | hlarge := Nat.lt_or_ge n binade
  · rw [magnitude, if_pos hsmall, magnitude]
    split
    · omega
    · have hn : n + 1 = binade := by omega
      rw [hn]
      have : (binade + binade % binade) <<< (binade / binade - 1) = binade := by decide +kernel
      omega
  · -- In a binade the step is one significand; at its end the exponent grows by one.
    obtain ⟨q, hq⟩ : ∃ q, n / binade = q + 1 :=
      Nat.exists_eq_succ_of_ne_zero (Nat.div_pos hlarge binade_pos).ne'
    have hr : n % binade < binade := Nat.mod_lt n binade_pos
    have hn : (q + 1) * binade + n % binade = n := by
      rw [← hq, Nat.mul_comm, Nat.div_add_mod]
    generalize n % binade = r at hr hn
    subst hn
    rw [magnitude_eq hr, Nat.shiftLeft_eq]
    obtain hin | hend := Nat.lt_or_ge (r + 1) binade
    · rw [Nat.add_assoc, magnitude_eq hin, Nat.shiftLeft_eq]
      exact Nat.mul_lt_mul_of_pos_right (by omega) (Nat.two_pow_pos q)
    · have hlast : (q + 1) * binade + r + 1 = (q + 1 + 1) * binade + 0 := by
        rw [Nat.add_one_mul (q + 1)]; omega
      rw [hlast, magnitude_eq binade_pos, Nat.shiftLeft_eq, Nat.pow_succ, Nat.mul_comm (2 ^ q),
        ← Nat.mul_assoc]
      exact Nat.mul_lt_mul_of_pos_right (by omega) (Nat.two_pow_pos q)

/-- A larger ordinal is a larger magnitude. -/
theorem magnitude_strictMono : StrictMono magnitude := strictMono_nat_of_lt_succ magnitude_lt_succ

theorem magnitude_zero : magnitude 0 = 0 := rfl

namespace Binary64

/-! ### Values -/

/-- The rational number that a finite double stands for. -/
def value? (x : Binary64) : Option ℚ := x.units?.map fun u : Int => (u : ℚ) / (unitsPerOne : Nat)

theorem unitsPerOne_pos : 0 < unitsPerOne := by decide +kernel

theorem le_iff_units {s t : Bool} {k l : Fin ordinalCount} {u v : Int}
    (hu : (finite s k).units? = some u) (hv : (finite t l).units? = some v) :
    le (.finite s k) (.finite t l) = true ↔ u ≤ v := by
  have hkl := magnitude_strictMono.le_iff_le (a := k.val) (b := l.val)
  have hlk := magnitude_strictMono.le_iff_le (a := l.val) (b := k.val)
  have hk := magnitude_strictMono.le_iff_le (a := k.val) (b := 0)
  have hl := magnitude_strictMono.le_iff_le (a := l.val) (b := 0)
  rw [magnitude_zero] at hk hl
  simp only [units?, Option.some.injEq] at hu hv
  subst hu hv
  cases s <;> cases t <;> simp only [le, Bool.false_eq_true, if_true, if_false, decide_eq_true_eq,
    Bool.and_eq_true, beq_iff_eq, true_iff]
  all_goals omega

/-- Two finite doubles compare as their values do. -/
theorem le_iff_value {x y : Binary64} {u v : ℚ} (hx : x.value? = some u) (hy : y.value? = some v) :
    le x y = true ↔ u ≤ v := by
  obtain ⟨i, hi, rfl⟩ := Option.map_eq_some_iff.1 hx
  obtain ⟨j, hj, rfl⟩ := Option.map_eq_some_iff.1 hy
  have hone : (0 : ℚ) < (unitsPerOne : Nat) := Nat.cast_pos.2 unitsPerOne_pos
  rw [div_le_div_iff_of_pos_right hone, Int.cast_le]
  cases x with
  | finite s k =>
    cases y with
    | finite t l => exact le_iff_units hi hj
    | _ => cases hj
  | _ => cases hi

theorem value?_zero : zero.value? = some 0 := by
  have h : zero.units? = some 0 := by decide +kernel
  rw [value?, h, Option.map_some, Int.cast_zero, zero_div]

theorem value?_one : one.value? = some 1 := by
  have h : one.units? = some (unitsPerOne : Int) := by decide +kernel
  have hone : ((unitsPerOne : Nat) : ℚ) ≠ 0 := Nat.cast_ne_zero.2 unitsPerOne_pos.ne'
  rw [value?, h, Option.map_some, Int.cast_natCast, div_self hone]

/-- What lies between two finite doubles is finite. -/
theorem value?_isSome_of_le {x y z : Binary64} {u v : ℚ} (hx : x.value? = some u)
    (hz : z.value? = some v) (hxy : le x y = true) (hyz : le y z = true) : ∃ w, y.value? = some w := by
  cases y with
  | finite s k => exact ⟨_, rfl⟩
  | nan => cases z <;> simp [le] at hyz
  | infinity s =>
    cases s with
    | true => cases x <;> simp [le, value?, units?] at hxy hx
    | false => cases z <;> simp [le, value?, units?] at hyz hz

/-! ### Whole numbers -/

section

variable {x : Binary64} {i : Int}

/-- A double has an integer as its value just if it has that many times the units of one. -/
theorem value?_eq_intCast_iff :
    x.value? = some (i : ℚ) ↔ x.units? = some (i * (unitsPerOne : Nat)) := by
  have hone : ((unitsPerOne : Nat) : ℚ) ≠ 0 := Nat.cast_ne_zero.2 unitsPerOne_pos.ne'
  have hunits : ∀ u : Int, (u : ℚ) / (unitsPerOne : Nat) = i ↔ u = i * (unitsPerOne : Nat) := by
    intro u
    rw [div_eq_iff hone, ← Int.cast_natCast, ← Int.cast_mul, Int.cast_inj]
  simp only [value?, Option.map_eq_some_iff, hunits, exists_eq_right]

theorem natCast_eq_mul_iff {m u : Nat} (hu : 0 < u) :
    (m : Int) = i * u ↔ m % u = 0 ∧ ((m / u : Nat) : Int) = i := by
  constructor
  · intro h
    have hu' : (0 : Int) < u := Int.natCast_pos.2 hu
    have hi : 0 ≤ i := nonneg_of_mul_nonneg_left (h ▸ Int.natCast_nonneg m) hu'
    lift i to Nat using hi
    obtain rfl : m = i * u := by exact_mod_cast h
    exact ⟨Nat.mul_mod_left i u, congrArg _ (Nat.mul_div_cancel i hu)⟩
  · rintro ⟨hmod, rfl⟩
    exact_mod_cast (Nat.div_mul_cancel (Nat.dvd_of_mod_eq_zero hmod)).symm

/-- The doubles without a fraction are those with an integer as their value. -/
theorem toInt?_eq_some_iff : x.toInt? = some i ↔ x.value? = some (i : ℚ) := by
  rw [value?_eq_intCast_iff]
  cases x with
  | nan => exact iff_of_false nofun nofun
  | infinity s => exact iff_of_false nofun nofun
  | finite s k =>
    have hwhole := fun i => natCast_eq_mul_iff (m := magnitude k.val) (i := i) unitsPerOne_pos
    unfold toInt? units?
    simp only [Option.ite_none_right_eq_some, beq_iff_eq, Option.some.injEq]
    cases s with
    | false => exact (hwhole i).symm
    | true =>
      -- Of the opposite integer, the magnitude is a multiple of one.
      have hneg := hwhole (-i)
      rw [Int.neg_mul] at hneg
      simp only [if_true, neg_eq_iff_eq_neg]
      exact hneg.symm

end

/-- The doubles from zero to one are those with a value from zero to one. -/
theorem mem_unit_iff (x : Binary64) :
    (le zero x && le x one) = true ↔ ∃ v, x.value? = some v ∧ 0 ≤ v ∧ v ≤ 1 := by
  rw [Bool.and_eq_true]
  constructor
  · rintro ⟨hlow, hhigh⟩
    obtain ⟨v, hv⟩ := value?_isSome_of_le value?_zero value?_one hlow hhigh
    exact ⟨v, hv, (le_iff_value value?_zero hv).1 hlow, (le_iff_value hv value?_one).1 hhigh⟩
  · rintro ⟨v, hv, hlow, hhigh⟩
    exact ⟨(le_iff_value value?_zero hv).2 hlow, (le_iff_value hv value?_one).2 hhigh⟩

end Binary64

end DataAccess.Number
