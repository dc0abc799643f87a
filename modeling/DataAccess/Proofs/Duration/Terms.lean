import DataAccess.Proofs.Duration.Grammar
import DataAccess.Proofs.Duration.ReadsBack
import DataAccess.Proofs.Number.Digits

/-!
# Terms of whole seconds

Hours, minutes and seconds in whole numbers are summed without rounding as long as the sum is at most
`2 ^ 53` (`total_of_weighs`), and a double that is a whole number is that many seconds
(`ofSeconds_of_value`).
-/

namespace DataAccess.Duration

open Number Binary64

/-! ### Whole numbers -/

/-- A number with no digits after its point, if it has one. -/
def Numeral.IsWhole (n : Numeral) : Prop := n.fraction.getD [] = []

/-- A unit as a number of seconds, unless it is a fraction of one. -/
def Unit.wholeSeconds? : Unit → Option Nat
  | .nanosecond | .microsecond | .millisecond => none
  | .second => some 1
  | .minute => some 60
  | .hour => some 3600

theorem Unit.seconds_of_whole {u : Unit} {w : Nat} (h : u.wholeSeconds? = some w) :
    u.seconds = Binary64.ofNat w ∧ 1 ≤ w ∧ w ≤ 2 ^ 53 := by
  cases u
  all_goals cases h
  · exact ⟨rfl, by decide, by decide⟩
  · exact ⟨rfl, by decide, by decide⟩
  · exact ⟨rfl, by decide, by decide⟩

/-- Up to `2 ^ 53` a whole number is read without rounding. -/
theorem Numeral.value_of_whole {n : Numeral} (h : n.IsWhole)
    (hle : natOfDigits n.digits ≤ 2 ^ 53) : n.value = ofNat (natOfDigits n.digits) := by
  have hplaces : -((n.fraction.getD []).length : Int) = 0 := by
    rw [h]
    rfl
  rw [value, hplaces]
  generalize natOfDigits n.digits = k at hle
  unfold ofDecimal
  dsimp only
  by_cases hzero : k = 0
  · subst hzero
    rw [if_pos (.inl rfl)]
    decide +kernel
  · have hcount : digitCount k ≤ 17 := by
      rw [digitCount, if_neg hzero]
      exact length_natText_le (by decide) (Nat.lt_of_le_of_lt hle (by decide))
    have hpower : k * Nat.pow 10 (0 : Int).toNat = k := Nat.mul_one k
    rw [if_neg (by omega), if_neg (by omega), if_pos (Int.le_refl 0), hpower, Binary64.ofNat]

/-! ### Sums -/

/-- Terms of hours, minutes and seconds in whole numbers, with the seconds that they are together. -/
inductive Weighs : List (Numeral × Unit) → Nat → Prop
  | nil : Weighs [] 0
  | cons {n : Numeral} {u : Unit} {w k : Nat} {ts : List (Numeral × Unit)} (hn : n.IsWhole)
    (hu : u.wholeSeconds? = some w) (h : Weighs ts k) :
    Weighs ((n, u) :: ts) (natOfDigits n.digits * w + k)

/-- From a whole number on, every sum on the way is a whole number. -/
theorem foldl_of_weighs {ts : List (Numeral × Unit)} {k : Nat} (h : Weighs ts k) (a : Nat)
    (hle : a + k ≤ 2 ^ 53) :
    ts.foldl (fun sum t => sum + t.1.value * t.2.seconds) (ofNat a) = ofNat (a + k) := by
  induction h generalizing a with
  | nil => rw [List.foldl_nil, Nat.add_zero]
  | @cons n u w k ts hn hu h ih =>
    obtain ⟨hseconds, hpos, hsmall⟩ := Unit.seconds_of_whole hu
    have hfactor : natOfDigits n.digits ≤ natOfDigits n.digits * w := Nat.le_mul_of_pos_right _ hpos
    have hterm : n.value * u.seconds = ofNat (natOfDigits n.digits * w) := by
      rw [n.value_of_whole hn (by omega), hseconds, ofNat_mul (by omega) hsmall (by omega)]
    rw [List.foldl_cons, hterm, ofNat_add (by omega), ih _ (by omega), Nat.add_assoc]

/-- **A sum of whole terms up to `2 ^ 53` is exact.** -/
theorem total_of_weighs {ts : List (Numeral × Unit)} {n : Nat} (h : Weighs ts n)
    (hle : n ≤ 2 ^ 53) : total ts = ofNat n := by
  have hsum := foldl_of_weighs h 0 (by omega)
  rwa [Nat.zero_add] at hsum

/-! ### Whole doubles -/

section

variable {d : Duration} {x : Binary64}

/-- So many units are so many seconds. -/
theorem ofSeconds_of_measures (hd : d.nanos = 0) (hx : x.Measures (d.seconds * unitsPerOne)) :
    ofSeconds x = .ok d := by
  have hnanos : d.inNanos * unitsPerOne = d.seconds * unitsPerOne * 1_000_000_000 := by
    rw [inNanos, hd, Nat.add_zero, Nat.mul_right_comm]
  have hpos := unitsPerOne_pos
  refine ofSeconds_near hx ?_ ?_
  · rw [hnanos]
    exact Nat.lt_add_of_pos_right hpos
  · rw [hnanos]
    exact Nat.lt_add_of_pos_right hpos

theorem ofSeconds_ofNat (hd : d.nanos = 0) (hle : d.seconds ≤ 2 ^ 53) :
    ofSeconds (ofNat d.seconds) = .ok d :=
  ofSeconds_of_measures hd (measures_ofNat hle)

/-- **A double that is a whole number of seconds** is read as that many, negative zero as none. -/
theorem ofSeconds_of_value (hd : d.nanos = 0) (hx : x.value? = some (d.seconds : ℚ)) :
    ofSeconds x = .ok d := by
  have hu : x.units? = some ((d.seconds * unitsPerOne : Nat) : Int) := by
    rw [Nat.cast_mul]
    exact value?_eq_intCast_iff.mp (hx.trans (congrArg some (Int.cast_natCast _).symm))
  cases x with
  | nan => cases hu
  | infinity s => cases hu
  | finite s k =>
    cases s with
    | false =>
      refine ofSeconds_of_measures hd ⟨k, rfl, ?_⟩
      have hmagnitude : (magnitude k.val : Int) = _ := Option.some.inj hu
      omega
    | true =>
      -- Of the negative doubles only zero is a number of seconds.
      have hmagnitude : -(magnitude k.val : Int) = _ := Option.some.inj hu
      have hsum : magnitude k.val + d.seconds * unitsPerOne = 0 := by omega
      obtain ⟨hnone, hproduct⟩ := Nat.add_eq_zero_iff.mp hsum
      have hseconds : d.seconds = 0 :=
        (Nat.mul_eq_zero.mp hproduct).resolve_right unitsPerOne_pos.ne'
      have hk : k = ⟨0, by decide⟩ := Fin.ext (magnitude_strictMono.injective hnone)
      have hzero : d = zero := by
        obtain ⟨seconds, nanos, _, _⟩ := d
        obtain rfl : seconds = 0 := hseconds
        obtain rfl : nanos = 0 := hd
        rfl
      rw [hk, hzero]
      decide +kernel

end

end DataAccess.Duration
