/-!
# ASCII characters

What is said of the ASCII characters is said of their numbers (`forall_of_ofNat`), so that it can be
decided. Letters and digits are ASCII characters here (`lt_of_isAlphanum`), and letters in capitals
and in small ones name each other (`casing_of_isAlpha`).
-/

namespace DataAccess.Text

/-- What holds of the first characters is said of their numbers, so that it can be decided. -/
theorem forall_of_ofNat {P : Char → Prop} {bound : Nat} (h : ∀ n < bound, P (Char.ofNat n))
    (c : Char) (hc : c.toNat < bound) : P c := by
  rw [← Char.ofNat_toNat c]
  exact h c.toNat hc

theorem lt_of_isAlphanum {c : Char} (h : c.isAlphanum = true) : c.toNat < 128 := by
  delta Char.isAlphanum Char.isAlpha Char.isUpper Char.isLower Char.isDigit at h
  have hval : c.val ≤ 122 := by grind
  exact Nat.lt_of_le_of_lt (UInt32.le_iff_toNat_le.mp hval) (by decide)

/-- The case of a letter does not count once it is changed. -/
theorem casing_of_isAlpha {c : Char} (hc : c.isAlpha = true) :
    c.toUpper.toLower = c.toLower ∧ c.toLower.toUpper = c.toUpper := by
  have hascii : ∀ n < 128, (Char.ofNat n).toUpper.toLower = (Char.ofNat n).toLower ∧
      (Char.ofNat n).toLower.toUpper = (Char.ofNat n).toUpper := by decide
  have halphanum : c.isAlphanum = true := Bool.or_eq_true_iff.mpr (.inl hc)
  exact forall_of_ofNat (P := fun c => c.toUpper.toLower = c.toLower ∧
    c.toLower.toUpper = c.toUpper) hascii c (lt_of_isAlphanum halphanum)

end DataAccess.Text
