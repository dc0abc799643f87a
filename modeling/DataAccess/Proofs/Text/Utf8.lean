import DataAccess.Text.Utf8

/-!
# UTF-8 decoded

The bytes of a text decode to the text (`decodeUtf8_utf8`), so that no two texts have the same
bytes.
-/

namespace DataAccess.Text

/-! ## Bytes by their numbers -/

section Bytes

variable {a b : UInt8}

theorem isContinuation_iff : isContinuation b = true ↔ 128 ≤ b.toNat ∧ b.toNat < 192 := by
  simp [isContinuation, UInt8.le_iff_toNat_le, UInt8.lt_iff_toNat_lt]

theorem sequenceLength?_eq :
    sequenceLength? b =
      if b.toNat < 128 then some 1
      else if 194 ≤ b.toNat ∧ b.toNat < 224 then some 2
      else if 224 ≤ b.toNat ∧ b.toNat < 240 then some 3
      else if 240 ≤ b.toNat ∧ b.toNat < 245 then some 4
      else none := by
  simp [sequenceLength?, UInt8.le_iff_toNat_le, UInt8.lt_iff_toNat_lt]

/-- A second byte is a continuation, within narrower bounds after four of the first bytes. -/
theorem followsLead_iff :
    followsLead a b = true ↔ 128 ≤ b.toNat ∧ b.toNat < 192 ∧
      (a.toNat = 0xE0 → 160 ≤ b.toNat) ∧ (a.toNat = 0xED → b.toNat < 160) ∧
      (a.toNat = 0xF0 → 144 ≤ b.toNat) ∧ (a.toNat = 0xF4 → b.toNat < 144) := by
  simp only [followsLead, isContinuation, beq_iff_eq, ← UInt8.toNat_inj, UInt8.le_iff_toNat_le,
    UInt8.lt_iff_toNat_lt, UInt8.reduceToNat]
  grind

end Bytes

/-! ## One character -/

section Character

variable {a b c d : UInt8} {rest : List UInt8} {index : Nat}

theorem decodeUtf8From_one (ha : a.toNat < 128) :
    decodeUtf8From index (a :: rest) =
      (decodeUtf8From (index + 1) rest).map (Char.ofNat a.toNat :: ·) := by
  have hlength : sequenceLength? a = some 1 := by rw [sequenceLength?_eq, if_pos ha]
  rw [decodeUtf8From.eq_def]
  simp only [hlength]

theorem decodeUtf8From_two (ha : 194 ≤ a.toNat ∧ a.toNat < 224) (hb : isContinuation b = true) :
    decodeUtf8From index (a :: b :: rest) =
      (decodeUtf8From (index + 2) rest).map
        (Char.ofNat (a.toNat % 32 * 64 + payload b) :: ·) := by
  have hlength : sequenceLength? a = some 2 := by
    rw [sequenceLength?_eq, if_neg (by omega), if_pos ha]
  rw [decodeUtf8From]
  simp only [hlength, hb, if_true]

theorem decodeUtf8From_three (ha : 224 ≤ a.toNat ∧ a.toNat < 240)
    (hb : followsLead a b = true) (hc : isContinuation c = true) :
    decodeUtf8From index (a :: b :: c :: rest) =
      (decodeUtf8From (index + 3) rest).map
        (Char.ofNat (a.toNat % 16 * 4096 + payload b * 64 + payload c) :: ·) := by
  have hlength : sequenceLength? a = some 3 := by
    rw [sequenceLength?_eq, if_neg (by omega), if_neg (by omega), if_pos ha]
  rw [decodeUtf8From]
  simp [hlength, hb, hc]

theorem decodeUtf8From_four (ha : 240 ≤ a.toNat ∧ a.toNat < 245)
    (hb : followsLead a b = true) (hc : isContinuation c = true) (hd : isContinuation d = true) :
    decodeUtf8From index (a :: b :: c :: d :: rest) =
      (decodeUtf8From (index + 4) rest).map
        (Char.ofNat (a.toNat % 8 * 262144 + payload b * 4096 + payload c * 64 + payload d)
          :: ·) := by
  have hlength : sequenceLength? a = some 4 := by
    rw [sequenceLength?_eq, if_neg (by omega), if_neg (by omega), if_neg (by omega), if_pos ha]
  rw [decodeUtf8From]
  simp [hlength, hb, hc, hd]

theorem toNat_ofNat_lt {n : Nat} (h : n < 256) : (UInt8.ofNat n).toNat = n := by
  simp [Nat.mod_eq_of_lt h]

theorem isContinuation_tail (n : Nat) : isContinuation (.ofNat (n % 64 + 128)) = true := by
  rw [isContinuation_iff, toNat_ofNat_lt (by omega)]
  omega

theorem payload_tail (n : Nat) : payload (.ofNat (n % 64 + 128)) = n % 64 := by
  rw [payload, toNat_ofNat_lt (by omega)]
  omega

/-- The bytes of a character decode to it, whatever follows them. -/
theorem decodeUtf8From_encodeChar (ch : Char) (index : Nat) (rest : List UInt8) :
    ∃ next, decodeUtf8From index (String.utf8EncodeChar ch ++ rest) =
      (decodeUtf8From next rest).map (ch :: ·) := by
  have hvalid : ch.toNat < 0xD800 ∨ 0xDFFF < ch.toNat ∧ ch.toNat < 0x110000 := ch.valid
  have hself : Char.ofNat ch.toNat = ch := Char.ofNat_toNat ch
  have hval : ch.val.toNat = ch.toNat := rfl
  unfold String.utf8EncodeChar
  dsimp only
  rw [hval]
  generalize ch.toNat = v at hvalid hself
  split
  · have ha : (UInt8.ofNat v).toNat = v := toNat_ofNat_lt (by omega)
    refine ⟨index + 1, ?_⟩
    rw [List.singleton_append, decodeUtf8From_one (by omega), ha, hself]
  · split
    · have ha : (UInt8.ofNat (v / 64 % 32 + 192)).toNat = v / 64 % 32 + 192 :=
        toNat_ofNat_lt (by omega)
      have hnumber : (v / 64 % 32 + 192) % 32 * 64 + v % 64 = v := by omega
      refine ⟨index + 2, ?_⟩
      rw [List.cons_append, List.singleton_append,
        decodeUtf8From_two (by omega) (isContinuation_tail _), ha, payload_tail, hnumber, hself]
    · split
      · have ha : (UInt8.ofNat (v / 4096 % 16 + 224)).toNat = v / 4096 % 16 + 224 :=
          toNat_ofNat_lt (by omega)
        have hb : (UInt8.ofNat (v / 64 % 64 + 128)).toNat = v / 64 % 64 + 128 :=
          toNat_ofNat_lt (by omega)
        have hfollows : followsLead (.ofNat (v / 4096 % 16 + 224))
            (.ofNat (v / 64 % 64 + 128)) = true := by
          rw [followsLead_iff, ha, hb]
          omega
        have hnumber : (v / 4096 % 16 + 224) % 16 * 4096 + v / 64 % 64 * 64 + v % 64 = v := by
          omega
        refine ⟨index + 3, ?_⟩
        rw [List.cons_append, List.cons_append, List.singleton_append,
          decodeUtf8From_three (by omega) hfollows (isContinuation_tail _), ha, payload_tail,
          payload_tail, hnumber, hself]
      · have ha : (UInt8.ofNat (v / 262144 % 8 + 240)).toNat = v / 262144 % 8 + 240 :=
          toNat_ofNat_lt (by omega)
        have hb : (UInt8.ofNat (v / 4096 % 64 + 128)).toNat = v / 4096 % 64 + 128 :=
          toNat_ofNat_lt (by omega)
        have hfollows : followsLead (.ofNat (v / 262144 % 8 + 240))
            (.ofNat (v / 4096 % 64 + 128)) = true := by
          rw [followsLead_iff, ha, hb]
          omega
        have hnumber : (v / 262144 % 8 + 240) % 8 * 262144 + v / 4096 % 64 * 4096 +
            v / 64 % 64 * 64 + v % 64 = v := by
          omega
        refine ⟨index + 4, ?_⟩
        rw [List.cons_append, List.cons_append, List.cons_append, List.singleton_append,
          decodeUtf8From_four (by omega) hfollows (isContinuation_tail _) (isContinuation_tail _),
          ha, payload_tail, payload_tail, payload_tail, hnumber, hself]

end Character

theorem decodeUtf8From_utf8 (cs : List Char) (index : Nat) :
    decodeUtf8From index (utf8 cs) = .ok cs := by
  induction cs generalizing index with
  | nil => rfl
  | cons c cs ih =>
    obtain ⟨next, hfirst⟩ := decodeUtf8From_encodeChar c index (utf8 cs)
    rw [utf8, List.flatMap_cons, ← utf8, hfirst, ih]
    rfl

/-- **The bytes of a text decode to it.** -/
theorem decodeUtf8_utf8 (cs : List Char) : decodeUtf8 (utf8 cs) = .ok cs :=
  decodeUtf8From_utf8 cs 0

theorem utf8_injective {cs ds : List Char} (h : utf8 cs = utf8 ds) : cs = ds := by
  have hread := decodeUtf8_utf8 cs
  rw [h, decodeUtf8_utf8] at hread
  exact (Except.ok.inj hread).symm

end DataAccess.Text
