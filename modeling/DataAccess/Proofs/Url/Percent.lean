import DataAccess.Proofs.Text.Ascii
import DataAccess.Url.Percent

/-!
# Percent encoding and decoding

Encoding puts a text into a form that encoding leaves alone (`encode_of_encoded`,
`encoded_encode`), and decoding takes no notice of it (`decode_encode`). What decoding does change
is a code that the text had in it before: `decode_eq_utf8_iff`.
-/

namespace DataAccess.Url.Percent

open Number Text

/-! ## Hexadecimal digits -/

theorem lt_of_isHexDigit {c : Char} (h : isHexDigit c = true) : c.toNat < 128 := by
  have hle : ∀ {d : Char}, c ≤ d → c.toNat ≤ d.toNat := fun h => h
  simp only [isHexDigit, hexValue?, Char.isDigit] at h
  split at h
  · next hd =>
    have hnine : c.val ≤ 57 := by simp_all
    exact Nat.lt_of_le_of_lt (UInt32.le_iff_toNat_le.mp hnine) (by decide)
  · split at h
    · next hd => exact Nat.lt_of_le_of_lt (hle hd.2) (by decide)
    · split at h
      · next hd => exact Nat.lt_of_le_of_lt (hle hd.2) (by decide)
      · cases h

/-- What two digits write, if they are digits. -/
theorem hexByte?_isSome {c d : Char} :
    (hexByte? c d).isSome = (isHexDigit c && isHexDigit d) := by
  unfold hexByte? isHexDigit
  cases hexValue? c <;> cases hexValue? d <;> rfl

theorem hexValue?_hexDigit : ∀ n < 16, hexValue? (hexDigit n) = some n := by decide

theorem hexByte?_encodeByte (b : UInt8) :
    hexByte? (hexDigit (b.toNat / 16)) (hexDigit (b.toNat % 16)) = some b := by
  have hb : b.toNat < 256 := b.toNat_lt
  rw [hexByte?, hexValue?_hexDigit _ (by omega), hexValue?_hexDigit _ (by omega)]
  simp only [Nat.div_add_mod, UInt8.ofNat_toNat]

/-! ## Encoded texts -/

variable {special : Char → Bool} {c d : Char} {cs rest : List Char}

/-- A text in encoded form: ASCII without special characters. -/
def Encoded (special : Char → Bool) (cs : List Char) : Prop :=
  ∀ c ∈ cs, special c = false ∧ c.toNat < 128

/-- A set of special characters that no code has in it. -/
structure LeavesCodes (special : Char → Bool) : Prop where
  percent : special '%' = false
  digit : ∀ {c}, isHexDigit c = true → special c = false

@[simp] theorem encode_nil : encode special [] = [] := rfl

@[simp] theorem encode_cons :
    encode special (c :: cs) = encodeChar special c ++ encode special cs := rfl

theorem encodeChar_self (hc : special c = false) (hascii : c.toNat < 128) :
    encodeChar special c = [c] := by
  simp [encodeChar, hc, Nat.not_le_of_lt hascii]

theorem encodeChar_code (h : special c = true ∨ 128 ≤ c.toNat) :
    encodeChar special c = (utf8 [c]).flatMap encodeByte := by
  simp [encodeChar, h]

theorem encode_of_encoded (h : Encoded special cs) : encode special cs = cs := by
  induction cs with
  | nil => rfl
  | cons c cs ih =>
    obtain ⟨⟨hc, hascii⟩, hcs⟩ := List.forall_mem_cons.mp h
    rw [encode_cons, encodeChar_self hc hascii, ih hcs]
    rfl

theorem encodeChar_ne_nil (special : Char → Bool) (c : Char) : encodeChar special c ≠ [] := by
  unfold encodeChar
  split
  · have hne : utf8 [c] ≠ [] := by simp [utf8]
    obtain ⟨b, bytes, hbytes⟩ := List.exists_cons_of_ne_nil hne
    simp [hbytes, encodeByte]
  · exact List.cons_ne_nil _ _

theorem encode_eq_nil_iff : encode special cs = [] ↔ cs = [] := by
  cases cs <;> simp [encodeChar_ne_nil]

theorem isHexDigit_hexDigit : ∀ n < 16, isHexDigit (hexDigit n) = true := by decide

theorem encoded_encodeByte (h : LeavesCodes special) (b : UInt8) :
    Encoded special (encodeByte b) := by
  have hb : b.toNat < 256 := b.toNat_lt
  have hdigit : ∀ n < 16, special (hexDigit n) = false ∧ (hexDigit n).toNat < 128 := fun n hn =>
    ⟨h.digit (isHexDigit_hexDigit n hn), lt_of_isHexDigit (isHexDigit_hexDigit n hn)⟩
  intro c hc
  simp only [encodeByte, List.mem_cons, List.not_mem_nil, or_false] at hc
  rcases hc with rfl | rfl | rfl
  · exact ⟨h.percent, by decide⟩
  · exact hdigit _ (by omega)
  · exact hdigit _ (by omega)

/-- Encoding gives a text in encoded form. -/
theorem encoded_encode (h : LeavesCodes special) (cs : List Char) :
    Encoded special (encode special cs) := by
  intro c hc
  obtain ⟨d, -, hd⟩ := List.mem_flatMap.mp hc
  by_cases hcode : special d = true ∨ 128 ≤ d.toNat
  · rw [encodeChar_code hcode] at hd
    obtain ⟨b, -, hb⟩ := List.mem_flatMap.mp hd
    exact encoded_encodeByte h b c hb
  · obtain ⟨hspecial, hascii⟩ : special d = false ∧ d.toNat < 128 := by simpa using hcode
    rw [encodeChar_self hspecial hascii, List.mem_singleton] at hd
    exact hd ▸ ⟨hspecial, hascii⟩

/-- A special character that the text did not have is not in its encoded form either. -/
theorem encoded_encode_or {extra : Char → Bool} (hset : LeavesCodes fun c => special c || extra c)
    (h : ∀ c ∈ cs, extra c = false) :
    Encoded (fun c => special c || extra c) (encode special cs) := by
  have hsame : encode (fun c => special c || extra c) cs = encode special cs := by
    induction cs with
    | nil => rfl
    | cons c cs ih =>
      obtain ⟨hc, hcs⟩ := List.forall_mem_cons.mp h
      rw [encode_cons, encode_cons, ih hcs]
      simp [encodeChar, hc]
  exact hsame ▸ encoded_encode hset cs

theorem encoded_singleton : Encoded special [c] ↔ special c = false ∧ c.toNat < 128 := by
  simp [Encoded]

theorem Encoded.append {ds : List Char} (hcs : Encoded special cs) (hds : Encoded special ds) :
    Encoded special (cs ++ ds) :=
  List.forall_mem_append.mpr ⟨hcs, hds⟩

theorem Encoded.not_mem (h : Encoded special cs) (hc : special c = true) : c ∉ cs := by
  intro hmem
  exact absurd (h c hmem).1 (by simp [hc])

/-- A set leaves codes alone if its ASCII characters do. -/
theorem leavesCodes_of_ascii (hpercent : special '%' = false)
    (hdigit : ∀ n < 128, isHexDigit (Char.ofNat n) = true → special (Char.ofNat n) = false) :
    LeavesCodes special where
  percent := hpercent
  digit {c} hc := forall_of_ofNat (P := fun c => isHexDigit c = true → special c = false) hdigit c
    (lt_of_isHexDigit hc) hc

theorem leavesCodes_isControl : LeavesCodes isControl :=
  leavesCodes_of_ascii (by decide) (by decide)

theorem leavesCodes_inQuery : LeavesCodes inQuery :=
  leavesCodes_of_ascii (by decide) (by decide)

theorem leavesCodes_inPath : LeavesCodes inPath :=
  leavesCodes_of_ascii (by decide) (by decide)

theorem leavesCodes_inUserinfo : LeavesCodes inUserinfo :=
  leavesCodes_of_ascii (by decide) (by decide)

/-! ## Decoding -/

/-- A text that starts with the two digits of a code. -/
def StartsDigits (cs : List Char) : Prop :=
  ∃ c d rest, cs = c :: d :: rest ∧ isHexDigit c = true ∧ isHexDigit d = true

/-- A text with a code in it. -/
def HasCode (cs : List Char) : Prop := ∃ rest, '%' :: rest <:+ cs ∧ StartsDigits rest

theorem hexByte?_eq_some (hc : isHexDigit c = true) (hd : isHexDigit d = true) :
    ∃ b, hexByte? c d = some b := by
  rw [← Option.isSome_iff_exists, hexByte?_isSome, hc, hd]
  rfl

theorem isHexDigit_of_hexByte? {b : UInt8} (h : hexByte? c d = some b) :
    isHexDigit c = true ∧ isHexDigit d = true := by
  simpa [h] using hexByte?_isSome (c := c) (d := d)

theorem decode_code {b : UInt8} (h : hexByte? c d = some b) :
    decode ('%' :: c :: d :: rest) = b :: decode rest := by
  rw [decode, h]

theorem decode_percent (h : ¬ StartsDigits rest) :
    decode ('%' :: rest) = utf8 ['%'] ++ decode rest := by
  match rest with
  | [] => simp [decode]
  | [_] => simp [decode]
  | c :: d :: rest =>
    cases hb : hexByte? c d with
    | none => rw [decode, hb]
    | some b => exact absurd ⟨c, d, rest, rfl, isHexDigit_of_hexByte? hb⟩ h

theorem decode_cons_of_ne (h : c ≠ '%') : decode (c :: rest) = utf8 [c] ++ decode rest := by
  rw [decode]
  simp_all

/-- A character that starts no code stands for itself. -/
theorem decode_cons (h : ¬ (c = '%' ∧ StartsDigits rest)) :
    decode (c :: rest) = utf8 [c] ++ decode rest := by
  by_cases hc : c = '%'
  · subst hc
    exact decode_percent fun hrest => h ⟨rfl, hrest⟩
  · exact decode_cons_of_ne hc

/-! ### After encoding -/

theorem decode_encodeBytes (bytes : List UInt8) (rest : List Char) :
    decode (bytes.flatMap encodeByte ++ rest) = bytes ++ decode rest := by
  induction bytes with
  | nil => rfl
  | cons b bytes ih =>
    rw [List.flatMap_cons, List.append_assoc]
    exact (decode_code (hexByte?_encodeByte b)).trans (congrArg (b :: ·) ih)

/-- A digit in front of an encoded text is in front of the text: a character that is encoded starts
with `%`. -/
theorem encode_eq_cons {tail : List Char} (hc : isHexDigit c = true)
    (h : encode special cs = c :: tail) : ∃ rest, cs = c :: rest ∧ encode special rest = tail := by
  cases cs with
  | nil => cases h
  | cons d rest =>
    by_cases hcode : special d = true ∨ 128 ≤ d.toNat
    · have hne : utf8 [d] ≠ [] := by simp [utf8]
      obtain ⟨b, bytes, hbytes⟩ := List.exists_cons_of_ne_nil hne
      rw [encode_cons, encodeChar_code hcode, hbytes] at h
      obtain rfl : '%' = c := List.head_eq_of_cons_eq h
      exact absurd hc (by decide)
    · obtain ⟨hspecial, hascii⟩ : special d = false ∧ d.toNat < 128 := by simpa using hcode
      rw [encode_cons, encodeChar_self hspecial hascii] at h
      obtain ⟨rfl, rfl⟩ := List.cons.inj h
      exact ⟨rest, rfl, rfl⟩

theorem StartsDigits.of_encode (h : StartsDigits (encode special cs)) : StartsDigits cs := by
  obtain ⟨c, d, tail, heq, hc, hd⟩ := h
  obtain ⟨cs, rfl, htail⟩ := encode_eq_cons hc heq
  obtain ⟨rest, rfl, -⟩ := encode_eq_cons hd htail
  exact ⟨c, d, rest, rfl, hc, hd⟩

/-- Decoding takes no notice of encoding. -/
theorem decode_encode (h : LeavesCodes special) (cs : List Char) :
    decode (encode special cs) = decode cs := by
  have hself : ∀ {c}, isHexDigit c = true → encodeChar special c = [c] := fun hc =>
    encodeChar_self (h.digit hc) (lt_of_isHexDigit hc)
  have hpercent : encodeChar special '%' = ['%'] := encodeChar_self h.percent (by decide)
  fun_induction decode cs with
  | case1 => rfl
  | case2 c d rest b hb ih =>
    obtain ⟨hc, hd⟩ := isHexDigit_of_hexByte? hb
    rw [encode_cons, encode_cons, encode_cons, hpercent, hself hc, hself hd]
    exact (decode_code hb).trans (congrArg (b :: ·) ih)
  | case3 c d rest hnone ih =>
    rw [encode_cons, hpercent]
    refine (decode_percent fun hstarts => ?_).trans (congrArg _ ih)
    obtain ⟨c', d', rest', heq, hc, hd⟩ := hstarts.of_encode
    obtain ⟨b, hb⟩ := hexByte?_eq_some hc hd
    simp_all
  | case4 c rest hne ih =>
    by_cases hcode : special c = true ∨ 128 ≤ c.toNat
    · rw [encode_cons, encodeChar_code hcode, decode_encodeBytes, ih]
    · obtain ⟨hspecial, hascii⟩ : special c = false ∧ c.toNat < 128 := by simpa using hcode
      rw [encode_cons, encodeChar_self hspecial hascii]
      refine (decode_cons ?_).trans (congrArg _ ih)
      rintro ⟨rfl, hstarts⟩
      obtain ⟨c', d', rest', rfl, -⟩ := hstarts.of_encode
      exact hne c' d' rest' rfl rfl

/-! ### Texts that stay as they are -/

theorem utf8_cons (c : Char) (cs : List Char) : utf8 (c :: cs) = utf8 [c] ++ utf8 cs := by
  simp [utf8]

theorem length_utf8_pos (c : Char) : 0 < (utf8 [c]).length := by
  simp [utf8, Char.utf8Size_pos]

theorem length_utf8_lt {part rest : List Char} (h : rest ≠ []) :
    (utf8 part).length < (utf8 (part ++ rest)).length := by
  obtain ⟨c, rest, rfl⟩ := List.exists_cons_of_ne_nil h
  have hpos := c.utf8Size_pos
  simp only [utf8, List.flatMap_append, List.flatMap_cons, List.length_append,
    String.length_utf8EncodeChar]
  omega

theorem hasCode_cons :
    HasCode (c :: cs) ↔ (c = '%' ∧ StartsDigits cs) ∨ HasCode cs := by
  simp only [HasCode, List.suffix_cons_iff, List.cons.injEq]
  constructor
  · rintro ⟨rest, ⟨rfl, rfl⟩ | hrest, hstarts⟩
    · exact .inl ⟨rfl, hstarts⟩
    · exact .inr ⟨rest, hrest, hstarts⟩
  · rintro (⟨rfl, hstarts⟩ | ⟨rest, hrest, hstarts⟩)
    · exact ⟨cs, .inl ⟨rfl, rfl⟩, hstarts⟩
    · exact ⟨rest, .inr hrest, hstarts⟩

theorem not_hasCode_of_not_mem (h : '%' ∉ cs) : ¬ HasCode cs := by
  rintro ⟨rest, hrest, -⟩
  exact h (hrest.subset List.mem_cons_self)

theorem decode_of_not_hasCode (h : ¬ HasCode cs) : decode cs = utf8 cs := by
  induction cs with
  | nil => rfl
  | cons c cs ih =>
    obtain ⟨hfirst, hrest⟩ := not_or.mp (mt hasCode_cons.mpr h)
    rw [decode_cons hfirst, ih hrest, ← utf8_cons]

theorem length_decode_le (cs : List Char) : (decode cs).length ≤ (utf8 cs).length := by
  fun_induction decode cs with
  | case1 => simp
  | case2 c d rest b hb ih =>
    have := length_utf8_pos '%'
    rw [utf8_cons, utf8_cons c, utf8_cons d]
    simp only [List.length_append, List.length_cons]
    omega
  | case3 c d rest hnone ih =>
    rw [utf8_cons '%' (c :: d :: rest)]
    simpa using ih
  | case4 c rest hne ih =>
    rw [utf8_cons c rest]
    simpa using ih

/-- A code stands for one byte and is written with three. -/
theorem length_decode_lt (h : HasCode cs) : (decode cs).length < (utf8 cs).length := by
  induction cs with
  | nil => simp [HasCode] at h
  | cons c cs ih =>
    by_cases hfirst : c = '%' ∧ StartsDigits cs
    · obtain ⟨rfl, d, e, rest, rfl, hd, he⟩ := hfirst
      obtain ⟨b, hb⟩ := hexByte?_eq_some hd he
      have := length_utf8_pos '%'
      have := length_utf8_pos d
      have := length_decode_le rest
      rw [decode_code hb, utf8_cons, utf8_cons d, utf8_cons e]
      simp only [List.length_append, List.length_cons]
      omega
    · have := ih ((hasCode_cons.mp h).resolve_left hfirst)
      rw [decode_cons hfirst, utf8_cons c cs]
      simpa using this

/-- Decoding changes exactly the texts with a code in them. -/
theorem decode_eq_utf8_iff : decode cs = utf8 cs ↔ ¬ HasCode cs := by
  refine ⟨fun h hcode => ?_, decode_of_not_hasCode⟩
  have := length_decode_lt hcode
  rw [h] at this
  exact Nat.lt_irrefl _ this

end DataAccess.Url.Percent
