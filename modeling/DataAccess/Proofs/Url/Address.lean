import DataAccess.Url.Address

/-!
# Addresses read back

The canonical text of an address, with its longest run of zeros left out, is read as that address
(`ofText?_text`). A text without a colon is no address (`colon_mem_of_ofText?`).
-/

namespace DataAccess.Url.Address

open Number

/-! ## Pieces -/

theorem hexValue?_digitChar : ∀ n < 16, hexValue? n.digitChar = some n := by decide

theorem hexNumber_append (cs : List Char) (c : Char) :
    hexNumber (cs ++ [c]) = 16 * hexNumber cs + (hexValue? c).getD 0 := by
  simp [hexNumber]

theorem hexNumber_hexText (n : Nat) : hexNumber (hexText n) = n := by
  induction n using Nat.strongRecOn with
  | ind n ih =>
    unfold hexText
    rcases Nat.lt_or_ge n 16 with hn | hn
    · rw [Nat.toDigits_of_lt_base hn]
      simp [hexNumber, hexValue?_digitChar n hn]
    · have hdiv : hexNumber (Nat.toDigits 16 (n / 16)) = n / 16 := ih _ (by omega)
      rw [Nat.toDigits_of_base_le (by decide) hn, hexNumber_append, hdiv,
        hexValue?_digitChar _ (Nat.mod_lt n (by decide))]
      exact Nat.div_add_mod n 16

theorem isHexDigit_of_mem_hexText {n : Nat} : ∀ c ∈ hexText n, isHexDigit c = true := by
  have hdigit : ∀ n < 16, isHexDigit n.digitChar = true := by decide
  induction n using Nat.strongRecOn with
  | ind n ih =>
    unfold hexText
    intro c hc
    rcases Nat.lt_or_ge n 16 with hn | hn
    · rw [Nat.toDigits_of_lt_base hn, List.mem_singleton] at hc
      exact hc ▸ hdigit n hn
    · rw [Nat.toDigits_of_base_le (by decide) hn, List.mem_append, List.mem_singleton] at hc
      rcases hc with hc | rfl
      · exact ih _ (by omega) c hc
      · exact hdigit _ (Nat.mod_lt n (by decide))

theorem length_pieceText_le (p : UInt16) : (pieceText p).length ≤ 4 :=
  (Nat.length_toDigits_le_iff (by decide) (by decide)).mpr p.toNat_lt

theorem exists_pieceText (p : UInt16) :
    ∃ c cs, pieceText p = c :: cs ∧ isHexDigit c = true := by
  have hne : pieceText p ≠ [] := Nat.toDigits_ne_nil
  obtain ⟨c, cs, h⟩ := List.exists_cons_of_ne_nil hne
  have hc : c ∈ pieceText p := h ▸ List.mem_cons_self
  exact ⟨c, cs, h, isHexDigit_of_mem_hexText c hc⟩

theorem hexNumber_pieceText (p : UInt16) : UInt16.ofNat (hexNumber (pieceText p)) = p := by
  rw [pieceText, hexNumber_hexText, UInt16.ofNat_toNat]

/-- The digits of a piece end where no digit follows. -/
theorem pieceDigits_pieceText (p : UInt16) {rest : List Char}
    (h : ∀ c ∈ rest.head?, isHexDigit c = false) :
    pieceDigits (pieceText p ++ rest) = pieceText p := by
  have hlen := length_pieceText_le p
  have hdigits : ∀ c ∈ pieceText p, isHexDigit c = true := isHexDigit_of_mem_hexText
  rw [pieceDigits, List.take_append, List.take_of_length_le hlen,
    List.takeWhile_append_of_pos hdigits]
  have hnone : (rest.take (4 - (pieceText p).length)).takeWhile isHexDigit = [] := by
    cases rest with
    | nil => simp
    | cons c rest =>
      have hc : isHexDigit c = false := h c rfl
      cases 4 - (pieceText p).length <;> simp [hc]
  rw [hnone, List.append_nil]

/-! ## Parts -/

theorem parts?_nil : parts? [] = some [] := by simp [parts?]

theorem parts?_gap (rest : List Char) : parts? (':' :: rest) = (parts? rest).map (none :: ·) := by
  rw [parts?]

theorem ne_colon_of_isHexDigit {c : Char} (h : isHexDigit c = true) : c ≠ ':' := by
  rintro rfl
  revert h
  decide

theorem parts?_last (p : UInt16) : parts? (pieceText p) = some [some p] := by
  obtain ⟨c, cs, htext, hc⟩ := exists_pieceText p
  have hdigits : pieceDigits (pieceText p) = pieceText p := by
    simpa using @pieceDigits_pieceText p [] (by simp)
  have hnum := hexNumber_pieceText p
  rw [htext] at hdigits hnum ⊢
  rw [parts?]
  · simp [hdigits, hnum]
  · simp
  · simp [ne_colon_of_isHexDigit hc]

theorem parts?_piece (p : UInt16) (c : Char) (rest : List Char) :
    parts? (pieceText p ++ ':' :: c :: rest) = (parts? (c :: rest)).map (some p :: ·) := by
  obtain ⟨d, ds, htext, hd⟩ := exists_pieceText p
  have hcolon : isHexDigit ':' = false := by decide
  have hdigits : pieceDigits (pieceText p ++ ':' :: c :: rest) = pieceText p :=
    pieceDigits_pieceText p (by simp [hcolon])
  have hnum := hexNumber_pieceText p
  have hdrop : (pieceText p ++ ':' :: c :: rest).drop (pieceText p).length = ':' :: c :: rest :=
    List.drop_left
  rw [htext, List.cons_append] at hdigits hdrop
  rw [htext] at hnum
  rw [htext, List.cons_append, parts?]
  · rw [hdigits, hdrop, hnum]
    exact dif_pos (by simp; omega)
  · simp
  · simp [ne_colon_of_isHexDigit hd]

/-- The text of pieces, of which there are some, starts with a digit. -/
theorem exists_piecesText (p : UInt16) (ps : List UInt16) :
    ∃ c cs, piecesText (p :: ps) = c :: cs ∧ isHexDigit c = true := by
  obtain ⟨c, cs, htext, hc⟩ := exists_pieceText p
  cases ps with
  | nil => exact ⟨c, cs, by simpa [piecesText] using htext, hc⟩
  | cons q ps =>
    refine ⟨c, cs ++ ':' :: piecesText (q :: ps), ?_, hc⟩
    rw [← List.cons_append, ← htext]
    simp [piecesText, List.intercalate_cons_cons]

theorem piecesText_cons_cons (p q : UInt16) (ps : List UInt16) :
    piecesText (p :: q :: ps) = pieceText p ++ ':' :: piecesText (q :: ps) := by
  simp [piecesText, List.intercalate_cons_cons]

theorem parts?_piecesText (ps : List UInt16) : parts? (piecesText ps) = some (ps.map some) := by
  induction ps with
  | nil => simp [piecesText, parts?_nil]
  | cons p ps ih =>
    cases ps with
    | nil => simpa [piecesText] using parts?_last p
    | cons q ps =>
      obtain ⟨c, cs, htext, -⟩ := exists_piecesText q ps
      rw [piecesText_cons_cons, htext, parts?_piece, ← htext, ih]
      rfl

/-- Pieces, a gap, and pieces. -/
theorem parts?_gapped (p : UInt16) (ps qs : List UInt16) :
    parts? (piecesText (p :: ps) ++ ':' :: ':' :: piecesText qs) =
      some ((p :: ps).map some ++ none :: qs.map some) := by
  induction ps generalizing p with
  | nil =>
    have hlast : piecesText [p] = pieceText p := by simp [piecesText]
    rw [hlast, parts?_piece, parts?_gap, parts?_piecesText]
    rfl
  | cons q ps ih =>
    obtain ⟨c, cs, htext, -⟩ := exists_piecesText q ps
    have hrest := ih q
    rw [htext, List.cons_append] at hrest
    rw [piecesText_cons_cons, htext, List.append_assoc, List.cons_append, List.cons_append,
      parts?_piece, hrest]
    rfl

/-! ## The gap -/

theorem mapM_id_map_some (ps : List UInt16) : (ps.map some).mapM id = some ps := by
  induction ps with
  | nil => rfl
  | cons p ps ih => simp_all

theorem splitOn_none {before after : List UInt16} :
    (before.map some ++ none :: after.map some).splitOn none =
      [before.map some, after.map some] := by
  have hfree : ∀ parts ∈ [before.map some, after.map some], none ∉ parts := by simp
  have hsplit := List.splitOn_intercalate none hfree (List.cons_ne_nil _ _)
  simpa [List.intercalate_cons_cons] using hsplit

theorem fill_map_some (ps : List UInt16) : fill (ps.map some) = some ps := by
  have hsplit : (ps.map some).splitOn none = [ps.map some] := by
    have hfree : ∀ parts ∈ [ps.map some], none ∉ parts := by simp
    simpa using List.splitOn_intercalate none hfree (List.cons_ne_nil _ _)
  rw [fill, hsplit]
  exact mapM_id_map_some ps

theorem fill_gapped {ps qs : List UInt16} (h : ps.length + qs.length < 8) :
    fill (ps.map some ++ none :: qs.map some) =
      some (ps ++ .replicate (8 - (ps.length + qs.length)) 0 ++ qs) := by
  have hfilled := mapM_id_map_some (ps ++ .replicate (8 - (ps.length + qs.length)) 0 ++ qs)
  rw [fill, splitOn_none]
  simp only [List.length_map, if_pos h]
  simpa using hfilled

theorem ofText?_eq {cs : List Char} {parts : List (Option UInt16)} {ps : List UInt16}
    (hparts : parts? cs = some parts) (hhead : ∃ c tail, cs = c :: tail ∧ isHexDigit c = true)
    (hfill : fill parts = some ps) (hlen : ps.length = 8) : ofText? cs = some ⟨ps, hlen⟩ := by
  obtain ⟨c, tail, rfl, hc⟩ := hhead
  have hne := ne_colon_of_isHexDigit hc
  unfold ofText?
  simp [hparts, hfill, hlen, hne]

theorem ofText?_piecesText (a : Address) : ofText? (piecesText a.pieces) = some a := by
  obtain ⟨ps, hlen⟩ := a
  obtain ⟨p, ps, rfl⟩ := List.exists_cons_of_length_pos (by omega : 0 < ps.length)
  exact ofText?_eq (parts?_piecesText _) (exists_piecesText p ps) (fill_map_some _) hlen

/-- A gap stands for the zeros that are missing, also at either end. -/
theorem ofText?_gapped {a : Address} {ps qs : List UInt16} {n : Nat} (hn : 0 < n)
    (h : ps ++ .replicate n 0 ++ qs = a.pieces) :
    ofText? (piecesText ps ++ ':' :: ':' :: piecesText qs) = some a := by
  obtain ⟨pieces, hlen⟩ := a
  obtain rfl : ps ++ .replicate n 0 ++ qs = pieces := h
  have hknown : ps.length + (n + qs.length) = 8 := by simpa using hlen
  have hfill : fill (ps.map some ++ none :: qs.map some) = some (ps ++ .replicate n 0 ++ qs) := by
    have hmissing : 8 - (ps.length + qs.length) = n := by omega
    rw [fill_gapped (by omega), hmissing]
  cases ps with
  | nil =>
    have hempty : piecesText [] = [] := rfl
    have hparts := parts?_piecesText qs
    unfold ofText?
    simp_all
  | cons p ps =>
    obtain ⟨c, cs, htext, hc⟩ := exists_piecesText p ps
    have hhead : piecesText (p :: ps) ++ ':' :: ':' :: piecesText qs =
        c :: (cs ++ ':' :: ':' :: piecesText qs) := by rw [htext, List.cons_append]
    exact ofText?_eq (parts?_gapped p ps qs) ⟨c, _, hhead, hc⟩ hfill hlen

/-! ## The longest run of zeros -/

theorem getElem_zeroRuns {ps : List UInt16} {i : Nat} (h : i < (zeroRuns ps).length) :
    (zeroRuns ps)[i] = leadingZeros (ps.drop i) := by
  induction ps generalizing i with
  | nil => simp [zeroRuns] at h
  | cons p ps ih =>
    cases i with
    | zero => simp [zeroRuns]
    | succ i => simpa [zeroRuns] using ih (by simpa [zeroRuns] using h)

theorem foldl_max_mem {ns : List Nat} (h : 0 < ns.foldl max 0) : ns.foldl max 0 ∈ ns := by
  rw [List.foldl_max] at h ⊢
  cases hmax : ns.max? with
  | none => simp [hmax] at h
  | some n => simpa using List.max?_mem hmax

/-- The zeros that start at a place are a part of the pieces. -/
theorem split_zeros {ps : List UInt16} {start count : Nat}
    (h : leadingZeros (ps.drop start) = count) :
    ps.take start ++ .replicate count 0 ++ ps.drop (start + count) = ps := by
  have hsplit : (ps.drop start).takeWhile (· == 0) ++ (ps.drop start).dropWhile (· == 0) =
      ps.drop start := List.takeWhile_append_dropWhile
  have hzeros : (ps.drop start).takeWhile (· == 0) = .replicate count 0 := by
    refine List.eq_replicate_iff.mpr ⟨h, fun p hp => ?_⟩
    exact eq_of_beq (List.all_eq_true.mp List.all_takeWhile p hp)
  have hrest : (ps.drop start).dropWhile (· == 0) = ps.drop (start + count) := by
    have hlen : (List.replicate count (0 : UInt16)).length = count := List.length_replicate
    rw [hzeros] at hsplit
    rw [← List.drop_drop, ← hsplit, List.drop_left' hlen]
    rw [hsplit]
  rw [hzeros, hrest] at hsplit
  rw [List.append_assoc, hsplit, List.take_append_drop]

/-- **The text of an address is read as that address.** -/
theorem ofText?_text (a : Address) : ofText? a.text = some a := by
  unfold text
  dsimp only
  split
  · exact ofText?_piecesText a
  · next hlong =>
    -- The run that is left out has at least two zeros, so a gap can stand for it.
    have hlong : 2 ≤ (zeroRuns a.pieces).foldl max 0 := Nat.le_of_not_lt hlong
    have hpos := Nat.lt_of_lt_of_le Nat.zero_lt_two hlong
    have hstart := List.idxOf_lt_length_of_mem (foldl_max_mem hpos)
    have hzeros := getElem_zeroRuns hstart
    rw [List.getElem_idxOf] at hzeros
    have hread := ofText?_gapped hpos (split_zeros hzeros.symm)
    simpa using hread

/-! ## Characters -/

theorem mem_piecesText {ps : List UInt16} {c : Char} (h : c ∈ piecesText ps) :
    c = ':' ∨ isHexDigit c = true := by
  induction ps with
  | nil => simp [piecesText] at h
  | cons p ps ih =>
    cases ps with
    | nil => exact .inr (isHexDigit_of_mem_hexText c (by simpa [piecesText, pieceText] using h))
    | cons q ps =>
      rw [piecesText_cons_cons, List.mem_append, List.mem_cons] at h
      rcases h with h | h | h
      · exact .inr (isHexDigit_of_mem_hexText c h)
      · exact .inl h
      · exact ih h

theorem mem_text {a : Address} {c : Char} (h : c ∈ a.text) : c = ':' ∨ isHexDigit c = true := by
  unfold text at h
  dsimp only at h
  split at h
  · exact mem_piecesText h
  · simp only [List.mem_append] at h
    rcases h with (h | h) | h
    · exact mem_piecesText h
    · exact .inl (by simpa using h)
    · exact mem_piecesText h

/-! ## Texts without a colon -/

theorem length_readQuad? {cs : List Char} {ps : List UInt16} (h : readQuad? cs = some ps) :
    ps.length = 2 := by
  unfold readQuad? at h
  split at h
  · cases h
    rfl
  · cases h

/-- Without a colon there are two pieces at most. -/
theorem parts?_of_no_colon {cs : List Char} (h : ':' ∉ cs) :
    parts? cs = none ∨ ∃ ps : List UInt16, ps.length ≤ 2 ∧ parts? cs = some (ps.map some) := by
  cases cs with
  | nil => exact .inr ⟨[], by simp, parts?_nil⟩
  | cons c cs =>
    have hne : c ≠ ':' := fun heq => h (heq ▸ List.mem_cons_self)
    rw [parts?]
    · split
      · exact .inr ⟨[_], by simp, rfl⟩
      · cases hquad : readQuad? (c :: cs) with
        | none => exact .inl rfl
        | some ps => exact .inr ⟨ps, Nat.le_of_eq (length_readQuad? hquad), rfl⟩
      · next hdrop =>
        exact absurd (List.mem_of_mem_drop (hdrop ▸ List.mem_cons_self)) h
      · exact .inl rfl
    · simp
    · simp [hne]

theorem colon_mem_of_ofText? {cs : List Char} {a : Address} (h : ofText? cs = some a) :
    ':' ∈ cs := by
  refine Decidable.byContradiction fun hcolon => ?_
  have hne : ∀ tail, cs = ':' :: tail → False := by
    rintro tail rfl
    exact hcolon List.mem_cons_self
  unfold ofText? at h
  split at h
  · exact hne _ rfl
  · exact hne _ rfl
  · -- Only eight pieces make an address, and here is no gap that could stand for some.
    rcases parts?_of_no_colon hcolon with hnone | ⟨ps, hfew, hsome⟩
    · simp [hnone] at h
    · have hlen : ps.length ≠ 8 := by omega
      simp [hsome, fill_map_some, hlen] at h

end DataAccess.Url.Address
