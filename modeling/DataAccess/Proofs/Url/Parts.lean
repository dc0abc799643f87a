import DataAccess.Proofs.Text.Utf8
import DataAccess.Proofs.Url.ReadsBack

/-!
# Parts of a URL as they were set

Each setter changes one part. A text that is written in a form is decoded to itself
(`Form.decode_encode`), so that the pairs that are added to a query are the last of its pairs
(`queryPairs_appendPairs`): neither the marks of a form nor codes in a text are taken for anything
else.
-/

namespace DataAccess.Url

open Number Text

attribute [ext] Url

/-- A text without a percent sign is decoded to itself, whatever set it was encoded with. -/
theorem Percent.decodeText_encode {special : Char → Bool} (hspecial : LeavesCodes special)
    {cs : List Char} (h : '%' ∉ cs) : decodeText (encode special cs) = .ok cs := by
  rw [decodeText, decode_encode hspecial, decode_of_not_hasCode (not_hasCode_of_not_mem h),
    decodeUtf8_utf8]

namespace Form

/-! ## Texts -/

theorem ne_of_isPlain {c : Char} (h : isPlain c = true) : c ≠ '+' ∧ c ≠ '%' ∧ c ≠ '&' ∧ c ≠ '=' := by
  refine ⟨?_, ?_, ?_, ?_⟩ <;> rintro rfl <;> revert h <;> decide

theorem isPlain_hexDigit : ∀ n < 16, isPlain (Percent.hexDigit n) = true := by decide

theorem mem_encodeByte {b : UInt8} {c : Char} (h : c ∈ Percent.encodeByte b) :
    c = '%' ∨ isPlain c = true := by
  have hb : b.toNat < 256 := b.toNat_lt
  simp only [Percent.encodeByte, List.mem_cons, List.not_mem_nil, or_false] at h
  rcases h with rfl | rfl | rfl
  · exact .inl rfl
  · exact .inr (isPlain_hexDigit _ (by omega))
  · exact .inr (isPlain_hexDigit _ (by omega))

theorem mem_encode {c : Char} {cs : List Char} (h : c ∈ encode cs) :
    c = '+' ∨ c = '%' ∨ isPlain c = true := by
  obtain ⟨d, -, hd⟩ := List.mem_flatMap.mp h
  unfold encodeChar at hd
  split at hd
  · exact .inl (List.mem_singleton.mp hd)
  · split at hd
    · next hplain => exact .inr (.inr (List.mem_singleton.mp hd ▸ hplain))
    · obtain ⟨b, -, hb⟩ := List.mem_flatMap.mp hd
      exact .inr (mem_encodeByte hb)

/-- Neither of the marks of a form is written in a text. -/
theorem not_mem_encode {x : Char} (hx : x = '&' ∨ x = '=') (cs : List Char) : x ∉ encode cs := by
  intro hmem
  rcases mem_encode hmem with rfl | rfl | hplain
  · revert hx
    decide
  · revert hx
    decide
  · have hne := ne_of_isPlain hplain
    exact hx.elim hne.2.2.1 hne.2.2.2

/-- Codes have no plus sign in them. -/
theorem spaced_encodeBytes (bytes : List UInt8) :
    (bytes.flatMap Percent.encodeByte).map (fun c => if c = '+' then ' ' else c) =
      bytes.flatMap Percent.encodeByte := by
  refine (List.map_congr_left fun c hc => ?_).trans (List.map_id' _)
  obtain ⟨b, -, hb⟩ := List.mem_flatMap.mp hc
  rcases mem_encodeByte hb with rfl | hplain
  · decide
  · exact if_neg (ne_of_isPlain hplain).1

/-- A written character is decoded to its bytes. -/
theorem decodeBytes_encodeChar (c : Char) (rest : List Char) :
    decodeBytes (encodeChar c ++ rest) = utf8 [c] ++ decodeBytes rest := by
  unfold decodeBytes
  rw [List.map_append, encodeChar]
  split
  · next hspace =>
    subst hspace
    exact Percent.decode_cons_of_ne (by decide)
  · split
    · next hplain =>
      obtain ⟨hplus, hpercent, -⟩ := ne_of_isPlain hplain
      rw [List.map_singleton, if_neg hplus]
      exact Percent.decode_cons_of_ne hpercent
    · rw [spaced_encodeBytes, Percent.decode_encodeBytes]

theorem decodeBytes_encode (cs : List Char) : decodeBytes (encode cs) = utf8 cs := by
  induction cs with
  | nil => rfl
  | cons c cs ih =>
    rw [encode, List.flatMap_cons, ← encode, decodeBytes_encodeChar, ih, ← Percent.utf8_cons]

theorem decodeLossy_utf8 (cs : List Char) : decodeLossy (utf8 cs) = cs := by
  rw [decodeLossy, decodeUtf8_utf8]

/-- **A written text is decoded to itself.** -/
theorem decode_encode (s : String) : decode (encode s.toList) = s := by
  rw [decode, decodeBytes_encode, decodeLossy_utf8, String.ofList_toList]

/-! ## Pairs -/

theorem decodePair_encodePair (pair : String × String) : decodePair (encodePair pair) = pair := by
  have hcut := @cut_mark _ _ (encode pair.2.toList) (not_mem_encode (.inr rfl) pair.1.toList)
  rw [decodePair, encodePair, hcut.1, hcut.2, List.drop_one, List.tail_cons, decode_encode,
    decode_encode]

theorem splitOn_encodePair (pair : String × String) :
    (encodePair pair).splitOn '&' = [encodePair pair] := by
  refine List.splitOn_eq_singleton fun hmem => ?_
  rcases List.mem_append.mp hmem with hmem | hmem
  · exact not_mem_encode (.inl rfl) _ hmem
  · rcases List.mem_cons.mp hmem with heq | hmem
    · revert heq
      decide
    · exact not_mem_encode (.inl rfl) _ hmem

theorem decodePairs_encodePair (pair : String × String) :
    decodePairs (encodePair pair) = [pair] := by
  have hne : (encodePair pair).isEmpty = false := by simp [encodePair]
  rw [decodePairs, splitOn_encodePair]
  simp [hne, decodePair_encodePair]

theorem decodePairs_append (before after : List Char) :
    decodePairs (before ++ '&' :: after) = decodePairs before ++ decodePairs after := by
  simp [decodePairs, List.splitOn_append_cons_self]

end Form

/-! ## Queries -/

variable (u : Url)

theorem queryPairs_appendPair (key value : String) :
    (u.appendPair key value).queryPairs = u.queryPairs ++ [(key, value)] := by
  unfold appendPair
  split
  · next hnone => simp [queryPairs, hnone, Form.decodePairs_encodePair]
  · next before hbefore =>
    simp [queryPairs, hbefore, Form.decodePairs_append, Form.decodePairs_encodePair]

/-- **The pairs that are added to a query are read back after those that it has.** -/
theorem queryPairs_appendPairs (pairs : List (String × String)) :
    (u.appendPairs pairs).queryPairs = u.queryPairs ++ pairs := by
  unfold appendPairs
  induction pairs generalizing u with
  | nil => simp
  | cons pair rest ih =>
    rw [List.foldl_cons, ih, queryPairs_appendPair]
    simp

theorem appendPair_eq (key value : String) :
    u.appendPair key value = { u with query := (u.appendPair key value).query } := by
  unfold appendPair
  split <;> rfl

/-- Pairs are added to the query, and to nothing else. -/
theorem appendPairs_eq (pairs : List (String × String)) :
    u.appendPairs pairs = { u with query := (u.appendPairs pairs).query } := by
  unfold appendPairs
  induction pairs generalizing u with
  | nil => rfl
  | cons pair rest ih =>
    rw [List.foldl_cons, ih]
    generalize (rest.foldl _ (u.appendPair pair.1 pair.2)).query = query
    rw [appendPair_eq]

/-! ## One part at a time -/

variable {u v : Url} {cs : List Char}

theorem setUsername?_eq_some_iff :
    u.setUsername? cs = some v ↔ u.host.isEmpty = false ∧
      v = { u with username := Percent.encode Percent.inUserinfo cs } := by
  unfold setUsername?
  split
  · next hempty => simp [hempty]
  · next hhost => simp [hhost, eq_comm]

theorem setPassword?_eq_some_iff :
    u.setPassword? cs = some v ↔ u.host.isEmpty = false ∧
      v = { u with password := Percent.encode Percent.inUserinfo cs } := by
  unfold setPassword?
  split
  · next hempty => simp [hempty]
  · next hhost => simp [hhost, eq_comm]

theorem setPort?_eq_some_iff {port : UInt16} :
    u.setPort? port = some v ↔ u.host.isEmpty = false ∧ v = { u with port := some port } := by
  unfold setPort?
  split
  · next hempty => simp [hempty]
  · next hhost => simp [hhost, eq_comm]

theorem setHost_eq_ok_iff :
    u.setHost cs = .ok v ↔
      ∃ part host, hostPart cs = .ok part ∧ Host.parse part = .ok host ∧
        v = { u with host := host } := by
  unfold setHost
  cases hpart : hostPart cs with
  | error e => simp
  | ok part =>
    cases hparse : Host.parse part with
    | error e => simp [hparse]
    | ok host => simp [hparse, eq_comm]

/-! ## A path of one segment -/

namespace Path

theorem plainDots_eq_nil {segment : List Char} (h : plainDots segment = []) : segment = [] := by
  fun_cases plainDots segment <;> simp_all [plainDots]

/-- A dot in front, written as itself or as a code, is decoded to a dot. -/
theorem decode_of_plainDots {segment rest : List Char} (h : plainDots segment = '.' :: rest) :
    ∃ tail, plainDots tail = rest ∧
      Percent.decode segment = utf8 ['.'] ++ Percent.decode tail := by
  fun_cases plainDots segment with
  | case1 tail =>
    exact ⟨tail, (List.cons.inj h).2, Percent.decode_code rfl⟩
  | case2 tail =>
    exact ⟨tail, (List.cons.inj h).2, Percent.decode_code rfl⟩
  | case3 c tail hlower hupper =>
    have hstep : plainDots (c :: tail) = c :: plainDots tail := by
      rw [plainDots] <;> assumption
    obtain ⟨rfl, htail⟩ := List.cons.inj (hstep.symm.trans h)
    exact ⟨tail, htail, Percent.decode_cons_of_ne (by decide)⟩
  | case4 => cases h

theorem decode_of_isHere {segment : List Char} (h : isHere segment = true) :
    Percent.decode segment = utf8 ['.'] := by
  obtain ⟨tail, htail, hdecode⟩ := decode_of_plainDots (eq_of_beq h)
  rw [hdecode, plainDots_eq_nil htail]
  rfl

theorem decode_of_isAbove {segment : List Char} (h : isAbove segment = true) :
    Percent.decode segment = utf8 ['.', '.'] := by
  obtain ⟨middle, hmiddle, hdecode⟩ := decode_of_plainDots (eq_of_beq h)
  obtain ⟨tail, htail, hrest⟩ := decode_of_plainDots hmiddle
  rw [hdecode, hrest, plainDots_eq_nil htail]
  rfl

/-- A text that is one segment, and no dots, is the whole path. -/
theorem ofText_segment {cs : List Char} (hslash : '/' ∉ cs)
    (hkept : ∀ c ∈ cs, isPassedOver c = false) (hdot : Percent.decode cs ≠ utf8 ['.'])
    (hdots : Percent.decode cs ≠ utf8 ['.', '.']) :
    ofText ('/' :: cs) = [Percent.encode Percent.inPath cs] := by
  have hfilter : ('/' :: cs).filter (!isPassedOver ·) = '/' :: cs := by
    refine List.filter_eq_self.mpr fun c hc => ?_
    rcases List.mem_cons.mp hc with rfl | hc
    · rfl
    · simp [hkept c hc]
  have hsplit : ('/' :: cs).splitOn '/' = [[], cs] := by
    have hrest := List.splitOn_eq_singleton hslash
    have hfirst : ([] ++ '/' :: cs).splitOn '/' = [].splitOn '/' ++ cs.splitOn '/' :=
      List.splitOn_append_cons_self [] cs
    simpa [hrest] using hfirst
  have hdecode := Percent.decode_encode Percent.leavesCodes_inPath cs
  have habove : isAbove (Percent.encode Percent.inPath cs) = false :=
    Bool.eq_false_iff.mpr fun h => hdots (hdecode.symm.trans (decode_of_isAbove h))
  have hhere : isHere (Percent.encode Percent.inPath cs) = false :=
    Bool.eq_false_iff.mpr fun h => hdot (hdecode.symm.trans (decode_of_isHere h))
  have hread : ofText ('/' :: cs) =
      (walk [] ((('/' :: cs).splitOn '/').map (Percent.encode Percent.inPath) |>.drop 1)).reverse := by
    simp only [ofText, hfilter]
  rw [hread, hsplit]
  simp [walk, habove, hhere]

end Path

end DataAccess.Url
