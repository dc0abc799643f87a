import DataAccess.Duration.Scan
import DataAccess.Proofs.Duration.Grammar
import DataAccess.Proofs.Text.Utf8

/-!
# Reading by offsets

The walk over a duration text with byte offsets ends as the reader without them: what it cuts out is
what was read, every cut runs between characters, and every number it cuts out is a literal
(`scan_eq_parse`).
-/

namespace DataAccess.Duration

open Number Text

variable {cs rest : List Char}

/-! ### Offsets -/

theorem length_utf8_cons (c : Char) (cs : List Char) :
    (utf8 (c :: cs)).length = c.utf8Size + (utf8 cs).length := by
  rw [utf8, List.flatMap_cons, List.length_append, String.length_utf8EncodeChar, ← utf8]

theorem length_utf8_append (cs ds : List Char) :
    (utf8 (cs ++ ds)).length = (utf8 cs).length + (utf8 ds).length := by
  rw [utf8, List.flatMap_append, List.length_append, ← utf8, ← utf8]

/-- The offset after some characters lies between characters. -/
theorem splitBytes?_utf8 (before after : List Char) :
    splitBytes? (utf8 before).length (before ++ after) = some (before, after) := by
  induction before with
  | nil => exact splitBytes?.eq_1 after
  | cons c before ih =>
    have hpos := c.utf8Size_pos
    obtain ⟨n, hn⟩ : ∃ n, (utf8 (c :: before)).length = n + 1 :=
      ⟨(utf8 (c :: before)).length - 1, by rw [length_utf8_cons]; omega⟩
    have hrest : n + 1 - c.utf8Size = (utf8 before).length := by
      rw [← hn, length_utf8_cons, Nat.add_sub_cancel_left]
    have hle : c.utf8Size ≤ n + 1 := by
      rw [← hn, length_utf8_cons]
      exact Nat.le_add_right _ _
    rw [hn, List.cons_append, splitBytes?, if_pos hle, hrest, ih]
    rfl

/-- What is cut out between the offsets of two characters. -/
theorem cut_utf8 (before part after : List Char) :
    cut (before ++ part ++ after) (utf8 before).length (utf8 (before ++ part)).length =
      .ok part := by
  have hle : ¬ (utf8 (before ++ part)).length < (utf8 before).length := by
    rw [length_utf8_append]
    omega
  rw [cut, if_neg hle, List.append_assoc, splitBytes?_utf8, Option.bind_some, length_utf8_append,
    Nat.add_sub_cancel_left, splitBytes?_utf8]

/-! ### Numbers and units -/

theorem numberEnd_digit {c : Char} (hc : isDigit c = true) (i stop : Nat) (seenPoint : Bool)
    (chars : List (Nat × Char)) : numberEnd stop seenPoint ((i, c) :: chars) =
      numberEnd (i + c.utf8Size) seenPoint chars := by
  have hpoint : (c == '.') = false := by
    rw [beq_eq_false_iff_ne]
    rintro rfl
    cases hc
  rw [numberEnd, hc, hpoint, Bool.true_or, if_pos rfl, Bool.or_false]

/-- After a point the walk over a number is a walk over digits. -/
theorem numberEnd_seen (cs : List Char) (i : Nat) :
    numberEnd i true (placed i cs) =
      (i + (utf8 (cs.takeWhile isDigit)).length,
        placed (i + (utf8 (cs.takeWhile isDigit)).length) (cs.dropWhile isDigit)) := by
  induction cs generalizing i with
  | nil => rfl
  | cons c cs ih =>
    by_cases hc : isDigit c = true
    · rw [List.takeWhile_cons_of_pos hc, List.dropWhile_cons_of_pos hc, length_utf8_cons,
        ← Nat.add_assoc, ← ih, placed, numberEnd_digit hc]
    · rw [List.takeWhile_cons_of_neg hc, List.dropWhile_cons_of_neg hc]
      simp [placed, numberEnd, hc, utf8]

/-- The walk over a number stops where reading it does. -/
theorem numberEnd_placed (cs : List Char) (i : Nat) :
    numberEnd i false (placed i cs) =
      (i + (utf8 (Numeral.read cs).1.text).length,
        placed (i + (utf8 (Numeral.read cs).1.text).length) (Numeral.read cs).2) := by
  induction cs generalizing i with
  | nil => rfl
  | cons c cs ih =>
    by_cases hc : isDigit c = true
    · have htake := List.takeWhile_cons_of_pos (l := cs) hc
      have hdrop := List.dropWhile_cons_of_pos (l := cs) hc
      have hread : (Numeral.read (c :: cs)).1.text = c :: (Numeral.read cs).1.text ∧
          (Numeral.read (c :: cs)).2 = (Numeral.read cs).2 := by
        by_cases hpoint : ∃ rest, cs.dropWhile isDigit = '.' :: rest
        · obtain ⟨rest, hrest⟩ := hpoint
          rw [Numeral.read_of_point hrest, Numeral.read_of_point (hdrop.trans hrest), htake]
          exact ⟨rfl, rfl⟩
        · have hnone := not_exists.mp hpoint
          rw [Numeral.read_of_no_point hnone, Numeral.read_of_no_point (hdrop ▸ hnone), htake, hdrop]
          exact ⟨rfl, rfl⟩
      rw [hread.1, hread.2, length_utf8_cons, ← Nat.add_assoc, ← ih, placed, numberEnd_digit hc]
    · have hstay := List.dropWhile_cons_of_neg (l := cs) hc
      have hnothing := List.takeWhile_cons_of_neg (l := cs) hc
      by_cases hpoint : c = '.'
      · -- One point is passed, and from there on only digits are.
        subst hpoint
        have htext : Numeral.text ⟨[], some (cs.takeWhile isDigit)⟩ =
            '.' :: cs.takeWhile isDigit := rfl
        rw [Numeral.read_of_point hstay, hnothing, htext, length_utf8_cons, ← Nat.add_assoc,
          ← numberEnd_seen]
        rfl
      · have hnone : ∀ rest, (c :: cs).dropWhile isDigit ≠ '.' :: rest := by
          intro rest h
          rw [hstay] at h
          exact hpoint (List.cons.inj h).1
        rw [Numeral.read_of_no_point hnone, hstay, hnothing]
        simp [placed, numberEnd, hc, hpoint, Numeral.text, utf8]

theorem unitEnd_placed (cs : List Char) (i : Nat) :
    unitEnd i (placed i cs) =
      (i + (utf8 (unitRun cs)).length, placed (i + (utf8 (unitRun cs)).length) (afterUnit cs)) := by
  unfold unitRun afterUnit
  induction cs generalizing i with
  | nil => rfl
  | cons c cs ih =>
    by_cases hc : isAlphabetic c = true
    · rw [List.takeWhile_cons_of_pos hc, List.dropWhile_cons_of_pos hc, length_utf8_cons,
        ← Nat.add_assoc, ← ih]
      simp [placed, unitEnd, hc]
    · rw [List.takeWhile_cons_of_neg hc, List.dropWhile_cons_of_neg hc]
      simp [placed, unitEnd, hc, utf8]

/-! ### Literals -/

theorem le_of_number {c : Char} (h : isDigit c = true ∨ c = '.') : c.val ≤ '9'.val := by
  rcases h with h | rfl
  · rw [isDigit, Char.isDigit, Bool.and_eq_true, decide_eq_true_eq, decide_eq_true_eq] at h
    exact h.2
  · decide

/-- What starts with a digit or a point is neither a name nor signed. -/
theorem ofText?_number {c : Char} (hc : isDigit c = true ∨ c = '.') (cs : List Char) :
    Binary64.ofText? (c :: cs) = (readDecimal? false (c :: cs)).map .ofDecimal := by
  have hlower : c.toLower = c := by
    unfold Char.toLower
    refine dif_neg fun h => ?_
    exact absurd (UInt32.le_trans h.1 (le_of_number hc)) (by decide)
  have hne (x : Char) (hx : (isDigit x || x == '.') = false) : c ≠ x := by
    rintro rfl
    rcases hc with hc | rfl
    · rw [hc] at hx
      cases hx
    · cases hx
  have hmagnitude : readMagnitude? false (c :: cs) =
      (readDecimal? false (c :: cs)).map .ofDecimal := by
    have hi : c ≠ 'i' := hne 'i' (by decide)
    have hn : c ≠ 'n' := hne 'n' (by decide)
    unfold readMagnitude?
    simp [hlower, hi, hn]
  have hminus : c ≠ '-' := hne '-' (by decide)
  have hplus : c ≠ '+' := hne '+' (by decide)
  rw [← hmagnitude]
  unfold Binary64.ofText?
  split
  · next heq =>
    cases heq
    exact absurd rfl hminus
  · next heq =>
    cases heq
    exact absurd rfl hplus
  · rfl

/-- A decimal is a number and an exponent. -/
theorem readDecimal?_eq (negative : Bool) (cs : List Char) :
    readDecimal? negative cs =
      if (Numeral.read cs).1.digits = [] then none
      else (readExponent? (Numeral.read cs).2).map fun e =>
        ⟨negative, natOfDigits (Numeral.read cs).1.digits,
          e - (((Numeral.read cs).1.fraction.getD []).length : Int)⟩ := by
  have hempty {xs ys : List Char} : (xs.isEmpty && ys.isEmpty) = true ↔ xs ++ ys = [] := by
    rw [Bool.and_eq_true, List.isEmpty_iff, List.isEmpty_iff, List.append_eq_nil_iff]
  have hchoice {xs ys : List Char} {r : Option Decimal} :
      (if xs.isEmpty && ys.isEmpty then none else r) = if xs ++ ys = [] then none else r := by
    by_cases hnil : xs ++ ys = []
    · rw [if_pos hnil, if_pos (hempty.mpr hnil)]
    · rw [if_neg hnil, if_neg (mt hempty.mp hnil)]
  by_cases hpoint : ∃ rest, cs.dropWhile isDigit = '.' :: rest
  · obtain ⟨rest, hrest⟩ := hpoint
    rw [Numeral.read_of_point hrest, readDecimal?, hrest]
    exact hchoice
  · have hplain : readFraction (cs.dropWhile isDigit) = ([], cs.dropWhile isDigit) := by
      unfold readFraction
      split
      · next rest heq => exact absurd ⟨rest, heq⟩ hpoint
      · rfl
    rw [Numeral.read_of_no_point (not_exists.mp hpoint), readDecimal?, hplain]
    exact hchoice

/-- **A number that is not empty is a literal**, with the same value. -/
theorem ofText?_text {n : Numeral} (h : n.WellFormed) : Binary64.ofText? n.text = some n.value := by
  obtain ⟨c, cs, htext, hc⟩ := h.head_text
  have hread : Numeral.read n.text = (n, []) := by
    have happend := @Numeral.read_text_append n [] h.digits (by simp) (by simp)
    rwa [List.append_nil] at happend
  rw [htext, ofText?_number hc, ← htext, readDecimal?_eq, hread, if_neg h.ne_nil]
  simp [readExponent?, Numeral.value]

/-! ### The walk -/

variable {whole : String} {before : List Char}

/-- A number without digits is nothing or a point. -/
theorem Numeral.text_iff {n : Numeral} (h : ∀ c ∈ n.digits, isDigit c = true) :
    n.text = [] ∨ n.text = ['.'] ↔ n.digits = [] := by
  obtain ⟨whole, fraction⟩ := n
  cases fraction with
  | none =>
    have hpoint : whole ≠ ['.'] := by
      rintro rfl
      exact absurd (h '.' List.mem_cons_self) (by decide)
    simp [text, digits, hpoint]
  | some ds => simp [text, digits, List.append_eq_cons_iff]

/-- One term by offsets is the term that is read. -/
theorem scanTerm_placed (whole : String) (before cs : List Char) :
    scanTerm whole (before ++ cs) (utf8 before).length (placed (utf8 before).length cs) =
      if (Numeral.read cs).1.digits = [] then .error (.refused (.numberExpected whole))
      else
        match unitRun (Numeral.read cs).2 with
        | [] => .error (.refused (.unitMissing (String.ofList (Numeral.read cs).1.text) whole))
        | name =>
          match Unit.ofName? name with
          | none => .error (.refused (.unitUnknown (String.ofList name) whole))
          | some u => .ok (((Numeral.read cs).1.value, u),
              placed (utf8 (before ++ (Numeral.read cs).1.text ++ name)).length
                (afterUnit (Numeral.read cs).2)) := by
  have hdigits := Numeral.digits_read cs
  have hcs : (Numeral.read cs).1.text ++ (Numeral.read cs).2 = cs := Numeral.read_append cs
  have hstop := numberEnd_placed cs (utf8 before).length
  generalize Numeral.read cs = n at *
  obtain ⟨n, after⟩ := n
  obtain rfl : n.text ++ after = cs := hcs
  have hafter : unitRun after ++ afterUnit after = after := List.takeWhile_append_dropWhile
  rw [← length_utf8_append] at hstop
  have hend := unitEnd_placed after (utf8 (before ++ n.text)).length
  rw [← length_utf8_append] at hend
  have hcut : cut (before ++ (n.text ++ after)) (utf8 before).length
      (utf8 (before ++ n.text)).length = .ok n.text := by
    rw [← List.append_assoc]
    exact cut_utf8 before n.text after
  have hcutUnit : cut (before ++ (n.text ++ after)) (utf8 (before ++ n.text)).length
      (utf8 (before ++ n.text ++ unitRun after)).length = .ok (unitRun after) := by
    have hbody : before ++ (n.text ++ after) =
        before ++ n.text ++ unitRun after ++ afterUnit after := by
      rw [List.append_assoc _ (unitRun after), hafter, List.append_assoc]
    rw [hbody]
    exact cut_utf8 _ _ _
  unfold scanTerm
  simp only [bind, Except.bind, pure, Except.pure, throw, throwThe, MonadExceptOf.throw, hstop, hend,
    hcut, hcutUnit, Numeral.text_iff hdigits]
  by_cases hne : n.digits = []
  · rw [if_pos hne, if_pos hne]
  · rw [if_neg hne, if_neg hne, ofText?_text ⟨hdigits, hne⟩]
    cases hname : unitRun after with
    | nil => rfl
    | cons c name =>
      dsimp only
      cases Unit.ofName? (c :: name) with
      | none => rfl
      | some u => rfl

/-- The blanks ahead are passed. -/
theorem scanTerms_blanks (body : List Char) (sum : Binary64) (count : Nat) (before cs : List Char) :
    scanTerms whole body sum count (placed (utf8 before).length cs) =
      scanTerms whole body sum count
        (placed (utf8 (before ++ cs.takeWhile isBlank)).length (cs.dropWhile isBlank)) := by
  induction cs generalizing before with
  | nil => simp
  | cons c cs ih =>
    by_cases hc : isBlank c = true
    · have hnext : (utf8 before).length + c.utf8Size = (utf8 (before ++ [c])).length := by
        rw [length_utf8_append, length_utf8_cons]
        rfl
      rw [List.takeWhile_cons_of_pos hc, List.dropWhile_cons_of_pos hc, placed, scanTerms, if_pos hc,
        hnext, ih, List.append_assoc, List.singleton_append]
    · rw [List.takeWhile_cons_of_neg hc, List.dropWhile_cons_of_neg hc, List.append_nil]

/-- At a character that is not blank a term starts. -/
theorem scanTerms_start {body : List Char} {sum : Binary64} {count start : Nat}
    (hne : ¬ cs.isEmpty = true) (hhead : ∀ c ∈ cs.head?, isBlank c = false) :
    scanTerms whole body sum count (placed start cs) =
      match scanTerm whole body start (placed start cs) with
      | .error fault => .error fault
      | .ok ((value, u), next) =>
        scanTerms whole body (sum + value * u.seconds) (count + 1) next := by
  cases cs with
  | nil => exact absurd rfl hne
  | cons c cs =>
    rw [placed, scanTerms, if_neg (by simp [hhead c rfl])]
    split
    · next h => rw [h]
    · next h => rw [h]

/-- **The walk over the terms ahead** ends as the reader of the terms does, and sums on the way. -/
theorem scanTerms_placed (whole : String) (sum : Binary64) (count : Nat) (before cs : List Char) :
    scanTerms whole (before ++ cs) sum count (placed (utf8 before).length cs) =
      match terms whole cs with
      | .error e => .error (.refused e)
      | .ok ts =>
        if count + ts.length = 0 then .error (.refused (.numberExpected whole))
        else
          (ofSeconds (ts.foldl (fun sum t => sum + t.1.value * t.2.seconds) sum)).mapError
            .refused := by
  have hbody (before cs : List Char) :
      before ++ cs = before ++ cs.takeWhile isBlank ++ cs.dropWhile isBlank := by
    rw [List.append_assoc, List.takeWhile_append_dropWhile]
  -- By the cases of the reader: the walk passes the same blanks and then cuts out the same term.
  fun_induction terms whole cs generalizing before sum count with
  | case1 cs start =>
    rename_i hempty
    have hstart : cs.dropWhile isBlank = [] := List.isEmpty_iff.mp hempty
    rw [scanTerms_blanks, hstart, placed, scanTerms]
    rfl
  | case2 cs start hempty n =>
    rename_i hdigits
    rw [scanTerms_blanks, hbody, scanTerms_start hempty (head_dropWhile _ _), scanTerm_placed,
      if_pos hdigits]
  | case3 cs start hempty n hdigits =>
    rename_i hunit
    rw [scanTerms_blanks, hbody, scanTerms_start hempty (head_dropWhile _ _), scanTerm_placed,
      if_neg hdigits]
    have hnone : unitRun (Numeral.read (cs.dropWhile isBlank)).2 = [] := hunit
    rw [hnone]
  | case4 cs start hempty n hdigits hname =>
    rename_i hunknown
    have hterm : scanTerm whole (before ++ cs.takeWhile isBlank ++ start)
        (utf8 (before ++ cs.takeWhile isBlank)).length
        (placed (utf8 (before ++ cs.takeWhile isBlank)).length start) =
        .error (.refused (.unitUnknown (String.ofList (unitRun n.2)) whole)) := by
      rw [scanTerm_placed, if_neg hdigits]
      split
      · next hnone => exact absurd hnone hname
      · have hnone : Unit.ofName? (unitRun (Numeral.read start).2) = none := hunknown
        rw [hnone]
    rw [scanTerms_blanks, hbody, scanTerms_start hempty (head_dropWhile _ _), hterm]
  | case5 cs start hempty n hdigits u hname hunit =>
    rename_i ih
    have hterm : scanTerm whole (before ++ cs.takeWhile isBlank ++ start)
        (utf8 (before ++ cs.takeWhile isBlank)).length
        (placed (utf8 (before ++ cs.takeWhile isBlank)).length start) =
        .ok ((n.1.value, u), placed (utf8 (before ++ cs.takeWhile isBlank ++ n.1.text ++
          unitRun n.2)).length (afterUnit n.2)) := by
      rw [scanTerm_placed, if_neg hdigits]
      split
      · next hnone => exact absurd hnone hname
      · have hsome : Unit.ofName? (unitRun (Numeral.read start).2) = some u := hunit
        rw [hsome]
    have hrest : before ++ cs.takeWhile isBlank ++ start =
        before ++ cs.takeWhile isBlank ++ n.1.text ++ unitRun n.2 ++ afterUnit n.2 := by
      have hread : n.1.text ++ n.2 = start := Numeral.read_append _
      have hafter : unitRun n.2 ++ afterUnit n.2 = n.2 := List.takeWhile_append_dropWhile
      rw [List.append_assoc _ (unitRun n.2), hafter, List.append_assoc _ n.1.text, hread]
    rw [scanTerms_blanks, hbody, scanTerms_start hempty (head_dropWhile _ _), hterm]
    dsimp only
    rw [hrest, ih]
    cases terms whole (afterUnit n.2) with
    | error e => rfl
    | ok ts =>
      have hlong : count + ((n.1, u) :: ts).length ≠ 0 := Nat.succ_ne_zero _
      have hsum : count + 1 + ts.length ≠ 0 := by omega
      simp only [Except.map, if_neg hlong, if_neg hsum, List.foldl_cons]

/-! ### Signs -/

/-- The byte of a character that has one only is the first byte of no other character. -/
theorem lead_eq_iff {a c : Char} {b : UInt8} {bytes : List UInt8} (ha : a.toNat < 128)
    (h : utf8 (c :: cs) = b :: bytes) : b = a.toUInt8 ↔ c = a := by
  have hbyte : a.toUInt8.toNat = a.toNat := by
    show a.toNat % 256 = a.toNat
    omega
  constructor
  · rintro rfl
    have hread := decodeUtf8_utf8 (c :: cs)
    rw [h, decodeUtf8, decodeUtf8From_one (by omega), hbyte, Char.ofNat_toNat] at hread
    cases hrest : decodeUtf8From (0 + 1) bytes with
    | error e =>
      rw [hrest] at hread
      cases hread
    | ok ds =>
      rw [hrest] at hread
      cases hread
      rfl
  · rintro rfl
    have hsize : c.utf8Size = 1 := Char.utf8Size_eq_one_iff.mpr (UInt32.le_iff_toNat_le.mpr
      (Nat.le_of_lt_succ ha))
    rw [utf8, List.flatMap_cons, String.utf8EncodeChar_eq_singleton hsize] at h
    cases h
    rfl

/-- The walk over what follows the sign. -/
theorem scan_body (whole : String) (body : List Char) :
    (if body = ['0'] then pure zero else scanTerms whole body .zero 0 (placed 0 body)) =
      (parseBody whole body).mapError .refused := by
  have hwalk := scanTerms_placed whole .zero 0 [] body
  have hzero : (utf8 []).length = 0 := rfl
  rw [List.nil_append, hzero] at hwalk
  unfold parseBody
  split
  · rfl
  · rw [hwalk]
    cases terms whole body with
    | error e => rfl
    | ok ts =>
      cases ts with
      | nil => rfl
      | cons t ts => rfl

/-- **Reading by offsets is reading**: no cut is inside a character, and no number that is cut out is
refused. -/
theorem scan_eq_parse (s : String) : scan s = (parse s).mapError .refused := by
  cases htrimmed : trimChars s.toList with
  | nil =>
    unfold scan parse
    rw [htrimmed]
    rfl
  | cons c cs =>
    obtain ⟨b, bytes, hbytes⟩ : ∃ b bytes, utf8 (c :: cs) = b :: bytes := by
      refine List.exists_cons_of_ne_nil ?_
      rw [← List.length_pos_iff, length_utf8_cons]
      exact Nat.add_pos_left c.utf8Size_pos _
    have hminus := @lead_eq_iff cs '-' c b bytes (by decide) hbytes
    have hplus := @lead_eq_iff cs '+' c b bytes (by decide) hbytes
    unfold scan
    rw [htrimmed]
    dsimp only
    rw [hbytes]
    dsimp only
    by_cases hc : c = '-'
    · subst hc
      rw [if_pos (hminus.mpr rfl)]
      unfold parse
      rw [htrimmed]
      rfl
    · rw [if_neg (mt hminus.mp hc), parse_of_trimmed htrimmed hc, ← scan_body]
      by_cases hsign : c = '+'
      · subst hsign
        have hcut : cut ('+' :: cs) 1 (bytes.length + 1) = .ok cs := by
          have hall := cut_utf8 ['+'] cs []
          rw [List.append_nil, List.singleton_append, hbytes] at hall
          exact hall
        rw [if_pos (hplus.mpr rfl), hcut]
        rfl
      · rw [if_neg (mt hplus.mp hsign), dropPlus_of_ne hsign]
        rfl

/-- **The texts that are read as durations**, for every text. They are a bare zero and the terms with a
sum that is a duration, and a sum fails only by overflow. By offsets the same is read: a number that
is cut out is always a literal, and no cut is inside a character. -/
theorem parse_grammar (s : String) :
    (∀ d, parse s = .ok d ↔ Reads s d) ∧
    (∀ ts, (∃ d, ofSeconds (total ts) = .ok d) ∨
      ofSeconds (total ts) = .error (.overflow (total ts))) ∧
    scan s = (parse s).mapError .refused ∧
    (∀ number whole, scan s ≠ .error (.number number whole)) ∧
    ∀ start stop, scan s ≠ .error (.cut start stop) := by
  have hrefused {fault : ScanFault} (h : scan s = .error fault) : ∃ e, fault = .refused e := by
    rw [scan_eq_parse] at h
    cases hparse : parse s with
    | error e =>
      rw [hparse] at h
      cases h
      exact ⟨e, rfl⟩
    | ok d =>
      rw [hparse] at h
      cases h
  refine ⟨fun d => parse_eq_ok_iff, ofSeconds_total, scan_eq_parse s, ?_, ?_⟩
  · intro number whole h
    obtain ⟨e, he⟩ := hrefused h
    cases he
  · intro start stop h
    obtain ⟨e, he⟩ := hrefused h
    cases he

end DataAccess.Duration
