import DataAccess.Duration.Grammar
import DataAccess.Proofs.Number.Nearest
import DataAccess.Proofs.Text.Trim

/-!
# The texts of durations

Which texts are read as a duration, and as which one. `Spelled` says how terms are written: blanks, a
number, and the name of a unit up to the last letter. `Reads` adds what may stand around them.

* `terms_eq_ok_iff`: terms are read from the texts that spell them, and from no others;
* `ofSeconds_total`: a sum of terms is a duration, or an overflow;
* `parse_eq_ok_iff`: what is read, for all texts.
-/

namespace DataAccess.Duration

open Number Text

/-! ### Units -/

/-- The names of a unit. -/
def Unit.names : Unit → List (List Char)
  | .nanosecond => [['n', 's']]
  | .microsecond => [['u', 's'], ['\u00b5', 's'], ['\u03bc', 's']]
  | .millisecond => [['m', 's']]
  | .second => [['s']]
  | .minute => [['m']]
  | .hour => [['h']]

theorem Unit.ofName?_eq_some_iff {name : List Char} {u : Unit} :
    Unit.ofName? name = some u ↔ name ∈ u.names := by
  constructor
  · intro h
    unfold Unit.ofName? at h
    split at h
    all_goals
      cases h
      try simp [Unit.names]
  · intro h
    cases u
    all_goals
      simp only [Unit.names, List.mem_cons, List.not_mem_nil, or_false] at h
    case microsecond => rcases h with rfl | rfl | rfl <;> rfl
    all_goals
      cases h
      rfl

theorem Unit.seconds_pos (u : Unit) : ∃ k, u.seconds = .finite false k ∧ k.val ≠ 0 := by
  refine Binary64.exists_of_pos ?_ ?_
  · cases u
    all_goals decide +kernel
  · cases u
    all_goals decide +kernel

/-! ### Numbers -/

/-- A number with nothing but digits, at least one of them. -/
structure Numeral.WellFormed (n : Numeral) : Prop where
  digits : ∀ c ∈ n.digits, isDigit c = true
  ne_nil : n.digits ≠ []

theorem Numeral.nonNegative_value (n : Numeral) : n.value.NonNegative :=
  Binary64.nonNegative_ofDecimal _ _

theorem isDigit_point : isDigit '.' = false := rfl

section

variable {n : Numeral} {rest : List Char}

theorem Numeral.read_of_point {cs : List Char} (h : cs.dropWhile isDigit = '.' :: rest) :
    read cs = (⟨cs.takeWhile isDigit, some (rest.takeWhile isDigit)⟩, rest.dropWhile isDigit) := by
  unfold read
  rw [h]
  rfl

theorem Numeral.read_of_no_point {cs : List Char}
    (h : ∀ rest, cs.dropWhile isDigit ≠ '.' :: rest) :
    read cs = (⟨cs.takeWhile isDigit, none⟩, cs.dropWhile isDigit) := by
  unfold read
  split
  · next rest heq => exact absurd heq (h rest)
  · rfl

/-- All that is read is digits. -/
theorem Numeral.digits_read (cs : List Char) : ∀ c ∈ (read cs).1.digits, isDigit c = true := by
  intro c hc
  by_cases hpoint : ∃ rest, cs.dropWhile isDigit = '.' :: rest
  · obtain ⟨rest, hrest⟩ := hpoint
    rw [read_of_point hrest] at hc
    rcases List.mem_append.mp hc with h | h
    · exact List.mem_takeWhile_imp h
    · exact List.mem_takeWhile_imp h
  · rw [read_of_no_point (not_exists.mp hpoint)] at hc
    rcases List.mem_append.mp hc with h | h
    · exact List.mem_takeWhile_imp h
    · exact absurd h List.not_mem_nil

/-- A number in front of something else is read as it is. -/
theorem Numeral.read_text_append (hn : ∀ c ∈ n.digits, isDigit c = true)
    (hdigit : ∀ c ∈ rest.head?, isDigit c = false) (hpoint : ∀ c ∈ rest.head?, c ≠ '.') :
    read (n.text ++ rest) = (n, rest) := by
  obtain ⟨whole, fraction⟩ := n
  have hwhole (c : Char) (hc : c ∈ whole) : isDigit c = true := hn c (List.mem_append_left _ hc)
  cases fraction with
  | none =>
    have hafter : (whole ++ rest).dropWhile isDigit = rest := dropWhile_run hwhole hdigit
    have hnone : ∀ more, (whole ++ rest).dropWhile isDigit ≠ '.' :: more := by
      intro more h
      rw [hafter] at h
      exact hpoint '.' (by rw [h]; rfl) rfl
    have htext : text ⟨whole, none⟩ ++ rest = whole ++ rest := rfl
    rw [htext, read_of_no_point hnone, hafter, takeWhile_run hwhole hdigit]
  | some ds =>
    have hds (c : Char) (hc : c ∈ ds) : isDigit c = true := hn c (List.mem_append_right _ hc)
    have hstop : ∀ c ∈ ('.' :: (ds ++ rest)).head?, isDigit c = false := by simp [isDigit_point]
    have htext : text ⟨whole, some ds⟩ ++ rest = whole ++ '.' :: (ds ++ rest) := by
      rw [text, List.append_assoc, List.cons_append]
    rw [htext, read_of_point (dropWhile_run hwhole hstop), takeWhile_run hwhole hstop,
      takeWhile_run hds hdigit, dropWhile_run hds hdigit]

end

/-! ### Sums -/

/-- A sum of terms is not negative. -/
theorem nonNegative_total (ts : List (Numeral × Unit)) : (total ts).NonNegative := by
  have hsum (sum : Binary64) (hsum : sum.NonNegative) : (ts.foldl
      (fun sum t => sum + t.1.value * t.2.seconds) sum).NonNegative := by
    induction ts generalizing sum with
    | nil => exact hsum
    | cons t ts ih =>
      obtain ⟨k, hk, hpos⟩ := t.2.seconds_pos
      refine ih _ (hsum.add ?_)
      rw [hk]
      exact t.1.nonNegative_value.mul hpos
  exact hsum _ (Binary64.nonNegative_ofNat 0)

/-- **A sum of terms is a duration, or an overflow.** -/
theorem ofSeconds_total (ts : List (Numeral × Unit)) :
    (∃ d, ofSeconds (total ts) = .ok d) ∨
      ofSeconds (total ts) = .error (.overflow (total ts)) := by
  rcases nonNegative_total ts with h | ⟨k, h⟩
  · rw [h]
    exact .inr rfl
  · rw [h]
    unfold ofSeconds
    simp only [Bool.false_and, Bool.false_eq_true, if_false]
    split
    · exact .inl ⟨_, rfl⟩
    · exact .inr rfl

/-! ### Terms -/

/-- A text that spells terms: each is blanks, a number and the name of its unit, which goes on up to
the last letter. -/
inductive Spelled : List (Numeral × Unit) → List Char → Prop
  | nil : Spelled [] []
  | cons {n : Numeral} {u : Unit} {ts : List (Numeral × Unit)} {blanks name rest : List Char}
    (hblanks : ∀ c ∈ blanks, isBlank c = true) (hnumber : n.WellFormed) (hname : name ∈ u.names)
    (hend : ∀ c ∈ rest.head?, isAlphabetic c = false) (hrest : Spelled ts rest) :
    Spelled ((n, u) :: ts) (blanks ++ n.text ++ name ++ rest)

/-- The names of units are letters. -/
theorem Unit.names_spec {u : Unit} {name : List Char} (h : name ∈ u.names) :
    name ≠ [] ∧ (∀ c ∈ name, isAlphabetic c = true) ∧
      ∀ c ∈ name.head?, isDigit c = false ∧ c ≠ '.' := by
  have hone {x : Char} (hx : isAlphabetic x = true ∧ isDigit x = false ∧ x ≠ '.') :
      [x] ≠ [] ∧ (∀ c ∈ [x], isAlphabetic c = true) ∧
        ∀ c ∈ [x].head?, isDigit c = false ∧ c ≠ '.' := by
    simpa using hx
  have htwo {x : Char} (hx : isAlphabetic x = true ∧ isDigit x = false ∧ x ≠ '.') :
      [x, 's'] ≠ [] ∧ (∀ c ∈ [x, 's'], isAlphabetic c = true) ∧
        ∀ c ∈ [x, 's'].head?, isDigit c = false ∧ c ≠ '.' := by
    have hs : isAlphabetic 's' = true := isAlphabetic_of_isAlpha (by decide)
    simpa [hs] using hx
  cases u
  all_goals
    simp only [Unit.names, List.mem_cons, List.not_mem_nil, or_false] at h
  case nanosecond => exact h ▸ htwo (by decide +kernel)
  case microsecond =>
    rcases h with rfl | rfl | rfl
    · exact htwo (by decide +kernel)
    · exact htwo (by decide +kernel)
    · exact htwo (by decide +kernel)
  case millisecond => exact h ▸ htwo (by decide +kernel)
  case second => exact h ▸ hone (by decide +kernel)
  case minute => exact h ▸ hone (by decide +kernel)
  case hour => exact h ▸ hone (by decide +kernel)

/-- A number starts with a digit or a point. -/
theorem Numeral.WellFormed.head_text {n : Numeral} (h : n.WellFormed) :
    ∃ c cs, n.text = c :: cs ∧ (isDigit c = true ∨ c = '.') := by
  obtain ⟨whole, fraction⟩ := n
  obtain ⟨hdigits, hne⟩ := h
  cases whole with
  | cons c cs =>
    have hc : isDigit c = true := hdigits c List.mem_cons_self
    cases fraction with
    | none => exact ⟨c, cs, rfl, .inl hc⟩
    | some ds => exact ⟨c, cs ++ '.' :: ds, rfl, .inl hc⟩
  | nil =>
    cases fraction with
    | none => exact absurd rfl hne
    | some ds => exact ⟨'.', ds, rfl, .inr rfl⟩

theorem isBlank_of_isDigit {c : Char} (h : isDigit c = true) : isBlank c = false := by
  rw [isDigit, Char.isDigit, Bool.and_eq_true, decide_eq_true_eq, decide_eq_true_eq] at h
  have hlow : 48 ≤ c.toNat := h.1
  have hhigh : c.toNat ≤ 57 := h.2
  simp only [isBlank, Bool.or_eq_false_iff, Bool.and_eq_false_iff, decide_eq_false_iff_not,
    beq_eq_false_iff_ne]
  omega

theorem Numeral.WellFormed.noBlank {n : Numeral} (h : n.WellFormed) (cs : List Char) :
    ∀ c ∈ (n.text ++ cs).head?, isBlank c = false := by
  obtain ⟨c, rest, htext, hc⟩ := h.head_text
  rw [htext]
  intro d hd
  obtain rfl : c = d := by simpa using hd
  rcases hc with hc | rfl
  · exact isBlank_of_isDigit hc
  · rfl

variable {whole : String} {cs : List Char} {ts : List (Numeral × Unit)}

/-- What one term and the rest of a text are read as. -/
theorem terms_cons {n : Numeral} {u : Unit} {blanks name rest : List Char}
    (hblanks : ∀ c ∈ blanks, isBlank c = true) (hnumber : n.WellFormed) (hname : name ∈ u.names)
    (hend : ∀ c ∈ rest.head?, isAlphabetic c = false) :
    terms whole (blanks ++ n.text ++ name ++ rest) = (terms whole rest).map ((n, u) :: ·) := by
  obtain ⟨hne, hletters, hhead⟩ := Unit.names_spec hname
  obtain ⟨c, name, rfl⟩ := List.exists_cons_of_ne_nil hne
  have hstart : (blanks ++ n.text ++ (c :: name) ++ rest).dropWhile isBlank =
      n.text ++ (c :: name ++ rest) := by
    rw [List.append_assoc, List.append_assoc]
    exact dropWhile_run hblanks (hnumber.noBlank _)
  have hread : Numeral.read (n.text ++ (c :: name ++ rest)) = (n, c :: name ++ rest) :=
    Numeral.read_text_append hnumber.digits (fun d hd => (hhead d hd).1)
      (fun d hd => (hhead d hd).2)
  have hempty : ¬ (n.text ++ (c :: name ++ rest)).isEmpty = true := by simp
  rw [terms, hstart, if_neg hempty]
  simp only [hread, dif_neg hnumber.ne_nil, unitRun, afterUnit, takeWhile_run hletters hend,
    dropWhile_run hletters hend, Unit.ofName?_eq_some_iff.mpr hname]

/-- Terms are read from a text that spells them. -/
theorem terms_of_spelled (h : Spelled ts cs) : terms whole cs = .ok ts := by
  induction h with
  | nil =>
    rw [terms]
    rfl
  | cons hblanks hnumber hname hend hrest ih =>
    rw [terms_cons hblanks hnumber hname hend, ih]
    rfl

/-- What a text goes on with ends like the text. -/
theorem getLast?_of_suffix {rest : List Char} (h : rest <:+ cs)
    (hcs : ∀ c ∈ cs.getLast?, isBlank c = false) : ∀ c ∈ rest.getLast?, isBlank c = false := by
  obtain ⟨before, rfl⟩ := h
  intro c hc
  refine hcs c ?_
  rw [Option.mem_def, List.getLast?_append, Option.mem_def.mp hc]
  rfl

theorem eq_nil_of_blank (hcs : ∀ c ∈ cs.getLast?, isBlank c = false)
    (h : cs.dropWhile isBlank = []) : cs = [] := by
  rw [List.dropWhile_eq_nil_iff] at h
  cases hlast : cs.getLast? with
  | none => exact List.getLast?_eq_none_iff.mp hlast
  | some c =>
    have hblank := h c (List.mem_of_getLast? hlast)
    rw [hcs c hlast] at hblank
    cases hblank

/-- A text without a blank at its end is read as terms only if it spells them. -/
theorem spelled_of_terms (hcs : ∀ c ∈ cs.getLast?, isBlank c = false)
    (h : terms whole cs = .ok ts) : Spelled ts cs := by
  fun_induction terms whole cs generalizing ts with
  | case1 cs start =>
    rename_i hempty
    -- Blanks are left at most, and as the text does not end in one there are none.
    obtain rfl := eq_nil_of_blank hcs (List.isEmpty_iff.mp hempty)
    cases h
    exact .nil
  | case2 => cases h
  | case3 => cases h
  | case4 => cases h
  | case5 cs start hempty n hdigits u hname hunit =>
    rename_i ih
    have hstart : cs.takeWhile isBlank ++ start = cs := List.takeWhile_append_dropWhile
    have hread : n.1.text ++ n.2 = start := Numeral.read_append _
    have hafter : unitRun n.2 ++ afterUnit n.2 = n.2 := List.takeWhile_append_dropWhile
    have hterm : cs.takeWhile isBlank ++ n.1.text ++ unitRun n.2 ++ afterUnit n.2 = cs := by
      rw [List.append_assoc, List.append_assoc, hafter, hread, hstart]
    cases hrest : terms whole (afterUnit n.2) with
    | error e =>
      rw [hrest] at h
      cases h
    | ok ts =>
      rw [hrest] at h
      cases h
      rw [← hterm]
      exact .cons (fun _ => List.mem_takeWhile_imp) ⟨Numeral.digits_read _, hdigits⟩
        (Unit.ofName?_eq_some_iff.mp hunit) (head_dropWhile _ _)
        (ih (getLast?_of_suffix ⟨_, hterm⟩ hcs) hrest)

theorem terms_eq_ok_iff (hcs : ∀ c ∈ cs.getLast?, isBlank c = false) :
    terms whole cs = .ok ts ↔ Spelled ts cs :=
  ⟨spelled_of_terms hcs, terms_of_spelled⟩

/-! ### Texts -/

/-- What a text is without the blanks around it and without at most one plus sign in front. -/
def Body (s : String) (body : List Char) : Prop :=
  trimChars s.toList = body ∨ trimChars s.toList = '+' :: body

/-- A text that writes one term or more. -/
def Writes (s : String) (ts : List (Numeral × Unit)) : Prop :=
  ts ≠ [] ∧ ∃ body, Body s body ∧ Spelled ts body

/-- A text that is a duration: a bare zero, or terms with a sum that is one. -/
inductive Reads (s : String) : Duration → Prop
  | zero (h : Body s ['0']) : Reads s .zero
  | terms {ts : List (Numeral × Unit)} {d : Duration} (h : Writes s ts)
    (hsum : ofSeconds (total ts) = .ok d) : Reads s d

theorem body_dropPlus (s : String) : Body s (dropPlus (trimChars s.toList)) := by
  unfold Body
  unfold dropPlus
  split
  · next h => exact .inr h
  · exact .inl rfl

theorem getLast?_trimChars (cs : List Char) : ∀ c ∈ (trimChars cs).getLast?, isBlank c = false := by
  rw [trimChars, trimEnd, List.getLast?_reverse]
  exact head_dropWhile _ _

theorem dropPlus_suffix (cs : List Char) : dropPlus cs <:+ cs := by
  fun_cases dropPlus cs with
  | case1 rest => exact ⟨['+'], rfl⟩
  | case2 => exact List.suffix_rfl

/-- A text that spells terms is longer than a bare zero and does not start with a sign. -/
theorem Spelled.start (h : Spelled ts cs) (hts : ts ≠ []) :
    cs ≠ [] ∧ cs ≠ ['0'] ∧ ∀ c ∈ cs.head?, c ≠ '+' ∧ c ≠ '-' := by
  cases h with
  | nil => exact absurd rfl hts
  | @cons n u ts blanks name rest hblanks hnumber hname hend hrest =>
    obtain ⟨c, text, htext, hc⟩ := hnumber.head_text
    obtain ⟨d, name, rfl⟩ := List.exists_cons_of_ne_nil (Unit.names_spec hname).1
    have hlength : 2 ≤ (blanks ++ n.text ++ (d :: name) ++ rest).length := by
      rw [htext]
      simp only [List.length_append, List.length_cons]
      omega
    refine ⟨?_, ?_, ?_⟩
    · rintro heq
      rw [heq] at hlength
      simp at hlength
    · rintro heq
      rw [heq] at hlength
      simp at hlength
    · intro x hx
      rw [htext] at hx
      cases blanks with
      | nil =>
        obtain rfl : c = x := by simpa using hx
        constructor
        · rintro rfl
          simp [isDigit] at hc
        · rintro rfl
          simp [isDigit] at hc
      | cons b blanks =>
        obtain rfl : b = x := by simpa using hx
        have hb := hblanks b List.mem_cons_self
        constructor
        · rintro rfl
          cases hb
        · rintro rfl
          cases hb

/-- How a text is read after its sign. `whole` is the text shown in errors. -/
def parseBody (whole : String) (body : List Char) : Except Error Duration :=
  if body = ['0'] then .ok zero
  else
    match terms whole body with
    | .error e => .error e
    | .ok [] => .error (.numberExpected whole)
    | .ok ts => ofSeconds (total ts)

/-- How a text is read that does not start with a minus sign. -/
theorem parse_of_trimmed {s : String} {c : Char} (h : trimChars s.toList = c :: cs)
    (hminus : c ≠ '-') :
    parse s = parseBody (String.ofList (c :: cs)) (dropPlus (c :: cs)) := by
  unfold parse
  rw [h]
  dsimp only
  split
  · next heq => cases heq
  · next heq =>
    cases heq
    exact absurd rfl hminus
  · rfl

theorem dropPlus_of_ne {c : Char} (h : c ≠ '+') (cs : List Char) : dropPlus (c :: cs) = c :: cs := by
  unfold dropPlus
  split
  · next heq =>
    cases heq
    exact absurd rfl h
  · rfl

/-- How a text is read whose body starts with no sign. -/
theorem parse_of_body {s : String} {body : List Char} (h : Body s body) (hne : body ≠ [])
    (hsign : ∀ c ∈ body.head?, c ≠ '+' ∧ c ≠ '-') : ∃ whole, parse s = parseBody whole body := by
  obtain ⟨c, body, rfl⟩ := List.exists_cons_of_ne_nil hne
  obtain ⟨hplus, hminus⟩ := hsign c rfl
  rcases h with h | h
  · have hparse := parse_of_trimmed h hminus
    rw [dropPlus_of_ne hplus] at hparse
    exact ⟨_, hparse⟩
  · exact ⟨_, parse_of_trimmed h (by decide)⟩

theorem parse_of_zero {s : String} (h : Body s ['0']) : parse s = .ok zero := by
  obtain ⟨whole, hparse⟩ := parse_of_body h (by simp) (by simp)
  rw [hparse, parseBody, if_pos rfl]

theorem parse_of_writes {s : String} (h : Writes s ts) : parse s = ofSeconds (total ts) := by
  obtain ⟨hts, body, hbody, hspelled⟩ := h
  obtain ⟨hne, hzero, hsign⟩ := hspelled.start hts
  obtain ⟨whole, hparse⟩ := parse_of_body hbody hne hsign
  obtain ⟨t, ts, rfl⟩ := List.exists_cons_of_ne_nil hts
  rw [hparse, parseBody, if_neg hzero, terms_of_spelled hspelled]

/-- **Which texts are durations**, and which ones they are. -/
theorem parse_eq_ok_iff {s : String} {d : Duration} : parse s = .ok d ↔ Reads s d := by
  constructor
  · intro h
    have hbody := body_dropPlus s
    have hlast := getLast?_of_suffix (dropPlus_suffix _) (getLast?_trimChars s.toList)
    unfold parse at h
    dsimp only at h
    split at h
    · cases h
    · cases h
    · split at h
      · next hzero =>
        rw [hzero] at hbody
        cases h
        exact .zero hbody
      · split at h
        · cases h
        · cases h
        · next ts hne hterms =>
          exact .terms ⟨hne, _, hbody, (terms_eq_ok_iff hlast).mp hterms⟩ h
  · intro h
    cases h with
    | zero h => exact parse_of_zero h
    | terms h hsum => rw [parse_of_writes h, hsum]

end DataAccess.Duration
