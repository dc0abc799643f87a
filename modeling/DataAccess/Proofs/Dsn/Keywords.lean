import DataAccess.Dsn.Keywords

/-!
# Keyword lists are read as they were written

`Renders` says how a list of pairs may be written: each as key, `=` and value, with blanks around
the `=`, at least one blank between two pairs, and any at the ends. A value stands in quotes, or
unless it is empty without them; a backslash is put before whatever would be taken for something
else. There are many texts for one list, and `parse_renders` reads each of them as that list.
-/

namespace DataAccess.Dsn.Keywords

open Text

/-! ## Texts -/

/-- Nothing but blanks. -/
def Blanks (cs : List Char) : Prop := ∀ c ∈ cs, isBlank c = true

/-- A key that can be written: it is not empty, and neither `=` nor a blank is in it. -/
def IsKey (key : String) : Prop := key ≠ "" ∧ ∀ c ∈ key.toList, isKeyChar c = true

instance (cs : List Char) : Decidable (Blanks cs) :=
  decidable_of_iff (cs.all isBlank = true) List.all_eq_true

instance (key : String) : Decidable (IsKey key) :=
  decidable_of_iff (key ≠ "" ∧ key.toList.all isKeyChar = true)
    (and_congr_right fun _ => List.all_eq_true)

/-- What needs a backslash in quotes. -/
def inQuotes (c : Char) : Bool := c == '\\' || c == '\''

/-- What needs a backslash without quotes. -/
def inPlain (c : Char) : Bool := inQuotes c || isBlank c

/-- A text with a backslash before every special character. -/
def escape (special : Char → Bool) (cs : List Char) : List Char :=
  cs.flatMap fun c => if special c then ['\\', c] else [c]

/-- The texts of a value. -/
inductive ValueText : List Char → List Char → Prop
  | quoted (v : List Char) : ValueText v ('\'' :: (escape inQuotes v ++ ['\'']))
  | plain {v : List Char} (h : v ≠ []) : ValueText v (escape inPlain v)

/-- The texts of a pair. -/
inductive PairText : String × String → List Char → Prop
  | mk {key value : String} {before after text : List Char} (hbefore : Blanks before)
      (hafter : Blanks after) (htext : ValueText value.toList text) :
      PairText (key, value) (key.toList ++ before ++ '=' :: (after ++ text))

/-- The texts of the pairs that follow another pair. -/
inductive RestText : List (String × String) → List Char → Prop
  | nil {gap : List Char} (hgap : Blanks gap) : RestText [] gap
  | cons {pair : String × String} {pairs : List (String × String)} {gap text rest : List Char}
      (hgap : Blanks gap) (hne : gap ≠ []) (htext : PairText pair text)
      (hrest : RestText pairs rest) : RestText (pair :: pairs) (gap ++ text ++ rest)

/-- The texts of a list of pairs. -/
inductive Renders : List (String × String) → List Char → Prop
  | nil {gap : List Char} (hgap : Blanks gap) : Renders [] gap
  | cons {pair : String × String} {pairs : List (String × String)} {gap text rest : List Char}
      (hgap : Blanks gap) (htext : PairText pair text) (hrest : RestText pairs rest) :
      Renders (pair :: pairs) (gap ++ text ++ rest)

/-! ## Values -/

section

variable {special : Char → Bool} {c : Char} {v text rest : List Char}

@[simp] theorem escape_nil : escape special [] = [] := rfl

theorem escape_cons_special (h : special c = true) :
    escape special (c :: v) = '\\' :: c :: escape special v := by
  simp [escape, h]

theorem escape_cons_other (h : special c = false) :
    escape special (c :: v) = c :: escape special v := by
  simp [escape, h]

theorem quotedValue_escape (v rest : List Char) :
    quotedValue (escape inQuotes v ++ '\'' :: rest) = some (v, rest) := by
  induction v with
  | nil => simp [quotedValue]
  | cons c v ih =>
    cases hc : inQuotes c with
    | true =>
      rw [escape_cons_special hc, List.cons_append, List.cons_append, quotedValue, ih]
      rfl
    | false =>
      obtain ⟨hback, hquote⟩ : c ≠ '\\' ∧ c ≠ '\'' := by simpa [inQuotes] using hc
      rw [escape_cons_other hc, List.cons_append, quotedValue, ih]
      · rfl
      all_goals simp_all

/-- A text that a value without quotes cannot run into. -/
def Parted (rest : List Char) : Prop := ∀ c ∈ rest.head?, isBlank c = true

theorem plainValue_backslash (c : Char) (rest : List Char) :
    plainValue ('\\' :: c :: rest) = push c (plainValue rest) := rfl

theorem plainValue_cons {c : Char} (hc : c ≠ '\\') (rest : List Char) :
    plainValue (c :: rest) = if isBlank c then ([], c :: rest) else push c (plainValue rest) := by
  rw [plainValue.eq_def]
  split <;> simp_all

theorem plainValue_parted (h : Parted rest) : plainValue rest = ([], rest) := by
  cases rest with
  | nil => rfl
  | cons c rest =>
    have hc : isBlank c = true := h c rfl
    have hback : c ≠ '\\' := by
      rintro rfl
      revert hc
      decide
    rw [plainValue_cons hback, if_pos hc]

theorem plainValue_escape (v : List Char) (h : Parted rest) :
    plainValue (escape inPlain v ++ rest) = (v, rest) := by
  induction v with
  | nil => exact plainValue_parted h
  | cons c v ih =>
    cases hc : inPlain c with
    | true =>
      rw [escape_cons_special hc, List.cons_append, List.cons_append, plainValue_backslash, ih]
      rfl
    | false =>
      obtain ⟨⟨hback, -⟩, hblank⟩ : (c ≠ '\\' ∧ c ≠ '\'') ∧ isBlank c = false := by
        simpa [inPlain, inQuotes] using hc
      rw [escape_cons_other hc, List.cons_append, plainValue_cons hback, ih]
      simp [hblank, push]

/-- Without quotes a value starts with a backslash or a character that needs none. -/
theorem escape_plain_head (h : v ≠ []) :
    ∃ c tail, escape inPlain v = c :: tail ∧ isBlank c = false ∧ c ≠ '\'' := by
  obtain ⟨c, v, rfl⟩ := List.exists_cons_of_ne_nil h
  cases hc : inPlain c with
  | true => exact ⟨'\\', _, escape_cons_special hc, by decide, by decide⟩
  | false =>
    refine ⟨c, _, escape_cons_other hc, ?_⟩
    simp_all [inPlain, inQuotes]

theorem ValueText.head (h : ValueText v text) : ∃ c tail, text = c :: tail ∧ isBlank c = false := by
  cases h with
  | quoted => exact ⟨'\'', _, rfl, by decide⟩
  | plain hne =>
    obtain ⟨c, tail, htext, hblank, -⟩ := escape_plain_head hne
    exact ⟨c, tail, htext, hblank⟩

/-- A value is read back, and what follows it is left. -/
theorem ValueText.read (h : ValueText v text) (hrest : Parted rest) :
    value (text ++ rest) = some (v, rest) := by
  cases h with
  | quoted => simpa [value] using quotedValue_escape v rest
  | plain hne =>
    obtain ⟨c, tail, htext, -, hquote⟩ := escape_plain_head hne
    have hplain := plainValue_escape v hrest
    rw [htext] at hplain ⊢
    rw [value, hplain]
    simp [hquote]

/-! ## Lists -/

theorem dropWhile_blanks {gap : List Char} (h : Blanks gap) (cs : List Char) :
    (gap ++ cs).dropWhile isBlank = cs.dropWhile isBlank :=
  List.dropWhile_append_of_pos h

theorem parse_blanks {gap : List Char} (h : Blanks gap) : parse gap = .ok [] := by
  have hnone : gap.dropWhile isBlank = [] := by simpa using dropWhile_blanks h []
  rw [parse]
  split
  · rfl
  · simp_all

/-- What `parse` does with the first pair of a text. -/
theorem parse_cut {cs key after : List Char} {first : Char} {tail : List Char}
    (hfirst : cs.dropWhile isBlank = first :: tail)
    (hkey : (first :: tail).takeWhile isKeyChar = key) (hne : key ≠ [])
    (hafter : ((first :: tail).dropWhile isKeyChar).dropWhile isBlank = '=' :: after)
    (hvalue : value (after.dropWhile isBlank) = some (v, rest)) :
    parse cs = (parse rest).map ((String.ofList key, String.ofList v) :: ·) := by
  rw [parse]
  split
  · simp_all
  · next first' tail' hfirst' =>
    obtain ⟨rfl, rfl⟩ := List.cons.inj (hfirst.symm.trans hfirst')
    split
    · next after' hafter' =>
      obtain ⟨-, rfl⟩ := List.cons.inj (hafter.symm.trans hafter')
      rw [hkey, if_neg (by simpa using hne)]
      split
      · simp_all
      · next v' rest' hvalue' =>
        obtain ⟨rfl, rfl⟩ : v' = v ∧ rest' = rest := by simp_all
        rfl
    · simp_all

/-- A key ends where its `=` or a blank in front of it stands. -/
theorem key_cut {key before : List Char} (hkey : ∀ c ∈ key, isKeyChar c = true)
    (hbefore : Blanks before) (after : List Char) :
    (key ++ (before ++ '=' :: after)).takeWhile isKeyChar = key ∧
      (key ++ (before ++ '=' :: after)).dropWhile isKeyChar = before ++ '=' :: after := by
  rw [List.takeWhile_append_of_pos hkey, List.dropWhile_append_of_pos hkey]
  cases before with
  | nil => simp [isKeyChar]
  | cons b before => simp [isKeyChar, hbefore b List.mem_cons_self]

/-- The first pair of a text is read back, and the rest is read after it. -/
theorem PairText.read {pair : String × String} {gap : List Char} (hgap : Blanks gap)
    (hkey : IsKey pair.1) (h : PairText pair text) (hrest : Parted rest) :
    parse (gap ++ text ++ rest) = (parse rest).map (pair :: ·) := by
  obtain @⟨key, val, before, after, vtext, hbefore, hafter, hvalue⟩ := h
  obtain ⟨hne, hchars⟩ := hkey
  have hne : key.toList ≠ [] := by simpa using hne
  obtain ⟨c, k, hk⟩ := List.exists_cons_of_ne_nil hne
  obtain ⟨d, tail, hd, hblank⟩ := hvalue.head
  have hc : isBlank c = false := by
    have := hchars c (by simp [hk])
    simp_all [isKeyChar]
  obtain ⟨htake, hdrop⟩ := key_cut hchars hbefore (after ++ (vtext ++ rest))
  have hfirst : (gap ++ (key.toList ++ (before ++ '=' :: (after ++ (vtext ++ rest))))).dropWhile
      isBlank = c :: (k ++ (before ++ '=' :: (after ++ (vtext ++ rest)))) := by
    rw [dropWhile_blanks hgap, hk, List.cons_append, List.dropWhile_cons_of_neg (by simp [hc])]
  rw [hk, List.cons_append] at htake hdrop
  have hequals : (before ++ '=' :: (after ++ (vtext ++ rest))).dropWhile isBlank =
      '=' :: (after ++ (vtext ++ rest)) := by
    rw [dropWhile_blanks hbefore, List.dropWhile_cons_of_neg (by decide)]
  have hread : value ((after ++ (vtext ++ rest)).dropWhile isBlank) = some (val.toList, rest) := by
    rw [dropWhile_blanks hafter, hd, List.cons_append,
      List.dropWhile_cons_of_neg (by simp [hblank]), ← List.cons_append, ← hd, hvalue.read hrest]
  have hcut := parse_cut hfirst htake (by simp) ((congrArg _ hdrop).trans hequals) hread
  rw [← hk, String.ofList_toList, String.ofList_toList] at hcut
  simpa using hcut

theorem RestText.parted {pairs : List (String × String)} (h : RestText pairs rest) :
    Parted rest := by
  cases h with
  | nil hgap => exact fun c hc => hgap c (List.mem_of_mem_head? hc)
  | cons hgap hne =>
    obtain ⟨b, gap, rfl⟩ := List.exists_cons_of_ne_nil hne
    simpa [Parted] using hgap b List.mem_cons_self

theorem RestText.read {pairs : List (String × String)} (h : RestText pairs rest)
    (hkeys : ∀ pair ∈ pairs, IsKey pair.1) : parse rest = .ok pairs := by
  induction h with
  | nil hgap => exact parse_blanks hgap
  | cons hgap _ htext hrest ih =>
    obtain ⟨hkey, hkeys⟩ := List.forall_mem_cons.mp hkeys
    rw [htext.read hgap hkey hrest.parted, ih hkeys]
    rfl

end

/-! ## The text in quotes -/

/-- A pair with its value in quotes and no blanks. -/
def quotedPair (pair : String × String) : List Char :=
  pair.1.toList ++ '=' :: '\'' :: (escape inQuotes pair.2.toList ++ ['\''])

/-- The text of a list of pairs that has every value in quotes and one space between two pairs. -/
def render (pairs : List (String × String)) : List Char :=
  [' '].intercalate (pairs.map quotedPair)

theorem pairText_quotedPair (pair : String × String) : PairText pair (quotedPair pair) := by
  have htext := @PairText.mk pair.1 pair.2 [] [] _ nofun nofun (.quoted _)
  rwa [List.append_nil] at htext

theorem restText_flatMap (pairs : List (String × String)) :
    RestText pairs (pairs.flatMap fun pair => ' ' :: quotedPair pair) := by
  induction pairs with
  | nil => exact .nil nofun
  | cons pair pairs ih =>
    have hgap : Blanks [' '] := by decide
    exact .cons hgap (List.cons_ne_nil _ _) (pairText_quotedPair pair) ih

theorem render_cons (pair : String × String) (pairs : List (String × String)) :
    render (pair :: pairs) =
      quotedPair pair ++ pairs.flatMap fun pair => ' ' :: quotedPair pair := by
  induction pairs generalizing pair with
  | nil => simp [render]
  | cons next pairs ih =>
    rw [render, List.map_cons, List.map_cons, List.intercalate_cons_cons, ← List.map_cons, ← render,
      ih]
    simp

theorem parse_render {pairs : List (String × String)} (hkeys : ∀ pair ∈ pairs, IsKey pair.1) :
    parse (render pairs) = .ok pairs := by
  cases pairs with
  | nil => exact parse_blanks nofun
  | cons pair pairs =>
    obtain ⟨hkey, hkeys⟩ := List.forall_mem_cons.mp hkeys
    have hrest := restText_flatMap pairs
    have hgap : Blanks [] := nofun
    have hread := (pairText_quotedPair pair).read hgap hkey hrest.parted
    rw [render_cons, ← List.nil_append (quotedPair pair), hread, hrest.read hkeys]
    rfl

theorem trimChars_of_ends {first last : Char} {cs lead : List Char} (hfirst : isBlank first = false)
    (hlast : isBlank last = false) (hcs : first :: cs = lead ++ [last]) :
    trimChars (first :: cs) = first :: cs := by
  have hstart : (first :: cs).dropWhile isBlank = first :: cs :=
    List.dropWhile_cons_of_neg (by simp [hfirst])
  rw [trimChars, hstart, hcs, trimEnd, List.reverse_append, List.reverse_singleton,
    List.singleton_append, List.dropWhile_cons_of_neg (by simp [hlast])]
  simp

theorem render_eq_concat (pair : String × String) (pairs : List (String × String)) :
    ∃ lead, render (pair :: pairs) = lead ++ ['\''] := by
  induction pairs generalizing pair with
  | nil =>
    refine ⟨pair.1.toList ++ '=' :: '\'' :: escape inQuotes pair.2.toList, ?_⟩
    simp [render_cons, quotedPair]
  | cons next pairs ih =>
    obtain ⟨lead, hlead⟩ := ih next
    refine ⟨quotedPair pair ++ ' ' :: lead, ?_⟩
    rw [render_cons, List.flatMap_cons, List.cons_append, ← render_cons, hlead]
    simp

/-- No blank stands at the ends of the text: it starts with a key and ends in a quote. -/
theorem trimChars_render {pairs : List (String × String)} (hkeys : ∀ pair ∈ pairs, IsKey pair.1) :
    trimChars (render pairs) = render pairs := by
  cases pairs with
  | nil => rfl
  | cons pair pairs =>
    obtain ⟨hne, hchars⟩ := (List.forall_mem_cons.mp hkeys).1
    obtain ⟨c, key, hkey⟩ := List.exists_cons_of_ne_nil (mt String.toList_eq_nil_iff.mp hne)
    have hc : isBlank c = false := by
      have := hchars c (by simp [hkey])
      simp_all [isKeyChar]
    obtain ⟨lead, hlead⟩ := render_eq_concat pair pairs
    obtain ⟨tail, htail⟩ : ∃ tail, render (pair :: pairs) = c :: tail := by
      rw [render_cons, quotedPair, hkey]
      exact ⟨_, rfl⟩
    rw [htail] at hlead ⊢
    exact trimChars_of_ends hc (by decide) hlead

theorem parse_trimChars_render {pairs : List (String × String)} {cs : List Char}
    (hkeys : ∀ pair ∈ pairs, IsKey pair.1) (hcs : render pairs = cs) :
    trimChars cs = cs ∧ parse (trimChars cs) = .ok pairs := by
  rw [← hcs, trimChars_render hkeys]
  exact ⟨rfl, parse_render hkeys⟩

/-- **A list of pairs is read back from every text of it.** -/
theorem parse_renders {pairs : List (String × String)} {cs : List Char}
    (hkeys : ∀ pair ∈ pairs, IsKey pair.1) (h : Renders pairs cs) : parse cs = .ok pairs := by
  cases h with
  | nil hgap => exact parse_blanks hgap
  | cons hgap htext hrest =>
    obtain ⟨hkey, hkeys⟩ := List.forall_mem_cons.mp hkeys
    rw [htext.read hgap hkey hrest.parted, hrest.read hkeys]
    rfl

/-- Both kinds of values, with quotes, backslashes and blanks in them, and an empty one. -/
theorem parse_renders_mixed :
    let pairs := [("user", "it's"), ("options", "-c \\"), ("host", "")]
    let text := " user = 'it\\'s'\toptions=-c\\ \\\\ host =\n''  "
    (∀ pair ∈ pairs, IsKey pair.1) ∧ Renders pairs text.toList ∧ parse text.toList = .ok pairs := by
  intro pairs text
  have hkeys : ∀ pair ∈ pairs, IsKey pair.1 := by decide
  have huser : PairText ("user", "it's") "user = 'it\\'s'".toList :=
    @PairText.mk "user" "it's" [' '] [' '] _ (by decide) (by decide) (.quoted _)
  have hoptions : PairText ("options", "-c \\") "options=-c\\ \\\\".toList :=
    @PairText.mk "options" "-c \\" [] [] _ (by decide) (by decide) (.plain (by decide))
  have hhost : PairText ("host", "") "host =\n''".toList :=
    @PairText.mk "host" "" [' '] ['\n'] _ (by decide) (by decide) (.quoted _)
  have hend : RestText [] [' ', ' '] := .nil (by decide)
  have hlast := RestText.cons (by decide : Blanks [' ']) (by decide) hhost hend
  have hrest := RestText.cons (by decide : Blanks ['\t']) (by decide) hoptions hlast
  have htext : text.toList = [' '] ++ "user = 'it\\'s'".toList ++ (['\t'] ++
      "options=-c\\ \\\\".toList ++ ([' '] ++ "host =\n''".toList ++ [' ', ' '])) := by decide
  have hrenders : Renders pairs text.toList :=
    htext ▸ .cons (by decide : Blanks [' ']) huser hrest
  exact ⟨hkeys, hrenders, parse_renders hkeys hrenders⟩

end DataAccess.Dsn.Keywords
