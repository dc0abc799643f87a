import DataAccess.Proofs.Number.Digits
import DataAccess.Proofs.Url.Address
import DataAccess.Proofs.Url.WellFormed

/-!
# URLs read back

A well-formed URL is read from its text with the same parts (`Location.parse_chars`): no part spills
into another one.
-/

namespace DataAccess.Url

open Number Percent
open Text (forall_of_ofNat)

/-- What stands between the slashes and the path. -/
def authority (u : Url) : List Char := u.userinfoText ++ (u.host.text ++ u.portText)

/-- What stands after the authority. -/
def after (u : Url) : List Char := u.path ++ (marked '?' u.query ++ marked '#' u.fragment)

variable {u : Url} {x : Char}

theorem chars_eq : u.chars = u.scheme ++ ':' :: '/' :: '/' :: (u.authority ++ u.after) := by
  simp [chars, authority, after]

/-! ## Cutting -/

section Cutting

variable {p : Char → Bool} {cs rest : List Char}

theorem cut_append (hcs : ∀ c ∈ cs, p c = true) (hrest : ∀ c ∈ rest.head?, p c = false) :
    (cs ++ rest).takeWhile p = cs ∧ (cs ++ rest).dropWhile p = rest := by
  rw [List.takeWhile_append_of_pos hcs, List.dropWhile_append_of_pos hcs]
  cases rest with
  | nil => simp
  | cons c rest => simp [hrest c rfl]

theorem cut_mark (hcs : x ∉ cs) :
    (cs ++ x :: rest).takeWhile (· != x) = cs ∧ (cs ++ x :: rest).dropWhile (· != x) = x :: rest :=
  cut_append (fun _ hc => bne_iff_ne.mpr (ne_of_mem_of_not_mem hc hcs)) (by simp)

theorem cut_no_mark (hcs : x ∉ cs) :
    cs.takeWhile (· != x) = cs ∧ cs.dropWhile (· != x) = [] := by
  have hcut := @cut_append (· != x) cs []
    (fun _ hc => bne_iff_ne.mpr (ne_of_mem_of_not_mem hc hcs)) (by simp)
  rwa [List.append_nil] at hcut

end Cutting

/-! ## Characters of the parts -/

theorem isHexDigit_of_isDigit {c : Char} (h : isDigit c = true) : isHexDigit c = true := by
  have h : c.isDigit = true := h
  simp [isHexDigit, hexValue?, h]

theorem mem_portText (h : x ∈ u.portText) : x = ':' ∨ isDigit x = true := by
  unfold portText at h
  split at h
  · cases h
  · exact (List.mem_cons.mp h).imp_right isDigit_of_mem_natText

theorem mem_userinfoText (h : x ∈ u.userinfoText) :
    x ∈ u.username ∨ x ∈ u.password ∨ x = ':' ∨ x = '@' := by
  unfold userinfoText at h
  split at h
  · cases h
  · split at h <;> grind

theorem Host.mem_text {host : Host} (hhost : host.Readable) (h : x ∈ host.text) :
    (isControl x || isForbidden x) = false ∨ x ∈ ['[', ':', ']'] ∨ isHexDigit x = true := by
  cases host with
  | name cs => exact .inl (hhost x h).1
  | address a =>
    simp only [text, List.mem_cons, List.mem_append, List.not_mem_nil, or_false] at h
    rcases h with rfl | h | rfl
    · exact .inr (.inl (by decide))
    · rcases Address.mem_text h with rfl | h
      · exact .inr (.inl (by decide))
      · exact .inr (.inr h)
    · exact .inr (.inl (by decide))

theorem not_mem_place (h : u.WellFormed) (hx : x ∈ ['/', '?', '#', '@']) :
    x ∉ u.host.text ++ u.portText := by
  obtain ⟨hforbidden, hother, hdigit⟩ :
      Host.isForbidden x = true ∧ x ∉ ['[', ':', ']'] ∧ isHexDigit x = false := by
    revert x
    simp only [List.mem_cons, List.not_mem_nil, or_false, forall_eq_or_imp, forall_eq]
    decide
  intro hmem
  rcases List.mem_append.mp hmem with hmem | hmem
  · rcases Host.mem_text h.host hmem with hfree | hmem | hhex
    · simp [hforbidden] at hfree
    · exact hother hmem
    · simp [hdigit] at hhex
  · rcases mem_portText hmem with rfl | hdecimal
    · exact hother (by decide)
    · exact absurd (isHexDigit_of_isDigit hdecimal) (by simp [hdigit])

theorem not_mem_authority (h : u.WellFormed) (hx : x ∈ ['/', '?', '#']) : x ∉ u.authority := by
  obtain ⟨huser, hother, hmark⟩ :
      inUserinfo x = true ∧ x ∉ [':', '@'] ∧ x ∈ ['/', '?', '#', '@'] := by
    revert x
    simp only [List.mem_cons, List.not_mem_nil, or_false, forall_eq_or_imp, forall_eq]
    decide
  intro hmem
  rcases List.mem_append.mp hmem with hmem | hmem
  · rcases mem_userinfoText hmem with hmem | hmem | rfl | rfl
    · exact h.username.not_mem huser hmem
    · exact h.password.not_mem huser hmem
    · exact hother (by decide)
    · exact hother (by decide)
  · exact not_mem_place h hmark hmem

theorem WellFormed.mem_path (h : u.WellFormed) (hx : x ∈ u.path) :
    x = '/' ∨ inPath x = false := by
  obtain ⟨p, hp, htext⟩ := h.path
  exact (Path.mem_text hp (htext ▸ hx)).imp_right And.left

theorem WellFormed.head_path (h : u.WellFormed) : u.path = [] ∨ ∃ cs, u.path = '/' :: cs := by
  obtain ⟨p, -, htext⟩ := h.path
  rw [← htext]
  cases p with
  | nil => exact .inl rfl
  | cons s rest => exact .inr ⟨_, rfl⟩

theorem head_marked (query fragment : Option (List Char)) :
    ∀ c ∈ (marked '?' query ++ marked '#' fragment).head?, Location.endsPath c = true := by
  have hquestion : Location.endsPath '?' = true := by decide
  have hhash : Location.endsPath '#' = true := by decide
  cases query <;> cases fragment <;> simp [marked, hquestion, hhash]

theorem Host.parse_text {host : Host} (h : host.Readable) : parse host.text = .ok host := by
  cases host with
  | address a => simp [parse, text, endsInBracket, Address.ofText?_text]
  | name cs =>
    have hbracket : '[' ∉ cs := h.not_mem (by decide)
    have hfree : cs.any isForbidden = false := by
      rw [List.any_eq_false]
      exact fun c hc => by simp [(Bool.or_eq_false_iff.mp (h c hc).1).2]
    have hsame : encode isControl cs = cs :=
      encode_of_encoded fun c hc => ⟨(Bool.or_eq_false_iff.mp (h c hc).1).1, (h c hc).2⟩
    unfold parse text
    split
    · next heq =>
      dsimp only at heq
      exact absurd (heq ▸ List.mem_cons_self) hbracket
    · rw [hfree, hsame]
      rfl

theorem Host.text_ne_nil {host : Host} (h : host.isEmpty = false) : host.text ≠ [] := by
  cases host with
  | name cs => simpa [isEmpty, text] using h
  | address a => exact List.cons_ne_nil _ _

/-! ## Visible text -/

/-- A text of characters that are neither controls nor blank. -/
def Visible (cs : List Char) : Prop := ∀ c ∈ cs, 32 < c.toNat

theorem lt_toNat_of_ascii {special : Char → Bool} {c : Char}
    (hset : ∀ n < 33, special (Char.ofNat n) = true) (h : special c = false) : 32 < c.toNat := by
  refine Nat.lt_of_not_le fun hle => ?_
  have hspecial := forall_of_ofNat (P := fun c => special c = true) hset c (Nat.lt_succ_of_le hle)
  exact absurd hspecial (by simp [h])

theorem visible_of_encoded {special : Char → Bool} {cs : List Char} (h : Encoded special cs)
    (hset : ∀ n < 33, special (Char.ofNat n) = true) : Visible cs :=
  fun c hc => lt_toNat_of_ascii hset (h c hc).1

theorem Visible.append {cs ds : List Char} (hcs : Visible cs) (hds : Visible ds) :
    Visible (cs ++ ds) :=
  List.forall_mem_append.mpr ⟨hcs, hds⟩

theorem visible_marked {mark : Char} {part : Option (List Char)} (hmark : 32 < mark.toNat)
    (h : ∀ cs ∈ part, Visible cs) : Visible (marked mark part) := by
  cases part with
  | none => exact List.forall_mem_nil _
  | some cs => exact List.forall_mem_cons.mpr ⟨hmark, h cs rfl⟩

theorem lt_toNat_of_isHexDigit {c : Char} (h : isHexDigit c = true) : 32 < c.toNat :=
  @lt_toNat_of_ascii (fun c => !isHexDigit c) c (by decide) (by simpa using h)

theorem visible_brackets : Visible ['[', ':', ']'] := by simp [Visible]

theorem visible_authority (h : u.WellFormed) : Visible u.authority := by
  have huser : ∀ cs, Encoded inUserinfo cs → Visible cs := fun cs hcs =>
    visible_of_encoded hcs (by decide)
  intro c hc
  rcases List.mem_append.mp hc with hc | hc
  · rcases mem_userinfoText hc with hc | hc | rfl | rfl
    · exact huser _ h.username c hc
    · exact huser _ h.password c hc
    · decide
    · decide
  · rcases List.mem_append.mp hc with hc | hc
    · rcases Host.mem_text h.host hc with hfree | hc | hdigit
      · exact @lt_toNat_of_ascii (fun c => isControl c || Host.isForbidden c) c (by decide) hfree
      · exact visible_brackets c hc
      · exact lt_toNat_of_isHexDigit hdigit
    · rcases mem_portText hc with rfl | hdigit
      · decide
      · exact lt_toNat_of_isHexDigit (isHexDigit_of_isDigit hdigit)

theorem visible_after (h : u.WellFormed) : Visible u.after := by
  have hpath : Visible u.path := by
    intro c hc
    rcases h.mem_path hc with rfl | hc
    · decide
    · exact lt_toNat_of_ascii (by decide) hc
  have hquery : Visible (marked '?' u.query) :=
    visible_marked (by decide) fun q hq => visible_of_encoded (h.query q hq) (by decide)
  have hfragment : Visible (marked '#' u.fragment) :=
    visible_marked (by decide) fun f hf =>
      visible_of_encoded (h.fragment f hf) (by decide)
  exact hpath.append (hquery.append hfragment)

theorem visible_chars (h : u.WellFormed) : Visible u.chars := by
  have hscheme : Visible u.scheme :=
    fun c hc => @lt_toNat_of_ascii (fun c => !Location.inScheme c) c (by decide) (by
      simp [(h.inScheme c hc).1])
  have hslashes : Visible "://".toList := by simp [Visible]
  have htail := (hslashes.append (visible_authority h)).append (visible_after h)
  rw [chars_eq]
  simpa using hscheme.append htail

theorem dropWhile_blank {cs : List Char} (h : Visible cs) :
    cs.dropWhile (fun c => decide (c.toNat ≤ 32)) = cs := by
  cases cs with
  | nil => rfl
  | cons c cs =>
    have hc : ¬ c.toNat ≤ 32 := Nat.not_le_of_lt (h c List.mem_cons_self)
    simp [hc]

namespace Location

theorem clean_of_visible {cs : List Char} (h : Visible cs) : clean cs = cs := by
  have hreverse : Visible cs.reverse := fun c hc => h c (List.mem_reverse.mp hc)
  unfold clean
  dsimp only
  rw [dropWhile_blank h, dropWhile_blank hreverse, List.reverse_reverse]
  refine List.filter_eq_self.mpr fun c hc => ?_
  have hc := h c hc
  rw [Bool.not_eq_true', Bool.eq_false_iff]
  intro hpassed
  simp only [Path.isPassedOver, Bool.or_eq_true, beq_iff_eq] at hpassed
  rcases hpassed with (rfl | rfl) | rfl <;> revert hc <;> decide

/-! ## The cuts -/

theorem cutScheme?_scheme (h : u.WellFormed) (rest : List Char) :
    cutScheme? (u.scheme ++ ':' :: rest) = some (u.scheme, rest) := by
  obtain ⟨first, others, hscheme, halpha⟩ := h.scheme
  have hcolon : inScheme ':' = false := by decide
  have hcut := @cut_append inScheme u.scheme (':' :: rest) (fun c hc => (h.inScheme c hc).1)
    (by simp [hcolon])
  have hlower : u.scheme.map Char.toLower = u.scheme :=
    (List.map_congr_left fun c hc => (h.inScheme c hc).2).trans (List.map_id' _)
  rw [hscheme] at hcut hlower ⊢
  unfold cutScheme?
  rw [hcut.1, hcut.2]
  simp [halpha, hlower]

theorem endsAuthority_of_endsPath {c : Char} (h : endsPath c = true) : endsAuthority c = true := by
  simp_all [endsPath, endsAuthority, or_assoc]

theorem cut_authority (h : u.WellFormed) :
    (u.authority ++ u.after).takeWhile (!endsAuthority ·) = u.authority ∧
      (u.authority ++ u.after).dropWhile (!endsAuthority ·) = u.after := by
  refine cut_append (fun c hc => ?_) ?_
  · have hne : ∀ x ∈ ['/', '?', '#'], c ≠ x := fun x hx =>
      ne_of_mem_of_not_mem hc (not_mem_authority h hx)
    simp [endsAuthority, hne]
  · unfold after
    rcases h.head_path with hpath | ⟨cs, hpath⟩
    · have hmarks := head_marked u.query u.fragment
      rw [hpath]
      exact fun c hc => by simp [endsAuthority_of_endsPath (hmarks c hc)]
    · rw [hpath]
      simp [endsAuthority]

theorem cut_path (h : u.WellFormed) :
    u.after.takeWhile (!endsPath ·) = u.path ∧
      u.after.dropWhile (!endsPath ·) = marked '?' u.query ++ marked '#' u.fragment := by
  have hmarks := head_marked u.query u.fragment
  refine cut_append (fun c hc => ?_) (fun c hc => by simp [hmarks c hc])
  have hquestion : inPath '?' = true := by decide
  have hhash : inPath '#' = true := by decide
  rcases h.mem_path hc with rfl | hc
  · rfl
  · have hne : c ≠ '?' ∧ c ≠ '#' := by
      constructor <;> rintro rfl <;> simp_all
    simp [endsPath, hne]

theorem tail_marked (h : u.WellFormed) :
    tail (marked '?' u.query ++ marked '#' u.fragment) = (u.query, u.fragment) := by
  obtain ⟨scheme, username, password, host, port, path, query, fragment⟩ := u
  have hfragment : ∀ f ∈ fragment, encode inFragment f = f := fun f hf =>
    encode_of_encoded (h.fragment f hf)
  cases query with
  | none => cases fragment <;> simp_all [tail, marked]
  | some q =>
    have hquery : Encoded inQuery q := h.query q rfl
    have hhash : '#' ∉ q := hquery.not_mem (by decide)
    cases fragment with
    | none =>
      have hcut := cut_no_mark hhash
      simp [tail, marked, hcut, encode_of_encoded hquery]
    | some f =>
      have hcut := @cut_mark _ _ f hhash
      simp [tail, marked, hcut, encode_of_encoded hquery, hfragment]

/-! ## The authority -/

theorem cutUser_none {place : List Char} (h : '@' ∉ place) : cutUser place = (none, place) := by
  have hcut := cut_no_mark (mt List.mem_reverse.mp h)
  unfold cutUser
  rw [hcut.2]

theorem cutUser_some {place : List Char} (h : '@' ∉ place) (user : List Char) :
    cutUser (user ++ '@' :: place) = (some user, place) := by
  have hcut := @cut_mark _ _ user.reverse (mt List.mem_reverse.mp h)
  unfold cutUser
  rw [List.reverse_append, List.reverse_cons, List.append_assoc, List.singleton_append, hcut.1,
    hcut.2]
  simp

/-- The user is cut off at its at sign, and its name at its colon. -/
theorem cutUser_authority (h : u.WellFormed) :
    ∃ user, cutUser u.authority = (user, u.host.text ++ u.portText) ∧
      readUser (user.getD []) = (u.username, u.password) := by
  have hat := not_mem_place h (by decide : '@' ∈ ['/', '?', '#', '@'])
  have hname := encode_of_encoded h.username
  have hpassword := encode_of_encoded h.password
  have hcolon : ':' ∉ u.username := h.username.not_mem (by decide)
  unfold authority userinfoText
  split
  · next hnone =>
    refine ⟨none, cutUser_none hat, ?_⟩
    simp_all [readUser]
  · split
    · next hempty =>
      refine ⟨some u.username, by simpa using cutUser_some hat u.username, ?_⟩
      have hdrop : u.username.drop (u.username.length + 1) = [] := by simp
      have hempty : u.password = [] := List.isEmpty_iff.mp hempty
      simp [readUser, cut_no_mark hcolon, hname, hdrop, hempty]
    · refine ⟨some (u.username ++ ':' :: u.password), ?_, ?_⟩
      · simpa using cutUser_some hat (u.username ++ ':' :: u.password)
      · have hdrop : (u.username ++ ':' :: u.password).drop (u.username.length + 1) =
            u.password := by simp
        simp [readUser, cut_mark hcolon, hname, hpassword, hdrop]

theorem hostText_portText (u : Url) : hostText false u.portText = [] := by
  unfold portText
  split <;> simp [hostText]

theorem hostText_name {cs : List Char} (rest : List Char) (hcs : ':' ∉ cs ∧ '[' ∉ cs) :
    hostText false (cs ++ rest) = cs ++ hostText false rest := by
  induction cs with
  | nil => rfl
  | cons c cs ih =>
    have hc : c ≠ ':' ∧ (c == '[') = false := by grind
    have hrest := ih (by grind)
    simpa [hostText, hc] using hrest

theorem hostText_brackets {cs : List Char} (rest : List Char) (hcs : ']' ∉ cs) :
    hostText true (cs ++ ']' :: rest) = cs ++ ']' :: hostText false rest := by
  induction cs with
  | nil => simp [hostText]
  | cons c cs ih =>
    have hc : (c == '[' || c != ']') = true := by grind
    have hrest := ih (by grind)
    simpa [hostText, hc] using hrest

/-- The host is cut off at the colon of the port, which is not in brackets. -/
theorem hostText_place (h : u.WellFormed) :
    hostText false (u.host.text ++ u.portText) = u.host.text := by
  have hport := hostText_portText u
  have hhost := h.host
  cases hcase : u.host with
  | name cs =>
    rw [hcase] at hhost
    have hcs : ':' ∉ cs ∧ '[' ∉ cs :=
      ⟨hhost.not_mem (by decide), hhost.not_mem (by decide)⟩
    rw [Host.text, hostText_name _ hcs, hport, List.append_nil]
  | address a =>
    have hbracket : ']' ∉ a.text := by
      intro hmem
      rcases Address.mem_text hmem with hmem | hmem <;> revert hmem <;> decide
    have hread := hostText_brackets u.portText hbracket
    simp [Host.text, hostText, hread, hport]

theorem readPort_natText (p : UInt16) : readPort (natText p.toNat) = .ok (some p, []) := by
  have hdigits : ∀ c ∈ natText p.toNat, c.isDigit = true := fun _ => isDigit_of_mem_natText
  have hcut := @cut_append _ _ [] hdigits (by simp)
  have hlt : p.toNat < UInt16.size := p.toNat_lt
  rw [List.append_nil] at hcut
  unfold readPort
  dsimp only
  rw [hcut.1, hcut.2, natOfDigits_natText, if_neg (Nat.not_le_of_lt hlt)]
  simp [natText_ne_nil]

theorem readPortAfter_portText (hhost : u.host.isEmpty = false) :
    readPortAfter u.host u.portText = .ok (u.port, []) := by
  unfold portText
  cases u.port with
  | none => rfl
  | some p => simp [readPortAfter, hhost, readPort_natText]

/-! ## Reading -/

theorem readHosted_text (h : u.WellFormed) (hhost : u.host.isEmpty = false) :
    readHosted u.scheme (u.authority ++ u.after) = .ok u := by
  obtain ⟨user, hcut, huser⟩ := cutUser_authority h
  have hplace := hostText_place h
  have hne := Host.text_ne_nil hhost
  have hparse := Host.parse_text h.host
  have hport := readPortAfter_portText hhost
  have hpath : pathText u.after = u.path := by
    obtain ⟨p, hp, htext⟩ := h.path
    rw [pathText, (cut_path h).1, ← htext, Path.ofText_text hp]
  unfold readHosted
  simp only [(cut_authority h).1, (cut_authority h).2, (cut_path h).2, hcut, huser, hplace, hparse,
    tail_marked h, List.drop_left]
  simp [hne, hport, hpath, hhost, bind, Except.bind, pure, Except.pure]

/-- **A URL reads back.** -/
theorem parse_chars (h : u.WellFormed) (hhost : u.host.isEmpty = false) :
    parse u.chars = .ok (.hosted u) := by
  unfold parse
  rw [clean_of_visible (visible_chars h), chars_eq, cutScheme?_scheme h]
  simp only [readHosted_text h hhost, Except.map]

theorem parse_text (h : u.WellFormed) (hhost : u.host.isEmpty = false) :
    parse u.text.toList = .ok (.hosted u) := by
  rw [text, String.toList_ofList, parse_chars h hhost]

end Location

end DataAccess.Url
