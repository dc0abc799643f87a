import DataAccess.Proofs.Dsn.Files
import Mathlib.Data.List.Infix

/-!
# Targets that are read again

The URL of a SQLite database is a name of it as well. Reading it again keeps what is held in memory
there, but a file is taken for a database in memory as soon as one of two marks stands anywhere in
its URL (`parse_url`), and a URL that ends in a blank is trimmed. So a name is read again as the
same target just when it is no name of a file, or one without these (`parse_again`).
-/

namespace DataAccess.Dsn.Sqlite

open Text

/-! ## Marks in a text -/

/-- A text that has a mark of a database in memory somewhere in it. -/
def Marked (cs : List Char) : Prop := ":memory:".toList <:+: cs ∨ "mode=memory".toList <:+: cs

instance : DecidablePred Marked := fun _ => inferInstanceAs (Decidable (_ ∨ _))

theorem occursIn_iff {part cs : List Char} : occursIn part cs = true ↔ part <:+: cs := by
  induction cs with
  | nil => simp [occursIn]
  | cons c cs ih =>
    rw [occursIn, Bool.or_eq_true, ih, List.isPrefixOf_iff_prefix, List.infix_cons_iff]

theorem occursIn_marks (cs : List Char) :
    (occursIn ":memory:".toList cs || occursIn "mode=memory".toList cs) = decide (Marked cs) := by
  rw [Bool.eq_iff_iff, Bool.or_eq_true, occursIn_iff, occursIn_iff, decide_eq_true_iff]
  rfl

/-- What has a character not in it stands on one side of it. -/
theorem infix_append_mark {part before after : List Char} {c : Char} (hc : c ∉ part) :
    part <:+: before ++ c :: after ↔ part <:+: before ∨ part <:+: after := by
  have hbegin : ∀ {part : List Char}, c ∉ part → part <+: c :: after → part = [] := by
    intro part hc hprefix
    rcases List.prefix_cons_iff.mp hprefix with rfl | ⟨tail, rfl, -⟩
    · rfl
    · exact absurd List.mem_cons_self hc
  rw [List.infix_append_iff, List.infix_cons_iff]
  constructor
  · rintro (h | (h | h) | ⟨left, right, rfl, hleft, hright⟩)
    · exact .inl h
    · exact .inr (hbegin hc h ▸ List.nil_infix)
    · exact .inr h
    · obtain rfl := hbegin (mt (List.mem_append_right left) hc) hright
      rw [List.append_nil]
      exact .inl hleft.isInfix
  · rintro (h | h)
    · exact .inl h
    · exact .inr (.inl (.inr h))

theorem infix_joined_iff {part : List Char} (hne : part ≠ []) (hpart : '&' ∉ part)
    (ps : List (List Char)) : part <:+: ['&'].intercalate ps ↔ ∃ p ∈ ps, part <:+: p := by
  induction ps with
  | nil => simp [hne]
  | cons p ps ih =>
    cases ps with
    | nil => simp
    | cons q ps =>
      rw [joined_cons (List.cons_ne_nil q ps), infix_append_mark hpart, ih]
      simp

theorem marked_joined_iff (ps : List (List Char)) :
    Marked (['&'].intercalate ps) ↔ ∃ p ∈ ps, Marked p := by
  unfold Marked
  rw [infix_joined_iff (by decide) (by decide), infix_joined_iff (by decide) (by decide),
    ← exists_or]
  refine exists_congr fun p => ?_
  rw [and_or_left]

/-! ## URLs -/

/-- A URL is trimmed, and the marks in it decide. -/
theorem parse_url {cs : List Char} (h : "sqlite:".toList <+: cs) : parse (String.ofList cs) =
    .ok (⟨String.ofList (trimEnd cs), decide (Marked (trimEnd cs))⟩, []) := by
  obtain ⟨rest, rfl⟩ := h
  have htrim : trimEnd ("sqlite:".toList ++ rest) = "sqlite:".toList ++ trimEnd rest :=
    trimEnd_mark (by decide) "sqlite".toList rest
  have hhead : trimChars ("sqlite:".toList ++ rest) = trimEnd ("sqlite:".toList ++ rest) :=
    trimChars_of_head (by decide)
  have hurl : "sqlite:".toList.isPrefixOf ("sqlite:".toList ++ trimEnd rest) = true :=
    List.isPrefixOf_iff_prefix.mpr (List.prefix_append _ _)
  rw [parse, String.toList_ofList, hhead, htrim, ofChars, if_pos hurl, occursIn_marks]

namespace FileName

variable {n : FileName}

/-- The URL of a name. -/
def url (n : FileName) : List Char :=
  "sqlite://".toList ++ n.path ++ '?' :: ['&'].intercalate n.passed

/-- A name whose URL is read again as the same target: it does not end in a blank, and unless the
database is held in memory no mark says that it is. -/
structure Settled (n : FileName) : Prop where
  ended : ∀ p ∈ n.passed.getLast?, trimEnd p = p
  unmarked : n.target.inMemory = false → ¬ Marked n.path ∧ ∀ p ∈ n.known, ¬ Marked p

theorem exists_passed (n : FileName) : ∃ before last, n.passed = before ++ [last] := by
  unfold passed
  split
  · next h =>
    obtain ⟨p, hp, -⟩ := h
    rcases List.eq_nil_or_concat n.known with hnil | ⟨before, last, hlast⟩
    · rw [hnil] at hp
      cases hp
    · exact ⟨before, last, by rw [hlast, List.concat_eq_append]⟩
  · exact ⟨n.known, _, rfl⟩

theorem trimEnd_url (n : FileName) :
    trimEnd n.url = "sqlite://".toList ++ n.path ++ '?' :: trimEnd (['&'].intercalate n.passed) := by
  unfold url
  rw [trimEnd_mark (by decide)]

theorem trimEnd_url_iff (n : FileName) :
    trimEnd n.url = n.url ↔ ∀ p ∈ n.passed.getLast?, trimEnd p = p := by
  obtain ⟨before, last, hpassed⟩ := n.exists_passed
  rw [trimEnd_url]
  unfold url
  rw [List.append_cancel_left_eq, List.cons.injEq, hpassed, trimEnd_joined_append before (by simp)]
  simp

/-- The mode that is added where there is none is no mark. -/
theorem marked_passed_iff (n : FileName) :
    (∃ p ∈ n.passed, Marked p) ↔ ∃ p ∈ n.known, Marked p := by
  unfold passed
  split
  · rfl
  · have hmode : ¬ Marked "mode=rwc".toList := by decide
    simp only [List.mem_append, List.mem_singleton, or_and_right, exists_or, exists_eq_left, hmode,
      or_false]

theorem marked_url_iff (n : FileName) :
    Marked n.url ↔ Marked n.path ∨ ∃ p ∈ n.known, Marked p := by
  have hpart : ∀ {part : List Char}, '?' ∉ part → '/' ∉ part → ¬ part <:+: "sqlite:/".toList →
      (part <:+: n.url ↔ part <:+: n.path ∨ part <:+: ['&'].intercalate n.passed) := by
    intro part hquery hslash hscheme
    have hsplit : "sqlite://".toList = "sqlite:/".toList ++ ['/'] := by decide
    unfold url
    rw [infix_append_mark hquery, hsplit, List.append_assoc, List.singleton_append,
      infix_append_mark hslash, or_iff_right hscheme]
  rw [← marked_passed_iff, ← marked_joined_iff]
  unfold Marked
  rw [hpart (by decide) (by decide) (by decide), hpart (by decide) (by decide) (by decide)]
  exact or_or_or_comm

/-- What is held in memory has a mark, also when its URL is trimmed. -/
theorem marked_trimEnd_url (h : n.target.inMemory = true) : Marked (trimEnd n.url) := by
  have hknown : "mode=memory".toList ∈ n.known :=
    List.mem_filter.mpr ⟨of_decide_eq_true h, decide_eq_true known_mode⟩
  have hpassed : "mode=memory".toList ∈ n.passed := by
    unfold passed
    split
    · exact hknown
    · exact List.mem_append_left _ hknown
  have hjoined : "mode=memory".toList <:+: trimEnd (['&'].intercalate n.passed) := by
    obtain ⟨before, last, hlast⟩ := n.exists_passed
    rw [hlast] at hpassed ⊢
    rw [trimEnd_joined_concat]
    refine infix_joined ?_
    rcases List.mem_append.mp hpassed with hmem | hmem
    · exact List.mem_append_left _ hmem
    · obtain rfl := List.mem_singleton.mp hmem
      exact List.mem_append_right _ (List.mem_singleton.mpr (by decide))
  rw [trimEnd_url]
  exact .inr (hjoined.trans ((List.suffix_cons _ _).trans (List.suffix_append _ _)).isInfix)

theorem parse_target (n : FileName) : parse n.target.url =
    .ok (⟨String.ofList (trimEnd n.url), decide (Marked (trimEnd n.url))⟩, []) := by
  have hscheme : "sqlite:".toList <+: "sqlite://".toList := by decide
  refine parse_url (hscheme.trans ?_)
  rw [List.append_assoc]
  exact List.prefix_append _ _

/-- What a name is to be read as depends on its text only. -/
theorem target_eq_of_text {m : FileName} (hm : m.Plain) (hmnames : NamesFile m.text) (hn : n.Plain)
    (htext : m.text = n.text) : m.target = n.target := by
  have hread := ofChars_text hm hmnames
  rw [htext, ofChars_text hn (htext ▸ hmnames)] at hread
  exact (Prod.mk.inj (Except.ok.inj hread)).1.symm

/-- The target of a name is read again as it is just when the name is settled. -/
theorem parse_target_iff (n : FileName) : parse n.target.url = .ok (n.target, []) ↔ n.Settled := by
  have htarget : n.target = ⟨String.ofList n.url, n.target.inMemory⟩ := rfl
  have hsame : parse n.target.url = .ok (n.target, []) ↔
      trimEnd n.url = n.url ∧ decide (Marked (trimEnd n.url)) = n.target.inMemory := by
    rw [parse_target, htarget]
    simp [String.ofList_inj]
  rw [hsame]
  constructor
  · rintro ⟨hended, hmarked⟩
    rw [hended] at hmarked
    refine ⟨n.trimEnd_url_iff.mp hended, fun hmemory => ?_⟩
    have hnone : ¬ Marked n.url := of_decide_eq_false (hmarked.trans hmemory)
    rw [marked_url_iff, not_or] at hnone
    exact ⟨hnone.1, fun p hp hmark => hnone.2 ⟨p, hp, hmark⟩⟩
  · intro h
    have hended := n.trimEnd_url_iff.mpr h.ended
    refine ⟨hended, ?_⟩
    cases hmemory : n.target.inMemory with
    | true => exact decide_eq_true (marked_trimEnd_url hmemory)
    | false =>
      obtain ⟨hpath, hknown⟩ := h.unmarked hmemory
      rw [hended, decide_eq_false_iff_not, marked_url_iff]
      rintro (hmark | ⟨p, hp, hmark⟩)
      · exact hpath hmark
      · exact hknown p hp hmark

end FileName

/-! ## Names that are read -/

section

variable {cs : List Char} {t : Target} {names : List String}

/-- What is neither a URL nor a name of a database in memory has a path, or that is the error. -/
theorem path_of_ofChars (h : ¬ "sqlite:".toList <+: cs)
    (hmemory : ¬ (cs = ":memory:".toList ∨ "file::memory:".toList <+: cs)) :
    ofChars cs = .error missingPath ∨ (withoutLead "file:".toList cs).takeWhile (· != '?') ≠ [] := by
  have hurl : ¬ "sqlite:".toList.isPrefixOf cs = true := mt List.isPrefixOf_iff_prefix.mp h
  have hname : ¬ (cs = ":memory:".toList ∨ "file::memory:".toList.isPrefixOf cs = true) :=
    mt (Or.imp_right List.isPrefixOf_iff_prefix.mp) hmemory
  rw [ofChars, if_neg hurl, if_neg hname]
  dsimp only
  rw [cutAt_fst]
  by_cases hnone : (withoutLead "file:".toList cs).takeWhile (· != '?') = []
  · exact .inl (if_pos (List.isEmpty_iff.mpr hnone))
  · exact .inr hnone

/-- What is read and is neither a URL nor a name of a database in memory names a file. -/
theorem namesFile_of_ok (htrim : trimChars cs = cs) (hurl : ¬ "sqlite:".toList <+: cs)
    (hmemory : ¬ (cs = ":memory:".toList ∨ "file::memory:".toList <+: cs))
    (h : ofChars cs = .ok (t, names)) : NamesFile cs := by
  have hpath : (withoutLead "file:".toList cs).takeWhile (· != '?') ≠ [] := by
    refine (path_of_ofChars hurl hmemory).resolve_left fun herror => ?_
    rw [herror] at h
    cases h
  have hhead : ∀ {rest : List Char}, rest.takeWhile (· != '?') ≠ [] →
      rest ≠ [] ∧ rest.head? ≠ some '?' := by
    intro rest hne
    cases rest with
    | nil => exact absurd rfl hne
    | cons c rest =>
      refine ⟨List.cons_ne_nil c rest, fun hc => hne ?_⟩
      obtain rfl := Option.some.inj hc
      rfl
  refine ⟨htrim, hurl, not_or.mp hmemory, ?_⟩
  rintro rest (rfl | rfl)
  · by_cases hfile : "file:".toList <+: rest
    · obtain ⟨tail, rfl⟩ := hfile
      exact ⟨by simp, by simp⟩
    · have hfile' : ¬ "file:".toList.isPrefixOf rest = true :=
        mt List.isPrefixOf_iff_prefix.mp hfile
      rw [withoutLead, if_neg hfile'] at hpath
      exact hhead hpath
  · have hfile : "file:".toList.isPrefixOf ("file:".toList ++ rest) = true :=
      List.isPrefixOf_iff_prefix.mpr (List.prefix_append _ _)
    rw [withoutLead, if_pos hfile, List.drop_left] at hpath
    exact hhead hpath

/-- What a name of a database in memory is read as is read again as it is. -/
theorem memory_of_ok (hurl : ¬ "sqlite:".toList <+: cs)
    (hmemory : cs = ":memory:".toList ∨ "file::memory:".toList <+: cs)
    (h : ofChars cs = .ok (t, names)) :
    trimEnd t.url.toList = t.url.toList ∧ parse t.url = .ok (t, []) := by
  have hurl' : ¬ "sqlite:".toList.isPrefixOf cs = true := mt List.isPrefixOf_iff_prefix.mp hurl
  have hname : cs = ":memory:".toList ∨ "file::memory:".toList.isPrefixOf cs = true :=
    hmemory.imp_right List.isPrefixOf_iff_prefix.mpr
  rw [ofChars, if_neg hurl', if_pos hname] at h
  cases h
  exact ⟨by decide, by decide⟩

/-- What a trimmed URL is read as is read again as it is. -/
theorem url_of_ok (htrim : trimChars cs = cs) (hurl : "sqlite:".toList <+: cs)
    (h : ofChars cs = .ok (t, names)) :
    trimEnd t.url.toList = t.url.toList ∧ parse t.url = .ok (t, []) := by
  have hend := trimEnd_of_trimmed htrim
  have hagain := parse_url hurl
  have hread : parse (String.ofList cs) = ofChars cs := by
    rw [parse, String.toList_ofList, htrim]
  rw [hend] at hagain
  rw [← hread, hagain] at h
  cases h
  exact ⟨by rw [String.toList_ofList, hend], hagain⟩

/-- **Targets that are read again.** Whatever name is read, the URL of its target can be read again:
it is trimmed at its end at most, and what is held in memory stays there. It is read as the same
target if the name is a URL or stands for a database in memory; a name of a file is settled exactly
if this is so. -/
theorem parse_again (dsn : String) (h : parse dsn = .ok (t, names)) :
    (∃ again, parse t.url = .ok (again, []) ∧ again.url = String.ofList (trimEnd t.url.toList) ∧
      (t.inMemory = true → again.inMemory = true)) ∧
    (parse t.url = .ok (t, []) ↔ ∀ n : FileName, n.Plain → NamesFile n.text →
      n.text = trimChars dsn.toList → n.Settled) := by
  obtain ⟨cs, hcs⟩ : ∃ cs, trimChars dsn.toList = cs := ⟨_, rfl⟩
  have htrim : trimChars cs = cs := hcs ▸ trimChars_trimChars dsn.toList
  rw [parse, hcs] at h
  rw [hcs]
  by_cases hurl : "sqlite:".toList <+: cs
  · obtain ⟨hend, hagain⟩ := url_of_ok htrim hurl h
    refine ⟨⟨t, hagain, by rw [hend, String.ofList_toList], id⟩, iff_of_true hagain ?_⟩
    rintro n - hnames rfl
    exact absurd hurl hnames.noUrl
  · by_cases hmemory : cs = ":memory:".toList ∨ "file::memory:".toList <+: cs
    · obtain ⟨hend, hagain⟩ := memory_of_ok hurl hmemory h
      refine ⟨⟨t, hagain, by rw [hend, String.ofList_toList], id⟩, iff_of_true hagain ?_⟩
      rintro n - hnames rfl
      exact absurd hmemory (not_or.mpr hnames.noMemory)
    · have hnames := namesFile_of_ok htrim hurl hmemory h
      obtain ⟨n, hn, rfl⟩ := FileName.exists_text hnames
      rw [FileName.ofChars_text hn hnames] at h
      obtain ⟨rfl, -⟩ := Prod.mk.inj (Except.ok.inj h)
      refine ⟨⟨_, n.parse_target, ?_, fun hinMemory =>
        decide_eq_true (FileName.marked_trimEnd_url hinMemory)⟩, ?_⟩
      · exact congrArg (fun cs => String.ofList (trimEnd cs)) String.toList_ofList.symm
      · rw [FileName.parse_target_iff]
        refine ⟨fun hsettled m hm hmnames htext => ?_, fun hall => hall n hn hnames rfl⟩
        rw [← FileName.parse_target_iff, FileName.target_eq_of_text hm hmnames hn htext,
          FileName.parse_target_iff]
        exact hsettled

end

/-! ### A mark in a path -/

/-- A file with a mark in its path is held in memory once its name has been read twice; without the
mark its name is settled. -/
theorem parse_again_marked_path :
    let t : Target := ⟨"sqlite:///srv/cache:memory:1.db?mode=rwc", false⟩
    parse "/srv/cache:memory:1.db" = .ok (t, []) ∧ parse t.url = .ok (⟨t.url, true⟩, []) ∧
    (∃ n : FileName, n.Plain ∧ NamesFile n.text ∧ n.text = "/srv/cache:memory:1.db".toList ∧
      ¬ n.Settled) ∧
    (∀ n : FileName, n.Plain → NamesFile n.text → n.text = "/srv/cache.db".toList → n.Settled) := by
  intro t
  have hread : parse "/srv/cache:memory:1.db" = .ok (t, []) := by decide
  have hagain : parse t.url = .ok (⟨t.url, true⟩, []) := by decide
  have hsettled : parse "/srv/cache.db" = .ok (⟨"sqlite:///srv/cache.db?mode=rwc", false⟩, []) := by
    decide
  refine ⟨hread, hagain, ?_, (parse_again _ hsettled).2.mp (by decide)⟩
  by_contra hnone
  simp only [not_exists, not_and, not_not] at hnone
  have hsame := (parse_again _ hread).2.mpr hnone
  rw [hagain] at hsame
  revert hsame
  decide

end DataAccess.Dsn.Sqlite
