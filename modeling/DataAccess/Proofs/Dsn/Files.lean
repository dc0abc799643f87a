import DataAccess.Proofs.Dsn.Cuts
import DataAccess.Proofs.Text.Trim

/-!
# Names of files

A name of a SQLite file is a path, perhaps marked with `file:` and perhaps with parameters after it.
Of these the known ones come into the URL as they are (`FileName.ofChars_text`), and the others make
no difference wherever they stand (`FileName.parse_inserted`), unless they become known ones when
the name is trimmed: `parse_fileName`.
-/

namespace DataAccess.Dsn.Sqlite

open Text

/-! ## Names -/

/-- A text, trimmed already, that names a file and is neither a URL nor a name of a database in
memory. -/
structure NamesFile (cs : List Char) : Prop where
  trimmed : trimChars cs = cs
  noUrl : ¬ "sqlite:".toList <+: cs
  noMemory : cs ≠ ":memory:".toList ∧ ¬ "file::memory:".toList <+: cs
  hasPath : ∀ rest, rest = cs ∨ "file:".toList ++ rest = cs → rest ≠ [] ∧ rest.head? ≠ some '?'

/-- The parameters that are passed on have one of these names, whatever their value. -/
def Known (p : List Char) : Prop :=
  p.takeWhile (· != '=') ∈ ["mode".toList, "cache".toList, "immutable".toList, "vfs".toList]

instance : DecidablePred Known := fun p =>
  inferInstanceAs (Decidable (p.takeWhile (· != '=') ∈ _))

/-- The parts of a name. -/
structure FileName where
  /-- Whether `file:` stands in front. -/
  marked : Bool
  path : List Char
  /-- What stands between the ampersands after the question mark, if there is one. -/
  query : Option (List (List Char))

namespace FileName

def lead (n : FileName) : List Char := (if n.marked then "file:".toList else []) ++ n.path

def text (n : FileName) : List Char := n.lead ++ n.query.elim [] ('?' :: ['&'].intercalate ·)

def params (n : FileName) : List (List Char) := n.query.getD []

/-- The parts are those that a name is read as. -/
structure Plain (n : FileName) : Prop where
  path : n.path ≠ [] ∧ '?' ∉ n.path
  joined : ∀ p ∈ n.params, '&' ∉ p
  unmarked : n.marked = false → ¬ "file:".toList <+: n.path

def known (n : FileName) : List (List Char) := n.params.filter Known

/-- The known parameters, with a mode if there is none. -/
def passed (n : FileName) : List (List Char) :=
  if ∃ p ∈ n.known, "mode=".toList <+: p then n.known else n.known ++ ["mode=rwc".toList]

/-- What a name is to be read as. -/
def target (n : FileName) : Target where
  url := String.ofList ("sqlite://".toList ++ n.path ++ '?' :: ['&'].intercalate n.passed)
  inMemory := "mode=memory".toList ∈ n.params

/-- The names of the other parameters. -/
def others (n : FileName) : List String :=
  (n.params.filter fun p => p ≠ [] ∧ ¬ Known p).map fun p =>
    String.ofList (p.takeWhile (· != '='))

/-- A name with other parameters. -/
def withParams (n : FileName) (ps : List (List Char)) : FileName := { n with query := some ps }

end FileName

/-! ## Known parameters -/

section

variable {p : List Char} {n : FileName}

theorem isKnown_eq (p : List Char) : isKnown p = decide (Known p) := by
  rw [isKnown, parameterName, cutAt_fst, Bool.eq_iff_iff, List.contains_iff_mem, decide_eq_true_iff]
  rfl

theorem Known.ne_nil (h : Known p) : p ≠ [] := by
  rintro rfl
  revert h
  decide

theorem known_mode : Known "mode=memory".toList := by decide

theorem filter_isKnown (ps : List (List Char)) :
    (ps.filter (!·.isEmpty)).filter isKnown = ps.filter Known := by
  rw [List.filter_filter]
  refine List.filter_congr fun p _ => ?_
  rw [isKnown_eq]
  by_cases hp : Known p
  · simp [hp, hp.ne_nil]
  · simp [hp]

theorem filter_not_isKnown (ps : List (List Char)) :
    (ps.filter (!·.isEmpty)).filter (!isKnown ·) = ps.filter fun p => p ≠ [] ∧ ¬ Known p := by
  rw [List.filter_filter]
  refine List.filter_congr fun p _ => ?_
  rw [isKnown_eq, Bool.eq_iff_iff]
  simp [and_comm]

theorem passedOn_eq (n : FileName) : passedOn (n.params.filter (!·.isEmpty)) = n.passed := by
  rw [passedOn, FileName.passed, filter_isKnown, ← FileName.known]
  refine if_congr ?_ rfl rfl
  simp [List.any_eq_true]

end

/-! ## Reading a name -/

namespace FileName

variable {n : FileName}

theorem prefix_of_text {lead : List Char} (hmark : '?' ∉ lead) (h : lead <+: n.text) :
    lead <+: n.lead := by
  unfold text at h
  cases hquery : n.query with
  | none => simpa [hquery] using h
  | some ps =>
    rw [hquery] at h
    exact prefix_of_append_mark hmark h

theorem withoutLead_text (h : n.Plain) : withoutLead "file:".toList n.text =
    n.path ++ n.query.elim [] ('?' :: ['&'].intercalate ·) := by
  unfold withoutLead
  rcases hmarked : n.marked with _ | _
  · have hlead : n.lead = n.path := by simp [lead, hmarked]
    have hnot : ¬ "file:".toList.isPrefixOf n.text = true := by
      rw [List.isPrefixOf_iff_prefix]
      intro hprefix
      exact h.unmarked hmarked (hlead ▸ prefix_of_text (by decide) hprefix)
    rw [if_neg hnot, text, hlead]
  · have hlead : n.lead = "file:".toList ++ n.path := by simp [lead, hmarked]
    have hyes : "file:".toList.isPrefixOf n.text = true := by
      rw [List.isPrefixOf_iff_prefix, text, hlead, List.append_assoc]
      exact List.prefix_append _ _
    rw [if_pos hyes, text, hlead, List.append_assoc, List.drop_left]

theorem parameters_query (h : n.Plain) :
    parameters (n.query.map ['&'].intercalate) = n.params.filter (!·.isEmpty) := by
  unfold params
  cases hquery : n.query with
  | none => rfl
  | some ps =>
    refine parameters_joined fun p hp => h.joined p ?_
    rwa [params, hquery]

/-- **The known parameters of a name come into its URL**, in their order and as they are. -/
theorem ofChars_text (h : n.Plain) (hcs : NamesFile n.text) :
    ofChars n.text = .ok (n.target, n.others) := by
  have hcut : cutAt '?' (n.path ++ n.query.elim [] ('?' :: ['&'].intercalate ·)) =
      (n.path, n.query.map ['&'].intercalate) := by
    cases n.query with
    | none => simpa using cutAt_no_mark h.path.2
    | some ps => exact cutAt_mark h.path.2
  have hurl : ¬ "sqlite:".toList.isPrefixOf n.text = true :=
    fun hprefix => hcs.noUrl (List.isPrefixOf_iff_prefix.mp hprefix)
  have hmemory : ¬ (n.text = ":memory:".toList ∨ "file::memory:".toList.isPrefixOf n.text = true) :=
    fun hname => hname.elim hcs.noMemory.1
      fun hprefix => hcs.noMemory.2 (List.isPrefixOf_iff_prefix.mp hprefix)
  have hpath : n.path.isEmpty = false := by simp [h.path.1]
  have hinMemory : (n.params.filter Known).contains "mode=memory".toList =
      decide ("mode=memory".toList ∈ n.params) := by
    rw [Bool.eq_iff_iff, List.contains_iff_mem, List.mem_filter, decide_eq_true_iff,
      decide_eq_true_iff]
    exact ⟨And.left, fun hmem => ⟨hmem, known_mode⟩⟩
  have hothers : (fun p : List Char => String.ofList (parameterName p)) =
      fun p => String.ofList (p.takeWhile (· != '=')) :=
    funext fun p => by rw [parameterName, cutAt_fst]
  rw [ofChars, if_neg hurl, if_neg hmemory, withoutLead_text h, hcut]
  dsimp only
  rw [if_neg (by simp [hpath]), parameters_query h, passedOn_eq, filter_isKnown,
    filter_not_isKnown, hinMemory, hothers]
  rfl

/-! ## Every name of a file -/

/-- A text that names a file has the parts of a name. -/
theorem exists_text {cs : List Char} (h : NamesFile cs) : ∃ n : FileName, n.Plain ∧ n.text = cs := by
  obtain ⟨marked, rest, hrest, hcs, hunmarked⟩ : ∃ (marked : Bool) (rest : List Char),
      (rest = cs ∨ "file:".toList ++ rest = cs) ∧
      (if marked then "file:".toList else []) ++ rest = cs ∧
      (marked = false → ¬ "file:".toList <+: rest) := by
    by_cases hfile : "file:".toList <+: cs
    · obtain ⟨rest, rfl⟩ := hfile
      exact ⟨true, rest, .inr rfl, rfl, nofun⟩
    · exact ⟨false, cs, .inl rfl, rfl, fun _ => hfile⟩
  obtain ⟨hne, hhead⟩ := h.hasPath rest hrest
  by_cases hquery : '?' ∈ rest
  · obtain ⟨path, query, rfl, hfree⟩ := List.eq_append_cons_of_mem hquery
    have hpath : path ≠ [] := by
      rintro rfl
      exact hhead rfl
    refine ⟨⟨marked, path, some (query.splitOn '&')⟩, ⟨⟨hpath, hfree⟩, ?_, ?_⟩, ?_⟩
    · exact fun p hp => Url.Path.not_mem_of_mem_splitOn hp
    · exact fun hmarked hfile => hunmarked hmarked (hfile.trans (List.prefix_append _ _))
    · rw [← hcs, ← List.append_assoc]
      simp only [text, lead, Option.elim_some, List.intercalate_splitOn]
  · refine ⟨⟨marked, rest, none⟩, ⟨⟨hne, hquery⟩, nofun, hunmarked⟩, ?_⟩
    rw [← hcs]
    simp only [text, lead, Option.elim_none, List.append_nil]

/-- A name that is put together from parts has a path. -/
theorem hasPath_text (h : n.Plain) (rest : List Char)
    (hrest : rest = n.text ∨ "file:".toList ++ rest = n.text) :
    rest ≠ [] ∧ rest.head? ≠ some '?' := by
  obtain ⟨c, path, hpath⟩ := List.exists_cons_of_ne_nil h.path.1
  have hc : c ≠ '?' := by
    rintro rfl
    exact h.path.2 (hpath ▸ List.mem_cons_self)
  unfold text lead at hrest
  rw [hpath] at hrest
  rcases hmarked : n.marked with _ | _
  · rcases hrest with rfl | hrest
    · simp [hmarked, hc]
    · -- A path that is not marked does not start like a mark.
      have hprefix : "file:".toList <+: n.text := by
        rw [text, lead, hpath, ← hrest]
        exact List.prefix_append _ _
      have hlead : n.lead = n.path := by simp [lead, hmarked]
      exact absurd (hlead ▸ prefix_of_text (by decide) hprefix) (h.unmarked hmarked)
  · rw [hmarked, if_pos rfl] at hrest
    rcases hrest with rfl | hrest
    · exact ⟨by simp, by simp⟩
    · rw [List.append_assoc, List.append_cancel_left_eq] at hrest
      rw [hrest]
      simp [hc]

/-! ## Other parameters -/

variable {before after : List (List Char)} {p : List Char}

theorem trimEnd_joined_append (xs : List (List Char)) {ys : List (List Char)} (hys : ys ≠ []) :
    trimEnd (['&'].intercalate (xs ++ ys)) = ['&'].intercalate (xs ++ ys) ↔
      trimEnd (['&'].intercalate ys) = ['&'].intercalate ys := by
  by_cases hxs : xs = []
  · rw [hxs, List.nil_append]
  · rw [joined_append hxs hys, trimEnd_mark (by decide)]
    simp

theorem trimEnd_joined_concat (xs : List (List Char)) (p : List Char) :
    trimEnd (['&'].intercalate (xs ++ [p])) = ['&'].intercalate (xs ++ [trimEnd p]) := by
  by_cases hxs : xs = []
  · simp [hxs]
  · rw [joined_append hxs (by simp), joined_append hxs (by simp), trimEnd_mark (by decide)]
    simp

/-- The end of a name with parameters is the end of these. -/
theorem trimChars_withParams (h : n.Plain) (hcs : NamesFile n.text) (ps : List (List Char)) :
    trimChars (n.withParams ps).text = n.lead ++ '?' :: trimEnd (['&'].intercalate ps) := by
  obtain ⟨c, rest, hlead⟩ : ∃ c rest, n.lead = c :: rest :=
    List.exists_cons_of_ne_nil (List.append_ne_nil_of_right_ne_nil _ h.path.1)
  have hc : isBlank c = false := by
    have htrim := hcs.trimmed
    rw [text, hlead] at htrim
    exact head_of_trimmed htrim
  have htext : (n.withParams ps).text = n.lead ++ '?' :: ['&'].intercalate ps := rfl
  rw [htext, ← trimEnd_mark (by decide), hlead]
  exact trimChars_of_head hc

/-- A parameter that is put last may be trimmed itself, and nothing else is trimmed. -/
theorem trimChars_inserted (h : n.Plain) (hcs : NamesFile n.text)
    (hparams : n.params = before ++ after) (p : List Char) :
    trimChars (n.withParams (before ++ p :: after)).text =
      (n.withParams (before ++ (if after = [] then trimEnd p else p) :: after)).text := by
  rw [trimChars_withParams h hcs]
  by_cases hafter : after = []
  · rw [if_pos hafter, hafter, trimEnd_joined_concat]
    rfl
  · rw [if_neg hafter]
    have hquery : n.withParams (before ++ after) = n := by
      unfold params at hparams
      rcases n with ⟨marked, path, _ | ps⟩
      · simp_all
      · simpa [withParams] using hparams.symm
    have hjoined : trimEnd (['&'].intercalate (before ++ after)) =
        ['&'].intercalate (before ++ after) := by
      have htrim := hcs.trimmed
      rw [← hquery, trimChars_withParams h hcs] at htrim
      exact (List.cons.inj (List.append_cancel_left htrim)).2
    have hend := (trimEnd_joined_append before hafter).mp hjoined
    have hsplit : before ++ p :: after = (before ++ [p]) ++ after := by simp
    rw [hsplit, (trimEnd_joined_append (before ++ [p]) hafter).mpr hend]
    rfl

/-- Unknown parameters make no difference to the target. -/
theorem target_inserted (hparams : n.params = before ++ after) (hp : ¬ Known p) :
    (n.withParams (before ++ p :: after)).target = n.target := by
  have hknown : (n.withParams (before ++ p :: after)).known = n.known := by
    rw [known, known, hparams]
    simp [withParams, params, hp]
  have hmode : p ≠ "mode=memory".toList := fun heq => hp (heq ▸ known_mode)
  have hmemory : "mode=memory".toList ∈ (n.withParams (before ++ p :: after)).params ↔
      "mode=memory".toList ∈ n.params := by
    rw [hparams]
    simp only [withParams, params, Option.getD_some, List.mem_append, List.mem_cons, hmode.symm,
      false_or]
  unfold target passed
  rw [hknown]
  simp only [hmemory]
  rfl

/-- With other parameters a name of a file is still one. -/
theorem namesFile_withParams (h : n.Plain) (hcs : NamesFile n.text) {ps : List (List Char)}
    (hps : ∀ p ∈ ps, '&' ∉ p)
    (htrim : trimChars (n.withParams ps).text = (n.withParams ps).text) :
    (n.withParams ps).Plain ∧ NamesFile (n.withParams ps).text := by
  have hplain : (n.withParams ps).Plain := ⟨h.path, hps, h.unmarked⟩
  have hlead : ∀ {lead : List Char}, '?' ∉ lead → lead <+: (n.withParams ps).text →
      lead <+: n.text := fun hmark hprefix =>
    (prefix_of_text hmark hprefix).trans (List.prefix_append n.lead _)
  refine ⟨hplain, htrim, mt (hlead (by decide)) hcs.noUrl, ⟨fun heq => ?_, ?_⟩,
    hasPath_text hplain⟩
  · have hmark : '?' ∈ (n.withParams ps).text := by simp [text, withParams]
    rw [heq] at hmark
    revert hmark
    decide
  · exact mt (hlead (by decide)) hcs.noMemory.2

end FileName

/-! ## The whole reader -/

section

variable {n : FileName} {before after : List (List Char)} {p : List Char}

theorem parse_text (h : n.Plain) (hcs : NamesFile n.text) :
    parse (String.ofList n.text) = .ok (n.target, n.others) := by
  rw [parse, String.toList_ofList, hcs.trimmed, FileName.ofChars_text h hcs]

/-- A parameter that stays unknown makes no difference to the target, wherever it is put. -/
theorem parse_inserted (h : n.Plain) (hcs : NamesFile n.text) (hparams : n.params = before ++ after)
    (hjoined : '&' ∉ p) (hp : ¬ Known p) (hlast : after = [] → ¬ Known (trimEnd p)) :
    ∃ names, parse (String.ofList (n.withParams (before ++ p :: after)).text) =
      .ok (n.target, names) := by
  obtain ⟨q, hq, hqknown, hqjoined⟩ : ∃ q, (if after = [] then trimEnd p else p) = q ∧
      ¬ Known q ∧ '&' ∉ q := by
    by_cases hafter : after = []
    · refine ⟨trimEnd p, if_pos hafter, hlast hafter, ?_⟩
      exact fun hmem => hjoined ((trimEnd_isPrefix p).subset hmem)
    · exact ⟨p, if_neg hafter, hp, hjoined⟩
  have hps : ∀ r ∈ before ++ q :: after, '&' ∉ r := by
    have hold := hparams ▸ h.joined
    simp only [List.mem_append, List.mem_cons]
    rintro r (hr | rfl | hr)
    · exact hold r (List.mem_append_left _ hr)
    · exact hqjoined
    · exact hold r (List.mem_append_right _ hr)
  -- What is read is the name with the parameter as it is after trimming.
  have htrim := FileName.trimChars_inserted h hcs hparams p
  rw [hq] at htrim
  have htwice := trimChars_trimChars (n.withParams (before ++ p :: after)).text
  rw [htrim] at htwice
  obtain ⟨hplain, hnames⟩ := FileName.namesFile_withParams h hcs hps htwice
  refine ⟨(n.withParams (before ++ q :: after)).others, ?_⟩
  rw [parse, String.toList_ofList, htrim, FileName.ofChars_text hplain hnames,
    FileName.target_inserted hparams hqknown]

/-- **Names of files.** A text that names a file is put together from parts, and it is read as what
they say: the known parameters come into the URL, and the names of the others are reported. One more
parameter that is not known changes neither the URL nor what is held in memory, wherever it is put,
as long as it does not become a known one when the name is trimmed. -/
theorem parse_fileName (dsn : String) (h : NamesFile dsn.toList) :
    (∃ n : FileName, n.Plain ∧ n.text = dsn.toList) ∧
    ∀ n : FileName, n.Plain → n.text = dsn.toList →
      parse dsn = .ok (n.target, n.others) ∧
      ∀ before after p, n.params = before ++ after → '&' ∉ p → ¬ Known p →
        (after = [] → ¬ Known (trimEnd p)) →
        ∃ names, parse (String.ofList (n.withParams (before ++ p :: after)).text) =
          .ok (n.target, names) := by
  refine ⟨FileName.exists_text h, fun n hn htext => ⟨?_, fun before after p hparams => ?_⟩⟩
  · rw [← parse_text hn (htext ▸ h), htext, String.ofList_toList]
  · exact parse_inserted hn (htext ▸ h) hparams

end

/-! ### A shared cache -/

/-- Empty parameters, a second question mark and names that only start like a known one. -/
theorem parse_fileName_cache :
    let dsn := "file:app.db?cache=shared&&modes=1?&=x"
    let n : FileName := ⟨true, "app.db".toList,
      some ["cache=shared".toList, [], "modes=1?".toList, "=x".toList]⟩
    NamesFile dsn.toList ∧ n.Plain ∧ n.text = dsn.toList ∧
    parse dsn = .ok (⟨"sqlite://app.db?cache=shared&mode=rwc", false⟩, ["modes", ""]) ∧
    ∃ names, parse "file:app.db?cache=shared&&modes=1?&=x&mode =memory " =
      .ok (⟨"sqlite://app.db?cache=shared&mode=rwc", false⟩, names) := by
  intro dsn n
  have hn : n.Plain := ⟨by decide, by decide, nofun⟩
  have htext : n.text = dsn.toList := by decide
  have hdsn : NamesFile dsn.toList :=
    ⟨by decide, by decide, by decide, htext ▸ FileName.hasPath_text hn⟩
  obtain ⟨hparse, hinserted⟩ := (parse_fileName dsn hdsn).2 n hn htext
  exact ⟨hdsn, hn, htext, hparse, hinserted n.params [] "mode =memory ".toList (by simp)
    (by decide) (by decide) (by decide)⟩

/-- A name may become a known one when it is put last, where blanks are trimmed. -/
theorem parse_trimmed_parameter :
    let n : FileName := ⟨false, "app.db".toList, none⟩
    NamesFile "app.db".toList ∧ n.Plain ∧ n.text = "app.db".toList ∧ ¬ Known "mode ".toList ∧
    n.params = [] ∧ (n.withParams ["mode ".toList]).text = "app.db?mode ".toList ∧
    parse "app.db" = .ok (⟨"sqlite://app.db?mode=rwc", false⟩, []) ∧
    parse "app.db?mode " = .ok (⟨"sqlite://app.db?mode&mode=rwc", false⟩, []) := by
  intro n
  have hn : n.Plain := ⟨by decide, by decide, by decide⟩
  exact ⟨⟨by decide, by decide, by decide, FileName.hasPath_text hn⟩, hn, rfl, by decide, rfl, rfl,
    by decide, by decide⟩

end DataAccess.Dsn.Sqlite
