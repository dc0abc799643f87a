import DataAccess.Proofs.Dsn.Account
import DataAccess.Proofs.Dsn.Cuts

/-!
# The order of keywords

Whether settings take a list of pairs is decided pair by pair (`takeAll_of_fits`,
`fits_of_takeAll`), and what they hold then by the last value of each key, the last host and the
parameters (`Sums.eq`). With one pair for each key and one host at most, nothing of this depends on
the order of the pairs, apart from the order of the parameters themselves: `parse_perm`.
-/

namespace DataAccess.Dsn.Postgres

open Text Url

variable {s t : Settings} {pair : String × String} {ps qs : List (String × String)}

/-! ## Pairs that are taken -/

/-- A pair that settings with a host take, and that leaves them a host. -/
structure Fits (pair : String × String) : Prop where
  host : namesHost pair = true → ∃ host, Takes pair.2.toList host ∧ host.isEmpty = false
  port : pair.1 = "port" → ∃ port, readPort? pair.2.toList = some port

theorem take_of_fits (hs : s.url.host.isEmpty = false) (h : Fits pair) :
    ∃ t, s.take pair = .ok t ∧ t.url.host.isEmpty = false := by
  unfold Settings.take
  cases hkey : Keyword.ofName pair.1 with
  | host =>
    cases hvalue : Settings.isSocketDirectory pair.2 with
    | true => exact ⟨_, if_pos hvalue, hs⟩
    | false =>
      obtain ⟨host, ⟨part, hpart, hparse⟩, hne⟩ := h.host (namesHost_iff.mpr ⟨hkey, hvalue⟩)
      have hset : s.url.setHost pair.2.toList = .ok { s.url with host } :=
        setHost_eq_ok_iff.mpr ⟨part, host, hpart, hparse, rfl⟩
      simp only [Settings.withHost, hvalue, hset]
      exact ⟨_, rfl, hne⟩
  | port =>
    obtain ⟨port, hread⟩ := h.port (Keyword.ofName_eq_port.mp hkey)
    simp only [Settings.withPort, hread]
    exact ⟨_, rfl, hs⟩
  | user =>
    exact ⟨_, withUrl?_eq_ok_iff.mpr ⟨_, setUsername?_eq_some_iff.mpr ⟨hs, rfl⟩, rfl⟩, hs⟩
  | password =>
    exact ⟨_, withUrl?_eq_ok_iff.mpr ⟨_, setPassword?_eq_some_iff.mpr ⟨hs, rfl⟩, rfl⟩, hs⟩
  | database => exact ⟨_, rfl, hs⟩
  | forwarded => exact ⟨_, rfl, hs⟩
  | unknown => exact ⟨_, rfl, hs⟩

/-- A list is taken if each of its pairs is. -/
theorem takeAll_of_fits (hs : s.url.host.isEmpty = false) (h : ∀ pair ∈ ps, Fits pair) :
    ∃ t, s.takeAll ps = .ok t := by
  induction ps generalizing s with
  | nil => exact ⟨s, rfl⟩
  | cons pair rest ih =>
    obtain ⟨hpair, hrest⟩ := List.forall_mem_cons.mp h
    obtain ⟨middle, htake, hmiddle⟩ := take_of_fits hs hpair
    obtain ⟨t, ht⟩ := ih hmiddle hrest
    exact ⟨t, by rw [Settings.takeAll, htake]; exact ht⟩

/-- The only host of a list is its last one. -/
theorem lastHost?_of_mem (hhosts : (ps.filter namesHost).length ≤ 1) (hpair : pair ∈ ps)
    (hhost : namesHost pair = true) : lastHost? ps = some pair.2 := by
  have hmem : pair ∈ ps.filter namesHost := List.mem_filter.mpr ⟨hpair, hhost⟩
  obtain ⟨only, honly⟩ := List.length_eq_one_iff.mp
    (Nat.le_antisymm hhosts (List.length_pos_of_mem hmem))
  rw [honly, List.mem_singleton] at hmem
  simp [lastHost?, honly, hmem]

/-- Each pair of a list that was taken fits, if no host was replaced by another one. -/
theorem fits_of_takeAll (hhosts : (ps.filter namesHost).length ≤ 1)
    (h : Settings.standard.takeAll ps = .ok s) (hs : s.url.host.isEmpty = false) :
    ∀ pair ∈ ps, Fits pair := by
  refine fun pair hpair => ⟨fun hhost => ?_, fun hport => ?_⟩
  · -- A host that another one replaces could be empty, but the last one is not.
    have hlast := lastHost?_of_mem hhosts hpair hhost
    have hholds : Holds ps s := holds_standard.takeAll h
    exact ⟨s.url.host, hholds.host _ hlast, hs⟩
  · obtain ⟨a, b, hstep⟩ := step_of_mem h hpair
    have hread := port_of_step hstep
    rw [if_pos hport] at hread
    exact ⟨b.port, hread.symm⟩

/-! ## What settings hold -/

theorem Takes.unique {cs : List Char} {a b : Host} (ha : Takes cs a) (hb : Takes cs b) : a = b := by
  obtain ⟨part, hpart, ha⟩ := ha
  obtain ⟨part', hpart', hb⟩ := hb
  cases hpart.symm.trans hpart'
  exact Except.ok.inj (ha.symm.trans hb)

theorem Holds.host_eq (hs : Holds ps s) (ht : Holds qs t) (hlast : lastHost? ps = lastHost? qs) :
    s.url.host = t.url.host := by
  cases hps : lastHost? ps with
  | none => rw [hs.noHost hps, ht.noHost (hlast.symm.trans hps)]
  | some value => exact (hs.host value hps).unique (ht.host value (hlast.symm.trans hps))

/-- Settings are decided by the last values, the host and the parameters. -/
theorem Sums.eq (hs : Sums ps s) (ht : Sums qs t) (hhost : s.url.host = t.url.host)
    (hvalues : ∀ key, lastValue? key ps = lastValue? key qs)
    (hparameters : ps.filterMap parameter? = qs.filterMap parameter?) :
    s.url = t.url ∧ s.port = t.port ∧ s.query = t.query := by
  obtain ⟨hscheme, hport, hquery, hfragment⟩ := hs.rest
  obtain ⟨hscheme', hport', hquery', hfragment'⟩ := ht.rest
  have hurl : s.url = t.url := by
    apply Url.ext
    · rw [hscheme, hscheme']
    · rw [hs.username, ht.username, hvalues]
    · rw [hs.password, ht.password, hvalues]
    · exact hhost
    · rw [hport, hport']
    · rw [hs.path, ht.path, hvalues]
    · rw [hquery, hquery']
    · rw [hfragment, hfragment']
  have hports : some s.port = some t.port := by rw [hs.port, ht.port, hvalues]
  exact ⟨hurl, Option.some.inj hports, by rw [hs.query, ht.query, hparameters]⟩

/-! ## Another order -/

theorem eq_of_perm {α : Type} {l l' : List α} (h : l.Perm l') (hlength : l.length ≤ 1) : l = l' := by
  match l with
  | [] => exact h.nil_eq
  | [a] => exact List.singleton_perm.mp h
  | _ :: _ :: _ => simp at hlength

theorem lastValue?_perm (hkeys : (ps.map Prod.fst).Nodup) (h : ps.Perm qs) (key : String) :
    lastValue? key ps = lastValue? key qs := by
  have hlength : (ps.filter (·.1 == key)).length ≤ 1 := by
    have hcount := List.nodup_iff_count.mp hkeys key
    rwa [List.count_eq_countP, List.countP_map, List.countP_eq_length_filter] at hcount
  rw [lastValue?, eq_of_perm (h.filter _) hlength, ← lastValue?]

theorem lastHost?_perm (hhosts : (ps.filter namesHost).length ≤ 1) (h : ps.Perm qs) :
    lastHost? ps = lastHost? qs := by
  rw [lastHost?, eq_of_perm (h.filter _) hhosts, ← lastHost?]

/-- A pair that becomes a parameter. -/
def isParameter (pair : String × String) : Bool := (parameter? pair).isSome

theorem filterMap_parameter? (pairs : List (String × String)) :
    (pairs.filter isParameter).filterMap parameter? = pairs.filterMap parameter? := by
  rw [List.filterMap_filter]
  refine congrArg (List.filterMap · pairs) (funext fun pair => ?_)
  cases h : parameter? pair <;> simp [isParameter, h]

/-! ## Names in quotes -/

/-- A text that starts with a key is a URL only if the key starts one. -/
theorem isUrl_of_append {cs rest : List Char} (h : isUrl (cs ++ '=' :: rest) = true) :
    isUrl cs = true := by
  simp only [isUrl, Bool.or_eq_true, List.isPrefixOf_iff_prefix] at h ⊢
  exact h.imp (prefix_of_append_mark (by decide)) (prefix_of_append_mark (by decide))

theorem isUrl_render (h : ∀ pair ∈ ps, isUrl pair.1.toList = false) :
    isUrl (Keywords.render ps) = false := by
  cases ps with
  | nil => rfl
  | cons pair rest =>
    have hpair := h pair List.mem_cons_self
    rw [Keywords.render_cons, Keywords.quotedPair, List.append_assoc, List.cons_append]
    exact Bool.eq_false_iff.mpr fun hurl => absurd (isUrl_of_append hurl) (by simp [hpair])

/-- What is asked of a list of pairs for its order not to matter: keys that can be written and do
not start a URL, one value for each, and one host at most. -/
structure Distinct (pairs : List (String × String)) : Prop where
  key : ∀ pair ∈ pairs, Keywords.IsKey pair.1
  noUrl : ∀ pair ∈ pairs, isUrl pair.1.toList = false
  nodup : (pairs.map Prod.fst).Nodup
  hosts : (pairs.filter namesHost).length ≤ 1

theorem Distinct.perm (h : Distinct ps) (hperm : ps.Perm qs) : Distinct qs where
  key pair hpair := h.key pair (hperm.mem_iff.mpr hpair)
  noUrl pair hpair := h.noUrl pair (hperm.mem_iff.mpr hpair)
  nodup := (hperm.map Prod.fst).nodup_iff.mp h.nodup
  hosts := (hperm.filter namesHost).length_eq ▸ h.hosts

/-- What is read from such a list in quotes. -/
theorem Distinct.parse_eq_ok_iff (h : Distinct ps) {url : String} {dropped : List String} :
    parse (String.ofList (Keywords.render ps)) = .ok (url, dropped) ↔
      ∃ s u, Settings.standard.takeAll ps = .ok s ∧ s.toUrl = .ok u ∧ url = u.text ∧
        dropped = s.dropped := by
  have hchars := String.toList_ofList (l := Keywords.render ps)
  obtain ⟨htrim, hread⟩ := Keywords.parse_trimChars_render h.key hchars.symm
  have hdsn : isUrl (trimChars (String.ofList (Keywords.render ps)).toList) = false := by
    rw [htrim, hchars]
    exact isUrl_render h.noUrl
  rw [Postgres.parse_eq_ok_iff hdsn, hread]
  simp

/-- **The order of keywords does not matter.** If a list of pairs in quotes, with one value for each
key and one host at most, becomes a URL, then so it does in any other order that keeps the order of
the parameters, and the URL is the same. -/
theorem parse_perm (ps qs : List (String × String)) (hps : Distinct ps) (hperm : ps.Perm qs)
    (hparameters : ps.filter isParameter = qs.filter isParameter) (url : String)
    (dropped : List String) (h : parse (String.ofList (Keywords.render ps)) = .ok (url, dropped)) :
    ∃ dropped', parse (String.ofList (Keywords.render qs)) = .ok (url, dropped') ∧
      dropped'.Perm dropped := by
  obtain ⟨s, u, htake, hurl, rfl, rfl⟩ := hps.parse_eq_ok_iff.mp h
  obtain ⟨hhost, hu⟩ := toUrl_eq_ok_iff.mp hurl
  have hfits := fits_of_takeAll hps.hosts htake hhost
  obtain ⟨t, htake'⟩ : ∃ t, Settings.standard.takeAll qs = .ok t :=
    takeAll_of_fits rfl fun pair hpair => hfits pair (hperm.mem_iff.mpr hpair)
  -- Whatever decides settings is the same for both lists, so they become one URL.
  have hs : Sums ps s := sums_standard.takeAll htake
  have ht : Sums qs t := sums_standard.takeAll htake'
  have hhosts : s.url.host = t.url.host := by
    have hs : Holds ps s := holds_standard.takeAll htake
    exact hs.host_eq (holds_standard.takeAll htake') (lastHost?_perm hps.hosts hperm)
  have hquery : ps.filterMap parameter? = qs.filterMap parameter? := by
    rw [← filterMap_parameter? ps, hparameters, filterMap_parameter?]
  obtain ⟨hsame, hport, hpairs⟩ := hs.eq ht hhosts (lastValue?_perm hps.nodup hperm) hquery
  have hurl' : t.toUrl = .ok u := by
    rw [toUrl_eq_ok_iff, ← hsame, ← hport, ← hpairs]
    exact ⟨hhost, hu⟩
  refine ⟨t.dropped, (hps.perm hperm).parse_eq_ok_iff.mpr ⟨t, u, htake', hurl', rfl, rfl⟩, ?_⟩
  rw [hs.dropped, ht.dropped]
  exact ((hperm.map Prod.fst).filter isDropped).symm

/-- A user before the host and after it, with two parameters that keep their order. -/
theorem parse_perm_late_host :
    let ps := [("host", "db"), ("sslmode", "require"), ("port", "1"), ("hostaddr", "/run"),
      ("user", "it's"), ("foo", "1")]
    let qs := [("foo", "1"), ("user", "it's"), ("sslmode", "require"), ("port", "1"),
      ("hostaddr", "/run"), ("host", "db")]
    Distinct ps ∧ ps.Perm qs ∧ ps.filter isParameter = qs.filter isParameter ∧ ∃ url,
      parse "host='db' sslmode='require' port='1' hostaddr='/run' user='it\\'s' foo='1'" =
          .ok (url, ["foo"]) ∧
        ∃ dropped,
          parse "foo='1' user='it\\'s' sslmode='require' port='1' hostaddr='/run' host='db'" =
              .ok (url, dropped) := by
  intro ps qs
  have hps : Distinct ps := ⟨by decide, by decide, by decide, by decide⟩
  have hperm : ps.Perm qs := by decide
  have hparameters : ps.filter isParameter = qs.filter isParameter := by decide
  obtain ⟨url, hparse⟩ : ∃ url, parse (String.ofList (Keywords.render ps)) = .ok (url, ["foo"]) :=
    ⟨_, hps.parse_eq_ok_iff.mpr ⟨_, _, rfl, rfl, rfl, rfl⟩⟩
  obtain ⟨dropped, hsame, -⟩ := parse_perm ps qs hps hperm hparameters url _ hparse
  exact ⟨hps, hperm, hparameters, url, hparse, dropped, hsame⟩

end DataAccess.Dsn.Postgres
