import DataAccess.Proofs.Dsn.Keywords
import DataAccess.Proofs.Dsn.Refusal
import DataAccess.Proofs.Dsn.Steps
import Mathlib.Data.List.TakeWhile

/-!
# The host of a PostgreSQL name

The URL that a list of keywords becomes reads back (`Holds.wellFormed`), so the host that a client
sees in it is the one that the last keyword with a host set. That host is the keyword's value unless
the value is cut at a colon or has a code in it: `parse_host`.
-/

namespace DataAccess.Dsn.Postgres

open Text Url

/-! ## Hosts -/

/-- A pair that names a host other than a directory of sockets. -/
def namesHost (pair : String × String) : Bool :=
  (pair.1 == "host" || pair.1 == "hostaddr") && pair.2.toList.head? != some '/'

/-- The last host that a list of pairs names. -/
def lastHost? (pairs : List (String × String)) : Option String :=
  ((pairs.filter namesHost).map Prod.snd).getLast?

/-- A host of a URL is what a text says: its name decodes to the text, or its address is written
there, in brackets or without them. -/
def Denotes (host : Host) (cs : List Char) : Prop :=
  match host with
  | .name text => Percent.decode text = utf8 cs
  | .address a => ∃ literal, (cs = literal ∨ cs = '[' :: (literal ++ [']'])) ∧
      Address.ofText? literal = some a

variable {cs : List Char} {host : Host}

theorem parse_brackets {rest : List Char} (h : Host.parse ('[' :: rest) = .ok host) :
    ∃ literal a, rest = literal ++ [']'] ∧ Address.ofText? literal = some a ∧
      host = .address a := by
  simp only [Host.parse] at h
  split at h
  · next hend =>
    split at h
    · next a haddress =>
      obtain ⟨literal, rfl⟩ := List.getLast?_eq_some_iff.mp (eq_of_beq hend)
      rw [List.dropLast_concat] at haddress
      cases h
      exact ⟨literal, a, rfl, haddress, rfl⟩
    · cases h
  · cases h

/-- In brackets a text is taken as an address, whole or not at all. -/
theorem Takes.brackets (h : Takes cs host) (hcs : cs.head? = some '[') :
    ∃ literal a, cs = '[' :: (literal ++ [']']) ∧ Address.ofText? literal = some a ∧
      host = .address a := by
  obtain ⟨part, hpart, hparse⟩ := h
  obtain ⟨rest, rfl⟩ : ∃ rest, cs = '[' :: rest := by
    cases cs <;> simp_all
  unfold hostPart at hpart
  split at hpart
  · cases hpart
    obtain ⟨literal, a, rfl, haddress, rfl⟩ := parse_brackets hparse
    exact ⟨literal, a, rfl, haddress, rfl⟩
  · -- Up to a colon there is no address.
    cases hpart
    have hfirst : ('[' :: rest).takeWhile (· != ':') = '[' :: rest.takeWhile (· != ':') := rfl
    rw [hfirst] at hparse
    obtain ⟨literal, a, hrest, haddress, -⟩ := parse_brackets hparse
    have hcolon := Address.colon_mem_of_ofText? haddress
    have hmem : ':' ∈ rest.takeWhile (· != ':') := hrest ▸ List.mem_append_left _ hcolon
    exact absurd (List.mem_takeWhile_imp hmem) (by decide)

/-- Without brackets a text is taken as a name, up to its first colon. -/
theorem Takes.name (h : Takes cs host) (hcs : cs.head? ≠ some '[') :
    host = .name (Percent.encode Percent.isControl (cs.takeWhile (· != ':'))) := by
  obtain ⟨part, hpart, hparse⟩ := h
  unfold hostPart at hpart
  rw [if_neg (fun hbrackets => hcs hbrackets.1)] at hpart
  split at hpart
  · cases hpart
  · cases hpart
    unfold Host.parse at hparse
    split at hparse
    · next rest heq =>
      cases cs <;> simp_all
    · split at hparse
      · cases hparse
      · cases hparse
        rfl

/-- A host denotes the text it was taken from unless a part of the text was cut off or is a code. -/
theorem Takes.denotes_iff (h : Takes cs host) :
    Denotes host cs ↔ cs.head? = some '[' ∨ (':' ∉ cs ∧ ¬ Percent.HasCode cs) := by
  by_cases hcs : cs.head? = some '['
  · obtain ⟨literal, a, heq, haddress, rfl⟩ := h.brackets hcs
    simp only [hcs, true_or, iff_true]
    exact ⟨literal, .inr heq, haddress⟩
  · have hdecode := Percent.decode_encode Percent.leavesCodes_isControl (cs.takeWhile (· != ':'))
    rw [h.name hcs, Denotes, hdecode]
    by_cases hcolon : ':' ∈ cs
    · have hle := Percent.length_decode_le (cs.takeWhile (· != ':'))
      have hrest : cs.dropWhile (· != ':') ≠ [] := fun hnil =>
        absurd (List.dropWhile_eq_nil_iff.mp hnil _ hcolon) (by decide)
      have hlt := @Percent.length_utf8_lt (cs.takeWhile (· != ':')) _ hrest
      rw [List.takeWhile_append_dropWhile] at hlt
      simp only [hcs, hcolon, not_true_eq_false, false_and, or_false, iff_false]
      intro heq
      rw [heq] at hle
      omega
    · rw [(cut_no_mark hcolon).1]
      simp [hcs, hcolon, Percent.decode_eq_utf8_iff]

/-! ## Settings -/

/-- What settings have of the pairs read so far. -/
structure Holds (pairs : List (String × String)) (s : Settings) : Prop where
  wellFormed : s.url.WellFormed
  host : ∀ value, lastHost? pairs = some value → Takes value.toList s.url.host
  noHost : lastHost? pairs = none → s.url.host = .name "localhost".toList

theorem lastHost?_append (pairs : List (String × String)) (pair : String × String) :
    lastHost? (pairs ++ [pair]) = if namesHost pair then some pair.2 else lastHost? pairs := by
  unfold lastHost?
  split <;> simp_all

theorem holds_standard : Holds [] .standard where
  wellFormed := .ofScheme ⟨'p', "ostgres".toList, rfl, by decide⟩ (by decide)
  host := nofun
  noHost := fun _ => rfl

variable {s t : Settings} {pairs : List (String × String)} {pair : String × String}

theorem namesHost_iff :
    namesHost pair = true ↔
      Keyword.ofName pair.1 = .host ∧ Settings.isSocketDirectory pair.2 = false := by
  simp [namesHost, Keyword.ofName_eq_host, Settings.isSocketDirectory]

/-- A pair that names no host leaves the host alone. -/
theorem Holds.other (h : Holds pairs s) (hpair : namesHost pair = false)
    (hhost : t.url.host = s.url.host) (hurl : t.url.WellFormed) : Holds (pairs ++ [pair]) t := by
  have hlast : lastHost? (pairs ++ [pair]) = lastHost? pairs := by
    rw [lastHost?_append, hpair]
    rfl
  exact ⟨hurl, by rw [hlast, hhost]; exact h.host, by rw [hlast, hhost]; exact h.noHost⟩

/-- One more pair. -/
theorem Holds.step (h : Holds pairs s) (hstep : Step s pair t) : Holds (pairs ++ [pair]) t := by
  have hnamed := @namesHost_iff pair
  cases hstep with
  | @host host hkey hvalue htakes =>
    have hlast : lastHost? (pairs ++ [pair]) = some pair.2 := by
      rw [lastHost?_append, if_pos (namesHost_iff.mpr ⟨hkey, hvalue⟩)]
    obtain ⟨part, hpart, hparse⟩ := htakes
    exact {
      wellFormed := h.wellFormed.setHost (setHost_eq_ok_iff.mpr ⟨part, host, hpart, hparse, rfl⟩)
      host := fun value hsome => Option.some.inj (hlast.symm.trans hsome) ▸ ⟨part, hpart, hparse⟩
      noHost := fun hnone => nomatch hlast.symm.trans hnone }
  | sockets hkey hvalue => exact h.other (by simp_all) rfl h.wellFormed
  | port hkey hread => exact h.other (by simp_all) rfl h.wellFormed
  | user hkey hhost =>
    exact h.other (by simp_all) rfl
      (h.wellFormed.setUsername? (setUsername?_eq_some_iff.mpr ⟨hhost, rfl⟩))
  | password hkey hhost =>
    exact h.other (by simp_all) rfl
      (h.wellFormed.setPassword? (setPassword?_eq_some_iff.mpr ⟨hhost, rfl⟩))
  | database hkey => exact h.other (by simp_all) rfl (h.wellFormed.setPath _)
  | forwarded hkey => exact h.other (by simp_all) rfl h.wellFormed
  | unknown hkey => exact h.other (by simp_all) rfl h.wellFormed

theorem Holds.takeAll (h : Holds pairs s) {rest : List (String × String)}
    (htake : s.takeAll rest = .ok t) : Holds (pairs ++ rest) t :=
  takeAll_induction Holds.step h htake

theorem toUrl_eq_ok_iff {u : Url} :
    s.toUrl = .ok u ↔ s.url.host.isEmpty = false ∧
      u = Url.appendPairs { s.url with port := some s.port } s.query := by
  unfold Settings.toUrl setPort?
  cases hhost : s.url.host.isEmpty <;> simp [eq_comm]

/-- The URL of settings keeps their host, which is not empty. -/
theorem Holds.toUrl {u : Url} (h : Holds pairs s) (hurl : s.toUrl = .ok u) :
    u.WellFormed ∧ u.host = s.url.host ∧ u.host.isEmpty = false := by
  obtain ⟨hne, rfl⟩ := toUrl_eq_ok_iff.mp hurl
  have hport : s.url.setPort? s.port = some { s.url with port := some s.port } :=
    setPort?_eq_some_iff.mpr ⟨hne, rfl⟩
  have hhost : (Url.appendPairs { s.url with port := some s.port } s.query).host = s.url.host := by
    rw [appendPairs_eq]
  exact ⟨(h.wellFormed.setPort? hport).appendPairs _, hhost, hhost ▸ hne⟩

/-! ## Names -/

/-- A name is read by taking its pairs and putting the port and the parameters last. -/
theorem parse_eq_ok_iff {dsn url : String} {dropped : List String}
    (hdsn : isUrl (trimChars dsn.toList) = false) :
    parse dsn = .ok (url, dropped) ↔
      ∃ pairs s u, Keywords.parse (trimChars dsn.toList) = .ok pairs ∧
        Settings.standard.takeAll pairs = .ok s ∧ s.toUrl = .ok u ∧ url = u.text ∧
        dropped = s.dropped := by
  unfold parse ofChars settings
  rw [hdsn, if_neg Bool.false_ne_true]
  cases Keywords.parse (trimChars dsn.toList) with
  | error f => simp
  | ok pairs =>
    cases htake : Settings.standard.takeAll pairs with
    | error e => simp [htake]
    | ok s =>
      cases hurl : s.toUrl with
      | error e => simp [Except.map, htake, hurl]
      | ok u => simp [Except.map, htake, hurl, eq_comm]

theorem parse_eq_ok {dsn url : String} {dropped : List String}
    (hdsn : isUrl (trimChars dsn.toList) = false) (h : parse dsn = .ok (url, dropped)) :
    ∃ pairs s u, Keywords.parse (trimChars dsn.toList) = .ok pairs ∧
      Settings.standard.takeAll pairs = .ok s ∧ s.toUrl = .ok u ∧ url = u.text := by
  obtain ⟨pairs, s, u, hpairs, htake, hurl, htext, -⟩ := (parse_eq_ok_iff hdsn).mp h
  exact ⟨pairs, s, u, hpairs, htake, hurl, htext⟩

/-- **The host of a name.** Whatever list of keywords is no URL yet is refused or becomes a URL that
reads back. Its host is the last one that the list names, or the local host if there is none.
Without brackets it ends at the first colon, so that it is the host that was meant exactly if there
is no colon in it and no code. -/
theorem parse_host (dsn : String) (hdsn : isUrl (trimChars dsn.toList) = false) :
    match parse dsn with
    | .error e => ∃ reason, e = .invalidDsn .postgresql reason
    | .ok (url, _) => ∃ pairs u, Keywords.parse (trimChars dsn.toList) = .ok pairs ∧
        Location.parse url.toList = .ok (.hosted u) ∧
        (lastHost? pairs = none → u.host = .name "localhost".toList) ∧
        ∀ value, lastHost? pairs = some value →
          (Denotes u.host value.toList ↔ value.toList.head? = some '[' ∨
            (':' ∉ value.toList ∧ ¬ Percent.HasCode value.toList)) ∧
          (value.toList.head? ≠ some '[' → u.host = .name
            (Percent.encode Percent.isControl (value.toList.takeWhile (· != ':')))) := by
  cases hparse : parse dsn with
  | error e => exact parse_refuses dsn e hparse
  | ok answer =>
    obtain ⟨url, dropped⟩ := answer
    obtain ⟨pairs, s, u, hpairs, htake, hurl, rfl⟩ := parse_eq_ok hdsn hparse
    have hholds : Holds pairs s := holds_standard.takeAll htake
    obtain ⟨hwell, hhost, hne⟩ := hholds.toUrl hurl
    have hread : Location.parse u.text.toList = .ok (.hosted u) := by
      rw [text, String.toList_ofList]
      exact Location.parse_chars hwell hne
    refine ⟨pairs, u, hpairs, hread, ?_, fun value hvalue => ?_⟩
    · exact fun hnone => hhost.trans (hholds.noHost hnone)
    · have htakes := hholds.host value hvalue
      rw [← hhost] at htakes
      exact ⟨htakes.denotes_iff, htakes.name⟩

/-- A port after the host is cut off with its colon, and the standard port takes its place. -/
theorem parse_host_cut : ∃ u,
    parse "host=db:5433" = .ok ("postgres://db:5432", []) ∧
      Location.parse "postgres://db:5432".toList = .ok (.hosted u) ∧
      u.host = .name "db".toList ∧ ¬ Denotes u.host "db:5433".toList := by
  have htrim : trimChars "host=db:5433".toList = "host=db:5433".toList := by decide
  have hpairs : Keywords.parse (trimChars "host=db:5433".toList) = .ok [("host", "db:5433")] := by
    have hcut := @Keywords.parse_cut "db:5433".toList [] "host=db:5433".toList "host".toList
      _ _ _ rfl rfl (by decide) rfl rfl
    rw [htrim, hcut, Keywords.parse_blanks (List.forall_mem_nil _)]
    rfl
  have hparse : parse "host=db:5433" = .ok ("postgres://db:5432", []) := by
    unfold parse ofChars settings
    rw [hpairs]
    rfl
  have hhost := parse_host "host=db:5433" (by decide)
  simp only [hparse] at hhost
  obtain ⟨pairs, u, hread, hurl, -, hlast⟩ := hhost
  cases hpairs.symm.trans hread
  obtain ⟨hdenotes, hname⟩ := hlast "db:5433" rfl
  refine ⟨u, hparse, hurl, hname (by decide), ?_⟩
  rw [hdenotes]
  simp

end DataAccess.Dsn.Postgres
