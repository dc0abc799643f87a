import DataAccess.Proofs.Dsn.Classic
import DataAccess.Proofs.Text.Trim

/-!
# Parameters of a MySQL name

The parameters of a name follow its database, and those with a counterpart are to reach the URL in
their order. But the slash before the database is the last one of the whole name, and so a slash in
a value ends everything before it. Both halves are said by `parse_parameters`: without slashes no
value is lost (`Parts.toUrl_params`, `translate?_text`), and a value with one never reaches a URL
(`Parts.ofChars_free`, `Parts.toUrl_pairs`).
-/

namespace DataAccess.Dsn.Mysql

open Number Text Url

/-! ## Parameters with a counterpart -/

/-- A parameter that is passed on with its value. -/
inductive Key where
  | charset
  | collation
  | sslMode
  | sslmode
  | sslCa
  | statementCacheCapacity

namespace Key

/-- The key as a name writes it. -/
def text : Key → String
  | charset => "charset"
  | collation => "collation"
  | sslMode => "ssl-mode"
  | sslmode => "sslmode"
  | sslCa => "ssl-ca"
  | statementCacheCapacity => "statement-cache-capacity"

/-- The key as the URL writes it. -/
def counterpart : Key → String
  | sslmode => "ssl-mode"
  | k => k.text

theorem equals_not_mem (k : Key) : '=' ∉ k.text.toList := by cases k <;> decide

theorem slash_not_mem (k : Key) : '/' ∉ k.text.toList := by cases k <;> decide

theorem ampersand_not_mem (k : Key) : '&' ∉ k.text.toList := by cases k <;> decide

theorem counterpart_ne_socket (k : Key) : k.counterpart ≠ "socket" := by cases k <;> decide

end Key

/-- A parameter with its value. -/
structure Parameter where
  key : Key
  value : List Char

namespace Parameter

def text (s : Parameter) : List Char := s.key.text.toList ++ '=' :: s.value

/-- The value that counts. Of several character sets this is the first one. -/
def counted (s : Parameter) : List Char :=
  match s.key with
  | .charset => s.value.takeWhile (· != ',')
  | _ => s.value

/-- The pair that the URL is to have. -/
def pair (s : Parameter) : String × String := (s.key.counterpart, String.ofList s.counted)

/-- A value can be written if no ampersand ends it and it is not trimmed. -/
structure Plain (s : Parameter) : Prop where
  joined : '&' ∉ s.value
  trimmed : trimChars s.value = s.value

theorem translate?_text (s : Parameter) : translate? s.text = some s.pair := by
  have hcut : cutAt '=' s.text = (s.key.text.toList, some s.value) := cutAt_mark s.key.equals_not_mem
  have hname : String.ofList (parameterName s.text) = s.key.text := by
    rw [parameterName, hcut, String.ofList_toList]
  have hvalue : parameterValue s.text = s.value := by rw [parameterValue, hcut, Option.getD_some]
  unfold translate?
  rw [hname, hvalue, cutAt_fst]
  rcases s with ⟨key, value⟩
  cases key <;> rfl

theorem ampersand_not_mem {s : Parameter} (h : s.Plain) : '&' ∉ s.text := by
  simp [text, s.key.ampersand_not_mem, h.joined]

theorem slash_not_mem {s : Parameter} (h : '/' ∉ s.value) : '/' ∉ s.text := by
  simp [text, s.key.slash_not_mem, h]

end Parameter

/-- The names of parameters that are passed on are not reported as dropped. -/
theorem dropped_texts (ss : List Parameter) : dropped (ss.map Parameter.text) = [] := by
  have hnone : (ss.map Parameter.text).filter (fun p => (translate? p).isNone) = [] := by
    refine List.filter_eq_nil_iff.mpr fun p hp => ?_
    obtain ⟨s, -, rfl⟩ := List.mem_map.mp hp
    simp [Parameter.translate?_text]
  rw [dropped, hnone, List.map_nil]

theorem filterMap_translate?_texts (ss : List Parameter) :
    (ss.map Parameter.text).filterMap translate? = ss.map Parameter.pair := by
  rw [List.filterMap_map]
  have htranslate : translate? ∘ Parameter.text = some ∘ Parameter.pair :=
    funext Parameter.translate?_text
  rw [htranslate, List.filterMap_eq_map]

/-! ## A name with parameters -/

/-- The text of a name and its parameters. -/
def Classic.textWith (n : Classic) (ss : List Parameter) : List Char :=
  n.text ++ '?' :: ['&'].intercalate (ss.map Parameter.text)

/-- Parameters are put into the URL of a name after everything else. -/
theorem Parts.toUrl_params (p : Parts) (params : List (List Char)) :
    ({ p with params := params } : Parts).toUrl =
      ({ p with params := [] } : Parts).toUrl.map (·.appendPairs (params.filterMap translate?)) := by
  unfold Parts.toUrl
  dsimp only
  cases hendpoint : readEndpoint p.network p.address with
  | error cause => rfl
  | ok endpoint =>
    cases hu : withEndpoint (.ofScheme "mysql") endpoint with
    | error cause => simp only [hu, Except.map]
    | ok u =>
      cases hv : withUserinfo u p.userinfo with
      | error cause => simp only [hu, hv, Except.map]
      | ok v =>
        simp only [hu, hv, Except.map]
        rfl

/-- Parameters without a slash leave the name before them as it is. -/
theorem Classic.ofChars_textWith {n : Classic} (h : n.Plain) {ss : List Parameter}
    (hss : ∀ s ∈ ss, s.Plain) (hslash : ∀ s ∈ ss, '/' ∉ s.value) :
    Parts.ofChars (n.textWith ss) = .ok { n.parts with params := ss.map Parameter.text } := by
  have htail : '/' ∉ n.database ++ '?' :: ['&'].intercalate (ss.map Parameter.text) := by
    intro hmem
    rcases List.mem_append.mp hmem with hmem | hmem
    · exact h.database.1 hmem
    · rcases List.mem_cons.mp hmem with heq | hmem
      · revert heq
        decide
      · rcases mem_of_mem_joined hmem with heq | ⟨p, hp, hmem⟩
        · revert heq
          decide
        · obtain ⟨s, hs, rfl⟩ := List.mem_map.mp hp
          exact Parameter.slash_not_mem (hslash s hs) hmem
  have hjoined : ∀ p ∈ ss.map Parameter.text, '&' ∉ p := by
    intro p hp
    obtain ⟨s, hs, rfl⟩ := List.mem_map.mp hp
    exact Parameter.ampersand_not_mem (hss s hs)
  have hkept : (ss.map Parameter.text).filter (!·.isEmpty) = ss.map Parameter.text := by
    refine List.filter_eq_self.mpr fun p hp => ?_
    obtain ⟨s, -, rfl⟩ := List.mem_map.mp hp
    simp [Parameter.text]
  have hparts := Classic.ofChars_lead h.server htail
  rw [cutAt_mark h.database.2.1, parameters_joined hjoined, hkept] at hparts
  have htext : n.textWith ss =
      n.lead ++ '/' :: (n.database ++ '?' :: ['&'].intercalate (ss.map Parameter.text)) := by
    simp [textWith, text, lead]
  rw [htext]
  exact hparts

/-- A URL shows the server, the user and the database of `root@tcp(db:3306)/app`, and some
parameters. -/
structure Shows (u : Url) (ss : List Parameter) : Prop where
  user : u.username = "root".toList
  noPassword : u.password = []
  host : u.host = .name "db".toList
  port : u.port = some 3306
  database : u.path = "/app".toList
  pairs : u.queryPairs = ss.map Parameter.pair
  fragment : u.fragment = none

/-- The name that the parameters follow. -/
def app : Classic :=
  { login := some { user := "root".toList, password := none }
    server := .tcp "db".toList (some 3306), database := "app".toList }

theorem app_plain : app.Plain where
  user := by simp [app]
  password := by simp [app]
  server := .tcp (by decide) (List.all_eq_true.mp (by decide))
  database := by decide
  kept := by simp [app, Path.isPassedOver]
  noDots := by decide
  trimmed := by decide
  noUrl := by decide

theorem shows_parameters (ss : List Parameter) :
    Shows (app.url.appendPairs (ss.map Parameter.pair)) ss := by
  have hpairs := queryPairs_appendPairs app.url (ss.map Parameter.pair)
  rw [appendPairs_eq] at hpairs ⊢
  exact ⟨rfl, rfl, rfl, rfl, rfl, hpairs, rfl⟩

/-! ## Texts that are read as they stand -/

theorem trimEnd_texts {ss : List Parameter} (hss : ∀ s ∈ ss, s.Plain) :
    trimEnd (['&'].intercalate (ss.map Parameter.text)) =
      ['&'].intercalate (ss.map Parameter.text) := by
  rcases List.eq_nil_or_concat ss with rfl | ⟨before, s, rfl⟩
  · rfl
  · -- The text ends in the value of the last parameter.
    obtain ⟨lead, hlead⟩ : ∃ lead, ['&'].intercalate ((before.concat s).map Parameter.text) =
        lead ++ '=' :: s.value := by
      rw [List.concat_eq_append, List.map_append]
      by_cases hbefore : before = []
      · exact ⟨s.key.text.toList, by simp [hbefore, Parameter.text]⟩
      · rw [joined_append (by simpa using hbefore) (by simp)]
        exact ⟨['&'].intercalate (before.map Parameter.text) ++ '&' :: s.key.text.toList,
          by simp [Parameter.text]⟩
    have hs := hss s (by simp)
    rw [hlead, trimEnd_mark (by decide), trimEnd_of_trimmed hs.trimmed]

theorem trimChars_textWith {ss : List Parameter} (hss : ∀ s ∈ ss, s.Plain) :
    trimChars (app.textWith ss) = app.textWith ss := by
  have hhead : trimChars (app.textWith ss) = trimEnd (app.textWith ss) :=
    trimChars_of_head (by decide)
  rw [hhead, Classic.textWith, trimEnd_mark (by decide), trimEnd_texts hss]

theorem isUrl_textWith (ss : List Parameter) : isUrl (app.textWith ss) = false := rfl

/-! ## Slashes -/

/-- What follows the last slash has none in it. -/
theorem Parts.ofChars_free {cs : List Char} {p : Parts} (h : Parts.ofChars cs = .ok p) :
    ∀ q ∈ p.params, '/' ∉ q := by
  unfold Parts.ofChars at h
  split at h
  · cases h
  · next lead tail hcut =>
    dsimp only at h
    split at h
    · cases h
    · cases h
      intro q hq hslash
      have htail := (cutAtLast?_eq_some hcut).2
      exact htail (cutAt_snd_subset (parameters_subset hq hslash))

theorem tlsMode?_free {value mode : String} (h : tlsMode? value = some mode) :
    '/' ∉ mode.toList := by
  unfold tlsMode? at h
  split at h <;> cases h <;> decide

/-- No slash comes into a pair. -/
theorem translate?_free {p : List Char} {pair : String × String} (hp : '/' ∉ p)
    (h : translate? p = some pair) : '/' ∉ pair.2.toList := by
  have hvalue : '/' ∉ parameterValue p := fun hmem => hp (cutAt_snd_subset hmem)
  have hfirst : '/' ∉ (cutAt ',' (parameterValue p)).1 := by
    rw [cutAt_fst]
    exact fun hmem => hvalue ((List.takeWhile_subset _) hmem)
  unfold translate? at h
  dsimp only at h
  split at h
  · cases h
    simpa using hfirst
  · cases h
    simpa using hvalue
  · cases h
    simpa using hvalue
  · cases h
    simpa using hvalue
  · obtain ⟨mode, hmode, rfl⟩ := Option.map_eq_some_iff.mp h
    exact tlsMode?_free hmode
  · cases h
    simpa using hvalue
  · cases h
    simpa using hvalue
  · cases h

/-- All pairs of a server are its socket. -/
theorem withEndpoint_pairs {endpoint : Endpoint} {u : Url}
    (h : withEndpoint (ofScheme "mysql") endpoint = .ok u) :
    ∀ pair ∈ u.queryPairs, pair.1 = "socket" := by
  cases endpoint with
  | socket path =>
    cases h
    rw [queryPairs_appendPair]
    intro pair hpair
    obtain rfl := List.mem_singleton.mp hpair
    rfl
  | tcp host port =>
    simp only [withEndpoint] at h
    split at h
    · cases h
    · next v hset =>
      split at h
      · next w hport =>
        cases h
        obtain ⟨-, rfl⟩ := setPort?_eq_some_iff.mp hport
        obtain ⟨-, _, -, -, rfl⟩ := setHost_eq_ok_iff.mp hset
        exact fun pair hpair => absurd hpair List.not_mem_nil
      · cases h

theorem withUserinfo_pairs {userinfo : Option (List Char)} {u v : Url}
    (h : withUserinfo u userinfo = .ok v) : v.queryPairs = u.queryPairs := by
  cases userinfo with
  | none =>
    cases h
    rfl
  | some userinfo =>
    simp only [withUserinfo] at h
    split at h
    · cases h
    · next w huser =>
      split at h
      · cases h
      · next x hpassword =>
        cases h
        obtain ⟨-, rfl⟩ := setUsername?_eq_some_iff.mp huser
        obtain ⟨-, rfl⟩ := setPassword?_eq_some_iff.mp hpassword
        rfl

/-- The pairs of a URL are the socket and the parameters with a counterpart. -/
theorem Parts.toUrl_pairs {p : Parts} {u : Url} (h : p.toUrl = .ok u) :
    ∀ pair ∈ u.queryPairs, pair.1 = "socket" ∨ ∃ q ∈ p.params, translate? q = some pair := by
  unfold Parts.toUrl at h
  split at h
  · cases h
  · split at h
    · cases h
    · next v hendpoint =>
      split at h
      · cases h
      · next w huserinfo =>
        cases h
        intro pair hpair
        rw [queryPairs_appendPairs] at hpair
        rcases List.mem_append.mp hpair with hpair | hpair
        · have hw : pair ∈ w.queryPairs := hpair
          rw [withUserinfo_pairs huserinfo] at hw
          exact .inl (withEndpoint_pairs hendpoint pair hw)
        · exact .inr (List.mem_filterMap.mp hpair)

/-- What is answered for a name that is no URL yet is the URL of its parts. -/
theorem url_of_parse {cs : List Char} {url : String} {names : List String}
    (htrim : trimChars cs = cs) (hcs : isUrl cs = false)
    (h : parse (String.ofList cs) = .ok (url, names)) :
    ∃ p u, Parts.ofChars cs = .ok p ∧ p.toUrl = .ok u ∧ url = u.text := by
  cases hparts : Parts.ofChars cs with
  | error cause =>
    rw [parse, String.toList_ofList, htrim, ofChars, hcs, if_neg Bool.false_ne_true, hparts] at h
    cases h
  | ok p =>
    rw [parse_of_parts htrim hcs hparts] at h
    cases hurl : p.toUrl with
    | error cause =>
      rw [hurl] at h
      cases h
    | ok u =>
      rw [hurl] at h
      cases h
      exact ⟨p, u, rfl, hurl, rfl⟩

/-- **Parameters that are passed on.** As long as no value has a slash in it, every list of
parameters with a counterpart reaches the URL, in order, and the name before it is read as it
stands. A value with a slash never reaches a URL: if one is answered at all, the parameter is not
among its pairs. -/
theorem parse_parameters (ss : List Parameter) (hss : ∀ s ∈ ss, s.Plain) :
    ((∀ s ∈ ss, '/' ∉ s.value) →
      ∃ url u, parse ("root@tcp(db:3306)/app?" ++
          String.ofList (['&'].intercalate (ss.map Parameter.text))) = .ok (url, []) ∧
        Location.parse url.toList = .ok (.hosted u) ∧ Shows u ss) ∧
    ∀ url names u, parse ("root@tcp(db:3306)/app?" ++
        String.ofList (['&'].intercalate (ss.map Parameter.text))) = .ok (url, names) →
      Location.parse url.toList = .ok (.hosted u) →
      ∀ s ∈ ss, '/' ∈ s.counted → s.pair ∉ u.queryPairs := by
  have htext : "root@tcp(db:3306)/app?" ++
      String.ofList (['&'].intercalate (ss.map Parameter.text)) =
        String.ofList (app.textWith ss) := by
    have hlead : "root@tcp(db:3306)/app?" = String.ofList (app.text ++ ['?']) := by decide
    rw [hlead, ← String.ofList_append, Classic.textWith, List.append_assoc, List.singleton_append]
  rw [htext]
  constructor
  · intro hslash
    have hparts := Classic.ofChars_textWith app_plain hss hslash
    have hurl : ({ app.parts with params := ss.map Parameter.text } : Parts).toUrl =
        .ok (app.url.appendPairs (ss.map Parameter.pair)) := by
      have happ : ({ app.parts with params := [] } : Parts).toUrl = .ok app.url := app_plain.toUrl
      rw [Parts.toUrl_params, happ, filterMap_translate?_texts]
      rfl
    obtain ⟨hwell, hhost⟩ := Parts.toUrl_keeps hurl
    refine ⟨_, _, ?_, Location.parse_text hwell hhost, shows_parameters ss⟩
    rw [parse_of_parts (trimChars_textWith hss) (isUrl_textWith ss) hparts, hurl, dropped_texts]
    rfl
  · intro url names u hparse hread s hs hslash hpair
    obtain ⟨p, v, hparts, hurl, rfl⟩ :=
      url_of_parse (trimChars_textWith hss) (isUrl_textWith ss) hparse
    obtain ⟨hwell, hhost⟩ := Parts.toUrl_keeps hurl
    cases hread.symm.trans (Location.parse_text hwell hhost)
    rcases Parts.toUrl_pairs hurl _ hpair with hsocket | ⟨q, hq, htranslate⟩
    · exact s.key.counterpart_ne_socket hsocket
    · have hfree := translate?_free (Parts.ofChars_free hparts q hq) htranslate
      rw [Parameter.pair, String.toList_ofList] at hfree
      exact hfree hslash

/-- Other marks in a value are no marks of the name, and a slash may even lead to another server
without an error. -/
theorem parse_parameters_slash :
    let kept : List Parameter := [⟨.charset, "utf8mb4,utf8".toList⟩, ⟨.sslmode, "REQUIRED".toList⟩,
      ⟨.sslCa, "a@b(c):é=1?.pem".toList⟩]
    let lost : Parameter := ⟨.sslCa, ":3307)/x".toList⟩
    (∀ s ∈ kept, s.Plain ∧ '/' ∉ s.value) ∧ lost.Plain ∧ '/' ∈ lost.counted ∧
    (∃ url u, parse ("root@tcp(db:3306)/app?" ++
        "charset=utf8mb4,utf8&sslmode=REQUIRED&ssl-ca=a@b(c):é=1?.pem") = .ok (url, []) ∧
      Location.parse url.toList = .ok (.hosted u) ∧ u.host = .name "db".toList ∧
      u.queryPairs =
        [("charset", "utf8mb4"), ("ssl-mode", "REQUIRED"), ("ssl-ca", "a@b(c):é=1?.pem")]) ∧
    ∃ u, parse ("root@tcp(db:3306)/app?" ++ "ssl-ca=:3307)/x") =
        .ok ("mysql://root@db:3307/x", []) ∧
      Location.parse "mysql://root@db:3307/x".toList = .ok (.hosted u) ∧
      ("ssl-ca", ":3307)/x") ∉ u.queryPairs := by
  intro kept lost
  have hkept : ∀ s ∈ kept, s.Plain ∧ '/' ∉ s.value := by
    intro s hs
    simp only [kept, List.mem_cons, List.not_mem_nil, or_false] at hs
    rcases hs with rfl | rfl | rfl
    · exact ⟨⟨by decide, by decide⟩, by decide⟩
    · exact ⟨⟨by decide, by decide⟩, by decide⟩
    · exact ⟨⟨by decide, by decide⟩, by decide⟩
  have hlost : lost.Plain := ⟨by decide, by decide⟩
  have hkeptText : String.ofList (['&'].intercalate (kept.map Parameter.text)) =
      "charset=utf8mb4,utf8&sslmode=REQUIRED&ssl-ca=a@b(c):é=1?.pem" := by decide
  have hlostText : String.ofList (['&'].intercalate ([lost].map Parameter.text)) =
      "ssl-ca=:3307)/x" := by decide
  have hpassed := (parse_parameters kept fun s hs => (hkept s hs).1).1 fun s hs => (hkept s hs).2
  rw [hkeptText] at hpassed
  obtain ⟨url, u, hparse, hread, hshows⟩ := hpassed
  have hmissing := (parse_parameters [lost] (by simpa using hlost)).2
  rw [hlostText] at hmissing
  have hother : parse ("root@tcp(db:3306)/app?" ++ "ssl-ca=:3307)/x") =
      .ok ("mysql://root@db:3307/x", []) := by decide
  exact ⟨hkept, hlost, by decide, ⟨url, u, hparse, hread, hshows.host, hshows.pairs⟩,
    _, hother, rfl, hmissing _ _ _ hother rfl lost (by simp) (by decide)⟩

end DataAccess.Dsn.Mysql
