import DataAccess.Proofs.Dsn.Cuts
import DataAccess.Proofs.Number.Word
import DataAccess.Proofs.Url.Parts

/-!
# MySQL names in their classic form

A name in its classic form is taken apart into the parts that it was written from
(`Classic.ofChars_text`): a mark between two parts is the first or the last one where it is looked
for, whatever marks a password or a path of sockets has in it. The URL of any parts is well-formed
(`Parts.toUrl_keeps`), so it reads back, and the one of a classic name shows all of them again:
`parse_classic`.
-/

namespace DataAccess.Dsn

open Number Text Url

/-- A port is read from what writes it, and from nothing else. -/
theorem readPort?_eq_some_iff {cs : List Char} {port : UInt16} :
    readPort? cs = some port ↔ Writes cs port.toNat := by
  unfold readPort?
  rw [Option.map_eq_some_iff]
  constructor
  · rintro ⟨n, hread, rfl⟩
    obtain ⟨hwrites, hlt⟩ := (readWord?_eq_some_iff (by decide)).mp hread
    rwa [UInt16.toNat_ofNat_of_lt' hlt]
  · intro hwrites
    exact ⟨port.toNat, (readWord?_eq_some_iff (by decide)).mpr ⟨hwrites, port.toNat_lt⟩,
      UInt16.ofNat_toNat⟩

namespace Mysql

/-! ## Classic names -/

/-- A server as a name writes it. -/
inductive Server where
  | tcp (host : List Char) (port : Option UInt16)
  | unix (path : List Char)

namespace Server

def network : Server → List Char
  | tcp _ _ => "tcp".toList
  | unix _ => "unix".toList

def address : Server → List Char
  | tcp host none => host
  | tcp host (some port) => host ++ ':' :: natText port.toNat
  | unix path => path

def text (s : Server) : List Char := s.network ++ '(' :: (s.address ++ [')'])

/-- ASCII letters and digits, the dot and the dash. -/
def inHost (c : Char) : Bool := c.isAlphanum || c == '.' || c == '-'

/-- A host is made of characters that mean nothing else, and a path has no at sign. -/
inductive Plain : Server → Prop
  | tcp {host : List Char} {port : Option UInt16} (hhost : host ≠ [])
      (hchars : ∀ c ∈ host, inHost c = true) : Plain (tcp host port)
  | unix {path : List Char} (hpath : path ≠ []) (hat : '@' ∉ path) : Plain (unix path)

/-- Where the server is reached. -/
def endpoint : Server → Endpoint
  | tcp host port => .tcp host (port.getD standardPort)
  | unix path => .socket path

end Server

/-- A user, perhaps with a password. -/
structure Login where
  user : List Char
  password : Option (List Char)

def Login.text (l : Login) : List Char := l.user ++ l.password.elim [] (':' :: ·)

/-- A name in its classic form, without parameters. -/
structure Classic where
  login : Option Login
  server : Server
  database : List Char

namespace Classic

def text (n : Classic) : List Char :=
  n.login.elim [] (·.text ++ ['@']) ++ n.server.text ++ '/' :: n.database

/-- What comes before the slash of the database. -/
def lead (n : Classic) : List Char := n.login.elim [] (·.text ++ ['@']) ++ n.server.text

def parts (n : Classic) : Parts :=
  { userinfo := n.login.map Login.text, network := n.server.network, address := n.server.address,
    database := n.database, params := [] }

/-- What is asked of a name. A colon would end the user and a slash or a question mark the database,
and a percent sign could start a code; dots are no name of a database, and some characters are passed
over in a path. -/
structure Plain (n : Classic) : Prop where
  user : ∀ l ∈ n.login, ':' ∉ l.user ∧ '%' ∉ l.user
  password : ∀ l ∈ n.login, ∀ p ∈ l.password, p ≠ [] ∧ '%' ∉ p
  server : n.server.Plain
  database : '/' ∉ n.database ∧ '?' ∉ n.database ∧ '%' ∉ n.database
  kept : ∀ c ∈ n.database, Path.isPassedOver c = false
  noDots : n.database ≠ ['.'] ∧ n.database ≠ ['.', '.']
  trimmed : trimChars n.text = n.text
  noUrl : isUrl n.text = false

/-- The parts of a name are seen in a URL. -/
structure SeenIn (n : Classic) (u : Url) : Prop where
  user : Percent.decodeText u.username = .ok (n.login.elim [] Login.user)
  noPassword : u.password = [] ↔ n.login.bind Login.password = none
  password : Percent.decodeText u.password = .ok ((n.login.bind Login.password).getD [])
  database : Percent.decodeText u.path = .ok ('/' :: n.database)
  server :
    match n.server with
    | .tcp host port =>
      u.host = .name host ∧ u.port = some (port.getD 3306) ∧ u.queryPairs = []
    | .unix path =>
      u.host = .name "localhost".toList ∧ u.port = none ∧
        u.queryPairs = [("socket", String.ofList path)]
  fragment : u.fragment = none

end Classic

/-! ## Taking a name apart -/

section Server

variable {s : Server}

theorem Server.lt_of_inHost {c : Char} (h : inHost c = true) : c.toNat < 128 := by
  simp only [inHost, Bool.or_eq_true, beq_iff_eq] at h
  rcases h with (h | rfl) | rfl
  · exact lt_of_isAlphanum h
  · decide
  · decide

theorem not_mem_host {host : List Char} {x : Char} (hx : Server.inHost x = false)
    (hchars : ∀ c ∈ host, Server.inHost c = true) : x ∉ host := fun hmem =>
  absurd (hchars x hmem) (by simp [hx])

theorem not_mem_natText {n : Nat} {x : Char} (hx : isDigit x = false) : x ∉ natText n := fun hmem =>
  absurd (isDigit_of_mem_natText hmem) (by simp [hx])

theorem Server.Plain.at_not_mem (h : s.Plain) : '@' ∉ s.text := by
  have haddress : '@' ∉ s.address := by
    cases h with
    | @tcp host port hhost hchars =>
      have hfree : '@' ∉ host := not_mem_host rfl hchars
      cases port with
      | none => exact hfree
      | some port => simpa [address, hfree] using not_mem_natText (by decide)
    | unix hpath hat => exact hat
  cases s <;> simpa [text, network] using haddress

theorem cutNetwork_text (s : Server) : cutNetwork s.text = .ok (s.network, s.address) := by
  have hfree : '(' ∉ s.network := by cases s <;> simp [Server.network]
  unfold cutNetwork Server.text
  rw [cutAt_mark hfree]
  simp

theorem cutHost_none {cs : List Char} (h : ':' ∉ cs) : cutHost cs = (cs, none) := by
  rw [cutHost, cutAtLast?_no_mark h]

theorem cutHost_port (host : List Char) (port : UInt16) :
    cutHost (host ++ ':' :: natText port.toNat) = (host, some (natText port.toNat)) := by
  have hbracket : ']' ∉ natText port.toNat := not_mem_natText (by decide)
  rw [cutHost, cutAtLast?_mark (not_mem_natText (by decide))]
  simp [hbracket]

/-- A server is read as the endpoint that it is. -/
theorem Server.Plain.readEndpoint (h : s.Plain) :
    readEndpoint s.network s.address = .ok s.endpoint := by
  cases h with
  | @tcp host port hhost hchars =>
    have hread : readHost (Server.address (.tcp host port)) =
        .ok (.tcp host (port.getD standardPort)) := by
      cases port with
      | none =>
        rw [Server.address, readHost, cutHost_none (not_mem_host rfl hchars)]
        simp [hhost]
      | some port =>
        rw [Server.address, readHost, cutHost_port]
        simp [readPort?_eq_some_iff.mpr (writes_natText port.toNat), hhost]
    simpa [Mysql.readEndpoint, Server.network, Server.endpoint] using hread
  | unix hpath hat =>
    simp [Mysql.readEndpoint, Server.network, Server.address, Server.endpoint, hpath]

end Server

theorem Login.cutAt_text {l : Login} (h : ':' ∉ l.user) :
    cutAt ':' l.text = (l.user, l.password) := by
  unfold Login.text
  cases l.password with
  | none => simpa using cutAt_no_mark h
  | some p => exact cutAt_mark h

/-- Whatever follows the last slash, what comes before it is the login and the server. -/
theorem Classic.ofChars_lead {n : Classic} (hserver : n.server.Plain) {tail : List Char}
    (htail : '/' ∉ tail) : Parts.ofChars (n.lead ++ '/' :: tail) =
      .ok { n.parts with database := (cutAt '?' tail).1, params := parameters (cutAt '?' tail).2 } := by
  unfold Parts.ofChars Classic.lead Classic.parts
  rw [cutAtLast?_mark htail]
  -- In front of the database nothing but the server has to be free of an at sign.
  have hat := hserver.at_not_mem
  cases n.login with
  | none =>
    simp only [Option.elim_none, List.nil_append, cutAtLast?_no_mark hat, cutNetwork_text]
    rfl
  | some l =>
    have hcut : cutAtLast? '@' (l.text ++ ['@'] ++ n.server.text) =
        some (l.text, n.server.text) := by
      simpa using @cutAtLast?_mark '@' l.text _ hat
    simp only [Option.elim_some, hcut, cutNetwork_text]
    rfl

/-- **A classic name is taken apart into what it was written from.** -/
theorem Classic.ofChars_text {n : Classic} (hserver : n.server.Plain)
    (hdatabase : '/' ∉ n.database ∧ '?' ∉ n.database) : Parts.ofChars n.text = .ok n.parts := by
  have hparts := Classic.ofChars_lead hserver hdatabase.1
  rwa [cutAt_no_mark hdatabase.2] at hparts

/-! ## The URL of parts -/

section Urls

variable {u v : Url}

theorem withEndpoint_keeps {endpoint : Endpoint} (hu : u.WellFormed ∧ u.host.isEmpty = false)
    (h : withEndpoint u endpoint = .ok v) : v.WellFormed ∧ v.host.isEmpty = false := by
  cases endpoint with
  | socket path =>
    cases h
    rw [appendPair_eq]
    exact ⟨appendPair_eq u _ _ ▸ hu.1.appendPair _ _, hu.2⟩
  | tcp host port =>
    simp only [withEndpoint] at h
    split at h
    · cases h
    · next w hset =>
      split at h
      · next x hport =>
        cases h
        obtain ⟨hhost, rfl⟩ := setPort?_eq_some_iff.mp hport
        exact ⟨(hu.1.setHost hset).setPort? hport, hhost⟩
      · cases h

theorem withUserinfo_keeps {userinfo : Option (List Char)}
    (hu : u.WellFormed ∧ u.host.isEmpty = false) (h : withUserinfo u userinfo = .ok v) :
    v.WellFormed ∧ v.host.isEmpty = false := by
  cases userinfo with
  | none =>
    cases h
    exact hu
  | some userinfo =>
    simp only [withUserinfo] at h
    split at h
    · cases h
    · next w huser =>
      split at h
      · cases h
      · next x hpassword =>
        cases h
        have hwell := (hu.1.setUsername? huser).setPassword? hpassword
        obtain ⟨-, rfl⟩ := setUsername?_eq_some_iff.mp huser
        obtain ⟨-, rfl⟩ := setPassword?_eq_some_iff.mp hpassword
        exact ⟨hwell, hu.2⟩

/-- **The URL of any parts is well-formed and has a host**, so that it reads back. -/
theorem Parts.toUrl_keeps {p : Parts} (h : p.toUrl = .ok u) :
    u.WellFormed ∧ u.host.isEmpty = false := by
  unfold Parts.toUrl at h
  split at h
  · cases h
  · split at h
    · cases h
    · next v hendpoint =>
      split at h
      · cases h
      · next w huserinfo =>
        cases h
        have hscheme : (ofScheme "mysql").WellFormed :=
          .ofScheme ⟨'m', "ysql".toList, rfl, by decide⟩ (by decide)
        have hv := withEndpoint_keeps ⟨hscheme, rfl⟩ hendpoint
        obtain ⟨hwell, hhost⟩ := withUserinfo_keeps hv huserinfo
        refine ⟨(hwell.setPath _).appendPairs _, ?_⟩
        rw [appendPairs_eq]
        exact hhost

/-- A name that is no URL yet becomes the URL of its parts. -/
theorem parse_of_parts {cs : List Char} {p : Parts} (htrim : trimChars cs = cs)
    (hcs : isUrl cs = false) (hparts : Parts.ofChars cs = .ok p) :
    parse (String.ofList cs) = p.toUrl.map fun u => (u.text, dropped p.params) := by
  rw [parse, String.toList_ofList, htrim, ofChars, hcs, if_neg Bool.false_ne_true, hparts]

end Urls

/-! ## The URL of a classic name -/

def Server.url : Server → Url
  | tcp host port =>
    { ofScheme "mysql" with host := .name host, port := some (port.getD standardPort) }
  | unix path => (ofScheme "mysql").appendPair "socket" (String.ofList path)

def Classic.url (n : Classic) : Url :=
  { n.server.url with
    username := Percent.encode Percent.inUserinfo (n.login.elim [] Login.user)
    password := Percent.encode Percent.inUserinfo ((n.login.bind Login.password).getD [])
    path := '/' :: Percent.encode Percent.inPath n.database }

theorem Server.free_of_inHost {c : Char} (h : inHost c = true) :
    Percent.isControl c = false ∧ Host.isForbidden c = false :=
  forall_of_ofNat
    (P := fun c => inHost c = true → Percent.isControl c = false ∧ Host.isForbidden c = false)
    (by decide) c (lt_of_inHost h) h

theorem setHost_plain {host : List Char} (hhost : host ≠ [])
    (hchars : ∀ c ∈ host, Server.inHost c = true) (u : Url) :
    u.setHost host = .ok { u with host := .name host } := by
  obtain ⟨first, rest, rfl⟩ := List.exists_cons_of_ne_nil hhost
  have hne : ∀ {x}, Server.inHost x = false → first ≠ x := fun hx heq =>
    not_mem_host hx hchars (heq ▸ List.mem_cons_self)
  have hpart : hostPart (first :: rest) = .ok (first :: rest) := by
    rw [hostPart, (cut_no_mark (not_mem_host rfl hchars)).1]
    simp [hne (x := '[') rfl, hne (x := ':') rfl]
  have hencode : Percent.encode Percent.isControl (first :: rest) = first :: rest :=
    Percent.encode_of_encoded fun c hc =>
      ⟨(Server.free_of_inHost (hchars c hc)).1, Server.lt_of_inHost (hchars c hc)⟩
  have hparse : Host.parse (first :: rest) = .ok (.name (first :: rest)) := by
    unfold Host.parse
    split
    · next heq => exact absurd (List.head_eq_of_cons_eq heq) (hne rfl)
    · rw [if_neg, hencode]
      simpa using fun c hc => (Server.free_of_inHost (hchars c hc)).2
  exact setHost_eq_ok_iff.mpr ⟨_, _, hpart, hparse, rfl⟩

theorem Server.Plain.withEndpoint {s : Server} (h : s.Plain) :
    withEndpoint (ofScheme "mysql") s.endpoint = .ok s.url := by
  cases h with
  | @tcp host port hhost hchars =>
    have hne : (Host.name host).isEmpty = false := by simpa [Host.isEmpty] using hhost
    rw [Server.endpoint, Mysql.withEndpoint, setHost_plain hhost hchars]
    simp [setPort?, hne, Server.url]
  | unix hpath hat => rfl

theorem Server.Plain.host_url {s : Server} (h : s.Plain) : s.url.host.isEmpty = false := by
  cases h with
  | tcp hhost hchars => simpa [Server.url, Host.isEmpty] using hhost
  | unix hpath hat => rfl

theorem withUserinfo_login {n : Classic} (huser : ∀ l ∈ n.login, ':' ∉ l.user)
    (hhost : n.server.url.host.isEmpty = false) :
    withUserinfo n.server.url (n.login.map Login.text) = .ok { n.server.url with
      username := Percent.encode Percent.inUserinfo (n.login.elim [] Login.user)
      password := Percent.encode Percent.inUserinfo ((n.login.bind Login.password).getD []) } := by
  cases hlogin : n.login with
  | none =>
    -- The URL of a server has neither user nor password, so that nothing is changed.
    cases n.server <;> rfl
  | some l =>
    simp [withUserinfo, Login.cutAt_text (huser l hlogin), setUsername?, setPassword?, hhost]

theorem Classic.Plain.ofText_database {n : Classic} (h : n.Plain) :
    (Path.ofText ('/' :: n.database)).text = '/' :: Percent.encode Percent.inPath n.database := by
  have hdecode := Percent.decode_of_not_hasCode (Percent.not_hasCode_of_not_mem h.database.2.2)
  have hdot : Percent.decode n.database ≠ utf8 ['.'] := by
    rw [hdecode]
    exact mt utf8_injective h.noDots.1
  have hdots : Percent.decode n.database ≠ utf8 ['.', '.'] := by
    rw [hdecode]
    exact mt utf8_injective h.noDots.2
  rw [Path.ofText_segment h.database.1 h.kept hdot hdots]
  simp [Path.text]

theorem Classic.Plain.toUrl {n : Classic} (h : n.Plain) : n.parts.toUrl = .ok n.url := by
  have huserinfo := withUserinfo_login (fun l hl => (h.user l hl).1) h.server.host_url
  simp only [parts, Parts.toUrl, h.server.readEndpoint, h.server.withEndpoint, huserinfo]
  simp [setPath, h.ofText_database, appendPairs, Classic.url]

theorem Classic.Plain.seenIn_url {n : Classic} (h : n.Plain) : n.SeenIn n.url where
  user := by
    refine Percent.decodeText_encode Percent.leavesCodes_inUserinfo ?_
    cases hlogin : n.login with
    | none => exact List.not_mem_nil
    | some l => exact (h.user l hlogin).2
  noPassword := by
    rw [Classic.url, Percent.encode_eq_nil_iff]
    cases hlogin : n.login with
    | none => simp
    | some l =>
      cases hpassword : l.password with
      | none => simp [hpassword]
      | some p => simpa [hpassword] using (h.password l hlogin p hpassword).1
  password := by
    refine Percent.decodeText_encode Percent.leavesCodes_inUserinfo ?_
    cases hlogin : n.login with
    | none => exact List.not_mem_nil
    | some l =>
      cases hpassword : l.password with
      | none => simp [hpassword]
      | some p => simpa [hpassword] using (h.password l hlogin p hpassword).2
  database := by
    have hslash : '%' ∉ '/' :: n.database := by simpa using h.database.2.2
    have hencode : Percent.encode Percent.inPath ('/' :: n.database) = n.url.path := rfl
    rw [← hencode]
    exact Percent.decodeText_encode Percent.leavesCodes_inPath hslash
  server := by
    unfold Classic.url
    cases n.server with
    | tcp host port => exact ⟨rfl, rfl, rfl⟩
    | unix path => exact ⟨rfl, rfl, queryPairs_appendPair (ofScheme "mysql") _ _⟩
  fragment := by
    unfold Classic.url
    cases n.server <;> rfl

/-- **Classic names.** Every name in its classic form becomes a URL that reads back, and the URL
shows the user, the password, the server and the database of the name, whatever other marks they
have in them, with no other parameter. -/
theorem parse_classic (n : Classic) (h : n.Plain) :
    ∃ url u, parse (String.ofList n.text) = .ok (url, []) ∧
      Location.parse url.toList = .ok (.hosted u) ∧ n.SeenIn u := by
  have hparts := Classic.ofChars_text h.server ⟨h.database.1, h.database.2.1⟩
  obtain ⟨hwell, hhost⟩ := Parts.toUrl_keeps h.toUrl
  refine ⟨n.url.text, n.url, ?_, ?_, h.seenIn_url⟩
  · rw [parse_of_parts h.trimmed h.noUrl hparts, h.toUrl]
    rfl
  · exact Location.parse_text hwell hhost

/-- Marks in a user, in a password and in a path of sockets are no marks of the name. -/
theorem parse_classic_marks :
    let n : Classic := {
      login := some { user := "a@/(".toList, password := some "p:@/(é".toList }
      server := .unix "/run/(my)/s.sock".toList, database := "app #1".toList }
    n.Plain ∧ ∃ url u,
      parse "a@/(:p:@/(é@unix(/run/(my)/s.sock)/app #1" = .ok (url, []) ∧
        Location.parse url.toList = .ok (.hosted u) ∧
        Percent.decodeText u.username = .ok "a@/(".toList ∧
        Percent.decodeText u.password = .ok "p:@/(é".toList ∧
        Percent.decodeText u.path = .ok "/app #1".toList ∧
        u.queryPairs = [("socket", "/run/(my)/s.sock")] := by
  intro n
  have hplain : n.Plain := {
    user := by simp [n]
    password := by simp [n]
    server := .unix (by decide) (by decide)
    database := by decide
    kept := by simp [n, Path.isPassedOver]
    noDots := by decide
    trimmed := by decide
    noUrl := by decide }
  obtain ⟨url, u, hparse, hread, hseen⟩ := parse_classic n hplain
  exact ⟨hplain, url, u, hparse, hread, hseen.user, hseen.password, hseen.database,
    hseen.server.2.2⟩

end Mysql

end DataAccess.Dsn
