import DataAccess.Dsn.Postgres
import DataAccess.Proofs.Url.Parts

/-!
# Keywords one by one

`Step` says all that a keyword makes of the settings that take it, and `step_of_take` that it makes
nothing else of them; what every step keeps is kept by a list of pairs (`takeAll_induction`).
-/

namespace DataAccess.Dsn.Postgres

open Url

/-! ## Keywords -/

section Keys

variable {key : String}

theorem Keyword.ofName_eq_host : ofName key = .host ↔ key = "host" ∨ key = "hostaddr" := by
  unfold ofName
  grind

theorem Keyword.ofName_eq_port : ofName key = .port ↔ key = "port" := by
  unfold ofName
  grind

theorem Keyword.ofName_eq_user : ofName key = .user ↔ key = "user" := by
  unfold ofName
  grind

theorem Keyword.ofName_eq_password : ofName key = .password ↔ key = "password" := by
  unfold ofName
  grind

theorem Keyword.ofName_eq_database : ofName key = .database ↔ key = "dbname" := by
  unfold ofName
  grind

/-- No keyword that is passed on is about a part of its own. -/
theorem ne_of_mem_forwarded : ∀ key ∈ forwarded, key ≠ "host" ∧ key ≠ "hostaddr" ∧
    key ≠ "port" ∧ key ≠ "user" ∧ key ≠ "password" ∧ key ≠ "dbname" := by
  decide

theorem Keyword.ofName_eq_forwarded : ofName key = .forwarded ↔ key ∈ Postgres.forwarded := by
  have hother := ne_of_mem_forwarded key
  simp only [ofName, List.contains_iff_mem]
  grind

end Keys

/-! ## One pair -/

/-- A URL takes a host from a text. -/
def Takes (cs : List Char) (host : Host) : Prop :=
  ∃ part, hostPart cs = .ok part ∧ Host.parse part = .ok host

variable {s t : Settings} {pair : String × String}

theorem withUrl?_eq_ok_iff {u : Option Url} {reason : String} :
    s.withUrl? u reason = .ok t ↔ ∃ v, u = some v ∧ t = { s with url := v } := by
  unfold Settings.withUrl?
  cases u <;> simp [eq_comm]

/-- What a pair makes of settings that take it. -/
inductive Step (s : Settings) (pair : String × String) : Settings → Prop
  | host {host : Host} (hkey : Keyword.ofName pair.1 = .host)
      (hvalue : Settings.isSocketDirectory pair.2 = false) (htakes : Takes pair.2.toList host) :
      Step s pair { s with url := { s.url with host } }
  | sockets (hkey : Keyword.ofName pair.1 = .host)
      (hvalue : Settings.isSocketDirectory pair.2 = true) :
      Step s pair { s with query := s.query ++ [("host", pair.2)] }
  | port {port : UInt16} (hkey : Keyword.ofName pair.1 = .port)
      (hread : readPort? pair.2.toList = some port) : Step s pair { s with port }
  | user (hkey : Keyword.ofName pair.1 = .user) (hhost : s.url.host.isEmpty = false) :
      Step s pair { s with url := { s.url with
        username := Percent.encode Percent.inUserinfo pair.2.toList } }
  | password (hkey : Keyword.ofName pair.1 = .password) (hhost : s.url.host.isEmpty = false) :
      Step s pair { s with url := { s.url with
        password := Percent.encode Percent.inUserinfo pair.2.toList } }
  | database (hkey : Keyword.ofName pair.1 = .database) :
      Step s pair { s with url := { s.url with path := (Path.ofText ('/' :: pair.2.toList)).text } }
  | forwarded (hkey : Keyword.ofName pair.1 = .forwarded) :
      Step s pair { s with query := s.query ++ [pair] }
  | unknown (hkey : Keyword.ofName pair.1 = .unknown) :
      Step s pair { s with dropped := s.dropped ++ [pair.1] }

theorem step_of_take (h : s.take pair = .ok t) : Step s pair t := by
  unfold Settings.take at h
  cases hkey : Keyword.ofName pair.1 with
  | host =>
    simp only [hkey, Settings.withHost] at h
    split at h
    · next hvalue =>
      cases h
      exact .sockets hkey hvalue
    · next hvalue =>
      split at h
      · next u hset =>
        obtain ⟨part, host, hpart, hparse, rfl⟩ := setHost_eq_ok_iff.mp hset
        cases h
        exact .host hkey (Bool.eq_false_iff.mpr hvalue) ⟨part, hpart, hparse⟩
      · cases h
  | port =>
    simp only [hkey, Settings.withPort] at h
    split at h
    · next p hread =>
      cases h
      exact .port hkey hread
    · cases h
  | user =>
    simp only [hkey, withUrl?_eq_ok_iff, setUsername?_eq_some_iff] at h
    obtain ⟨u, ⟨hhost, rfl⟩, rfl⟩ := h
    exact .user hkey hhost
  | password =>
    simp only [hkey, withUrl?_eq_ok_iff, setPassword?_eq_some_iff] at h
    obtain ⟨u, ⟨hhost, rfl⟩, rfl⟩ := h
    exact .password hkey hhost
  | database =>
    simp only [hkey] at h
    cases h
    exact .database hkey
  | forwarded =>
    simp only [hkey] at h
    cases h
    exact .forwarded hkey
  | unknown =>
    simp only [hkey] at h
    cases h
    exact .unknown hkey

/-! ## Lists of pairs -/

/-- What holds of the pairs that were taken and the settings after them. -/
theorem takeAll_induction {P : List (String × String) → Settings → Prop}
    (hstep : ∀ {done a pair b}, P done a → Step a pair b → P (done ++ [pair]) b)
    {done rest : List (String × String)} (hs : P done s) (h : s.takeAll rest = .ok t) :
    P (done ++ rest) t := by
  induction rest generalizing done s with
  | nil =>
    cases h
    simpa using hs
  | cons pair rest ih =>
    unfold Settings.takeAll at h
    split at h
    · next middle htake => simpa using ih (hstep hs (step_of_take htake)) h
    · cases h

theorem step_of_mem {pairs : List (String × String)} (h : s.takeAll pairs = .ok t)
    (hpair : pair ∈ pairs) : ∃ a b, Step a pair b := by
  have hall : ∀ pair ∈ [] ++ pairs, ∃ a b, Step a pair b := by
    refine takeAll_induction (P := fun done _ => ∀ pair ∈ done, ∃ a b, Step a pair b) ?_ nofun h
    intro done a next b hdone hstep pair hpair
    rcases List.mem_append.mp hpair with hpair | hpair
    · exact hdone pair hpair
    · exact ⟨a, b, List.mem_singleton.mp hpair ▸ hstep⟩
  exact hall pair hpair

end DataAccess.Dsn.Postgres
