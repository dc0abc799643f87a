import DataAccess.Access.Adapter
import DataAccess.Dsn.Postgres

/-!
# Refused data source names

Whatever is wrong with a data source name, its reader says so with one kind of error, which names
the driver: `Adapter.resolve_refuses`.
-/

namespace DataAccess

namespace Dsn

variable {α β : Type} {d : Driver}

/-- A reading that fails with errors of a driver's data source names only. -/
def Refuses (d : Driver) (x : Except Error α) : Prop :=
  ∀ e, x = .error e → ∃ reason, e = .invalidDsn d reason

namespace Refuses

theorem ok (a : α) : Refuses d (.ok a) := nofun

theorem error (reason : String) : Refuses (α := α) d (.error (.invalidDsn d reason)) := by
  intro e he
  exact ⟨reason, (Except.error.inj he).symm⟩

/-- An error that is passed on is still an error of the name. -/
theorem passed {x : Except Error α} (hx : Refuses d x) {e : Error} (h : x = .error e) :
    Refuses (α := β) d (.error e) := by
  obtain ⟨reason, rfl⟩ := hx e h
  exact error reason

theorem map {x : Except Error α} (hx : Refuses d x) (f : α → β) : Refuses d (x.map f) := by
  cases h : x with
  | error e => exact hx.passed h
  | ok a => exact ok (f a)

end Refuses

/-! ### MySQL -/

namespace Mysql

theorem readHost_refuses (cs : List Char) : Refuses .mysql (readHost cs) := by
  unfold readHost
  split
  · exact .ok _
  · split
    · exact .ok _
    · exact .error _

theorem readEndpoint_refuses (net address : List Char) :
    Refuses .mysql (readEndpoint net address) := by
  unfold readEndpoint
  split
  · exact readHost_refuses address
  · split
    · split
      · exact .error _
      · exact .ok _
    · exact .error _

theorem cutNetwork_refuses (cs : List Char) : Refuses .mysql (cutNetwork cs) := by
  unfold cutNetwork
  split
  · exact .ok _
  · split
    · exact .ok _
    · exact .error _

theorem parts_refuse (cs : List Char) : Refuses .mysql (Parts.ofChars cs) := by
  unfold Parts.ofChars
  split
  · exact .error _
  · -- The user is cut off first, which never fails.
    split
    split
    · next e he => exact (cutNetwork_refuses _).passed he
    · exact .ok _

theorem withEndpoint_refuses (u : Url) (endpoint : Endpoint) :
    Refuses .mysql (withEndpoint u endpoint) := by
  cases endpoint with
  | socket path => exact .ok _
  | tcp host port =>
    unfold withEndpoint
    dsimp only
    split
    · exact .error _
    · split
      · exact .ok _
      · exact .error _

theorem withUserinfo_refuses (u : Url) (userinfo : Option (List Char)) :
    Refuses .mysql (withUserinfo u userinfo) := by
  cases userinfo with
  | none => exact .ok _
  | some userinfo =>
    unfold withUserinfo
    dsimp only
    split
    · exact .error _
    · split
      · exact .error _
      · exact .ok _

theorem toUrl_refuses (p : Parts) : Refuses .mysql p.toUrl := by
  unfold Parts.toUrl
  split
  · next e he => exact (readEndpoint_refuses _ _).passed he
  · split
    · next e he => exact (withEndpoint_refuses _ _).passed he
    · split
      · next e he => exact (withUserinfo_refuses _ _).passed he
      · exact .ok _

theorem parse_refuses (dsn : String) : Refuses .mysql (parse dsn) := by
  unfold parse ofChars
  split
  · exact .ok _
  · split
    · next e he => exact (parts_refuse _).passed he
    · exact (toUrl_refuses _).map _

end Mysql

/-! ### PostgreSQL -/

namespace Postgres

theorem withHost_refuses (s : Settings) (value : String) :
    Refuses .postgresql (s.withHost value) := by
  unfold Settings.withHost
  split
  · exact .ok _
  · split
    · exact .ok _
    · exact .error _

theorem withPort_refuses (s : Settings) (value : String) :
    Refuses .postgresql (s.withPort value) := by
  unfold Settings.withPort
  split
  · exact .ok _
  · exact .error _

theorem withUrl?_refuses (s : Settings) (u : Option Url) (reason : String) :
    Refuses .postgresql (s.withUrl? u reason) := by
  cases u with
  | some u => exact .ok _
  | none => exact .error _

theorem take_refuses (s : Settings) (pair : String × String) :
    Refuses .postgresql (s.take pair) := by
  unfold Settings.take
  cases Keyword.ofName pair.1 with
  | host => exact withHost_refuses s pair.2
  | port => exact withPort_refuses s pair.2
  | user => exact withUrl?_refuses s _ _
  | password => exact withUrl?_refuses s _ _
  | database => exact .ok _
  | forwarded => exact .ok _
  | unknown => exact .ok _

theorem takeAll_refuses (s : Settings) (pairs : List (String × String)) :
    Refuses .postgresql (s.takeAll pairs) := by
  induction pairs generalizing s with
  | nil => exact .ok _
  | cons pair rest ih =>
    unfold Settings.takeAll
    split
    · exact ih _
    · next e he => exact (take_refuses s pair).passed he

theorem settings_refuse (cs : List Char) : Refuses .postgresql (settings cs) := by
  unfold settings
  split
  · exact .error _
  · exact takeAll_refuses _ _

theorem toUrl_refuses (s : Settings) : Refuses .postgresql s.toUrl := by
  unfold Settings.toUrl
  split
  · exact .ok _
  · exact .error _

theorem parse_refuses (dsn : String) : Refuses .postgresql (parse dsn) := by
  unfold parse ofChars
  split
  · exact .ok _
  · split
    · next e he => exact (settings_refuse _).passed he
    · exact (toUrl_refuses _).map _

end Postgres

/-! ### SQLite -/

namespace Sqlite

theorem parse_refuses (dsn : String) : Refuses .sqlite (parse dsn) := by
  unfold parse ofChars
  split
  · exact .ok _
  · split
    · exact .ok _
    · dsimp only
      split
      · exact .error _
      · exact .ok _

end Sqlite

end Dsn

/-- An adapter refuses a section that passed its check for its data source name only. -/
theorem Access.Adapter.resolve_refuses {d : Driver} (hd : d ≠ .none) (s : Config.Section) :
    Dsn.Refuses d (resolve d s) := by
  cases d with
  | sqlite => exact (Dsn.Sqlite.parse_refuses s.dsn).map _
  | mysql => exact (Dsn.Mysql.parse_refuses s.dsn).map _
  | postgresql => exact (Dsn.Postgres.parse_refuses s.dsn).map _
  | none => exact absurd rfl hd

end DataAccess
