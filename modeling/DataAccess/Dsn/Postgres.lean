import DataAccess.Dsn.Keywords
import DataAccess.Dsn.Mysql

/-!
# PostgreSQL data source names

A PostgreSQL name is a list of keywords that becomes a URL: `Settings` collects what the keywords
say one after the other. A host that starts with a slash is a directory of sockets and goes into the
query, as do the keywords that are passed on. Names that are URLs already stay as they are.
-/

namespace DataAccess.Dsn.Postgres

open Text

/-- The error for a name that does not read. -/
def invalid (reason : String) : Error := .invalidDsn .postgresql reason

/-- The port where there is none. -/
def standardPort : UInt16 := 5432

/-- The keywords that are passed on as they are. -/
def forwarded : List String :=
  ["sslmode", "sslrootcert", "sslcert", "sslkey", "application_name", "options",
    "statement-cache-capacity", "extra_float_digits"]

/-- What a keyword is about. -/
inductive Keyword where
  | host
  | port
  | user
  | password
  | database
  /-- A keyword that is passed on. -/
  | forwarded
  | unknown
deriving DecidableEq

/-- The keyword with a name. -/
def Keyword.ofName (name : String) : Keyword :=
  if name = "host" ∨ name = "hostaddr" then host
  else if name = "port" then port
  else if name = "user" then user
  else if name = "password" then password
  else if name = "dbname" then database
  else if Postgres.forwarded.contains name then .forwarded
  else unknown

/-- What the keywords read so far say. -/
structure Settings where
  url : Url
  port : UInt16
  /-- The pairs of the query. -/
  query : List (String × String)
  /-- The names of dropped keywords. -/
  dropped : List String
deriving DecidableEq

namespace Settings

/-- What no keywords say. -/
def standard : Settings :=
  { url := .ofScheme "postgres", port := standardPort, query := [], dropped := [] }

/-- The directory of sockets that a host names. -/
def isSocketDirectory (value : String) : Bool := value.toList.head? == some '/'

/-- Take a host. -/
def withHost (s : Settings) (value : String) : Except Error Settings :=
  if isSocketDirectory value then .ok { s with query := s.query ++ [("host", value)] }
  else
    match s.url.setHost value.toList with
    | .ok u => .ok { s with url := u }
    | .error e => .error (invalid ("invalid host " ++ quoted value ++ ": " ++ e.message))

/-- Take a port. -/
def withPort (s : Settings) (value : String) : Except Error Settings :=
  match readPort? value.toList with
  | some p => .ok { s with port := p }
  | none => .error (invalid ("invalid port " ++ quoted value))

/-- Take a new URL, which there is none of without a host. -/
def withUrl? (s : Settings) (u : Option Url) (reason : String) : Except Error Settings :=
  match u with
  | some u => .ok { s with url := u }
  | none => .error (invalid reason)

/-- Take a pair of keyword and value. -/
def take (s : Settings) (pair : String × String) : Except Error Settings :=
  let value := pair.2.toList
  match Keyword.ofName pair.1 with
  | .host => s.withHost pair.2
  | .port => s.withPort pair.2
  | .user => s.withUrl? (s.url.setUsername? value) "cannot set user"
  | .password => s.withUrl? (s.url.setPassword? value) "cannot set password"
  | .database => .ok { s with url := s.url.setPath ('/' :: value) }
  | .forwarded => .ok { s with query := s.query ++ [pair] }
  | .unknown => .ok { s with dropped := s.dropped ++ [pair.1] }

/-- Take pairs in order. -/
def takeAll (s : Settings) : List (String × String) → Except Error Settings
  | [] => .ok s
  | pair :: rest =>
    match s.take pair with
    | .ok s => s.takeAll rest
    | .error e => .error e

/-- The URL of the settings. -/
def toUrl (s : Settings) : Except Error Url :=
  match s.url.setPort? s.port with
  | some u => .ok (u.appendPairs s.query)
  | none => .error (invalid "cannot set port")

end Settings

/-- Whether a name is a URL already. -/
def isUrl (cs : List Char) : Bool :=
  "postgres://".toList.isPrefixOf cs || "postgresql://".toList.isPrefixOf cs

/-- The settings of a list of keywords. -/
def settings (cs : List Char) : Except Error Settings :=
  match Keywords.parse cs with
  | .error f => .error (invalid f.reason)
  | .ok pairs => Settings.standard.takeAll pairs

/-- Read a name that is not blank at its ends. The names of dropped keywords come with it. -/
def ofChars (cs : List Char) : Except Error (String × List String) :=
  if isUrl cs then .ok (String.ofList cs, [])
  else
    match settings cs with
    | .error e => .error e
    | .ok s => s.toUrl.map fun u => (u.text, s.dropped)

/-- Read a PostgreSQL data source name. -/
def parse (dsn : String) : Except Error (String × List String) := ofChars (trimChars dsn.toList)

end DataAccess.Dsn.Postgres
