import DataAccess.Dsn.Sqlite
import DataAccess.Number.Word
import DataAccess.Text.Quoted
import DataAccess.Url.Basic

/-!
# MySQL data source names

A MySQL name has the form `user:password@net(address)/database?parameters`, in which everything but
the slash may be missing. It becomes a URL; parameters without a counterpart there are dropped.
Names that are URLs already stay as they are.
-/

namespace DataAccess.Dsn

open Number Text

/-- A text cut at the last character of a kind, without that character. -/
def cutAtLast? (c : Char) (cs : List Char) : Option (List Char × List Char) :=
  match cutAt c cs.reverse with
  | (_, none) => none
  | (last, some before) => some (before.reverse, last.reverse)

/-- Read a port: a number of 16 bits. -/
def readPort? (cs : List Char) : Option UInt16 := (readWord? UInt16.size cs).map UInt16.ofNat

/-- A text as messages show it. -/
def shown (cs : List Char) : String := quoted (String.ofList cs)

namespace Mysql

/-- The error for a name that does not read. -/
def invalid (reason : String) : Error := .invalidDsn .mysql reason

/-- The host where there is none. -/
def localHost : List Char := "localhost".toList

/-- The port where there is none. -/
def standardPort : UInt16 := 3306

/-- How the server is reached. -/
inductive Endpoint where
  | tcp (host : List Char) (port : UInt16)
  | socket (path : List Char)
deriving DecidableEq

/-- A host and the text of its port: a colon inside brackets belongs to the host. -/
def cutHost (cs : List Char) : List Char × Option (List Char) :=
  match cutAtLast? ':' cs with
  | some (host, port) => if port.contains ']' then (cs, none) else (host, some port)
  | none => (cs, none)

/-- Read a host with an optional port. -/
def readHost (cs : List Char) : Except Error Endpoint :=
  match cutHost cs with
  | (host, none) => .ok (.tcp (if host.isEmpty then localHost else host) standardPort)
  | (host, some port) =>
    match readPort? port with
    | some p => .ok (.tcp (if host.isEmpty then localHost else host) p)
    | none => .error (invalid ("invalid port " ++ shown port))

/-- Read an address in its network. -/
def readEndpoint (net address : List Char) : Except Error Endpoint :=
  if net = [] ∨ net = "tcp".toList then readHost address
  else if net = "unix".toList then
    if address.isEmpty then .error (invalid "unix network requires a socket path")
    else .ok (.socket address)
  else .error (invalid ("unsupported network " ++ shown net))

/-- A network and the address in parentheses after it, empty if there is none. -/
def cutNetwork (cs : List Char) : Except Error (List Char × List Char) :=
  match cutAt '(' cs with
  | (net, none) => .ok (net, [])
  | (net, some rest) =>
    if rest.getLast? = some ')' then .ok (net, rest.dropLast)
    else .error (invalid "unterminated address")

/-! ### Parameters -/

/-- What a value of the `tls` parameter asks for. -/
def tlsMode? (value : String) : Option String :=
  match value with
  | "true" => some "VERIFY_IDENTITY"
  | "skip-verify" => some "REQUIRED"
  | "preferred" => some "PREFERRED"
  | "false" => some "DISABLED"
  | _ => none

/-- The URL's pair for a parameter, if it has a counterpart. Of several character sets the first one
counts. -/
def translate? (p : List Char) : Option (String × String) :=
  let value := String.ofList (parameterValue p)
  match String.ofList (parameterName p) with
  | "charset" => some ("charset", String.ofList (cutAt ',' (parameterValue p)).1)
  | "collation" => some ("collation", value)
  | "ssl-mode" | "sslmode" => some ("ssl-mode", value)
  | "tls" => (tlsMode? value).map fun mode => ("ssl-mode", mode)
  | "ssl-ca" => some ("ssl-ca", value)
  | "statement-cache-capacity" => some ("statement-cache-capacity", value)
  | _ => none

/-- The names of the parameters without a counterpart. -/
def dropped (params : List (List Char)) : List String :=
  (params.filter fun p => (translate? p).isNone).map fun p => String.ofList (parameterName p)

/-! ### Names -/

/-- The parts of a name. -/
structure Parts where
  /-- The user and the password, if there is an at sign. -/
  userinfo : Option (List Char)
  network : List Char
  address : List Char
  database : List Char
  params : List (List Char)
deriving DecidableEq

/-- Take a name apart. The last slash ends the address, the last at sign before it ends the user. -/
def Parts.ofChars (cs : List Char) : Except Error Parts :=
  match cutAtLast? '/' cs with
  | none => .error (invalid "missing '/' before the database name")
  | some (lead, tail) =>
    let (userinfo, endpoint) := match cutAtLast? '@' lead with
      | some (userinfo, endpoint) => (some userinfo, endpoint)
      | none => (none, lead)
    match cutNetwork endpoint with
    | .error e => .error e
    | .ok (network, address) =>
      let (database, query) := cutAt '?' tail
      .ok { userinfo, network, address, database, params := parameters query }

/-- Put the server into a URL. -/
def withEndpoint (u : Url) : Endpoint → Except Error Url
  | .socket path => .ok (u.appendPair "socket" (String.ofList path))
  | .tcp host port =>
    match u.setHost host with
    | .error e => .error (invalid ("invalid host " ++ shown host ++ ": " ++ e.message))
    | .ok u =>
      match u.setPort? port with
      | some u => .ok u
      | none => .error (invalid "cannot set port")

/-- Put the user and the password into a URL. -/
def withUserinfo (u : Url) : Option (List Char) → Except Error Url
  | none => .ok u
  | some userinfo =>
    let (user, password) := cutAt ':' userinfo
    match u.setUsername? user with
    | none => .error (invalid "cannot set username")
    | some u =>
      match u.setPassword? (password.getD []) with
      | none => .error (invalid "cannot set password")
      | some u => .ok u

/-- The URL of a name. -/
def Parts.toUrl (p : Parts) : Except Error Url :=
  match readEndpoint p.network p.address with
  | .error e => .error e
  | .ok endpoint =>
    match withEndpoint (.ofScheme "mysql") endpoint with
    | .error e => .error e
    | .ok u =>
      match withUserinfo u p.userinfo with
      | .error e => .error e
      | .ok u => .ok ((u.setPath ('/' :: p.database)).appendPairs (p.params.filterMap translate?))

/-- Whether a name is a URL already. -/
def isUrl (cs : List Char) : Bool :=
  "mysql://".toList.isPrefixOf cs || "mariadb://".toList.isPrefixOf cs

/-- Read a name that is not blank at its ends. The names of dropped parameters come with it. -/
def ofChars (cs : List Char) : Except Error (String × List String) :=
  if isUrl cs then .ok (String.ofList cs, [])
  else
    match Parts.ofChars cs with
    | .error e => .error e
    | .ok p => p.toUrl.map fun u => (u.text, dropped p.params)

/-- Read a MySQL data source name. -/
def parse (dsn : String) : Except Error (String × List String) := ofChars (trimChars dsn.toList)

end Mysql

end DataAccess.Dsn
