import DataAccess.Error
import DataAccess.Number.Word
import DataAccess.Server.Charset
import DataAccess.Text.Quoted
import DataAccess.Url.Location

/-!
# Options of server connections

What the URL of a MySQL or PostgreSQL server says about the connection is checked before anything is
sent to the server: the parts of the URL decode to text, the parameters have values that make sense.
Other parameters are not looked at. The first fault in the order user, password, database,
parameters is the answer.
-/

namespace DataAccess.Server

open Number Text

/-- Options that do not make sense. -/
def invalid (message : String) : BackendError := .configuration message

/-- Check that an encoded part of a URL is a text. -/
def checkText (part : List Char) : Except BackendError Unit :=
  match Url.Percent.decodeText part with
  | .ok _ => .ok ()
  | .error e => .error (invalid e.message)

/-- Check how a connection is to be encrypted. The report on a fault is wrapped in another one. -/
def checkEncryption (modes : List String) (value : String) : Except BackendError Unit :=
  if modes.contains (String.ofList (value.toList.map Char.toLower)) then .ok ()
  else .error (invalid
    (invalid ("unknown value " ++ quoted value ++ " for \x60ssl_mode\x60")).message)

/-- Check a number below a bound. -/
def checkWord (size : Nat) (value : String) : Except BackendError Unit :=
  match readWord size value.toList with
  | .ok _ => .ok ()
  | .error f => .error (invalid f.message)

/-- The bound of a count of statements. -/
def countSize : Nat := UInt64.size

/-- Check the user and the password, which only a URL with a host has. -/
def checkUser (l : Url.Location) : Except BackendError Unit := do
  match l.url? with
  | none => pure ()
  | some u =>
    checkText u.username
    checkText u.password

/-! ### MySQL -/

namespace Mysql

/-- The ways to encrypt a connection. -/
def encryption : List String :=
  ["disabled", "preferred", "required", "verify_ca", "verify_identity"]

/-- Check one parameter. -/
def checkParameter (p : String × String) : Except BackendError Unit :=
  match p.1 with
  | "sslmode" | "ssl-mode" => checkEncryption encryption p.2
  | "statement-cache-capacity" => checkWord countSize p.2
  | _ => .ok ()

/-- The value of the last parameter with a name. -/
def last? (l : Url.Location) (name : String) : Option String :=
  ((l.queryPairs.filter (·.1 == name)).getLast?).map (·.2)

/-- Check what a URL says. The database's name is taken as it is; the character set and the
collation are looked up last. -/
def check (l : Url.Location) : Except BackendError Unit := do
  checkUser l
  l.queryPairs.forM checkParameter
  match last? l "charset" with
  | some c => if !isCharset c then throw (invalid ("unsupported MySQL charset: " ++ c))
  | none => pure ()
  match last? l "collation" with
  | some c => if !isCollation c then throw (invalid ("unsupported MySQL collation: " ++ c))
  | none => pure ()

end Mysql

/-! ### PostgreSQL -/

namespace Postgres

/-- The ways to encrypt a connection. -/
def encryption : List String :=
  ["disable", "allow", "prefer", "require", "verify-ca", "verify-full"]

/-- Whether a text is an internet address, of four octets or of eight pieces. -/
def isAddress (cs : List Char) : Bool :=
  (Url.Address.readQuad? cs).isSome || (Url.Address.ofText? cs).isSome

/-- Check one parameter. -/
def checkParameter (p : String × String) : Except BackendError Unit :=
  match p.1 with
  | "sslmode" | "ssl-mode" => checkEncryption encryption p.2
  | "statement-cache-capacity" => checkWord countSize p.2
  | "hostaddr" =>
    if isAddress p.2.toList then .ok () else .error (invalid "invalid IP address syntax")
  | "port" => checkWord UInt16.size p.2
  | _ => .ok ()

/-- Check a host, which is a directory of sockets if it starts with an encoded slash. -/
def checkHost (l : Url.Location) : Except BackendError Unit :=
  match l.url? with
  | some { host := .name cs, .. } =>
    if "%2F".toList.isPrefixOf cs || "%2f".toList.isPrefixOf cs then checkText cs else .ok ()
  | _ => .ok ()

/-- Check what a URL says. -/
def check (l : Url.Location) : Except BackendError Unit := do
  checkHost l
  checkUser l
  checkText (l.path.dropWhile (· == '/'))
  l.queryPairs.forM checkParameter

end Postgres

end DataAccess.Server
