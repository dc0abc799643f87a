import DataAccess.Dsn.Sqlite
import DataAccess.Sqlite.Connection
import DataAccess.Text.Quoted
import DataAccess.Url.Location

/-!
# Opening a database

The URL of a SQLite database names a file, whose path is percent-encoded, or a database in memory,
and says how it is to be opened. A file is opened if the directory that it is in is there and it may
be created; there are no files before the library creates them. Databases in memory keep their
journal there; a file writes ahead if it is told to.
-/

namespace DataAccess.Sqlite

open Text

/-! ### What a URL says -/

/-- How a database is to be opened. -/
structure Options where
  path : List Char
  inMemory : Bool
  readOnly : Bool
  create : Bool
  /-- The way in which files are reached, if not the usual one. -/
  vfs : Option String
deriving DecidableEq

namespace Options

/-- The text without any number of copies of a leading part. -/
def withoutLeads (lead cs : List Char) : List Char :=
  if _h : lead.isPrefixOf cs ∧ (cs.drop lead.length).length < cs.length then
    withoutLeads lead (cs.drop lead.length)
  else cs
termination_by cs.length
decreasing_by exact _h.2

/-- The error for a value that a parameter does not have. -/
def unknownValue (name value : String) : BackendError :=
  .configuration ("unknown value " ++ quoted value ++ " for \x60" ++ name ++ "\x60")

/-- Take a parameter into account. -/
def take (o : Options) (p : String × String) : Except BackendError Options :=
  match p.1, p.2 with
  | "mode", "ro" => .ok { o with readOnly := true }
  | "mode", "rw" => .ok o
  | "mode", "rwc" => .ok { o with create := true }
  | "mode", "memory" => .ok { o with inMemory := true }
  | "mode", v => .error (unknownValue "mode" v)
  | "cache", "private" | "cache", "shared" => .ok o
  | "cache", v => .error (unknownValue "cache" v)
  | "immutable", "true" | "immutable", "1" | "immutable", "false" | "immutable", "0" => .ok o
  | "immutable", v => .error (unknownValue "immutable" v)
  | "vfs", v => .ok { o with vfs := some v }
  | name, _ => .error (.configuration
      ("unknown query parameter \x60" ++ name ++ "\x60 while parsing connection URL"))

/-- The options of a database whose path has no parameters. -/
def ofPath (path : List Char) : Except BackendError Options :=
  if path = ":memory:".toList then .ok ⟨path, true, false, false, none⟩
  else
    match Url.Percent.decodeText path with
    | .ok path => .ok ⟨path, false, false, false, none⟩
    | .error e => .error (.configuration e.message)

/-- Read the text of a URL. -/
def ofUrl (cs : List Char) : Except BackendError Options := do
  let (path, query) :=
    Dsn.cutAt '?' (withoutLeads "sqlite:".toList (withoutLeads "sqlite://".toList cs))
  let options ← ofPath path
  (Url.Form.decodePairs (query.getD [])).foldlM take options

end Options

/-! ### Files -/

/-- The directories that there are. -/
structure Directories where
  all : List (List (List Char))
  /-- The directory in which paths start that do not start at the root. -/
  current : List (List Char)

namespace Directories

/-- Walk one step of a path. -/
def step (place : List (List Char)) (name : List Char) : List (List Char) :=
  if name = [] ∨ name = ['.'] then place
  else if name = ['.', '.'] then place.dropLast
  else place ++ [name]

/-- The place that a path leads to. -/
def resolve (d : Directories) (path : List Char) : List (List Char) :=
  (path.splitOn '/').foldl step (if path.head? = some '/' then [] else d.current)

/-- Whether a file can be created in a place. -/
def mayCreate (d : Directories) (place : List (List Char)) : Bool :=
  place ≠ [] && !d.all.contains place && d.all.contains place.dropLast

end Directories

/-- The ways in which files can be reached. -/
def knownVfs : List String := ["unix", "unix-none", "unix-dotfile", "unix-excl", "memdb"]

/-- The error for a file that cannot be opened. -/
def cannotOpen : BackendError := .database 14 "unable to open database file"

namespace Options

/-- The path without a leading `file:`. -/
def plainPath (o : Options) : List Char := Dsn.Sqlite.withoutLead "file:".toList o.path

/-- Check the way in which files are reached. -/
def checkVfs (o : Options) : Except BackendError Unit :=
  match o.vfs with
  | none => .ok ()
  | some v => if knownVfs.contains v then .ok () else .error (.database 1 ("no such vfs: " ++ v))

/-- How the database keeps its journal, if it can be opened. A database without a name is a file
that nobody else sees. -/
def journal (o : Options) (d : Directories) (writeAhead : Bool) : Except BackendError String := do
  if o.path.contains '\x00' then
    throw (.io "filename passed to SQLite must not contain nul bytes")
  o.checkVfs
  if o.inMemory || o.plainPath = ":memory:".toList then return "memory"
  else if o.plainPath.isEmpty then return "delete"
  else if !o.readOnly && o.create && d.mayCreate (d.resolve o.plainPath) then
    return if writeAhead then "wal" else "delete"
  else throw cannotOpen

end Options

/-- Open the database of a URL. -/
def Connection.ofUrl (d : Directories) (url : List Char) (writeAhead : Bool) :
    Except BackendError Connection := do
  let options ← Options.ofUrl url
  return .ofJournal (← options.journal d writeAhead)

end DataAccess.Sqlite
