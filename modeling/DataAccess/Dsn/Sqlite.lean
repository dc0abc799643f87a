import DataAccess.Error

/-!
# SQLite data source names

A SQLite database is a file, named by a path with optional parameters, or it is held in memory.
Known parameters are passed on as they are, others are dropped; a file is created when it is missing
unless the name has a `mode`.
-/

namespace DataAccess.Dsn

open Text

/-- A text cut at the first character of a kind, without that character. The second part is missing
if there is no such character. -/
def cutAt (c : Char) (cs : List Char) : List Char × Option (List Char) :=
  match cs.dropWhile (· != c) with
  | [] => (cs, none)
  | _ :: rest => (cs.takeWhile (· != c), some rest)

/-- The parameters of a query, without empty ones. -/
def parameters (query : Option (List Char)) : List (List Char) :=
  (((query.getD []).splitOn '&')).filter (!·.isEmpty)

/-- The name of a parameter. -/
def parameterName (p : List Char) : List Char := (cutAt '=' p).1

/-- The value of a parameter, empty if it has none. -/
def parameterValue (p : List Char) : List Char := (cutAt '=' p).2.getD []

/-- Whether a text stands somewhere in another one. -/
def occursIn (part : List Char) : List Char → Bool
  | [] => part.isEmpty
  | c :: rest => part.isPrefixOf (c :: rest) || occursIn part rest

namespace Sqlite

/-- A SQLite database: its URL, and whether it is held in memory. -/
structure Target where
  url : String
  inMemory : Bool
deriving DecidableEq

/-- The parameters that are passed on. -/
def knownParameters : List (List Char) :=
  ["mode".toList, "cache".toList, "immutable".toList, "vfs".toList]

/-- Whether a parameter is passed on. -/
def isKnown (p : List Char) : Bool := knownParameters.contains (parameterName p)

/-- The parameters that are passed on, with a `mode` if there is none. -/
def passedOn (params : List (List Char)) : List (List Char) :=
  let known := params.filter isKnown
  if known.any ("mode=".toList.isPrefixOf ·) then known else known ++ ["mode=rwc".toList]

/-- A text without a leading part, which may be missing. -/
def withoutLead (lead cs : List Char) : List Char :=
  if lead.isPrefixOf cs then cs.drop lead.length else cs

/-- The error for a name without a path. -/
def missingPath : Error := .invalidDsn .sqlite "missing database path"

/-- Read a name that is not blank at its ends. The names of dropped parameters come with it. -/
def ofChars (cs : List Char) : Except Error (Target × List String) :=
  if "sqlite:".toList.isPrefixOf cs then
    .ok (⟨String.ofList cs, occursIn ":memory:".toList cs || occursIn "mode=memory".toList cs⟩, [])
  else if cs = ":memory:".toList ∨ "file::memory:".toList.isPrefixOf cs then
    .ok (⟨"sqlite::memory:", true⟩, [])
  else
    let (path, query) := cutAt '?' (withoutLead "file:".toList cs)
    let params := parameters query
    let url := "sqlite://".toList ++ path ++ '?' :: ['&'].intercalate (passedOn params)
    if path.isEmpty then .error missingPath
    else
      .ok (⟨String.ofList url, (params.filter isKnown).contains "mode=memory".toList⟩,
        (params.filter (!isKnown ·)).map fun p => String.ofList (parameterName p))

/-- Read a SQLite data source name. -/
def parse (dsn : String) : Except Error (Target × List String) := ofChars (trimChars dsn.toList)

end Sqlite

end DataAccess.Dsn
