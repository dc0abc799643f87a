import DataAccess.Text.Uppercase

/-!
# Environments

An environment gives some names a value. Setting and removing change one name and no other; the name
of a configuration key is its uppercase with dots and dashes turned into underscores.
-/

namespace DataAccess

open Text

/-- What each name stands for. -/
abbrev Environment := String → Option String

namespace Environment

/-- The environment without variables. -/
def blank : Environment := fun _ => none

/-- Give a name a value, or take it away. -/
def put (env : Environment) (name : String) (value : Option String) : Environment :=
  fun n => if n = name then value else env n

/-- The environment with the variables of a list, later ones winning. -/
def ofList (vars : List (String × String)) : Environment :=
  vars.foldl (fun env v => env.put v.1 (some v.2)) blank

@[simp] theorem put_same (env : Environment) (name : String) (value : Option String) :
    env.put name value name = value := by
  simp [put]

@[simp] theorem put_other (env : Environment) {name n : String} (value : Option String)
    (h : n ≠ name) : env.put name value n = env n := by
  simp [put, h]

/-- The name of the variable for a configuration key under a leading name. -/
def keyName (lead key : String) : String :=
  let name := uppercase (key.map fun c => if c == '.' || c == '-' then '_' else c)
  if lead.isEmpty then name else uppercase lead ++ "_" ++ name

/-- The leading name of all variables of the library. -/
def standardLead : String := "CONDUIT"

/-- The variable that overrides the driver. -/
def driverVariable : String := "CONDUIT_DATABASE_DRIVER"

/-- The variable that overrides the data source name. -/
def dsnVariable : String := "CONDUIT_DATABASE_DSN"

end Environment

end DataAccess
