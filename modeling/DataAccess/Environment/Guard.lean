import DataAccess.Environment.Basic

/-!
# Guarded environments

A guard remembers the value that each variable had before the guard first touched it, and puts all
of them back when it is dropped. Guards nest: only the innermost one is active.
-/

namespace DataAccess.Environment

/-- The variables that a guard has touched, with the values they had before. -/
abbrev Guard := List (String × Option String)

namespace Guard

/-- Remember the present value of a name, unless the guard knows an earlier one. -/
def remember (g : Guard) (env : Environment) (name : String) : Guard :=
  if (g.lookup name).isSome then g else (name, env name) :: g

/-- Put every remembered value back. -/
def restore (g : Guard) (env : Environment) : Environment :=
  g.foldl (fun env entry => env.put entry.1 entry.2) env

end Guard

/-- An environment and the guards on it, innermost first. -/
structure Guarded where
  env : Environment
  guards : List Guard

namespace Guarded

/-- Change a variable through the innermost guard. Nothing happens without one. -/
def put (s : Guarded) (name : String) (value : Option String) : Guarded :=
  match s.guards with
  | [] => s
  | g :: outer => ⟨s.env.put name value, g.remember s.env name :: outer⟩

/-- Push a guard, which takes away the given variables. -/
def push (s : Guarded) (names : List String) : Guarded :=
  names.foldl (fun s name => s.put name none) ⟨s.env, [] :: s.guards⟩

/-- Drop the innermost guard. -/
def drop (s : Guarded) : Guarded :=
  match s.guards with
  | [] => s
  | g :: outer => ⟨g.restore s.env, outer⟩

/-- Drop all guards, innermost first. -/
def dropAll (s : Guarded) : Guarded :=
  ⟨s.guards.foldl (fun env g => g.restore env) s.env, []⟩

end Guarded

end DataAccess.Environment
