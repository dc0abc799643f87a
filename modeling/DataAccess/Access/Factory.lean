import DataAccess.Access.Adapter
import DataAccess.Access.Manager
import DataAccess.Access.Probe
import DataAccess.Config.Source

/-!
# Factories

A factory makes managers of one name. The strict way answers why a configuration is refused or a
database cannot be opened; the lenient ways, from a raw configuration and from a source, never fail:
instead of a database that cannot be used they give a manager without one, and a notice.
-/

namespace DataAccess.Access

open Json Observation Text

/-- Work that reports notices, newest first, and may fail. -/
abbrev BuildingIn (m : Type → Type) := ExceptT Error (StateT (List Notice) m)

/-- Work that reports notices and cannot fail. -/
abbrev ReportingIn (m : Type → Type) := StateT (List Notice) m

/-- Building without an effect. -/
abbrev Building := BuildingIn Id

/-- Reporting without an effect. -/
abbrev Reporting := ReportingIn Id

/-- A maker of managers. -/
structure Factory where
  name : String
  /-- Whether the observers of its managers open spans. -/
  traced : Bool
deriving DecidableEq

section Opening

variable {σ : Type} {m : Type → Type} [Monad m]

/-- The database of a target, behind a manager with a name. -/
def Adapter.Target.connect (t : Adapter.Target) (c : ConnectIn m σ) (name : String) (d : Driver)
    (p : Plugin) : m (Except Error (Manager σ)) :=
  match Url.Location.parse t.url.toList with
  | .error e => return .error (.invalidDsn d (BackendError.configuration e.message).message)
  | .ok l => do
    match ← c d l t.writeAhead with
    | .error failure => return .error (failure.toError d)
    | .ok connection => return .ok (.ofConnection name d connection t.pool.ceiling p)

/-- Open the database of a section. -/
def Manager.open (c : ConnectIn m σ) (name : String) (d : Driver) (s : Config.Section)
    (p : Plugin) : BuildingIn m (Manager σ) := do
  let t ← MonadExcept.ofExcept (Adapter.target d s)
  modify (t.notices.reverse ++ ·)
  ExceptT.mk (StateT.lift (t.connect c name d p))

end Opening

namespace Factory

variable {σ : Type} {m : Type → Type} [Monad m]

/-- The debug text of a factory. -/
def debugText (f : Factory) : String :=
  "ManagerFactory \x7b name: " ++ quoted f.name ++ ", tracer: " ++
    (if f.traced then "true" else "false") ++ " \x7d"

/-- The observer of a manager. -/
def plugin (f : Factory) (o : Observability) : Plugin := ⟨o, f.traced⟩

/-- The section that a configuration has for a driver. -/
def sectionOf (c : Config) (d : Driver) : Except Error Config.Section :=
  match c.section? d with
  | some s => .ok s
  | none => .error (.config (.missingDriverConfig d.name (Adapter.sectionKey d)))

/-- The manager for a configuration. -/
def build (f : Factory) (connect : ConnectIn m σ) (c : Config) : BuildingIn m (Manager σ) := do
  MonadExcept.ofExcept (c.validate.mapError .config)
  match ← MonadExcept.ofExcept (c.selectedDriver.mapError .config) with
  | .none => return .withoutDatabase f.name (f.plugin c.observability)
  | d =>
    let s ← MonadExcept.ofExcept (sectionOf c d)
    Manager.open connect f.name d s (f.plugin c.observability)

/-- A manager without a database in place of one that cannot be used. -/
def fallback (f : Factory) (cause : Error) : ReportingIn m (Manager σ) := do
  modify (.fallback f.name cause :: ·)
  return .withoutDatabase f.name (f.plugin .standard)

/-- Never fail. -/
def lenient (f : Factory) (work : BuildingIn m (Manager σ)) : ReportingIn m (Manager σ) := do
  match ← work.run with
  | .ok made => return made
  | .error cause => f.fallback cause

/-- A configuration with a driver in place of its own, unless the name is blank. -/
def selecting (driverName : String) (c : Config) : Config :=
  if isAllBlank driverName then c else { c with driver := driverName }

/-- The manager for a raw configuration, in which a name that is not blank overrides the driver. -/
def buildRaw (f : Factory) (connect : ConnectIn m σ) (driverName : String) (raw : Members) :
    ReportingIn m (Manager σ) :=
  f.lenient do
    let c ← MonadExcept.ofExcept ((Config.ofMembers raw).mapError .config)
    f.build connect (selecting driverName c)

/-- The manager for the configuration under a key of a source, with overrides. -/
def buildFrom (f : Factory) (connect : ConnectIn m σ) (source : Config.Source) (key : String)
    (o : Config.Override) : ReportingIn m (Manager σ) :=
  f.lenient do
    let c ← MonadExcept.ofExcept ((Config.load source key o).1.mapError .config)
    f.build connect c

end Factory

end DataAccess.Access
