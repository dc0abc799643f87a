import DataAccess.Error
import DataAccess.Url.Location

/-!
# Probes

A connection is made by a probe: the database is opened, and it has to answer within ten seconds.
Opening is an effect, so it happens in a monad; `Connect` is the case without one.
-/

namespace DataAccess.Access

/-- Why there is no connection. -/
inductive ProbeFailure where
  /-- The backend says why. -/
  | refused (cause : BackendError)
  /-- The database does not answer in time. -/
  | silent
deriving DecidableEq

/-- How long a database may take to answer the first probe. -/
def probeLimit : Duration := .ofWholeSeconds 10

/-- The error for a probe of a driver's database that failed. -/
def ProbeFailure.toError (d : Driver) : ProbeFailure → Error
  | refused e => .connect d e
  | silent => .probeTimeout probeLimit

/-- How connections are made: for a driver, a location, and whether a file writes ahead. -/
abbrev ConnectIn (m : Type → Type) (σ : Type) :=
  Driver → Url.Location → Bool → m (Except ProbeFailure σ)

/-- How connections are made, without an effect. -/
abbrev Connect (σ : Type) := ConnectIn Id σ

end DataAccess.Access
