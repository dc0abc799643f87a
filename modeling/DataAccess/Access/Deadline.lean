import DataAccess.Error
import DataAccess.Observation.Plugin

/-!
# Deadlines

Work runs under an optional deadline. Work that is done wins over a deadline that has passed; work
that is not done by then is given up.
-/

namespace DataAccess.Access

open Observation

/-- A point in time by which work has to be done, if there is one. -/
structure Deadline where
  at? : Option Time
deriving DecidableEq

namespace Deadline

/-- No deadline. -/
def unbounded : Deadline := ⟨none⟩

/-- A deadline some time from now. -/
def after (now : Time) (timeout : Duration) : Deadline := ⟨some (now + timeout.inNanos)⟩

/-- Whether there is a deadline. -/
def isBounded (d : Deadline) : Bool := d.at?.isSome

/-- The time left, none without a deadline. -/
def remaining (d : Deadline) (now : Time) : Option Time := d.at?.map (· - now)

/-- Work as a deadline sees it: done at once with a result, or never done. -/
inductive Work (α : Type) where
  | ready (result : Except Error α)
  | never

/-- The answer of work to who waits for it as long as the deadline allows. -/
def Work.answer {α : Type} : Work α → Except Error α
  | .ready r => r
  | .never => .error .timeout

/-- Run work: its result and the time when it is there. Work that is never done has no result
without a deadline. -/
def run {α : Type} (d : Deadline) (now : Time) : Work α → Option (Except Error α × Time)
  | .ready r => some (r, now)
  | .never => d.at?.map fun t => (.error .timeout, max t now)

end Deadline

end DataAccess.Access
