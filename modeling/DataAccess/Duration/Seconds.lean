import DataAccess.Duration.Basic

/-!
# Durations and seconds

The two directions between a duration and a number of seconds in double precision. Reading rounds
the exact value of the double to the nearest nanosecond, ties to even; writing adds the whole
seconds and the rounded fraction.
-/

namespace DataAccess.Duration

open Number

/-- The duration nearest to a number of seconds. -/
def ofSeconds (x : Binary64) : Except Error Duration :=
  match x with
  | .nan => .error .notANumber
  | .infinity s => .error (if s then .negativeSeconds x else .overflow x)
  | .finite s k =>
    if s && k.val != 0 then .error (.negativeSeconds x)
    else
      let nanos := roundHalfEven (magnitude k.val * 1_000_000_000) Binary64.unitsPerOne
      if h : nanos / 1_000_000_000 < UInt64.size then
        .ok { seconds := nanos / 1_000_000_000
              nanos := nanos % 1_000_000_000
              seconds_lt := h
              nanos_lt := Nat.mod_lt _ (by decide) }
      else .error (.overflow x)

/-- The length in seconds, in double precision: the whole seconds plus the nanoseconds over
`10 ^ 9`, each rounded, and their sum rounded. -/
def toSeconds (d : Duration) : Binary64 :=
  Binary64.ofNat d.seconds + Binary64.ofNat d.nanos / Binary64.ofNat 1_000_000_000

end DataAccess.Duration
