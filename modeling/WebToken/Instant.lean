import WebToken.Binary64.Rounding

/-!
# Instants

An instant is a whole second since the Unix epoch and the nanoseconds after it,
so that instants before the epoch have a negative second and still count
nanoseconds forwards. Tokens carry whole seconds, and time windows are checked
in whole milliseconds.
-/

set_option autoImplicit false

namespace WebToken

structure Instant where
  seconds : Int64
  nanos : Nat
  nanos_lt : nanos < 1000000000
deriving DecidableEq, Repr

namespace Instant

def ofSeconds (seconds : Int64) : Instant :=
  ⟨seconds, 0, by decide⟩

def epoch : Instant :=
  ofSeconds 0

/-- Nanoseconds since the epoch, exactly. -/
def nanoseconds (instant : Instant) : Int :=
  instant.seconds.toInt * 1000000000 + instant.nanos

instance : LE Instant where
  le earlier later := earlier.nanoseconds ≤ later.nanoseconds

instance (earlier later : Instant) : Decidable (earlier ≤ later) :=
  inferInstanceAs (Decidable (earlier.nanoseconds ≤ later.nanoseconds))

/-- The duration before the epoch in seconds, as a sum of binary64 numbers: the
whole seconds, and the nanoseconds over a billion. Each step is rounded. -/
def approximateSeconds (nanoseconds : Nat) : Binary64 :=
  Binary64.addMagnitudes (Binary64.ofInt (nanoseconds / 1000000000 : Nat))
    (Binary64.ofRatio (nanoseconds % 1000000000) 1000000000)

/-- The whole seconds since the epoch that a token states. From the epoch on
they are exact. Before it the duration is approximated and rounded away from the
epoch, and what does not fit gives the least second. -/
def unixSeconds (instant : Instant) : Int64 :=
  if 0 ≤ instant.nanoseconds then instant.seconds
  else
    let seconds := (approximateSeconds instant.nanoseconds.natAbs).ceilMagnitude
    if seconds < 2 ^ 63 then Int64.ofInt (-(seconds : Int)) else Int64.minValue

/-- Whole milliseconds since the epoch, toward the epoch. -/
def unixMillis (instant : Instant) : Int :=
  instant.nanoseconds.tdiv 1000000

end Instant

end WebToken
