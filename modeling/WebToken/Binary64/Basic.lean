/-!
# Finite binary64 numbers

A finite number of the IEEE 754 binary64 format is a sign and a rank: its
place among the non-negative finite numbers in increasing order, which is also
the bit pattern without the sign. Every such number is an integer multiple of
`2 ^ (-1074)`, so values are compared and combined exactly, as integers.
-/

set_option autoImplicit false

namespace WebToken

-- A power of numbers is the same term whatever else a module imports.
attribute [instance (high + 1), default_instance (high + 1)] instPowNat

/-- The rank one past the largest finite number. -/
def Binary64.endRank : Nat := 2047 * 2 ^ 52

/-- A finite binary64 number. Zero occurs with either sign. -/
structure Binary64 where
  negative : Bool
  rank : Nat
  rank_lt : rank < Binary64.endRank
deriving DecidableEq, Repr

namespace Binary64

/-- The magnitude with a given rank, in multiples of `2 ^ (-1074)`. The first
`2 ^ 53` ranks are evenly spaced; after that the spacing doubles every `2 ^ 52`. -/
def unitsOfRank (rank : Nat) : Nat :=
  if rank < 2 ^ 52 then rank
  else (2 ^ 52 + rank % 2 ^ 52) * 2 ^ (rank / 2 ^ 52 - 1)

def unitsPerOne : Nat := 2 ^ 1074

/-- The magnitude in multiples of `2 ^ (-1074)`. -/
def units (number : Binary64) : Nat :=
  unitsOfRank number.rank

/-- The value in multiples of `2 ^ (-1074)`. -/
def scaled (number : Binary64) : Int :=
  if number.negative then -(number.units : Int) else (number.units : Int)

def zero (negative : Bool) : Binary64 :=
  ⟨negative, 0, by decide⟩

/-- Equality of values, for which the sign of zero does not count. -/
def sameValue (left right : Binary64) : Bool :=
  left.scaled == right.scaled

def negate (number : Binary64) : Binary64 :=
  { number with negative := !number.negative }

/-- The integer between the value and zero that is nearest to the value. -/
def truncate (number : Binary64) : Int :=
  let magnitude := number.units / unitsPerOne
  if number.negative then -(magnitude : Int) else (magnitude : Int)

/-- The bit pattern: the sign, then the rank. -/
def bits (number : Binary64) : Nat :=
  (if number.negative then 2 ^ 63 else 0) + number.rank

end Binary64

end WebToken
