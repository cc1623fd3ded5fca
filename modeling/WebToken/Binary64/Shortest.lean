import WebToken.Binary64.Rounding

/-!
# Shortest decimal digits

Among the decimal numbers that round to a given binary64 number, those with
the fewest digits are chosen, and of these the nearest one. The test compares
integers: the decimal numbers that round to a number of some rank lie between
the midpoints to the neighbouring ranks, which belong to the even rank.
-/

set_option autoImplicit false

namespace WebToken.Binary64

/-- A positive decimal number `significand * 10 ^ exponent`. -/
structure Decimal where
  significand : Nat
  exponent : Int
deriving DecidableEq, Repr

/-- Compares a decimal number with a multiple of `2 ^ (-1075)`, as the exact
products `significand * 10 ^ exponent * 2 ^ 1075` and `halves`. -/
def Decimal.compareHalves (decimal : Decimal) (halves : Nat) : Ordering :=
  if 0 ≤ decimal.exponent then
    compare (decimal.significand * 10 ^ decimal.exponent.toNat * (2 * unitsPerOne)) halves
  else
    compare (decimal.significand * (2 * unitsPerOne)) (halves * 10 ^ decimal.exponent.natAbs)

/-- Whether a decimal number rounds to the positive number of a given rank. -/
def Decimal.roundsTo (decimal : Decimal) (rank : Nat) : Bool :=
  let below := unitsOfRank (rank - 1) + unitsOfRank rank
  let above := unitsOfRank rank + unitsOfRank (rank + 1)
  match decimal.compareHalves below, decimal.compareHalves above with
  | .gt, .lt => true
  | .eq, _ => rank % 2 = 0
  | _, .eq => rank % 2 = 0
  | _, _ => false

/-- The position of the first decimal digit of a positive number of units:
the power of ten just above the value. Multiplying by `10 ^ 324` makes every
positive number at least one. -/
def magnitudeExponent (units : Nat) : Int :=
  ((Nat.toDigits 10 (units * 10 ^ 324 / unitsPerOne)).length : Int) - 324

/-- The two decimal numbers next to a value on the grid `10 ^ exponent`,
nearest first. Of two at the same distance the even one comes first. -/
def neighbours (units : Nat) (exponent : Int) : List Decimal :=
  let numerator := if 0 ≤ exponent then units else units * 10 ^ exponent.natAbs
  let denominator := if 0 ≤ exponent then unitsPerOne * 10 ^ exponent.toNat else unitsPerOne
  let floor := numerator / denominator
  let twice := 2 * (numerator % denominator)
  let lower : Decimal := ⟨floor, exponent⟩
  let upper : Decimal := ⟨floor + 1, exponent⟩
  if twice < denominator ∨ (twice = denominator ∧ floor % 2 = 0) then [lower, upper]
  else [upper, lower]

/-- The shortest decimal number that rounds to a non-zero number's magnitude,
and of several the nearest. Its significand may end in zeros. Digit counts are
tried upwards, and seventeen digits always suffice. -/
def shortest (number : Binary64) : Decimal :=
  let magnitude := magnitudeExponent number.units
  let found := (List.range' 1 17).findSome? fun (count : Nat) =>
    (neighbours number.units (magnitude - count)).find? (·.roundsTo number.rank)
  found.getD ⟨0, 0⟩

end WebToken.Binary64
