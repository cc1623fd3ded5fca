import WebToken.Binary64.Basic

/-!
# Rounding to binary64

Every operation computes its exact quotient and rounds once, to the nearest
finite number, a tie going to the neighbour of even rank. A magnitude that
would round past the largest finite number has no result.
-/

set_option autoImplicit false

namespace WebToken.Binary64

/-- A quotient rounded to the nearest integer, a tie to the even one. -/
def roundHalfEven (numerator denominator : Nat) : Nat :=
  let quotient := numerator / denominator
  let twice := 2 * (numerator % denominator)
  if twice < denominator then quotient
  else if twice = denominator then quotient + quotient % 2
  else quotient + 1

/-- The rank nearest to a quotient of multiples of `2 ^ (-1074)`. The spacing
is `2 ^ shift` units, and the result may lie past the finite ranks. -/
def nearestRank (numerator denominator : Nat) : Nat :=
  let shift := (numerator / denominator).log2 - 52
  shift * 2 ^ 52 + roundHalfEven numerator (denominator * 2 ^ shift)

/-- The finite number nearest to a quotient of units. Magnitudes past the
finite range give the largest finite number. -/
def roundUnits (negative : Bool) (numerator denominator : Nat) : Binary64 :=
  ⟨negative, min (nearestRank numerator denominator) (endRank - 1), by
    have : endRank - 1 < endRank := by decide
    omega⟩

/-- The number nearest to a quotient of units, if that number is finite. -/
def roundUnits? (negative : Bool) (numerator denominator : Nat) : Option Binary64 :=
  if finite : nearestRank numerator denominator < endRank then
    some ⟨negative, nearestRank numerator denominator, finite⟩
  else none

/-- The number nearest to an integer. No 64-bit integer is past the range. -/
def ofInt (value : Int) : Binary64 :=
  roundUnits (decide (value < 0)) (value.natAbs * unitsPerOne) 1

def ofRatio (numerator denominator : Nat) : Binary64 :=
  roundUnits false (numerator * unitsPerOne) denominator

/-- The rounded product, if it is finite. -/
def mul? (left right : Binary64) : Option Binary64 :=
  roundUnits? (left.negative != right.negative) (left.units * right.units) unitsPerOne

/-- The rounded quotient, if it is finite. The divisor is not to be zero. -/
def div? (left right : Binary64) : Option Binary64 :=
  roundUnits? (left.negative != right.negative) (left.units * unitsPerOne) right.units

def addMagnitudes (left right : Binary64) : Binary64 :=
  roundUnits false (left.units + right.units) 1

/-- The least natural number not below the magnitude. -/
def ceilMagnitude (number : Binary64) : Nat :=
  (number.units + (unitsPerOne - 1)) / unitsPerOne

def powerOfTen (exponent : Nat) : Binary64 :=
  ofInt (10 ^ exponent : Nat)

/-- Divides by the largest power of ten in the table, at most `rounds` times
and only while the number is not zero and the exponent is below `-308`. -/
def descend : (rounds : Nat) → Binary64 → Int → Option (Binary64 × Int)
  | 0, number, exponent => some (number, exponent)
  | rounds + 1, number, exponent =>
      if exponent < -308 ∧ number.rank ≠ 0 then
        (number.div? (powerOfTen 308)).bind fun quotient =>
          descend rounds quotient (exponent + 308)
      else some (number, exponent)

/-- The number that a decimal significand and exponent are read as. The
significand, the power of ten and the product or quotient are each rounded, so
this is not always the nearest number. Exponents below `-308` are divided out
in steps; there is no result past the finite range. -/
def ofDecimal? (significand : Nat) (exponent : Int) : Option Binary64 :=
  let start := ofInt significand
  if 0 ≤ exponent then
    if exponent ≤ 308 then start.mul? (powerOfTen exponent.toNat)
    else if start.rank = 0 then some start
    else none
  else
    match descend (exponent.natAbs / 308) start exponent with
    | none => none
    | some (number, exponent) =>
        if -308 ≤ exponent then number.div? (powerOfTen exponent.natAbs)
        else some number

end WebToken.Binary64
