import WebToken.Binary64.Rounding

/-!
# JSON numbers

A number is kept as it was written: an integer that fits an unsigned or a
signed 64-bit word, or a binary64 number. The two kinds are never the same
number under `same`, while `agrees` compares an integer with a float by value.
-/

set_option autoImplicit false

namespace WebToken.Json

/-- A number of a JSON text. -/
inductive Number where
  | integer (value : Int) (lower : -2 ^ 63 ≤ value) (upper : value < 2 ^ 64)
  | float (value : Binary64)
deriving DecidableEq, Repr

namespace Number

def ofInt64 (value : Int64) : Number :=
  .integer value.toInt (Int64.le_toInt value) (by have := Int64.toInt_lt value; omega)

/-- The integer, if it fits a signed 64-bit word. Floats are no integers here. -/
def int64? : Number → Option Int64
  | .integer value _ _ => if value < 2 ^ 63 then some (Int64.ofInt value) else none
  | .float _ => none

def nat? : Number → Option Nat
  | .integer value _ _ => if 0 ≤ value then some value.toNat else none
  | .float _ => none

/-- The nearest binary64 number, which is the number itself for a float. -/
def toBinary64 : Number → Binary64
  | .integer value _ _ => Binary64.ofInt value
  | .float value => value

/-- The number truncated toward zero, if that fits a signed 64-bit word. Large
integers are measured after rounding to binary64. -/
def truncate? (number : Number) : Option Int64 :=
  match number.int64? with
  | some value => some value
  | none =>
      let value := number.toBinary64
      let bound : Int := 2 ^ 63 * Binary64.unitsPerOne
      if -bound ≤ value.scaled ∧ value.scaled < bound then some (Int64.ofInt value.truncate)
      else none

/-- Sameness of kind and value. Zeros of either sign are the same float. -/
def same : Number → Number → Bool
  | .integer left _ _, .integer right _ _ => left == right
  | .float left, .float right => left.sameValue right
  | _, _ => false

/-- Comparison by value: exactly when both are signed 64-bit integers, and
after rounding to binary64 otherwise. -/
def agrees (left right : Number) : Bool :=
  match left.int64?, right.int64? with
  | some left, some right => left == right
  | _, _ => left.toBinary64.sameValue right.toBinary64

end Number

end WebToken.Json
