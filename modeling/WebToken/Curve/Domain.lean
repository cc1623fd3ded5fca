import WebToken.Curve.Named
import WebToken.Der

/-!
# Curves as key material states them

A key names its curve or spells out the numbers that make it up. Either way the
curve is one of those that are known: numbers that make up no known curve are
not read, and what they are called does not matter.
-/

set_option autoImplicit false

namespace WebToken.Curve

structure Domain where
  prime : Nat
  a : Nat
  b : Nat
  baseX : Nat
  baseY : Nat
  order : Nat
deriving DecidableEq, Repr

def domain (curve : Curve) : Domain :=
  ⟨curve.prime, curve.a, curve.b, curve.baseX, curve.baseY, curve.order⟩

/-- The content of the object identifier of prime fields. -/
def primeField : Bytes :=
  [0x2A, 0x86, 0x48, 0xCE, 0x3D, 0x01, 0x01]

/-- Reads a prime field by its modulus. -/
def readField? (content : Bytes) : Option Nat := do
  let (kind, rest) ← Der.item? .objectIdentifier content
  let (prime, rest) ← Der.natural? rest
  if kind = primeField ∧ rest = [] then some prime else none

/-- Reads the coefficients `a` and `b`, in any width. The seed from which they
were drawn may follow and is not looked at. -/
def readCoefficients? (content : Bytes) : Option (Nat × Nat) := do
  let (a, rest) ← Der.item? .octetString content
  let (b, rest) ← Der.item? .octetString rest
  let (_, rest) ← Der.optional? .bitString rest
  if rest = [] then some (Bytes.value a, Bytes.value b) else none

/-- Reads the coordinates of a base point: two halves after 0x04. -/
def readBase? : Bytes → Option (Nat × Nat)
  | [] => none
  | form :: coordinates =>
      let width := coordinates.length / 2
      if form = 4 ∧ coordinates.length % 2 = 0 then
        some (Bytes.value (coordinates.take width), Bytes.value (coordinates.drop width))
      else none

/-- Reads the numbers of a curve from the content of their sequence, which has
version one. The cofactor may be left out and is one. -/
def Domain.read? (content : Bytes) : Option Domain := do
  let (version, rest) ← Der.natural? content
  let (field, rest) ← Der.item? .sequence rest
  let (coefficients, rest) ← Der.item? .sequence rest
  let (base, rest) ← Der.item? .octetString rest
  let (order, rest) ← Der.natural? rest
  let (cofactor, rest) ← Der.optional? .integer rest
  let prime ← readField? field
  let (a, b) ← readCoefficients? coefficients
  let (baseX, baseY) ← readBase? base
  if version = 1 ∧ rest = [] ∧ cofactor.all (· == [1]) then
    some ⟨prime, a, b, baseX, baseY, order⟩
  else none

/-- The known curve that the parameters of a key state. Nothing may follow the
name or the numbers. -/
def ofParameters? (parameters : Bytes) : Option Curve :=
  match Der.only? .objectIdentifier parameters with
  | some name => known.find? fun curve => curve.identifier == name
  | none =>
      match (Der.only? .sequence parameters).bind Domain.read? with
      | some numbers => known.find? fun curve => curve.domain == numbers
      | none => none

end WebToken.Curve
