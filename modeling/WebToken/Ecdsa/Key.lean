import WebToken.Curve.Domain

/-!
# Elliptic curve keys

A public key is a point of a curve, written as a point or with its algorithm
and curve stated in front. A private key is a number below the order of the base
point; the point that belongs to it may be written along and has to be right.
-/

set_option autoImplicit false

namespace WebToken.Ecdsa

/-- The content of the object identifier of elliptic curve keys. -/
def identifier : Bytes :=
  [0x2A, 0x86, 0x48, 0xCE, 0x3D, 0x02, 0x01]

/-- Reads a point with its algorithm and curve stated in front of it. What
follows the sequence is not looked at. -/
def readWrappedPoint? (curve : Curve) (bytes : Bytes) : Option Curve.Point := do
  let (content, _) ← Der.item? .sequence bytes
  let (algorithm, rest) ← Der.item? .sequence content
  let (name, parameters) ← Der.item? .objectIdentifier algorithm
  let bits ← Der.only? .bitString rest
  let octets ← Der.bitOctets? bits
  if name = identifier ∧ Curve.ofParameters? parameters = some curve then
    curve.readPoint? octets
  else none

def readPublicKey? (curve : Curve) (bytes : Bytes) : Option Curve.Point :=
  readWrappedPoint? curve bytes <|> curve.readPoint? bytes

/-- A private key and the point that belongs to it. -/
structure PrivateKey where
  curve : Curve
  scalar : Nat
  point : Curve.Point
deriving DecidableEq, Repr

/-- The private key of a number from one up to below the order. -/
def PrivateKey.ofScalar? (curve : Curve) (scalar : Nat) : Option PrivateKey :=
  if 1 ≤ scalar ∧ scalar < curve.order then
    (curve.toPoint? (curve.multiply scalar curve.base)).map fun point => ⟨curve, scalar, point⟩
  else none

/-- Whether a bit string is a spelling of a point of a curve. -/
def isBitsOf (curve : Curve) (point : Curve.Point) (written : Bytes) : Bool :=
  match (Der.only? .bitString written).bind Der.bitOctets? with
  | none => false
  | some octets => (curve.spellings point).contains octets

/-- Reads a private key on a curve: a sequence of version one, the number in any
width, and optionally the curve and the point, both of which have to match. -/
def PrivateKey.read? (curve : Curve) (bytes : Bytes) : Option PrivateKey := do
  let content ← Der.only? .sequence bytes
  let (version, rest) ← Der.natural? content
  let (octets, rest) ← Der.item? .octetString rest
  let (statedCurve, rest) ← Der.optional? (.constructed 0) rest
  let (statedPoint, rest) ← Der.optional? (.constructed 1) rest
  let key ← PrivateKey.ofScalar? curve (Bytes.value octets)
  let curveMatches := statedCurve.all fun parameters => Curve.ofParameters? parameters == some curve
  let pointMatches := statedPoint.all (isBitsOf curve key.point)
  if version = 1 ∧ rest = [] ∧ curveMatches ∧ pointMatches then some key else none

end WebToken.Ecdsa
