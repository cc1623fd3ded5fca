import WebToken.Curve.Basic
import WebToken.Hash.Digest

/-!
# Public halves over the field of `2 ^ 255 - 19`

The curve `y ^ 2 - x ^ 2 = 1 + d x ^ 2 y ^ 2` carries the keys of signatures, and
its Montgomery form, where `u = (1 + y) / (1 - y)`, those of key agreement. Both
public halves are a multiple of one base point, written least significant octet
first. Sums have no exceptional cases, so that one formula adds any two points.
-/

set_option autoImplicit false

namespace WebToken.Edwards25519

def prime : Nat := 2 ^ 255 - 19

/-- The coefficient `d` of the curve, which is `-121665 / 121666`. -/
def coefficient : Nat :=
  (prime - 121665) * Modular.inverse prime 121666 % prime

/-- A point in projective coordinates, which stand for `(x / z, y / z)`. -/
structure Point where
  x : Nat
  y : Nat
  z : Nat
deriving DecidableEq, Repr

def neutral : Point :=
  ⟨0, 1, 1⟩

/-- The base point, whose y is `4 / 5`. -/
def base : Point where
  x := 0x216936D3CD6E53FEC0A4E231FDD6DC5C692CC7609525A7B2C9562D608F25D51A
  y := 0x6666666666666666666666666666666666666666666666666666666666666658
  z := 1

def add (left right : Point) : Point :=
  let scale := left.z * right.z % prime
  let square := scale * scale % prime
  let xs := left.x * right.x % prime
  let ys := left.y * right.y % prime
  let cross := coefficient * (xs * ys % prime) % prime
  let lower := Modular.sub prime square cross
  let upper := (square + cross) % prime
  let mixed := Modular.sub prime ((left.x + left.y) * (right.x + right.y)) (xs + ys)
  ⟨scale * (lower * mixed % prime) % prime, scale * (upper * (ys + xs) % prime) % prime,
    lower * upper % prime⟩

/-- A multiple of the base point, by doubling and adding. -/
def multiply (factor : Nat) : Point :=
  (Curve.binaryDigits factor).foldl
    (fun sum digit =>
      let doubled := add sum sum
      if digit then add doubled base else doubled)
    neutral

/-- The number that octets denote, least significant first. -/
def littleValue (bytes : Bytes) : Nat :=
  Bytes.value bytes.reverse

/-- A number in 32 octets, least significant first. -/
def ofLittleValue (number : Nat) : Bytes :=
  (Bytes.ofValue 32 number).reverse

/-- The factor that 32 octets give: a multiple of eight with bit 254 as its
highest. -/
def factorOf (octets : Bytes) : Nat :=
  2 ^ 254 + littleValue octets % 2 ^ 254 / 8 * 8

/-- The public half of a signature key: y, with the parity of x as its highest
bit. The factor comes from the first half of the digest of the secret. -/
def signaturePublicHalf (secret : Bytes) : Bytes :=
  let point := multiply (factorOf ((Digest.sha512.hash secret).take 32))
  let inverse := Modular.inverse prime point.z
  let x := point.x * inverse % prime
  let y := point.y * inverse % prime
  ofLittleValue (y + 2 ^ 255 * (x % 2))

/-- The public half of an agreement key: u of the Montgomery form. -/
def agreementPublicHalf (secret : Bytes) : Bytes :=
  let point := multiply (factorOf secret)
  let inverse := Modular.inverse prime (Modular.sub prime point.z point.y)
  ofLittleValue ((point.z + point.y) * inverse % prime)

end WebToken.Edwards25519
