import WebToken.Bytes
import WebToken.Modular

/-!
# Elliptic curves over prime fields

A curve `y ^ 2 = x ^ 3 + a x + b` over a prime field, with a base point of
prime order. Points are added in Jacobian coordinates `(x, y, z)`, which stand
for `(x / z ^ 2, y / z ^ 3)`, so that only the result needs a division.
-/

set_option autoImplicit false

namespace WebToken

/-- The parameters of a curve. The identifier is the content of the object
identifier that names it, and the field size is in octets. -/
structure Curve where
  identifier : Bytes
  fieldSize : Nat
  prime : Nat
  a : Nat
  b : Nat
  baseX : Nat
  baseY : Nat
  order : Nat
deriving DecidableEq, Repr

namespace Curve

/-!
## Points
-/

structure Point where
  x : Nat
  y : Nat
deriving DecidableEq, Repr

/-- A point in Jacobian coordinates. With `z = 0` it is the point at infinity. -/
structure Jacobian where
  x : Nat
  y : Nat
  z : Nat
deriving Repr

def base (curve : Curve) : Point :=
  ⟨curve.baseX, curve.baseY⟩

/-- The right-hand side of the curve's equation. -/
def cubic (curve : Curve) (x : Nat) : Nat :=
  (x * x % curve.prime * x + curve.a * x + curve.b) % curve.prime

/-- Whether a point has reduced coordinates that satisfy the equation. -/
def contains (curve : Curve) (point : Point) : Bool :=
  point.x < curve.prime && point.y < curve.prime &&
    point.y * point.y % curve.prime == curve.cubic point.x

def Point.toJacobian (point : Point) : Jacobian :=
  ⟨point.x, point.y, 1⟩

def infinity : Jacobian :=
  ⟨1, 1, 0⟩

/-- The point of the plane, unless it is the one at infinity. -/
def toPoint? (curve : Curve) (point : Jacobian) : Option Point :=
  if point.z = 0 then none
  else
    let inverse := Modular.inverse curve.prime point.z
    let square := inverse * inverse % curve.prime
    some ⟨point.x * square % curve.prime, point.y * (square * inverse % curve.prime) % curve.prime⟩

def double (curve : Curve) (point : Jacobian) : Jacobian :=
  if point.z = 0 ∨ point.y = 0 then infinity
  else
    let prime := curve.prime
    let ySquare := point.y * point.y % prime
    let zSquare := point.z * point.z % prime
    let product := 4 * (point.x * ySquare) % prime
    let slope := (3 * (point.x * point.x) + curve.a * (zSquare * zSquare % prime)) % prime
    let x := Modular.sub prime (slope * slope) (2 * product)
    let y := Modular.sub prime (slope * Modular.sub prime product x) (8 * (ySquare * ySquare))
    ⟨x, y, 2 * (point.y * point.z) % prime⟩

def add (curve : Curve) (left right : Jacobian) : Jacobian :=
  if left.z = 0 then right
  else if right.z = 0 then left
  else
    let prime := curve.prime
    let leftSquare := left.z * left.z % prime
    let rightSquare := right.z * right.z % prime
    let leftX := left.x * rightSquare % prime
    let rightX := right.x * leftSquare % prime
    let leftY := left.y * (rightSquare * right.z % prime) % prime
    let rightY := right.y * (leftSquare * left.z % prime) % prime
    let width := Modular.sub prime rightX leftX
    let height := Modular.sub prime rightY leftY
    if width = 0 then
      if height = 0 then curve.double left else infinity
    else
      let widthSquare := width * width % prime
      let widthCube := widthSquare * width % prime
      let product := leftX * widthSquare % prime
      let x := Modular.sub prime (height * height) (widthCube + 2 * product)
      let y := Modular.sub prime (height * Modular.sub prime product x) (leftY * widthCube)
      ⟨x, y, width * (left.z * right.z % prime) % prime⟩

def binaryDigits (number : Nat) : List Bool :=
  (List.range (number.log2 + 1)).reverse.map number.testBit

/-- A multiple of a point, by doubling and adding. -/
def multiply (curve : Curve) (factor : Nat) (point : Point) : Jacobian :=
  (binaryDigits factor).foldl
    (fun sum digit =>
      let doubled := curve.double sum
      if digit then curve.add doubled point.toJacobian else doubled)
    infinity

/-!
## Written points
-/

/-- The two coordinates after the octet 0x04. -/
def writePoint (curve : Curve) (point : Point) : Bytes :=
  4 :: (Bytes.ofValue curve.fieldSize point.x ++ Bytes.ofValue curve.fieldSize point.y)

/-- The forms in which a point may be written: both coordinates after 0x04, both
after 0x06 or 0x07 with the parity of y, and x alone after 0x02 or 0x03 with
that parity. -/
def spellings (curve : Curve) (point : Point) : List Bytes :=
  let x := Bytes.ofValue curve.fieldSize point.x
  let y := Bytes.ofValue curve.fieldSize point.y
  let parity := UInt8.ofNat (point.y % 2)
  [4 :: (x ++ y), (6 + parity) :: (x ++ y), (2 + parity) :: x]

/-- A square root of a residue, for primes that leave remainder three modulo
four. If the residue has no root the result is not one. -/
def rootOf (curve : Curve) (residue : Nat) : Nat :=
  Modular.pow curve.prime residue ((curve.prime + 1) / 4)

/-- The point of a given x whose y has a given parity. -/
def pointOfX? (curve : Curve) (x : Nat) (parity : Nat) : Option Point :=
  let root := curve.rootOf (curve.cubic x)
  let y := if root % 2 = parity then root else (curve.prime - root) % curve.prime
  let point : Point := ⟨x, y⟩
  if curve.contains point ∧ y % 2 = parity then some point else none

/-- Reads a point: both coordinates after 0x04, both with the parity of y in
0x06 or 0x07, or x alone after 0x02 or 0x03 with the parity of y. The point has
to lie on the curve. -/
def readPoint? (curve : Curve) : Bytes → Option Point
  | [] => none
  | form :: coordinates =>
      let x := Bytes.value (coordinates.take curve.fieldSize)
      let y := Bytes.value (coordinates.drop curve.fieldSize)
      if form = 2 ∨ form = 3 then
        if coordinates.length = curve.fieldSize ∧ x < curve.prime then
          curve.pointOfX? x (form.toNat % 2)
        else none
      else if form = 4 ∨ form = 6 ∨ form = 7 then
        if coordinates.length = 2 * curve.fieldSize ∧ curve.contains ⟨x, y⟩ ∧
            (form = 4 ∨ form.toNat % 2 = y % 2) then
          some ⟨x, y⟩
        else none
      else none

end Curve

end WebToken
