import WebToken.Der
import WebToken.Modular

/-!
# RSA keys

A public key is a modulus and an exponent. A private key holds the factors and
the reduced exponents as well, and is read only if all of them fit together.
Only their arithmetic is checked: the factors are not tested for being prime.
-/

set_option autoImplicit false

namespace WebToken.Rsa

structure PublicKey where
  modulus : Nat
  exponent : Nat
deriving DecidableEq, Repr

/-- The size of a modulus in bits. -/
def modulusBits (modulus : Nat) : Nat :=
  Modular.bitLength modulus

/-- The size of a modulus, and so of a signature, in octets. -/
def modulusSize (modulus : Nat) : Nat :=
  (modulusBits modulus + 7) / 8

/-- An odd modulus of 34 to 16384 bits. -/
def isModulus (modulus : Nat) : Bool :=
  modulus % 2 == 1 && 33 < modulusBits modulus && modulusBits modulus ≤ 16384

/-- A modulus, and an odd exponent above one of at most 33 bits. -/
def PublicKey.isSound (key : PublicKey) : Bool :=
  isModulus key.modulus && key.exponent % 2 == 1 && 1 < key.exponent && key.exponent < 2 ^ 33

def PublicKey.write (key : PublicKey) : Bytes :=
  Der.item .sequence (Der.natural key.modulus ++ Der.natural key.exponent)

def PublicKey.read? (bytes : Bytes) : Option PublicKey := do
  let content ← Der.only? .sequence bytes
  let (modulus, rest) ← Der.natural? content
  let (exponent, rest) ← Der.natural? rest
  let key : PublicKey := ⟨modulus, exponent⟩
  if rest = [] ∧ key.isSound then some key else none

/-- The contents of the object identifiers that RSA keys go by: the usual one,
the one of keys for encryption with random padding, and an older one. -/
def identifiers : List Bytes :=
  [[0x2A, 0x86, 0x48, 0x86, 0xF7, 0x0D, 0x01, 0x01, 0x01],
    [0x2A, 0x86, 0x48, 0x86, 0xF7, 0x0D, 0x01, 0x01, 0x07], [0x55, 0x08, 0x01, 0x01]]

/-- The parameters that accompany the identifier of a private key: a null item. -/
def parameters : Bytes :=
  Der.item .null []

/-- A private key of two primes. -/
structure PrivateKey where
  publicKey : PublicKey
  exponent : Nat
  firstPrime : Nat
  secondPrime : Nat
  firstExponent : Nat
  secondExponent : Nat
  coefficient : Nat
deriving DecidableEq, Repr

/-- Whether a residue is the inverse of a number. -/
def isInverse (modulus number residue : Nat) : Bool :=
  residue < modulus && number * residue % modulus == 1 % modulus

/-- Whether the parts of a private key fit together: the primes multiply to the
modulus, the exponents are inverse to each other modulo either prime less one,
and the reduced exponents and the coefficient are the inverses they should be.
The private exponent itself need not be reduced. -/
def PrivateKey.isConsistent (key : PrivateKey) : Bool :=
  key.publicKey.isSound &&
    key.firstPrime < key.publicKey.modulus && key.secondPrime < key.publicKey.modulus &&
    key.firstPrime * key.secondPrime == key.publicKey.modulus &&
    key.exponent * key.publicKey.exponent % (key.firstPrime - 1) == 1 &&
    key.exponent * key.publicKey.exponent % (key.secondPrime - 1) == 1 &&
    isInverse (key.firstPrime - 1) key.publicKey.exponent key.firstExponent &&
    isInverse (key.secondPrime - 1) key.publicKey.exponent key.secondExponent &&
    isInverse key.firstPrime key.secondPrime key.coefficient

/-- Whether all parts but the modulus and the private exponent are zero. -/
def PrivateKey.isBare (key : PrivateKey) : Bool :=
  key.exponent != 0 && key.publicKey.exponent == 0 && key.firstPrime == 0 &&
    key.secondPrime == 0 && key.firstExponent == 0 && key.secondExponent == 0 &&
    key.coefficient == 0

/-- A private key as it is written: with all its parts, or with nothing but the
modulus and the private exponent. A bare key is read but has no public half, and
so nothing is signed with it. -/
inductive WrittenKey where
  | whole (key : PrivateKey)
  | bare (modulus exponent : Nat)
deriving DecidableEq, Repr

namespace WrittenKey

def modulus : WrittenKey → Nat
  | .whole key => key.publicKey.modulus
  | .bare modulus _ => modulus

/-- The key that the written parts make up, if they fit together. -/
def ofParts? (key : PrivateKey) : Option WrittenKey :=
  if key.isBare then
    if isModulus key.publicKey.modulus then some (.bare key.publicKey.modulus key.exponent)
    else none
  else if key.isConsistent then some (.whole key)
  else none

/-- Reads the sequence of a version, which is zero for two primes, and the parts
of a private key. -/
def read? (bytes : Bytes) : Option WrittenKey := do
  let content ← Der.only? .sequence bytes
  let (version, rest) ← Der.natural? content
  let (modulus, rest) ← Der.natural? rest
  let (publicExponent, rest) ← Der.natural? rest
  let (exponent, rest) ← Der.natural? rest
  let (firstPrime, rest) ← Der.natural? rest
  let (secondPrime, rest) ← Der.natural? rest
  let (firstExponent, rest) ← Der.natural? rest
  let (secondExponent, rest) ← Der.natural? rest
  let (coefficient, rest) ← Der.natural? rest
  if version = 0 ∧ rest = [] then
    ofParts? ⟨⟨modulus, publicExponent⟩, exponent, firstPrime, secondPrime, firstExponent,
      secondExponent, coefficient⟩
  else none

end WrittenKey

end WebToken.Rsa
