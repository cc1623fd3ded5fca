import WebToken.Curve.Edwards25519
import WebToken.Key.Envelope
import WebToken.Rsa.Key
import WebToken.Rsa.PaddingParameters

/-!
# Private keys of algorithms that sign no tokens

These keys are recognised only so that a sound key of another algorithm is told
apart from bytes that hold no key. How much is checked goes by the algorithm:
arithmetic where it is cheap, and sizes alone for keys over lattices.
-/

set_option autoImplicit false

namespace WebToken

/-- Algorithms whose keys are recognised and not used. -/
inductive ForeignAlgorithm where
  /-- Signatures by RSA with random padding. -/
  | paddedRsa
  /-- Signatures by discrete logarithms modulo a prime. -/
  | discreteLogarithm
  /-- Signatures on the Edwards form of the curve of `2 ^ 255 - 19`. -/
  | edwards
  /-- Key agreement on the Montgomery form of that curve. -/
  | montgomery
  /-- Signatures over lattices, with the size of a key in octets. -/
  | latticeSignature (size : Nat)
  /-- Key transport over lattices, with the size of a key in octets. -/
  | latticeTransport (size : Nat)
deriving DecidableEq, Repr

namespace ForeignAlgorithm

/-- The algorithms under the contents of their object identifiers. -/
def registered : List (Bytes × ForeignAlgorithm) :=
  [(Rsa.PaddingParameters.identifier, .paddedRsa),
    ([0x2A, 0x86, 0x48, 0xCE, 0x38, 0x04, 0x01], .discreteLogarithm),
    ([0x2B, 0x65, 0x70], .edwards),
    ([0x2B, 0x65, 0x6E], .montgomery),
    ([0x60, 0x86, 0x48, 0x01, 0x65, 0x03, 0x04, 0x03, 0x11], .latticeSignature 2560),
    ([0x60, 0x86, 0x48, 0x01, 0x65, 0x03, 0x04, 0x03, 0x12], .latticeSignature 4032),
    ([0x60, 0x86, 0x48, 0x01, 0x65, 0x03, 0x04, 0x03, 0x13], .latticeSignature 4896),
    ([0x60, 0x86, 0x48, 0x01, 0x65, 0x03, 0x04, 0x04, 0x01], .latticeTransport 1632),
    ([0x60, 0x86, 0x48, 0x01, 0x65, 0x03, 0x04, 0x04, 0x02], .latticeTransport 2400),
    ([0x60, 0x86, 0x48, 0x01, 0x65, 0x03, 0x04, 0x04, 0x03], .latticeTransport 3168)]

/-- The algorithm of an object identifier. -/
def named? (identifier : Bytes) : Option ForeignAlgorithm :=
  registered.lookup identifier

/-- Whether an envelope holds an RSA key with padding parameters. -/
def holdsPaddedRsa (envelope : KeyEnvelope) : Bool :=
  envelope.publicHalf.isNone && (Rsa.PaddingParameters.read? envelope.parameters).isSome &&
    (Rsa.WrittenKey.read? envelope.key).isSome

/-- A group of residues of prime order, and the generator of the group. -/
structure ResidueGroup where
  prime : Nat
  order : Nat
  generator : Nat

/-- Whether the numbers of a group have the sizes and the order that they
should. Neither odd number is tested for being prime. -/
def ResidueGroup.isSound (group : ResidueGroup) : Bool :=
  group.prime % 2 == 1 && group.order % 2 == 1 && group.order < group.prime &&
    0 < group.generator && group.generator < group.prime &&
    [160, 224, 256].contains (Modular.bitLength group.order) &&
    Modular.bitLength group.prime ≤ 10000

/-- Reads the numbers of a group, and nothing after them. -/
def ResidueGroup.read? (bytes : Bytes) : Option ResidueGroup := do
  let content ← Der.only? .sequence bytes
  let (prime, rest) ← Der.natural? content
  let (order, rest) ← Der.natural? rest
  let (generator, rest) ← Der.natural? rest
  if rest = [] then some ⟨prime, order, generator⟩ else none

/-- Whether an envelope holds a non-zero exponent below the order of a group. -/
def holdsExponent (envelope : KeyEnvelope) : Bool :=
  match ResidueGroup.read? envelope.parameters, Der.natural? envelope.key with
  | some group, some (exponent, []) =>
      envelope.publicHalf.isNone && group.isSound && 0 < exponent && exponent < group.order
  | _, _ => false

/-- Whether an envelope holds a secret of 32 octets, and no public half but the
one that belongs to it. -/
def holdsOctets (publicHalfOf : Bytes → Bytes) (envelope : KeyEnvelope) : Bool :=
  match Der.only? .octetString envelope.key with
  | none => false
  | some secret =>
      envelope.parameters == [] && secret.length == 32 &&
        envelope.publicHalf.all fun publicHalf => publicHalf == 0 :: publicHalfOf secret

/-- Whether a content is a pair of a seed and a key, each of its size. -/
def isSeedAndKey (seedSize size : Nat) (content : Bytes) : Bool :=
  match Der.item? .octetString content with
  | none => false
  | some (seed, rest) =>
      seed.length == seedSize && (Der.only? .octetString rest).any (·.length == size)

/-- Whether an envelope holds a seed, a key, or a pair of both. -/
def holdsLattice (seedSize size : Nat) (envelope : KeyEnvelope) : Bool :=
  envelope.parameters == [] &&
    ((Der.only? (.primitive 0) envelope.key).any (·.length == seedSize) ||
      (Der.only? .octetString envelope.key).any (·.length == size) ||
      (Der.only? .sequence envelope.key).any (isSeedAndKey seedSize size))

/-- Whether an envelope holds a sound key of an algorithm. -/
def accepts : ForeignAlgorithm → KeyEnvelope → Bool
  | .paddedRsa => holdsPaddedRsa
  | .discreteLogarithm => holdsExponent
  | .edwards => holdsOctets Edwards25519.signaturePublicHalf
  | .montgomery => holdsOctets Edwards25519.agreementPublicHalf
  | .latticeSignature size => holdsLattice 32 size
  | .latticeTransport size => holdsLattice 64 size

end ForeignAlgorithm

end WebToken
