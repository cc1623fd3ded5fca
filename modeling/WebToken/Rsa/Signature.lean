import WebToken.Rsa.RandomPadding
import WebToken.Rsa.VerificationKey

/-!
# RSA signatures

Signatures are made with deterministic padding: the signed number is a block as
long as the modulus with a one, octets 0xFF, a zero, and the digest under its
identifier. Such a signature is verified by writing that block anew and
comparing, so there is nothing in it to be parsed. Public keys for random padding
verify signatures that are padded their way, and no others.
-/

set_option autoImplicit false

namespace WebToken.Rsa

/-- The last octet of a digest's object identifier. -/
def digestNumber : Digest → UInt8
  | .sha256 => 1
  | .sha384 => 2
  | .sha512 => 3

/-- The digest of a message under the identifier of the digest. -/
def digestInfo (digest : Digest) (message : Bytes) : Bytes :=
  let name := [0x60, 0x86, 0x48, 0x01, 0x65, 0x03, 0x04, 0x02, digestNumber digest]
  Der.item .sequence
    (Der.item .sequence (Der.item .objectIdentifier name ++ Der.item .null []) ++
      Der.item .octetString (digest.hash message))

/-- The padded block of a size, if the digest and eleven more octets fit. -/
def paddedBlock? (digest : Digest) (message : Bytes) (size : Nat) : Option Bytes :=
  let info := digestInfo digest message
  if info.length + 11 ≤ size then
    some (0 :: 1 :: (Bytes.fill (size - info.length - 3) 0xFF ++ 0 :: info))
  else none

/-- How many words of 64 bits a number takes. -/
def wordCount (number : Nat) : Nat :=
  (Modular.bitLength number + 63) / 64

/-- The residue whose remainders modulo the two primes are the powers by the
reduced exponents. -/
def PrivateKey.combinedPower (key : PrivateKey) (number : Nat) : Nat :=
  let first := Modular.pow key.firstPrime number key.firstExponent
  let second := Modular.pow key.secondPrime number key.secondExponent
  let quotient := Modular.sub key.firstPrime first second * key.coefficient % key.firstPrime
  second + quotient * key.secondPrime

/-- The private power of a number: by way of the two primes if they take as many
words as each other, and otherwise by the private exponent. The two ways agree
for primes. -/
def PrivateKey.power (key : PrivateKey) (number : Nat) : Nat :=
  if wordCount key.firstPrime = wordCount key.secondPrime then key.combinedPower number
  else Modular.pow key.publicKey.modulus number key.exponent

/-- The signature of a message. There is none if the modulus is too small for
the digest, if the private exponent takes more words than the modulus, or if the
signature would not verify, as happens where a factor is no prime. -/
def sign? (digest : Digest) (key : PrivateKey) (message : Bytes) : Option Bytes :=
  let modulus := key.publicKey.modulus
  let size := modulusSize modulus
  match paddedBlock? digest message size with
  | none => none
  | some block =>
      let number := Bytes.value block
      let power := key.power number
      if wordCount key.exponent ≤ wordCount modulus ∧
          Modular.pow modulus power key.publicKey.exponent = number then
        some (Bytes.ofValue size power)
      else none

/-- Whether a modulus has a size that is accepted: 2048 to 8192 bits. -/
def isAcceptedSize (modulus : Nat) : Bool :=
  2048 ≤ modulusBits modulus && modulusBits modulus ≤ 8192

/-- The number that a signature as long as the modulus, and below it as a
number, was made of. -/
def recover? (key : PublicKey) (signature : Bytes) : Option Nat :=
  let number := Bytes.value signature
  if signature.length = modulusSize key.modulus ∧ number < key.modulus then
    some (Modular.pow key.modulus number key.exponent)
  else none

/-- Whether a number is a padding of a message, for a modulus. -/
def Padding.accepts (padding : Padding) (digest : Digest) (message : Bytes)
    (modulus number : Nat) : Bool :=
  match padding with
  | .deterministic =>
      let size := modulusSize modulus
      paddedBlock? digest message size == some (Bytes.ofValue size number)
  | .random parameters =>
      RandomPadding.accepts parameters digest message (modulusBits modulus - 1) number

/-- Whether a signature is one of a message under a key. -/
def verifyWith (digest : Digest) (verifier : VerificationKey) (message signature : Bytes) : Bool :=
  match recover? verifier.key signature with
  | none => false
  | some number => verifier.padding.accepts digest message verifier.key.modulus number

/-- Whether a signature verifies under a written public key, plain or with its
algorithm named. No other key material verifies anything. -/
def verify (digest : Digest) (publicKey message signature : Bytes) : Bool :=
  match VerificationKey.read? publicKey with
  | none => false
  | some verifier =>
      isAcceptedSize verifier.key.modulus && verifyWith digest verifier message signature

end WebToken.Rsa
