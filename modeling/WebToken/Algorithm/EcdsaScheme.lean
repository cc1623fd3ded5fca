import WebToken.Audit
import WebToken.Ecdsa.Signature

/-!
# Elliptic curve signatures of tokens

A token carries a signature in the fixed-width form, while the provider of the
signature arithmetic works with the tagged form. What the provider does is a
parameter of `signWith` and `verifyWith`, since a provider is free in its choice of
nonces. `SigningProvider.own` and `verify` use the arithmetic of this library.
-/

set_option autoImplicit false

namespace WebToken

inductive SigningCurve where
  | p256
  | p384
  | p521
deriving DecidableEq, Repr

namespace SigningCurve

/-- The width of one number of a signature in octets. -/
def fieldLength : SigningCurve → UInt64
  | .p256 => 32
  | .p384 => 48
  | .p521 => 66

def parameters : SigningCurve → Curve
  | .p256 => Curve.p256
  | .p384 => Curve.p384
  | .p521 => Curve.p521

def digest : SigningCurve → Digest
  | .p256 => .sha256
  | .p384 => .sha384
  | .p521 => .sha512

def inspect : SigningCurve → String
  | .p256 => "P256"
  | .p384 => "P384"
  | .p521 => "P521"

theorem fieldLength_le (curve : SigningCurve) : curve.fieldLength.toNat ≤ 66 := by
  cases curve <;> decide

end SigningCurve

/-- What makes the tagged signature of a message with a private key, or fails. -/
abbrev SigningProvider := SigningCurve → Ecdsa.PrivateKey → Bytes → Option Bytes

/-- The arithmetic of this library, which draws its nonces from key and message. -/
def SigningProvider.own : SigningProvider :=
  fun curve key message => Ecdsa.signWritten? key curve.digest message

/-- A curve, a public half, and possibly a private key. The public half is one that may
be absent as far as verifying goes, but it never is. -/
structure EcdsaScheme where
  curve : SigningCurve
  publicHalf : Option Bytes
  privateKey : Option Ecdsa.PrivateKey
  canVerify : publicHalf.isSome

namespace EcdsaScheme

def publicKey (algorithm : EcdsaScheme) : Bytes :=
  algorithm.publicHalf.get algorithm.canVerify

/-- The algorithm of a curve and key material. Where only a private key was
given, the public half is the point that belongs to it. -/
def make (curve : SigningCurve) (pair : KeyPair) : Except ArgumentError EcdsaScheme :=
  match pair.privateHalf, pair.publicHalf with
  | none, none => .error .noKeys
  | none, some publicKey => .ok ⟨curve, some publicKey, none, Option.isSome_some⟩
  | some privateHalf, publicHalf =>
      match PrivateKey.readOnCurve curve.parameters privateHalf with
      | .error rejection => .error (.curveKey curve.inspect rejection)
      | .ok key =>
          let publicKey := publicHalf.getD (curve.parameters.writePoint key.point)
          .ok ⟨curve, some publicKey, some key, rfl⟩

def name (algorithm : EcdsaScheme) : String :=
  match algorithm.curve with
  | .p256 => "ES256"
  | .p384 => "ES384"
  | .p521 => "ES512"

def describe (algorithm : EcdsaScheme) : String :=
  match algorithm.curve with
  | .p256 => "SHA256withECDSA"
  | .p384 => "SHA384withECDSA"
  | .p521 => "SHA512withECDSA"

def canSign (algorithm : EcdsaScheme) : Bool :=
  algorithm.privateKey.isSome

/-!
## Signing
-/

theorem ofDer_settles (algorithm : EcdsaScheme) (der : Bytes) :
    JoseSignature.Settles (JoseSignature.ofDer der algorithm.curve.fieldLength) :=
  JoseSignature.ofDer_settles
    (Nat.lt_of_le_of_lt algorithm.curve.fieldLength_le (by decide)) der

/-- A tagged signature in the fixed-width form. -/
def untagged (algorithm : EcdsaScheme) (der : Bytes) : Except JoseSignature.Fault Bytes :=
  JoseSignature.settled (JoseSignature.ofDer der algorithm.curve.fieldLength)
    (algorithm.ofDer_settles der)

/-- Signs by means of a provider, which gives a tagged signature or fails. -/
def signWith (provider : Ecdsa.PrivateKey → Bytes → Option Bytes) (algorithm : EcdsaScheme)
    (input : Bytes) : Except SignatureError Bytes :=
  match algorithm.privateKey with
  | none => .error (.generation algorithm.describe .noPrivateKey)
  | some key =>
      match provider key input with
      | none => .error (.generation algorithm.describe .providerFailed)
      | some der =>
          match algorithm.untagged der with
          | .error fault => .error (.generation algorithm.describe (.encoding fault))
          | .ok jose => .ok jose

/-!
## Verifying
-/

theorem toDer_settles (algorithm : EcdsaScheme) (signature : Bytes) :
    JoseSignature.Settles (JoseSignature.toDer signature algorithm.curve.fieldLength) :=
  JoseSignature.toDer_settles
    (Nat.lt_of_le_of_lt algorithm.curve.fieldLength_le (by decide)) signature

/-- The tagged form under which a signature is verified: the signature itself
if it is taken to be tagged, and otherwise the converted one. -/
def taggedForm (algorithm : EcdsaScheme) (signature : Bytes) :
    Except JoseSignature.Fault Bytes :=
  if JoseSignature.isDer signature algorithm.curve.fieldLength then .ok signature
  else
    JoseSignature.settled (JoseSignature.toDer signature algorithm.curve.fieldLength)
      (algorithm.toDer_settles signature)

/-- Verifies by means of a provider, which judges a public half, a message and a
tagged signature. An absent public half and a signature without a tagged form are
reported, and nothing verifies. -/
def verifyWith (accepts : Bytes → Bytes → Bytes → Bool) (algorithm : EcdsaScheme)
    (input signature : Bytes) : Audited (Except SignatureError Unit) :=
  let rejected : Except SignatureError Unit := .error (.verification algorithm.describe)
  match algorithm.publicHalf with
  | none => ⟨rejected, [.noPublicKey algorithm.name]⟩
  | some publicKey =>
      match algorithm.taggedForm signature with
      | .error fault => ⟨rejected, [.signatureNotJose algorithm.name fault]⟩
      | .ok der => .silent (if accepts publicKey input der then .ok () else rejected)

/-- The public half is never found absent. -/
theorem publicHalf_eq (algorithm : EcdsaScheme) :
    algorithm.publicHalf = some algorithm.publicKey :=
  (Option.some_get algorithm.canVerify).symm

def verify (algorithm : EcdsaScheme) (input signature : Bytes) :
    Audited (Except SignatureError Unit) :=
  algorithm.verifyWith
    (Ecdsa.verifyWritten algorithm.curve.parameters algorithm.curve.digest) input signature

/-- The rendering in diagnostics, without the private key. -/
def inspect (algorithm : EcdsaScheme) : String :=
  Text.record "EcdsaAlgorithm"
    [("curve", algorithm.curve.inspect),
      ("public_point", Text.optional (algorithm.publicHalf.map fun half => toString half.length)),
      ("private", Text.optional (algorithm.privateKey.map fun _ => Text.redacted))]

end EcdsaScheme

end WebToken
