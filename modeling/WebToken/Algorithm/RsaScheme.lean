import WebToken.Audit
import WebToken.Rsa.Signature

/-!
# RSA signatures of tokens

The public half is kept as it was written and is read when a signature is
verified. Where only a private key was given, its public half is written from
it, so that every algorithm can verify.
-/

set_option autoImplicit false

namespace WebToken

/-- A digest, a public half, and possibly a private key. The public half is one that may
be absent as far as verifying goes, but it never is. -/
structure RsaScheme where
  digest : Digest
  publicHalf : Option Bytes
  privateKey : Option Rsa.PrivateKey
  canVerify : publicHalf.isSome

namespace RsaScheme

def publicKey (algorithm : RsaScheme) : Bytes :=
  algorithm.publicHalf.get algorithm.canVerify

def make (digest : Digest) (pair : KeyPair) : Except ArgumentError RsaScheme :=
  match pair.privateHalf, pair.publicHalf with
  | none, none => .error .noKeys
  | none, some publicKey => .ok ⟨digest, some publicKey, none, Option.isSome_some⟩
  | some privateHalf, publicHalf =>
      match PrivateKey.readRsa privateHalf with
      | .error rejection => .error (.rsaKey rejection)
      | .ok key => .ok ⟨digest, some (publicHalf.getD key.publicKey.write), some key, rfl⟩

def name (algorithm : RsaScheme) : String :=
  match algorithm.digest with
  | .sha256 => "RS256"
  | .sha384 => "RS384"
  | .sha512 => "RS512"

def describe (algorithm : RsaScheme) : String :=
  match algorithm.digest with
  | .sha256 => "SHA256withRSA"
  | .sha384 => "SHA384withRSA"
  | .sha512 => "SHA512withRSA"

def canSign (algorithm : RsaScheme) : Bool :=
  algorithm.privateKey.isSome

def sign (algorithm : RsaScheme) (input : Bytes) : Except SignatureError Bytes :=
  match algorithm.privateKey with
  | none => .error (.generation algorithm.describe .noPrivateKey)
  | some key =>
      match Rsa.sign? algorithm.digest key input with
      | none => .error (.generation algorithm.describe .providerFailed)
      | some signature => .ok signature

/-- Verifies a signature. An absent public half is reported, and nothing verifies. -/
def verify (algorithm : RsaScheme) (input signature : Bytes) :
    Audited (Except SignatureError Unit) :=
  let rejected : Except SignatureError Unit := .error (.verification algorithm.describe)
  match algorithm.publicHalf with
  | none => ⟨rejected, [.noPublicKey algorithm.name]⟩
  | some publicKey =>
      .silent (if Rsa.verify algorithm.digest publicKey input signature then .ok () else rejected)

/-- The public half is never found absent. -/
theorem verify_eq (algorithm : RsaScheme) (input signature : Bytes) :
    algorithm.verify input signature =
      .silent (if Rsa.verify algorithm.digest algorithm.publicKey input signature then .ok ()
        else .error (.verification algorithm.describe)) := by
  have held : algorithm.publicHalf = some algorithm.publicKey :=
    (Option.some_get algorithm.canVerify).symm
  rw [verify, held]

/-- The rendering in diagnostics, without the private key. -/
def inspect (algorithm : RsaScheme) : String :=
  Text.record "RsaAlgorithm"
    [("digest", algorithm.digest.inspect),
      ("public_der", Text.optional (algorithm.publicHalf.map fun half => toString half.length)),
      ("private", Text.optional (algorithm.privateKey.map fun _ => Text.redacted))]

end RsaScheme

end WebToken
