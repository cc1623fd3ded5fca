import WebToken.Algorithm.EcdsaScheme
import WebToken.Algorithm.KeyedDigest
import WebToken.Algorithm.RsaScheme

/-!
# Signature algorithms

An algorithm is bound to its key material when it is made. Unsigned tokens have
an algorithm of their own, whose signature is empty.
-/

set_option autoImplicit false

namespace WebToken

/-- A signature algorithm with its keys. -/
inductive Algorithm where
  | none
  | hmac (algorithm : KeyedDigest)
  | rsa (algorithm : RsaScheme)
  | ecdsa (algorithm : EcdsaScheme)

namespace Algorithm

def ofSecret (digest : Digest) (secret : Bytes) : Except ArgumentError Algorithm :=
  (KeyedDigest.make digest secret).map .hmac

def ofRsaKeys (digest : Digest) (pair : KeyPair) : Except ArgumentError Algorithm :=
  (RsaScheme.make digest pair).map .rsa

def ofCurveKeys (curve : SigningCurve) (pair : KeyPair) : Except ArgumentError Algorithm :=
  (EcdsaScheme.make curve pair).map .ecdsa

def name : Algorithm → String
  | .none => "none"
  | .hmac algorithm => algorithm.name
  | .rsa algorithm => algorithm.name
  | .ecdsa algorithm => algorithm.name

def describe : Algorithm → String
  | .none => "none"
  | .hmac algorithm => algorithm.describe
  | .rsa algorithm => algorithm.describe
  | .ecdsa algorithm => algorithm.describe

/-- Signs a message. Signatures on a curve come from a provider. -/
def signWith (provider : SigningProvider) : Algorithm → Bytes → Except SignatureError Bytes
  | .none, _ => .ok []
  | .hmac algorithm, input => .ok (algorithm.sign input)
  | .rsa algorithm, input => algorithm.sign input
  | .ecdsa algorithm, input => algorithm.signWith (provider algorithm.curve) input

def sign (algorithm : Algorithm) (input : Bytes) : Except SignatureError Bytes :=
  algorithm.signWith SigningProvider.own input

def verify : Algorithm → Bytes → Bytes → Audited (Except SignatureError Unit)
  | .none, _, signature =>
      .silent (if signature = [] then .ok () else .error (.verification (describe .none)))
  | .hmac algorithm, input, signature => .silent (algorithm.verify input signature)
  | .rsa algorithm, input, signature => algorithm.verify input signature
  | .ecdsa algorithm, input, signature => algorithm.verify input signature

def inspect : Algorithm → String
  | .none => "None"
  | .hmac algorithm => s!"Hmac({algorithm.inspect})"
  | .rsa algorithm => s!"Rsa({algorithm.inspect})"
  | .ecdsa algorithm => s!"Ecdsa({algorithm.inspect})"

end Algorithm

/-- The rendering of key material in diagnostics: the length of the public half,
and whether there is a private one. -/
def KeyPair.inspect (pair : KeyPair) : String :=
  Text.record "AsymmetricKey"
    [("public_der", Text.optional (pair.publicHalf.map fun half => toString half.length)),
      ("private_pkcs8", Text.optional (pair.privateHalf.map fun _ => Text.redacted))]

end WebToken
