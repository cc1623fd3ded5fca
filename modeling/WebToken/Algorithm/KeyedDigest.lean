import WebToken.Error
import WebToken.Hash.Digest

/-!
# Keyed digests as signatures

The signature is the keyed digest of the signing input, and it verifies if it
is that digest in full.
-/

set_option autoImplicit false

namespace WebToken

/-- A digest and a secret, which is not empty. -/
structure KeyedDigest where
  digest : Digest
  secret : Bytes
  secret_ne : secret ≠ []

namespace KeyedDigest

def make (digest : Digest) (secret : Bytes) : Except ArgumentError KeyedDigest :=
  if given : secret ≠ [] then .ok ⟨digest, secret, given⟩ else .error .emptySecret

def name (algorithm : KeyedDigest) : String :=
  match algorithm.digest with
  | .sha256 => "HS256"
  | .sha384 => "HS384"
  | .sha512 => "HS512"

def describe (algorithm : KeyedDigest) : String :=
  match algorithm.digest with
  | .sha256 => "HmacSHA256"
  | .sha384 => "HmacSHA384"
  | .sha512 => "HmacSHA512"

def sign (algorithm : KeyedDigest) (input : Bytes) : Bytes :=
  algorithm.digest.hmac algorithm.secret input

def verify (algorithm : KeyedDigest) (input signature : Bytes) : Except SignatureError Unit :=
  if algorithm.sign input = signature then .ok () else .error (.verification algorithm.describe)

/-- The rendering in diagnostics, without the secret. -/
def inspect (algorithm : KeyedDigest) : String :=
  Text.record "HmacAlgorithm"
    [("digest", algorithm.digest.inspect), ("secret", Text.redacted)]

end KeyedDigest

end WebToken
