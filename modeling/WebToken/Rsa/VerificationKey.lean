import WebToken.Rsa.Key
import WebToken.Rsa.PaddingParameters

/-!
# Public key material of RSA

A public key is written plain, or with its algorithm named in front of it. The
name decides which padding its signatures have; a plain key is one for
deterministic padding.
-/

set_option autoImplicit false

namespace WebToken.Rsa

/-- The padding of signatures. Random padding may have fixed parameters. -/
inductive Padding where
  | deterministic
  | random (parameters : Option PaddingParameters)
deriving DecidableEq, Repr

/-- A public key and the padding of its signatures. -/
structure VerificationKey where
  key : PublicKey
  padding : Padding
deriving DecidableEq, Repr

/-- The padding that an algorithm with parameters stands for. For deterministic
padding the parameters are not looked at. -/
def Padding.ofAlgorithm? (name parameters : Bytes) : Option Padding :=
  if identifiers.contains name then some .deterministic
  else if name = PaddingParameters.identifier then
    (PaddingParameters.read? parameters).map .random
  else none

namespace VerificationKey

/-- Reads a public key with its algorithm named in front of it. What follows the
sequence is not looked at. -/
def readWrapped? (bytes : Bytes) : Option VerificationKey := do
  let (content, _) ← Der.item? .sequence bytes
  let (algorithm, rest) ← Der.item? .sequence content
  let (name, parameters) ← Der.item? .objectIdentifier algorithm
  let bits ← Der.only? .bitString rest
  let octets ← Der.bitOctets? bits
  let padding ← Padding.ofAlgorithm? name parameters
  let key ← PublicKey.read? octets
  some ⟨key, padding⟩

def read? (bytes : Bytes) : Option VerificationKey :=
  readWrapped? bytes <|> (PublicKey.read? bytes).map fun key => ⟨key, .deterministic⟩

end VerificationKey

end WebToken.Rsa
