import WebToken.Der

/-!
# The envelope of a private key

A private key is handed over in a sequence that names its algorithm. The second
version of the envelope may carry the public half of the key as well.
-/

set_option autoImplicit false

namespace WebToken

/-- The parts of the envelope of a private key. The public half is the content
of a bit string. -/
structure KeyEnvelope where
  algorithm : Bytes
  parameters : Bytes
  key : Bytes
  publicHalf : Option Bytes
deriving DecidableEq, Repr

namespace KeyEnvelope

/-- Reads the public half that the second version may carry. -/
def readPublicHalf? (version : Nat) (bytes : Bytes) : Option (Option Bytes × Bytes) :=
  if version = 1 then Der.optional? (.primitive 1) bytes else some (none, bytes)

/-- Reads an envelope at the start of a byte string; what follows it is not
looked at. Attributes are skipped, and nothing else may stand in the sequence. -/
def read? (bytes : Bytes) : Option KeyEnvelope := do
  let (content, _) ← Der.item? .sequence bytes
  let (version, rest) ← Der.natural? content
  let (algorithm, rest) ← Der.item? .sequence rest
  let (name, parameters) ← Der.item? .objectIdentifier algorithm
  let (key, rest) ← Der.item? .octetString rest
  let (_, rest) ← Der.optional? (.constructed 0) rest
  let (publicHalf, rest) ← readPublicHalf? version rest
  if version ≤ 1 ∧ rest = [] then some ⟨name, parameters, key, publicHalf⟩ else none

end KeyEnvelope

end WebToken
