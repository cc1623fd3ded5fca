import WebToken.Error

/-!
# Audit trail

Signing and verifying report what they did as events. An event names its cause;
its level, wording and fields are derived from that. A result that was reached
with events carries them along, oldest first.
-/

set_option autoImplicit false

namespace WebToken

/-- The check that rejected a token. -/
inductive Stage where
  | decode
  | algorithm
  | signature
  | claims
deriving DecidableEq, Repr

def Stage.name : Stage → String
  | .decode => "decode"
  | .algorithm => "algorithm"
  | .signature => "signature"
  | .claims => "claims"

/-- Something that was done. Algorithms are given by name. -/
inductive Event where
  | tokenRejected (stage : Stage) (error : Error)
  | tokenVerified (algorithm : String)
  | tokenSigned (algorithm : String)
  | signatureNotJose (algorithm : String) (fault : JoseSignature.Fault)
  | noPublicKey (algorithm : String)
deriving DecidableEq, Repr

namespace Event

/-- How detailed a trail has to be to show the event. -/
def level : Event → String
  | .tokenRejected _ _ => "DEBUG"
  | .signatureNotJose _ _ => "DEBUG"
  | .noPublicKey _ => "DEBUG"
  | .tokenVerified _ => "TRACE"
  | .tokenSigned _ => "TRACE"

def message : Event → String
  | .tokenRejected _ _ => "token rejected"
  | .tokenVerified _ => "token verified"
  | .tokenSigned _ => "token signed"
  | .signatureNotJose _ _ => "signature is not valid JOSE"
  | .noPublicKey _ => "no public key to verify with"

def fields : Event → List (String × String)
  | .tokenRejected stage error => [("stage", stage.name), ("error", error.message)]
  | .tokenVerified algorithm => [("algorithm", algorithm)]
  | .tokenSigned algorithm => [("algorithm", algorithm)]
  | .signatureNotJose algorithm fault =>
      [("algorithm", algorithm), ("error", (SignatureError.malformed fault).message)]
  | .noPublicKey algorithm => [("algorithm", algorithm)]

end Event

/-- A result and the events that led to it. -/
structure Audited (α : Type) where
  outcome : α
  events : List Event

namespace Audited

def silent {α : Type} (outcome : α) : Audited α :=
  ⟨outcome, []⟩

end Audited

end WebToken
