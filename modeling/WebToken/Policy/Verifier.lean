import WebToken.Policy.Basic

/-!
# Verifying tokens

A verifier runs its checks in one order and stops at the first failure: the
token is taken apart, its header has to name the algorithm, the signature has
to verify over the text as it was written, and then the requirements are
checked one after the other. Each run ends with one event that says how it went.
-/

set_option autoImplicit false

namespace WebToken

/-- What checks tokens: an algorithm and requirements in the order of checking. -/
structure Verifier where
  algorithm : Algorithm
  requirements : List Requirement

def Policy.verifier (policy : Policy) : Verifier :=
  ⟨policy.algorithm, policy.windowedRequirements⟩

namespace Verifier

/-- A failure, and the events that end with its report. -/
def rejected {α : Type} (before : List Event) (stage : Stage) (error : Error) :
    Audited (Except Error α) :=
  ⟨.error error, before ++ [.tokenRejected stage error]⟩

/-- Checks a token that was taken apart, at an instant. -/
def verifyToken (verifier : Verifier) (now : Instant) (token : Token) :
    Audited (Except Error Unit) :=
  let name := verifier.algorithm.name
  let found := token.header.algorithm
  if found = some name then
    let verdict := verifier.algorithm.verify (Bytes.ofText token.signingInput) token.signature
    match verdict.outcome with
    | .error error => rejected verdict.events .signature (.signature error)
    | .ok () =>
        match Requirement.checkAll token now.unixMillis verifier.requirements with
        | .error error => rejected verdict.events .claims (.claim error)
        | .ok () => ⟨.ok (), verdict.events ++ [.tokenVerified name]⟩
  else rejected [] .algorithm (.claim (.algorithmMismatch name found))

/-- Takes a token apart and checks it, at an instant. -/
def verify (verifier : Verifier) (now : Instant) (text : String) :
    Audited (Except Error Token) :=
  match Token.decode text with
  | .error error => rejected [] .decode (.decode error)
  | .ok token =>
      let checked := verifier.verifyToken now token
      ⟨checked.outcome.map fun _ => token, checked.events⟩

end Verifier

end WebToken
