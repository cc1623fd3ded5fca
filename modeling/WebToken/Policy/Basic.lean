import WebToken.Algorithm.Basic
import WebToken.Policy.Requirement

/-!
# Policies

A policy collects what is asked of tokens of one algorithm. There is at most
one requirement for each claim: a later one replaces the expectation and keeps
the place, and a removal gives up the place. When tokens are checked, each date
claim of the payload that nothing is required of has to be within its window.
-/

set_option autoImplicit false

namespace WebToken

/-- What is asked of tokens of one algorithm. -/
structure Policy where
  algorithm : Algorithm
  requirements : List Requirement
  defaultLeeway : UInt64
  expiryLeeway : Option UInt64
  notBeforeLeeway : Option UInt64
  issuedAtLeeway : Option UInt64
  waivesIssuedAt : Bool

namespace Requirement

def isAbout (part : Part) (name : String) (requirement : Requirement) : Bool :=
  requirement.part == part && requirement.name == name

/-- Sets what is expected of a claim: in place if there is a requirement about
it, and at the end otherwise. -/
def set (part : Part) (name : String) (expected : Expectation) :
    List Requirement → List Requirement
  | [] => [⟨part, name, expected⟩]
  | requirement :: rest =>
      if requirement.isAbout part name then { requirement with expected } :: rest
      else requirement :: set part name expected rest

def remove (part : Part) (name : String) (requirements : List Requirement) : List Requirement :=
  requirements.eraseP (isAbout part name)

/-- Adds a requirement unless there is one about the claim. -/
def addMissing (part : Part) (name : String) (expected : Expectation)
    (requirements : List Requirement) : List Requirement :=
  if requirements.any (isAbout part name) then requirements
  else requirements ++ [⟨part, name, expected⟩]

end Requirement

namespace Policy

/-- Asks only for a signature of an algorithm. -/
def new (algorithm : Algorithm) : Policy :=
  ⟨algorithm, [], 0, none, none, none, false⟩

/-- Sets or, without an expectation, drops the requirement about a claim. -/
def assign (policy : Policy) (part : Part) (name : String)
    (expected : Option Expectation) : Policy :=
  { policy with
    requirements := match expected with
      | some expected => Requirement.set part name expected policy.requirements
      | none => Requirement.remove part name policy.requirements }

def expect (policy : Policy) (name : String) (expected : Expectation) : Policy :=
  policy.assign .payload name (some expected)

/-!
## Registered claims
-/

def requireIssuer (policy : Policy) (issuer : String) : Policy :=
  policy.expect Registered.issuer (.value (.string issuer))

def requireSubject (policy : Policy) (subject : String) : Policy :=
  policy.expect Registered.subject (.value (.string subject))

/-- Asks for an audience, in this order. -/
def requireAudience (policy : Policy) (audience : List String) : Policy :=
  policy.expect Registered.audience (.strings audience)

/-- Asks for a second of expiry, instead of the window. -/
def requireExpiresAt (policy : Policy) (instant : Instant) : Policy :=
  policy.expect Registered.expiresAt (.date instant.unixSeconds)

def requireNotBefore (policy : Policy) (instant : Instant) : Policy :=
  policy.expect Registered.notBefore (.date instant.unixSeconds)

def requireIssuedAt (policy : Policy) (instant : Instant) : Policy :=
  policy.expect Registered.issuedAt (.date instant.unixSeconds)

def requireTokenId (policy : Policy) (tokenId : String) : Policy :=
  policy.expect Registered.tokenId (.value (.string tokenId))

def requireKeyId (policy : Policy) (keyId : String) : Policy :=
  policy.assign .header HeaderName.keyId (some (.value (.string keyId)))

/-!
## Other claims
-/

/-- Asks for the value of a payload claim. Null drops the requirement. -/
def requireClaim (policy : Policy) (name : String) (value : Json) : Policy :=
  match value with
  | .null => policy.assign .payload name none
  | value => policy.expect name (.value value)

def requireDateClaim (policy : Policy) (name : String) (instant : Instant) : Policy :=
  policy.expect name (.date instant.unixSeconds)

def requireThat (policy : Policy) (name : String) (accepts : ClaimPredicate) : Policy :=
  policy.expect name (.predicate accepts)

def waiveClaim (policy : Policy) (name : String) : Policy :=
  policy.assign .payload name none

/-!
## Time windows
-/

/-- Allows a clock difference for all date claims. -/
def allowLeeway (policy : Policy) (seconds : UInt64) : Policy :=
  { policy with defaultLeeway := seconds }

def allowExpiryLeeway (policy : Policy) (seconds : UInt64) : Policy :=
  { policy with expiryLeeway := some seconds }

def allowNotBeforeLeeway (policy : Policy) (seconds : UInt64) : Policy :=
  { policy with notBeforeLeeway := some seconds }

def allowIssuedAtLeeway (policy : Policy) (seconds : UInt64) : Policy :=
  { policy with issuedAtLeeway := some seconds }

/-- Lets a time of issue in the future pass. -/
def waiveIssuedAt (policy : Policy) : Policy :=
  { policy with waivesIssuedAt := true }

/-- The requirements with a window for each date claim that has none. -/
def windowedRequirements (policy : Policy) : List Requirement :=
  let window (leeway : Option UInt64) : Expectation :=
    .window (leeway.getD policy.defaultLeeway)
  let expiring := Requirement.addMissing .payload Registered.expiresAt
    (window policy.expiryLeeway) policy.requirements
  let starting := Requirement.addMissing .payload Registered.notBefore
    (window policy.notBeforeLeeway) expiring
  if policy.waivesIssuedAt then starting
  else Requirement.addMissing .payload Registered.issuedAt
    (window policy.issuedAtLeeway) starting

/-!
## Edits
-/

inductive Edit where
  | issuer (issuer : String)
  | subject (subject : String)
  | audience (audience : List String)
  | expiresAt (instant : Instant)
  | notBefore (instant : Instant)
  | issuedAt (instant : Instant)
  | tokenId (tokenId : String)
  | keyId (keyId : String)
  | claim (name : String) (value : Json)
  | dateClaim (name : String) (instant : Instant)
  | predicate (name : String) (accepts : ClaimPredicate)
  | waiveClaim (name : String)
  | allowLeeway (seconds : UInt64)
  | allowExpiryLeeway (seconds : UInt64)
  | allowNotBeforeLeeway (seconds : UInt64)
  | allowIssuedAtLeeway (seconds : UInt64)
  | waiveIssuedAt

def edit (policy : Policy) : Edit → Policy
  | .issuer issuer => policy.requireIssuer issuer
  | .subject subject => policy.requireSubject subject
  | .audience audience => policy.requireAudience audience
  | .expiresAt instant => policy.requireExpiresAt instant
  | .notBefore instant => policy.requireNotBefore instant
  | .issuedAt instant => policy.requireIssuedAt instant
  | .tokenId tokenId => policy.requireTokenId tokenId
  | .keyId keyId => policy.requireKeyId keyId
  | .claim name value => policy.requireClaim name value
  | .dateClaim name instant => policy.requireDateClaim name instant
  | .predicate name accepts => policy.requireThat name accepts
  | .waiveClaim name => policy.waiveClaim name
  | .allowLeeway seconds => policy.allowLeeway seconds
  | .allowExpiryLeeway seconds => policy.allowExpiryLeeway seconds
  | .allowNotBeforeLeeway seconds => policy.allowNotBeforeLeeway seconds
  | .allowIssuedAtLeeway seconds => policy.allowIssuedAtLeeway seconds
  | .waiveIssuedAt => policy.waiveIssuedAt

def editAll (policy : Policy) (edits : List Edit) : Policy :=
  edits.foldl edit policy

theorem editAll_append (policy : Policy) (first second : List Edit) :
    policy.editAll (first ++ second) = (policy.editAll first).editAll second :=
  List.foldl_append

theorem algorithm_edit (policy : Policy) (change : Edit) :
    (policy.edit change).algorithm = policy.algorithm := by
  cases change with
  | claim name value => cases value <;> rfl
  | _ => rfl

end Policy

end WebToken
