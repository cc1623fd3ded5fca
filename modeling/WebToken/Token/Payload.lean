import WebToken.Error

/-!
# Headers and payloads

Both are sets of claims. A payload is one whose registered claims have their
form: dates that are numbers in range, and an audience of one or several texts.
-/

set_option autoImplicit false

namespace WebToken

structure Header where
  claims : Claims

namespace Header

/-- The name of the signature algorithm, if it is a string. -/
def algorithm (header : Header) : Option String :=
  header.claims.string? HeaderName.algorithm

def tokenType (header : Header) : Option String :=
  header.claims.string? HeaderName.type

def contentType (header : Header) : Option String :=
  header.claims.string? HeaderName.contentType

def keyId (header : Header) : Option String :=
  header.claims.string? HeaderName.keyId

end Header

namespace Payload

/-- Why a date claim does not have its form. An absent or null one does. -/
def dateDefect? (claims : Claims) (name : String) : Option RegisteredDefect :=
  match claims.node? name with
  | none => none
  | some node =>
      match node.truncate? with
      | some _ => none
      | none => some (.notDate name node.render)

/-- Whether a value is one text or a list of texts. -/
def isAudience : Json → Bool
  | .string _ => true
  | .array items => items.all fun item => item.string?.isSome
  | _ => false

/-- Why the audience does not have its form. An absent or null one does. -/
def audienceDefect? (claims : Claims) : Option RegisteredDefect :=
  match claims.node? Registered.audience with
  | none => none
  | some node =>
      if isAudience node then none else some (.notAudience Registered.audience node.render)

/-- Why the registered claims do not have their form: dates first. -/
def defect? (claims : Claims) : Option RegisteredDefect :=
  match Registered.dates.findSome? (dateDefect? claims) with
  | some defect => some defect
  | none => audienceDefect? claims

end Payload

/-- The payload of a token: claims whose registered ones have their form. -/
structure Payload where
  claims : Claims
  sound : Payload.defect? claims = none

namespace Payload

/-- Checks the registered claims. -/
def ofClaims (claims : Claims) : Except RegisteredDefect Payload :=
  match found : defect? claims with
  | none => .ok ⟨claims, found⟩
  | some defect => .error defect

def issuer (payload : Payload) : Option String :=
  payload.claims.string? Registered.issuer

def subject (payload : Payload) : Option String :=
  payload.claims.string? Registered.subject

def tokenId (payload : Payload) : Option String :=
  payload.claims.string? Registered.tokenId

/-- For whom the token is meant. One text counts as a list of one. -/
def audience (payload : Payload) : Option (List String) :=
  (payload.claims.node? Registered.audience).bind fun node =>
    match node with
    | .string value => some [value]
    | .array items => some (items.filterMap Json.string?)
    | _ => none

/-- A date claim as an instant. -/
def date (payload : Payload) (name : String) : Option Instant :=
  ((payload.claims.node? name).bind Json.truncate?).map Instant.ofSeconds

def expiresAt (payload : Payload) : Option Instant :=
  payload.date Registered.expiresAt

def notBefore (payload : Payload) : Option Instant :=
  payload.date Registered.notBefore

def issuedAt (payload : Payload) : Option Instant :=
  payload.date Registered.issuedAt

end Payload

end WebToken
