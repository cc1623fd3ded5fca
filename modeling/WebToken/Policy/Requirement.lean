import WebToken.Token.Compact

/-!
# Requirements on claims

A requirement names a claim of the header or the payload and says what it has
to look like. Values have to be present and to match; a time window lets a
claim that is absent or null pass; a predicate judges the claim in whatever
state it is, together with the whole token.
-/

set_option autoImplicit false

namespace WebToken

/-- The claims that a requirement may be about. -/
inductive Part where
  | header
  | payload
deriving DecidableEq, Repr

/-- A judgment of a claim and the token it is in. -/
abbrev ClaimPredicate := Lookup → Token → Bool

/-- What a claim has to look like. -/
inductive Expectation where
  /-- The claim agrees with a JSON value. -/
  | value (expected : Json)
  /-- The claim is this list of texts; a single text counts as a list of one. -/
  | strings (expected : List String)
  /-- The claim is a number that truncates to this second. -/
  | date (expected : Int64)
  /-- The claim is a date that the current time satisfies, give or take seconds. -/
  | window (leeway : UInt64)
  | predicate (accepts : ClaimPredicate)

structure Requirement where
  part : Part
  name : String
  expected : Expectation

namespace Requirement

/-- Keeps a number in the range of signed 128-bit words. -/
def saturate (value : Int) : Int :=
  max (-2 ^ 127) (min value (2 ^ 127 - 1))

def claim (requirement : Requirement) (token : Token) : Lookup :=
  match requirement.part with
  | .header => token.header.claims.lookup requirement.name
  | .payload => token.payload.claims.lookup requirement.name

/-- Checks the value of a claim, which has to be present. -/
def checkValue (claim : Lookup) (isMatch : Json → Bool) : Except ClaimError Unit :=
  match claim with
  | .missing name => .error (.missing name)
  | .null _ => .error claim.refusal
  | .present _ node => if isMatch node then .ok () else .error claim.refusal

/-- Checks a date against the current time in milliseconds. The token expires
after its second and is valid from its second on, each with some leeway. Only
the three date claims have a window. -/
def checkWindow (claim : Lookup) (nowMillis : Int) (leeway : UInt64) :
    Except ClaimError Unit :=
  match claim.node?.bind Json.truncate? with
  | none => .ok ()
  | some second =>
      let millis := second.toInt * 1000
      let leewayMillis := (leeway.toNat : Int) * 1000
      if claim.name = Registered.expiresAt then
        if saturate (nowMillis - leewayMillis) > millis then
          .error (.expired claim.name second)
        else .ok ()
      else if claim.name = Registered.notBefore ∨ claim.name = Registered.issuedAt then
        if saturate (nowMillis + leewayMillis) < millis then
          .error (.notYetValid claim.name second)
        else .ok ()
      else .ok ()

/-- Checks a requirement at a time in milliseconds since the epoch. -/
def check (requirement : Requirement) (token : Token) (nowMillis : Int) :
    Except ClaimError Unit :=
  let claim := requirement.claim token
  match requirement.expected with
  | .value expected => checkValue claim fun node => node.agrees expected
  | .strings expected => checkValue claim fun node => node.stringList? == some expected
  | .date expected => checkValue claim fun node => node.truncate? == some expected
  | .window leeway => checkWindow claim nowMillis leeway
  | .predicate accepts => if accepts claim token then .ok () else .error claim.refusal

/-- Checks requirements in order up to the first that fails. -/
def checkAll (token : Token) (nowMillis : Int) : List Requirement → Except ClaimError Unit
  | [] => .ok ()
  | requirement :: rest =>
      match requirement.check token nowMillis with
      | .error error => .error error
      | .ok () => checkAll token nowMillis rest

end Requirement

end WebToken
