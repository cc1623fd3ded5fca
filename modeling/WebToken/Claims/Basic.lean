import WebToken.Json.Printer

/-!
# Sets of claims

The header and the payload of a token are each a set of named claims. The
registered names have a fixed meaning in every token.
-/

set_option autoImplicit false

namespace WebToken

/-!
## Names
-/

namespace Registered

def issuer : String := "iss"

def subject : String := "sub"

def audience : String := "aud"

def expiresAt : String := "exp"

def notBefore : String := "nbf"

def issuedAt : String := "iat"

def tokenId : String := "jti"

def names : List String :=
  [issuer, subject, audience, expiresAt, notBefore, issuedAt, tokenId]

/-- The names whose claims are dates. -/
def dates : List String :=
  [expiresAt, notBefore, issuedAt]

end Registered

namespace HeaderName

def algorithm : String := "alg"

def type : String := "typ"

def contentType : String := "cty"

def keyId : String := "kid"

end HeaderName

/-!
## Claims
-/

/-- Claims under distinct names, in increasing order of name. -/
structure Claims where
  members : Json.Members
  ordered : members.Ordered

namespace Claims

def empty : Claims :=
  ⟨[], List.Pairwise.nil⟩

/-- Sets a claim, replacing one of the same name. -/
def insert (claims : Claims) (name : String) (value : Json) : Claims :=
  ⟨Json.Members.insert name value claims.members, Json.Members.insert_ordered claims.ordered⟩

def erase (claims : Claims) (name : String) : Claims :=
  ⟨Json.Members.erase name claims.members, Json.Members.erase_ordered claims.ordered⟩

def find? (claims : Claims) (name : String) : Option Json :=
  Json.Members.find? name claims.members

/-- Whether there is a claim of a name, null included. -/
def contains (claims : Claims) (name : String) : Bool :=
  (claims.find? name).isSome

def size (claims : Claims) : Nat :=
  claims.members.length

/-- Members in writing order as claims: of equal names the last one counts. -/
def ofList (written : List (String × Json)) : Claims :=
  ⟨Json.Members.ofList written, Json.Members.ofList_ordered written⟩

def toJson (claims : Claims) : Json :=
  .object claims.members

def render (claims : Claims) : String :=
  claims.toJson.render

/-- The text under a name, if the claim is a string. -/
def string? (claims : Claims) (name : String) : Option String :=
  (claims.find? name).bind Json.string?

/-- The value under a name, if the claim is there and not null. -/
def node? (claims : Claims) (name : String) : Option Json :=
  match claims.find? name with
  | none => none
  | some .null => none
  | some value => some value

/-!
## What an operation changes
-/

/-- A claim that was set is found, and other claims stay as they were. -/
theorem find?_insert (claims : Claims) (name other : String) (value : Json) :
    (claims.insert name value).find? other =
      if other = name then some value else claims.find? other := by
  unfold find? insert
  split
  next equal => exact equal ▸ Json.Members.find?_insert_self other value claims.members
  next different => exact Json.Members.find?_insert_of_ne different value claims.members

/-- A claim that was dropped is not found, and other claims stay as they were. -/
theorem find?_erase (claims : Claims) (name other : String) :
    (claims.erase name).find? other =
      if other = name then none else claims.find? other := by
  unfold find? erase
  split
  next equal => exact equal ▸ Json.Members.find?_erase_self claims.ordered
  next different => exact Json.Members.find?_erase_of_ne different claims.members

theorem node?_eq_none_iff {claims : Claims} {name : String} :
    claims.node? name = none ↔ claims.find? name = none ∨ claims.find? name = some .null := by
  unfold node?
  cases claims.find? name with
  | none => exact ⟨fun _ => .inl rfl, fun _ => rfl⟩
  | some value =>
      cases value with
      | null => exact ⟨fun _ => .inr rfl, fun _ => rfl⟩
      | _ => simp

theorem node?_eq_some_iff {claims : Claims} {name : String} {node : Json} :
    claims.node? name = some node ↔ claims.find? name = some node ∧ node ≠ .null := by
  unfold node?
  cases claims.find? name with
  | none => exact ⟨nofun, fun found => nomatch found.1⟩
  | some value =>
      cases value with
      | null => exact ⟨nofun, fun found => absurd (Option.some.inj found.1).symm found.2⟩
      | _ =>
          refine ⟨fun same => ⟨same, ?_⟩, And.left⟩
          rintro rfl
          cases same

end Claims

end WebToken
