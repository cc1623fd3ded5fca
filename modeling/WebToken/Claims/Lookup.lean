import WebToken.Claims.Basic
import WebToken.Instant

/-!
# Looking up a claim

A claim that was looked up is missing, null, or present. Reading it as a type
refuses a missing claim, gives nothing for a null one, and gives nothing, or a
refusal, for one of another type.
-/

set_option autoImplicit false

namespace WebToken

/-- Why a claim does not satisfy what is asked of it. -/
inductive ClaimError where
  | missing (claim : String)
  | algorithmMismatch (expected : String) (found : Option String)
  | invalid (claim : String) (actual : String)
  | expired (claim : String) (second : Int64)
  | notYetValid (claim : String) (second : Int64)
deriving DecidableEq, Repr

/-- A claim as it was found under a name. A present value is not null. -/
inductive Lookup where
  | missing (name : String)
  | null (name : String)
  | present (name : String) (node : Json)

namespace Lookup

/-- Tells the three states of what is under a name apart. -/
def ofNode (name : String) : Option Json → Lookup
  | none => .missing name
  | some .null => .null name
  | some node => .present name node

def name : Lookup → String
  | .missing name => name
  | .null name => name
  | .present name _ => name

def node? : Lookup → Option Json
  | .present _ node => some node
  | _ => none

def isMissing : Lookup → Bool
  | .missing _ => true
  | _ => false

def isNull : Lookup → Bool
  | .null _ => true
  | _ => false

def isPresent : Lookup → Bool
  | .present _ _ => true
  | _ => false

/-- The text of the value, or a mark for a missing claim. -/
def render : Lookup → String
  | .missing _ => "<missing>"
  | .null _ => "null"
  | .present _ node => node.render

def refusal (claim : Lookup) : ClaimError :=
  .invalid claim.name claim.render

/-- Reads a value of one type. A value of another type gives nothing. -/
def readAs {α : Type} (claim : Lookup) (view : Json → Option α) :
    Except ClaimError (Option α) :=
  match claim with
  | .missing name => .error (.missing name)
  | .null _ => .ok none
  | .present _ node => .ok (view node)

/-- The truth value. -/
def flag (claim : Lookup) : Except ClaimError (Option Bool) :=
  claim.readAs Json.bool?

/-- The number truncated toward zero, if that fits a signed 64-bit word. -/
def wholeInt64 (claim : Lookup) : Except ClaimError (Option Int64) :=
  claim.readAs Json.truncate?

def wholeInt32 (claim : Lookup) : Except ClaimError (Option Int32) :=
  claim.readAs fun node =>
    node.truncate?.bind fun value =>
      if -2 ^ 31 ≤ value.toInt ∧ value.toInt < 2 ^ 31 then some (Int32.ofInt value.toInt) else none

def float (claim : Lookup) : Except ClaimError (Option Binary64) :=
  claim.readAs fun node => node.number?.map Json.Number.toBinary64

/-- The text. Other values are not turned into text. -/
def text (claim : Lookup) : Except ClaimError (Option String) :=
  claim.readAs Json.string?

def instant (claim : Lookup) : Except ClaimError (Option Instant) :=
  claim.readAs fun node => node.truncate?.map Instant.ofSeconds

/-- Reads the items of an array. Null counts as an empty array, another value
gives nothing, and an item that is not readable refuses the claim. -/
def listOf {α : Type} (claim : Lookup) (decode : Json → Option α) :
    Except ClaimError (Option (List α)) :=
  match claim with
  | .missing name => .error (.missing name)
  | .null _ => .ok (some [])
  | .present _ node =>
      match node.array? with
      | none => .ok none
      | some items =>
          match items.mapM decode with
          | some decoded => .ok (some decoded)
          | none => .error claim.refusal

/-- Reads the value as a whole, which refuses a present claim if it fails. -/
def typed {α : Type} (claim : Lookup) (decode : Json → Option α) :
    Except ClaimError (Option α) :=
  match claim with
  | .missing name => .error (.missing name)
  | .null _ => .ok none
  | .present _ node =>
      match decode node with
      | some decoded => .ok (some decoded)
      | none => .error claim.refusal

end Lookup

namespace Claims

def lookup (claims : Claims) (name : String) : Lookup :=
  .ofNode name (claims.find? name)

end Claims

end WebToken
