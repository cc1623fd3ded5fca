import WebToken.Json.Basic

/-!
# Reading values as types

A reading takes a JSON value for a value of some type, or does not. Integer
readings accept only numbers that were written as integers and are in range;
`float` accepts every number. The readings of lists, tables and records are
built from those of their parts.
-/

set_option autoImplicit false

namespace WebToken.Json

/-- A way to take JSON values for values of a type. -/
abbrev Reading (α : Type) := Json → Option α

namespace Reading

/-!
## Scalars
-/

def flag : Reading Bool :=
  Json.bool?

def text : Reading String :=
  Json.string?

def int64 : Reading Int64 :=
  fun node => node.number?.bind Number.int64?

/-- An integer from zero up to below a bound. -/
def natBelow (bound : Nat) : Reading Nat :=
  fun node => (node.number?.bind Number.nat?).filter (· < bound)

def word64 : Reading UInt64 :=
  fun node => (natBelow (2 ^ 64) node).map UInt64.ofNat

def octet : Reading UInt8 :=
  fun node => (natBelow (2 ^ 8) node).map UInt8.ofNat

/-- Any number, as the nearest binary64 number. -/
def float : Reading Binary64 :=
  fun node => node.number?.map Number.toBinary64

/-!
## Compounds
-/

/-- Null, or what the inner reading accepts. -/
def nullable {α : Type} (inner : Reading α) : Reading (Option α)
  | .null => some none
  | node => (inner node).map some

/-- An array of values of one type. -/
def listOf {α : Type} (item : Reading α) : Reading (List α) :=
  fun node => node.array?.bind fun items => items.mapM item

/-- An object whose values are of one type, in order of name. -/
def tableOf {α : Type} (value : Reading α) : Reading (List (String × α)) :=
  fun node => node.object?.bind fun members =>
    members.mapM fun member => (value member.2).map fun decoded => (member.1, decoded)

/-- A member of an object, which has to be there. -/
def required {α : Type} (name : String) (value : Reading α) : Reading α :=
  fun node => node.object?.bind fun members => (members.find? name).bind value

/-- A member of an object, which may be absent or null. -/
def optional {α : Type} (name : String) (value : Reading α) : Reading (Option α) :=
  fun node => node.object?.bind fun members =>
    match Members.find? name members with
    | none => some none
    | some held => nullable value held

end Reading

end WebToken.Json
