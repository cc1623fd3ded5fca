import WebToken.Json.Basic

/-!
# Comparing JSON values

Every value agrees with itself, as numbers are never the undefined number.
-/

set_option autoImplicit false

namespace WebToken.Json

theorem Number.same_self (number : Number) : number.same number = true := by
  cases number with
  | integer value lower upper => exact beq_self_eq_true value
  | float value => exact beq_self_eq_true value.scaled

theorem Number.agrees_self (number : Number) : number.agrees number = true := by
  unfold agrees
  cases number.int64? with
  | some value => exact beq_self_eq_true value
  | none => exact beq_self_eq_true number.toBinary64.scaled

mutual

theorem same_self (value : Json) : value.same value = true := by
  cases value with
  | null => rfl
  | bool value => exact beq_self_eq_true value
  | number value => exact value.same_self
  | string value => exact beq_self_eq_true value
  | array items => exact sameItems_self items
  | object members => exact sameMembers_self members

theorem sameItems_self (items : List Json) : sameItems items items = true := by
  cases items with
  | nil => rfl
  | cons item items =>
      rw [sameItems, same_self item, sameItems_self items]
      rfl

theorem sameMembers_self (members : List (String × Json)) :
    sameMembers members members = true := by
  match members with
  | [] => rfl
  | (name, value) :: members =>
      rw [sameMembers, same_self value, sameMembers_self members, beq_self_eq_true]
      rfl

end

mutual

theorem agrees_self (value : Json) : value.agrees value = true := by
  cases value with
  | number value => exact value.agrees_self
  | array items => exact agreesItems_self items
  | _ => exact same_self _

theorem agreesItems_self (items : List Json) : agreesItems items items = true := by
  cases items with
  | nil => rfl
  | cons item items =>
      rw [agreesItems, agrees_self item, agreesItems_self items]
      rfl

end

end WebToken.Json
