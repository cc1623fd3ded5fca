import WebToken.Proofs.Json.NumberValue
import WebToken.Token.Payload

/-!
# The form of registered claims

A payload is refused exactly if one of its registered claims does not have its
form. The check of a date truncates the number as it was read; here its verdict
is said of the exact number.
-/

set_option autoImplicit false

namespace WebToken

theorem Json.exists_number_of_truncate? {node : Json} {second : Int64}
    (date : node.truncate? = some second) :
    ∃ number, node = .number number ∧ second.toInt = towardZero number.value := by
  cases node with
  | number number => exact ⟨number, rfl, Number.toInt_of_truncate? date⟩
  | _ => cases date

theorem Json.map_string_of_strings {items : List Json}
    (strings : ∀ item ∈ items, item.string?.isSome = true) :
    ∃ texts : List String, items = texts.map .string := by
  induction items with
  | nil => exact ⟨[], rfl⟩
  | cons item items ih =>
      obtain ⟨first, others⟩ := List.forall_mem_cons.mp strings
      obtain ⟨texts, rfl⟩ := ih others
      cases item with
      | string text => exact ⟨text :: texts, rfl⟩
      | _ => cases first

namespace Payload

/-!
## The forms
-/

/-- A date is absent, null, or a number that fits a signed 64-bit word once its
fraction is cut off. -/
def HasDateForm (claims : Claims) (name : String) : Prop :=
  claims.find? name = none ∨ claims.find? name = some .null ∨
    ∃ number, claims.find? name = some (.number number) ∧
      -2 ^ 63 ≤ towardZero number.value ∧ towardZero number.value < 2 ^ 63

/-- An audience is absent, null, one text, or a list of texts. -/
def HasAudienceForm (claims : Claims) : Prop :=
  claims.find? Registered.audience = none ∨ claims.find? Registered.audience = some .null ∨
    (∃ text, claims.find? Registered.audience = some (.string text)) ∨
    ∃ texts : List String,
      claims.find? Registered.audience = some (.array (texts.map .string))

structure HasForm (claims : Claims) : Prop where
  dates : ∀ name ∈ Registered.dates, HasDateForm claims name
  audience : HasAudienceForm claims

/-!
## The checks
-/

variable {claims : Claims}

theorem dateDefect?_eq_none_iff {name : String} :
    dateDefect? claims name = none ↔ HasDateForm claims name := by
  unfold dateDefect? HasDateForm
  cases found : claims.node? name with
  | none =>
      have skipped := Claims.node?_eq_none_iff.mp found
      exact ⟨fun _ => skipped.imp_right .inl, fun _ => rfl⟩
  | some node =>
      obtain ⟨held, notNull⟩ := Claims.node?_eq_some_iff.mp found
      simp only [held, Option.some.injEq, reduceCtorEq, notNull, false_or]
      constructor
      · intro sound
        cases date : node.truncate? with
        | none => simp only [date, reduceCtorEq] at sound
        | some second =>
            obtain ⟨number, rfl, -⟩ := Json.exists_number_of_truncate? date
            exact ⟨number, rfl, Json.Number.exists_truncate?_iff.mp ⟨second, date⟩⟩
      · intro form
        obtain ⟨number, rfl, range⟩ := form
        obtain ⟨second, date⟩ := Json.Number.exists_truncate?_iff.mpr range
        have truncated : (Json.number number).truncate? = some second := date
        simp only [truncated]

theorem isAudience_iff {value : Json} :
    isAudience value = true ↔
      (∃ text, value = .string text) ∨ ∃ texts : List String, value = .array (texts.map .string) := by
  cases value with
  | string text => exact ⟨fun _ => .inl ⟨text, rfl⟩, fun _ => rfl⟩
  | array items =>
      constructor
      · intro audience
        obtain ⟨texts, rfl⟩ := Json.map_string_of_strings (List.all_eq_true.mp audience)
        exact .inr ⟨texts, rfl⟩
      · intro form
        rcases form with ⟨text, same⟩ | ⟨texts, same⟩
        · cases same
        · cases same
          simp [isAudience, Json.string?]
  | _ => simp [isAudience]

theorem audienceDefect?_eq_none_iff :
    audienceDefect? claims = none ↔ HasAudienceForm claims := by
  unfold audienceDefect? HasAudienceForm
  cases found : claims.node? Registered.audience with
  | none =>
      have skipped := Claims.node?_eq_none_iff.mp found
      exact ⟨fun _ => skipped.imp_right .inl, fun _ => rfl⟩
  | some node =>
      obtain ⟨held, notNull⟩ := Claims.node?_eq_some_iff.mp found
      simp only [held, Option.some.injEq, reduceCtorEq, notNull, false_or, ← isAudience_iff]
      split
      next audience => exact ⟨fun _ => audience, fun _ => rfl⟩
      next other => exact ⟨nofun, fun audience => absurd audience other⟩

/-- A payload has no defect exactly if its registered claims have their form. -/
theorem defect?_eq_none_iff : defect? claims = none ↔ HasForm claims := by
  unfold defect?
  cases dates : Registered.dates.findSome? (dateDefect? claims) with
  | none =>
      have formed := List.findSome?_eq_none_iff.mp dates
      simp only [dateDefect?_eq_none_iff] at formed
      rw [audienceDefect?_eq_none_iff]
      exact ⟨fun audience => ⟨formed, audience⟩, HasForm.audience⟩
  | some defect =>
      refine ⟨nofun, fun form => ?_⟩
      obtain ⟨name, dated, found⟩ := List.exists_of_findSome?_eq_some dates
      rw [dateDefect?_eq_none_iff.mpr (form.dates name dated)] at found
      cases found

/-- A date claim of a payload is a date, unless it is absent or null. -/
theorem exists_truncate? (payload : Payload) {name : String}
    (dated : name ∈ Registered.dates) {node : Json} (found : payload.claims.find? name = some node)
    (notNull : node ≠ .null) : ∃ second, node.truncate? = some second := by
  have form := (defect?_eq_none_iff.mp payload.sound).dates name dated
  rw [HasDateForm, found] at form
  rcases form with absent | null | ⟨number, same, range⟩
  · cases absent
  · exact absurd (Option.some.inj null) notNull
  · cases same
    exact Json.Number.exists_truncate?_iff.mpr range

end Payload

end WebToken
