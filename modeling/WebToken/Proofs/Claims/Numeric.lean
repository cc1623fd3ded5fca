import WebToken.Proofs.Policy.Reading

/-!
# Numeric claims

Every reading of a claim as a whole number or as a date goes through one truncation. It
gives the exact number cut off toward zero where that fits, and nothing anywhere else, so
that no number wraps around and none is moved to an end of the range. The dates of a
payload are checked by the same truncation that they are read by later.
-/

set_option autoImplicit false

namespace WebToken

/-- The least signed 64-bit word is a binary64 number. -/
theorem Binary64.exists_value_eq_least : ∃ least : Binary64, least.value = -2 ^ 63 := by
  refine ⟨⟨true, 1086 * 2 ^ 52, by decide⟩, ?_⟩
  have scaled : (⟨true, 1086 * 2 ^ 52, by decide⟩ : Binary64).scaled =
      -2 ^ 63 * Binary64.unitsPerOne := by
    decide +kernel
  exact_mod_cast Binary64.value_eq_intCast_iff.mpr scaled

/-!
## Readings of a number
-/

namespace Claims

variable {claims : Claims} {name : String} {number : Json.Number}
  (found : claims.find? name = some (.number number))

include found

theorem lookup_number : claims.lookup name = .present name (.number number) :=
  lookup_of_node? (node?_eq_some_iff.mpr ⟨found, nofun⟩)

theorem wholeInt64_number : (claims.lookup name).wholeInt64 = .ok number.truncate? := by
  rw [lookup_number found]
  rfl

theorem instant_number :
    (claims.lookup name).instant = .ok (number.truncate?.map Instant.ofSeconds) := by
  rw [lookup_number found]
  rfl

theorem wholeInt32_number_iff {half : Int32} :
    (claims.lookup name).wholeInt32 = .ok (some half) ↔
      half.toInt = towardZero number.value := by
  rw [lookup_number found, Lookup.wholeInt32, Lookup.readAs, Except.ok.injEq,
    Option.bind_eq_some_iff]
  simp only [Option.ite_none_right_eq_some, Option.some.injEq]
  constructor
  · intro narrowed
    obtain ⟨second, truncated, range, rfl⟩ := narrowed
    rw [Int32.toInt_ofInt_of_le range.1 range.2]
    exact Json.Number.toInt_of_truncate? truncated
  · intro same
    have widened : half.toInt64.toInt = half.toInt := half.toInt_toInt64
    refine ⟨half.toInt64, Json.Number.truncate?_eq_some_iff.mpr (widened.trans same), ?_⟩
    rw [widened]
    exact ⟨⟨half.le_toInt, half.toInt_lt⟩, half.ofInt_toInt⟩

theorem wholeInt32_number_eq_none_iff :
    (claims.lookup name).wholeInt32 = .ok none ↔
      ¬ (-2 ^ 31 ≤ towardZero number.value ∧ towardZero number.value < 2 ^ 31) := by
  constructor
  · intro absent range
    have narrowed := (wholeInt32_number_iff found).mpr (Int32.toInt_ofInt_of_le range.1 range.2)
    rw [absent] at narrowed
    cases narrowed
  · intro outside
    cases read : (claims.lookup name).wholeInt32 with
    | error error =>
        rw [lookup_number found] at read
        cases read
    | ok reading =>
        cases reading with
        | none => rfl
        | some half =>
            have same := (wholeInt32_number_iff found).mp read
            rw [← same] at outside
            exact absurd ⟨half.le_toInt, half.toInt_lt⟩ outside

end Claims

/-!
## Dates of a payload
-/

namespace Payload

/-- Which claim a date of a payload is read from. -/
inductive ReadsDate : String → (Payload → Option Instant) → Prop
  | expiresAt : ReadsDate Registered.expiresAt expiresAt
  | notBefore : ReadsDate Registered.notBefore notBefore
  | issuedAt : ReadsDate Registered.issuedAt issuedAt

section

variable {name : String} {accessor : Payload → Option Instant}

theorem ReadsDate.dated (reads : ReadsDate name accessor) : name ∈ Registered.dates := by
  cases reads <;> decide

theorem ReadsDate.eq_date (reads : ReadsDate name accessor) (payload : Payload) :
    accessor payload = payload.date name := by
  cases reads <;> rfl

end

variable {claims : Claims} {name : String} {number : Json.Number}

theorem exists_ofClaims_iff : (∃ payload, ofClaims claims = .ok payload) ↔ HasForm claims := by
  rw [← defect?_eq_none_iff]
  constructor
  · intro made
    obtain ⟨payload, checked⟩ := made
    exact ofClaims_eq_ok_iff.mp checked ▸ payload.sound
  · intro sound
    exact ⟨⟨claims, sound⟩, ofClaims_eq_ok_iff.mpr rfl⟩

theorem ofClaims_of_defect {defect : RegisteredDefect} (found : defect? claims = some defect) :
    ofClaims claims = .error defect := by
  unfold ofClaims
  split
  next sound => cases sound.symm.trans found
  next other same => rw [Option.some.inj (same.symm.trans found)]

theorem hasDateForm_erase {other : String} (apart : other ≠ name) :
    HasDateForm (claims.erase name) other ↔ HasDateForm claims other := by
  rw [HasDateForm, HasDateForm, Claims.find?_erase, if_neg apart]

theorem hasAudienceForm_erase (dated : name ∈ Registered.dates) :
    HasAudienceForm (claims.erase name) ↔ HasAudienceForm claims := by
  have apart : Registered.audience ≠ name := by
    rintro rfl
    exact absurd dated (by decide)
  rw [HasAudienceForm, HasAudienceForm, Claims.find?_erase, if_neg apart]

/-- The form of a date stands by itself. -/
theorem hasForm_iff_erase (dated : name ∈ Registered.dates) :
    HasForm claims ↔ HasDateForm claims name ∧ HasForm (claims.erase name) := by
  constructor
  · intro form
    refine ⟨form.dates name dated, ?_, (hasAudienceForm_erase dated).mpr form.audience⟩
    intro other member
    by_cases same : other = name
    · left
      rw [Claims.find?_erase, if_pos same]
    · exact (hasDateForm_erase same).mpr (form.dates other member)
  · intro parts
    obtain ⟨own, others⟩ := parts
    refine ⟨?_, (hasAudienceForm_erase dated).mp others.audience⟩
    intro other member
    by_cases same : other = name
    · exact same ▸ own
    · exact (hasDateForm_erase same).mp (others.dates other member)

section

variable (found : claims.find? name = some (.number number))

include found

theorem hasDateForm_number_iff : HasDateForm claims name ↔ number.FitsInt64 := by
  rw [HasDateForm, found, Json.Number.fitsInt64_iff]
  simp only [reduceCtorEq, Option.some.injEq, Json.number.injEq, false_or, exists_eq_left']

theorem dateDefect?_number (outside : ¬ number.FitsInt64) :
    dateDefect? claims name = some (.notDate name (Json.number number).render) := by
  have node : claims.node? name = some (.number number) :=
    Claims.node?_eq_some_iff.mpr ⟨found, nofun⟩
  have truncated : (Json.number number).truncate? = none :=
    Json.Number.truncate?_eq_none_iff.mpr outside
  simp only [dateDefect?, node, truncated]

/-- A date out of range is what a payload is refused for, if nothing else is amiss. -/
theorem defect?_number (dated : name ∈ Registered.dates) (others : HasForm (claims.erase name))
    (outside : ¬ number.FitsInt64) :
    defect? claims = some (.notDate name (Json.number number).render) := by
  have own := dateDefect?_number found outside
  -- The other dates have their form, so that the first one refused can only be this one.
  have first : Registered.dates.findSome? (dateDefect? claims) =
      some (.notDate name (Json.number number).render) := by
    cases refused : Registered.dates.findSome? (dateDefect? claims) with
    | none => cases own.symm.trans (List.findSome?_eq_none_iff.mp refused name dated)
    | some defect =>
        obtain ⟨other, member, held⟩ := List.exists_of_findSome?_eq_some refused
        by_cases same : other = name
        · rw [← held, same, own]
        · have formed := (hasDateForm_erase same).mp (others.dates other member)
          cases held.symm.trans (dateDefect?_eq_none_iff.mpr formed)
  rw [defect?, first]

theorem exists_date_of_number {payload : Payload} (dated : name ∈ Registered.dates)
    (made : ofClaims claims = .ok payload) :
    ∃ second : Int64, second.toInt = towardZero number.value ∧
      payload.date name = some (.ofSeconds second) := by
  obtain rfl := ofClaims_eq_ok_iff.mp made
  obtain ⟨second, truncated⟩ := payload.exists_truncate? dated found nofun
  have same := Json.Number.toInt_of_truncate? truncated
  exact ⟨second, same, date_eq_some_iff_number.mpr ⟨number, found, same.symm⟩⟩

end

end Payload

/-!
## All readings
-/

/-- A number is truncated exactly where it is in the range of a signed word, and not at all
where it is not. A claim that holds it is read as that in 64 bits, in 32 bits and as an
instant, and a payload takes it for a date exactly if it can be read as one. -/
theorem Json.Number.truncates_exactly (number : Json.Number) :
    (∀ second, number.truncate? = some second ↔ second.toInt = towardZero number.value) ∧
    (number.truncate? = none ↔ ¬ number.FitsInt64) ∧
    (∃ least : Binary64, least.value = -2 ^ 63 ∧
      (Json.Number.float least).truncate? = some Int64.minValue) ∧
    ∀ (claims : Claims) (name : String), claims.find? name = some (.number number) →
      (claims.lookup name).wholeInt64 = .ok number.truncate? ∧
      (∀ half, (claims.lookup name).wholeInt32 = .ok (some half) ↔
        half.toInt = towardZero number.value) ∧
      ((claims.lookup name).wholeInt32 = .ok none ↔
        ¬ (-2 ^ 31 ≤ towardZero number.value ∧ towardZero number.value < 2 ^ 31)) ∧
      (claims.lookup name).instant = .ok (number.truncate?.map Instant.ofSeconds) ∧
      ∀ accessor, Payload.ReadsDate name accessor →
        ((∃ payload, Payload.ofClaims claims = .ok payload) ↔
          number.FitsInt64 ∧ Payload.HasForm (claims.erase name)) ∧
        (Payload.HasForm (claims.erase name) → ¬ number.FitsInt64 →
          Payload.ofClaims claims = .error (.notDate name (Json.number number).render)) ∧
        ∀ payload, Payload.ofClaims claims = .ok payload →
          ∃ second : Int64, second.toInt = towardZero number.value ∧
            accessor payload = some (.ofSeconds second) := by
  refine ⟨fun _ => truncate?_eq_some_iff, truncate?_eq_none_iff, ?_, ?_⟩
  · obtain ⟨least, value⟩ := Binary64.exists_value_eq_least
    refine ⟨least, value, truncate?_eq_some_iff.mpr ?_⟩
    have whole : (Json.Number.float least).value = (-2 ^ 63 : ℤ) := by
      exact_mod_cast value
    rw [whole, towardZero_intCast, Int64.toInt_minValue]
  · intro claims name found
    refine ⟨Claims.wholeInt64_number found, fun _ => Claims.wholeInt32_number_iff found,
      Claims.wholeInt32_number_eq_none_iff found, Claims.instant_number found, ?_⟩
    intro accessor reads
    have dated := reads.dated
    refine ⟨?_, fun others outside => ?_, fun payload made => ?_⟩
    · rw [Payload.exists_ofClaims_iff, Payload.hasForm_iff_erase dated,
        Payload.hasDateForm_number_iff found]
    · exact Payload.ofClaims_of_defect (Payload.defect?_number found dated others outside)
    · rw [reads.eq_date]
      exact Payload.exists_date_of_number found dated made

/-- The least word is a date, and the first integer past the greatest one is none. -/
theorem Json.Number.truncates_exactly_at_bounds :
    (∃ payload, Payload.ofClaims (Claims.empty.insert Registered.expiresAt
        (.number (.float ⟨true, 1086 * 2 ^ 52, by decide⟩))) = .ok payload ∧
      payload.expiresAt = some (.ofSeconds Int64.minValue)) ∧
    Payload.ofClaims (Claims.empty.insert Registered.expiresAt
        (.number (.integer (2 ^ 63) (by decide) (by decide)))) =
      .error (.notDate "exp" "9223372036854775808") := by
  have found (number : Json.Number) :
      (Claims.empty.insert Registered.expiresAt (.number number)).find? Registered.expiresAt =
        some (.number number) := by
    rw [Claims.find?_insert, if_pos rfl]
  have others (number : Json.Number) : Payload.HasForm
      ((Claims.empty.insert Registered.expiresAt (.number number)).erase Registered.expiresAt) :=
    Payload.defect?_eq_none_iff.mp rfl
  constructor
  · obtain ⟨truncated, -, -, read⟩ :=
      truncates_exactly (.float ⟨true, 1086 * 2 ^ 52, by decide⟩)
    obtain ⟨-, -, -, -, dates⟩ := read _ _ (found _)
    obtain ⟨made, -, date⟩ := dates _ .expiresAt
    have least := (truncated Int64.minValue).mp (by decide +kernel)
    have fits : (Json.Number.float ⟨true, 1086 * 2 ^ 52, by decide⟩).FitsInt64 := by
      rw [fitsInt64_iff, ← least]
      decide
    obtain ⟨payload, checked⟩ := made.mpr ⟨fits, others _⟩
    obtain ⟨second, same, held⟩ := date payload checked
    rw [← least, Int64.toInt_inj] at same
    exact ⟨payload, checked, same ▸ held⟩
  · obtain ⟨-, -, -, read⟩ := truncates_exactly (.integer (2 ^ 63) (by decide) (by decide))
    obtain ⟨-, -, -, -, dates⟩ := read _ _ (found _)
    refine (dates _ .expiresAt).2.1 (others _) fun fits => ?_
    exact absurd (fitsInt64_iff.mp fits).2 (by decide +kernel)

end WebToken
