import WebToken.Proofs.Policy.Downgrade
import WebToken.Proofs.Policy.Mirror
import WebToken.Proofs.Token.Registered

/-!
# Requirements and readings of registered claims

What is required of a registered claim and what is read from it are two ways of looking
at one value. They come to the same: a requirement is met exactly where the claim reads
as what is required. For the audience this needs the form that a payload has, since an
item of another type would be passed over by the one and refused by the other.
-/

set_option autoImplicit false

namespace WebToken

/-!
## Readings
-/

theorem Json.agrees_string_iff {node : Json} {text : String} :
    node.agrees (.string text) = true ↔ node = .string text := by
  cases node with
  | string held => simp [agrees, same]
  | _ => simp [agrees, same]

theorem Instant.ofSeconds_inj {second other : Int64} :
    ofSeconds second = ofSeconds other ↔ second = other := by
  simp only [ofSeconds, Instant.mk.injEq, and_true]

namespace Claims

variable {claims : Claims} {name : String}

theorem lookup_of_node? {node : Json} (found : claims.node? name = some node) :
    claims.lookup name = .present name node := by
  obtain ⟨held, notNull⟩ := node?_eq_some_iff.mp found
  rw [lookup, held, Lookup.ofNode_of_ne_null name notNull]

theorem lookup_of_node?_eq_none (skipped : claims.node? name = none) :
    claims.lookup name = .missing name ∨ claims.lookup name = .null name := by
  unfold lookup
  cases node?_eq_none_iff.mp skipped with
  | inl absent =>
      rw [absent]
      exact .inl rfl
  | inr null =>
      rw [null]
      exact .inr rfl

/-- A value is required of the claim as it is read when absent and null are one. -/
theorem checkValue_eq_ok_iff {isMatch : Json → Bool} :
    Requirement.checkValue (claims.lookup name) isMatch = .ok () ↔
      ∃ node, claims.node? name = some node ∧ isMatch node = true := by
  cases found : claims.node? name with
  | none =>
      have refused : Requirement.checkValue (claims.lookup name) isMatch ≠ .ok () := by
        cases lookup_of_node?_eq_none found with
        | inl missing =>
            rw [missing]
            exact nofun
        | inr null =>
            rw [null]
            exact nofun
      exact ⟨fun passed => absurd passed refused, nofun⟩
  | some node =>
      rw [lookup_of_node? found, Requirement.checkValue]
      simp only [Option.some.injEq, exists_eq_left']
      cases isMatch node <;> simp

theorem checkValue_string_iff {text : String} :
    Requirement.checkValue (claims.lookup name) (fun node => node.agrees (.string text)) = .ok () ↔
      claims.string? name = some text := by
  rw [checkValue_eq_ok_iff, string?_eq_some_iff]
  constructor
  · intro passed
    obtain ⟨node, found, agrees⟩ := passed
    rw [Json.agrees_string_iff.mp agrees] at found
    exact (node?_eq_some_iff.mp found).1
  · intro held
    exact ⟨_, node?_eq_some_iff.mpr ⟨held, nofun⟩, Json.agrees_self (.string text)⟩

theorem instant_lookup_iff {instant : Instant} :
    (claims.lookup name).instant = .ok (some instant) ↔
      ((claims.node? name).bind Json.truncate?).map Instant.ofSeconds = some instant := by
  cases found : claims.node? name with
  | none =>
      cases lookup_of_node?_eq_none found with
      | inl missing =>
          rw [missing]
          exact ⟨nofun, nofun⟩
      | inr null =>
          rw [null]
          exact ⟨nofun, nofun⟩
  | some node =>
      rw [lookup_of_node? found, Lookup.instant, Lookup.readAs, Except.ok.injEq]
      exact Iff.rfl

end Claims

namespace Payload

variable {payload : Payload}

theorem audience_form {node : Json}
    (found : payload.claims.node? Registered.audience = some node) :
    (∃ text, node = .string text) ∨ ∃ texts : List String, node = .array (texts.map .string) := by
  obtain ⟨held, notNull⟩ := Claims.node?_eq_some_iff.mp found
  have form := (defect?_eq_none_iff.mp payload.sound).audience
  rw [HasAudienceForm, held] at form
  rcases form with absent | null | ⟨text, one⟩ | ⟨texts, several⟩
  · cases absent
  · exact absurd (Option.some.inj null) notNull
  · exact .inl ⟨text, Option.some.inj one⟩
  · exact .inr ⟨texts, Option.some.inj several⟩

/-- The audience is the claim as a list of texts. No item is passed over, as a payload
with an item of another type is refused. -/
theorem audience_eq (payload : Payload) :
    payload.audience = (payload.claims.node? Registered.audience).bind Json.stringList? := by
  unfold audience
  cases found : payload.claims.node? Registered.audience with
  | none => rfl
  | some node =>
      rcases audience_form found with ⟨text, rfl⟩ | ⟨texts, rfl⟩
      · rfl
      · rw [Option.bind_some, Option.bind_some, Draft.stringList?_strings]
        simp only [List.filterMap_map, Function.comp_def, Json.string?, List.filterMap_some]

theorem checkValue_audience_iff {texts : List String} :
    Requirement.checkValue (payload.claims.lookup Registered.audience)
        (fun node => node.stringList? == some texts) = .ok () ↔
      payload.audience = some texts := by
  rw [Claims.checkValue_eq_ok_iff, audience_eq, Option.bind_eq_some_iff]
  simp only [beq_iff_eq]

/-- An audience is written as the list of its texts, or as a text that is alone. -/
theorem audience_eq_some_iff {texts : List String} :
    payload.audience = some texts ↔
      payload.claims.find? Registered.audience = some (.array (texts.map .string)) ∨
        ∃ text, texts = [text] ∧
          payload.claims.find? Registered.audience = some (.string text) := by
  rw [audience_eq, Option.bind_eq_some_iff]
  constructor
  · intro read
    obtain ⟨node, found, listed⟩ := read
    have held := (Claims.node?_eq_some_iff.mp found).1
    rcases audience_form found with ⟨text, rfl⟩ | ⟨written, rfl⟩
    · exact .inr ⟨text, (Option.some.inj listed).symm, held⟩
    · rw [Draft.stringList?_strings] at listed
      cases listed
      exact .inl held
  · intro written
    rcases written with several | ⟨text, rfl, one⟩
    · exact ⟨_, Claims.node?_eq_some_iff.mpr ⟨several, nofun⟩, Draft.stringList?_strings texts⟩
    · exact ⟨_, Claims.node?_eq_some_iff.mpr ⟨one, nofun⟩, rfl⟩

theorem date_eq_some_iff {name : String} {second : Int64} :
    payload.date name = some (.ofSeconds second) ↔
      (payload.claims.node? name).bind Json.truncate? = some second := by
  unfold date
  cases (payload.claims.node? name).bind Json.truncate? with
  | none => exact ⟨nofun, nofun⟩
  | some held => simp only [Option.map_some, Option.some.injEq, Instant.ofSeconds_inj]

theorem checkValue_date_iff {name : String} {second : Int64} :
    Requirement.checkValue (payload.claims.lookup name)
        (fun node => node.truncate? == some second) = .ok () ↔
      payload.date name = some (.ofSeconds second) := by
  rw [Claims.checkValue_eq_ok_iff, date_eq_some_iff, Option.bind_eq_some_iff]
  simp only [beq_iff_eq]

/-- A date is read from any number that truncates to its second, however the number is
written. -/
theorem date_eq_some_iff_number {name : String} {second : Int64} :
    payload.date name = some (.ofSeconds second) ↔
      ∃ number, payload.claims.find? name = some (.number number) ∧
        towardZero number.value = second.toInt := by
  rw [date_eq_some_iff, Option.bind_eq_some_iff]
  constructor
  · intro read
    obtain ⟨node, found, truncated⟩ := read
    obtain ⟨number, rfl, same⟩ := Json.exists_number_of_truncate? truncated
    exact ⟨number, (Claims.node?_eq_some_iff.mp found).1, same.symm⟩
  · intro written
    obtain ⟨number, held, same⟩ := written
    have truncated := Json.Number.truncate?_eq_some_iff.mpr same.symm
    exact ⟨_, Claims.node?_eq_some_iff.mpr ⟨held, nofun⟩, truncated⟩

end Payload

/-!
## Requirements
-/

namespace Policy

/-- The requirement that an edit puts in force. -/
def Edit.requirement? (change : Edit) : Option Requirement :=
  change.assignment?.bind fun assignment =>
    assignment.2.2.map fun expected => ⟨assignment.1, assignment.2.1, expected⟩

/-- A token passes the check that an edit asks for. -/
def Edit.Passes (change : Edit) (token : Token) (nowMillis : Int) : Prop :=
  ∃ requirement, change.requirement? = some requirement ∧
    requirement.check token nowMillis = .ok ()

theorem Edit.passes_iff {change : Edit} {requirement : Requirement}
    (asks : change.requirement? = some requirement) {token : Token} {nowMillis : Int} :
    change.Passes token nowMillis ↔ requirement.check token nowMillis = .ok () := by
  constructor
  · intro passes
    obtain ⟨asked, same, passed⟩ := passes
    rw [asks] at same
    cases same
    exact passed
  · intro passed
    exact ⟨requirement, asks, passed⟩

section

variable {change : Edit} {token : Token} {nowMillis : Int}

theorem Edit.passes_string_iff {name text : String}
    (asks : change.requirement? = some ⟨.payload, name, .value (.string text)⟩) :
    change.Passes token nowMillis ↔ token.payload.claims.string? name = some text :=
  (passes_iff asks).trans Claims.checkValue_string_iff

theorem Edit.passes_header_string_iff {name text : String}
    (asks : change.requirement? = some ⟨.header, name, .value (.string text)⟩) :
    change.Passes token nowMillis ↔ token.header.claims.string? name = some text :=
  (passes_iff asks).trans Claims.checkValue_string_iff

theorem Edit.passes_audience_iff {texts : List String}
    (asks : change.requirement? = some ⟨.payload, Registered.audience, .strings texts⟩) :
    change.Passes token nowMillis ↔ token.payload.audience = some texts :=
  (passes_iff asks).trans Payload.checkValue_audience_iff

theorem Edit.passes_date_iff {name : String} {second : Int64}
    (asks : change.requirement? = some ⟨.payload, name, .date second⟩) :
    change.Passes token nowMillis ↔ token.payload.date name = some (.ofSeconds second) :=
  (passes_iff asks).trans Payload.checkValue_date_iff

end

theorem Edit.saysOf_requirement {change : Edit} {requirement : Requirement}
    (asks : change.requirement? = some requirement) :
    change.saysOf requirement.part requirement.name = some (some requirement.expected) := by
  obtain ⟨⟨part, name, expected⟩, assigned, same⟩ := Option.bind_eq_some_iff.mp asks
  obtain ⟨asked, rfl, rfl⟩ := Option.map_eq_some_iff.mp same
  rw [saysOf, assigned]
  exact if_pos ⟨rfl, rfl⟩

/-- After an edit the check of its claim is the one that it asks for. -/
theorem mem_verifier_iff (algorithm : Algorithm) (edits : List Edit) {change : Edit}
    {requirement : Requirement} (asks : change.requirement? = some requirement)
    {other : Requirement} :
    other ∈ ((new algorithm).editAll (edits ++ [change])).verifier.requirements ∧
        other.about = requirement.about ↔
      other = requirement := by
  have inForce := inForce_editAll algorithm (edits ++ [change])
  have expected : expectedAfter (edits ++ [change]) requirement.part requirement.name =
      some requirement.expected := by
    rw [expectedAfter_concat, Edit.saysOf_requirement asks, Option.getD_some]
  have checks : ((new algorithm).editAll (edits ++ [change])).verifier.requirements =
      ((new algorithm).editAll (edits ++ [change])).requirements ++
        windowsAfter (edits ++ [change]) := windowedRequirements_editAll algorithm _
  rw [checks, List.mem_append]
  constructor
  · intro checked
    obtain ⟨member, about⟩ := checked
    obtain ⟨part, name⟩ := Prod.mk.inj about
    cases member with
    | inl asked =>
        have found := (inForce.members other).mp asked
        rw [part, name, expected] at found
        obtain ⟨otherPart, otherName, otherExpected⟩ := other
        cases part
        cases name
        cases found
        rfl
    | inr window =>
        obtain ⟨dated, -, free, rfl⟩ := mem_windowsAfter window
        rw [← part, ← name, free] at expected
        cases expected
  · intro same
    rw [same]
    exact ⟨.inl ((inForce.members requirement).mpr expected), rfl⟩

/-- The check that an edit asks for stands alone for its claim. For the registered
claims a token passes it exactly if the claim reads as what was asked. An audience reads
the same from a list and from one text, and a date from every number that truncates to
its second. -/
theorem passes_iff_reading (token : Token) (nowMillis : Int) :
    (∀ algorithm edits change requirement, Edit.requirement? change = some requirement →
      ∀ other, other ∈ ((new algorithm).editAll (edits ++ [change])).verifier.requirements ∧
        other.about = requirement.about ↔ other = requirement) ∧
    (∀ text, (Edit.issuer text).Passes token nowMillis ↔ token.payload.issuer = some text) ∧
    (∀ text, (Edit.subject text).Passes token nowMillis ↔ token.payload.subject = some text) ∧
    (∀ text, (Edit.tokenId text).Passes token nowMillis ↔ token.payload.tokenId = some text) ∧
    (∀ text, (Edit.keyId text).Passes token nowMillis ↔ token.header.keyId = some text) ∧
    (∀ texts, (Edit.audience texts).Passes token nowMillis ↔
      token.payload.audience = some texts) ∧
    (∀ texts, token.payload.audience = some texts ↔
      token.payload.claims.find? Registered.audience = some (.array (texts.map .string)) ∨
        ∃ text, texts = [text] ∧
          token.payload.claims.find? Registered.audience = some (.string text)) ∧
    (∀ instant, (Edit.expiresAt instant).Passes token nowMillis ↔
      token.payload.expiresAt = some (.ofSeconds instant.unixSeconds)) ∧
    (∀ instant, (Edit.notBefore instant).Passes token nowMillis ↔
      token.payload.notBefore = some (.ofSeconds instant.unixSeconds)) ∧
    (∀ instant, (Edit.issuedAt instant).Passes token nowMillis ↔
      token.payload.issuedAt = some (.ofSeconds instant.unixSeconds)) ∧
    (∀ name instant, token.payload.date name = some instant ↔
      (token.payload.claims.lookup name).instant = .ok (some instant)) ∧
    ∀ name second, token.payload.date name = some (.ofSeconds second) ↔
      ∃ number, token.payload.claims.find? name = some (.number number) ∧
        towardZero number.value = second.toInt := by
  refine ⟨?_, ?_, ?_, ?_, ?_, ?_, ?_, ?_, ?_, ?_, ?_, ?_⟩
  · intro algorithm edits change requirement asks other
    exact mem_verifier_iff algorithm edits asks
  · intro text
    exact Edit.passes_string_iff rfl
  · intro text
    exact Edit.passes_string_iff rfl
  · intro text
    exact Edit.passes_string_iff rfl
  · intro text
    exact Edit.passes_header_string_iff rfl
  · intro texts
    exact Edit.passes_audience_iff rfl
  · intro texts
    exact Payload.audience_eq_some_iff
  · intro instant
    exact Edit.passes_date_iff rfl
  · intro instant
    exact Edit.passes_date_iff rfl
  · intro instant
    exact Edit.passes_date_iff rfl
  · intro name instant
    exact Claims.instant_lookup_iff.symm
  · intro name second
    exact Payload.date_eq_some_iff_number

end Policy

end WebToken
