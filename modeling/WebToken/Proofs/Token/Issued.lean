import WebToken.Proofs.Token.RoundTrip

/-!
# Registered claims of issued tokens

Whatever else a draft is given, its registered claims keep the form that decoding asks
of them, and each reads as its own setter was last called. Nothing is asked of the other
claims: the floats among them may be read as others, but registered claims have none.
-/

set_option autoImplicit false

namespace WebToken

namespace Draft

/-!
## Last calls
-/

/-- What a setter was last called with, if it was called at all. -/
inductive LastGiven {α : Type} (setter : α → Edit) : List Edit → Option α → Prop
  | never {edits : List Edit} (unused : ∀ given, setter given ∉ edits) :
      LastGiven setter edits none
  | last (before : List Edit) {given : α} {after : List Edit}
      (unused : ∀ other, setter other ∉ after) :
      LastGiven setter (before ++ setter given :: after) (some given)

section

variable {α : Type} {setter : α → Edit} {edits : List Edit} {given other : Option α}

open Classical in
theorem find?_reverse_eq_none (unused : ∀ given, setter given ∉ edits) :
    edits.reverse.find? (fun change => ∃ given, setter given = change) = none := by
  refine List.find?_eq_none.mpr fun change member called => ?_
  obtain ⟨given, rfl⟩ := of_decide_eq_true called
  exact unused given (List.mem_reverse.mp member)

open Classical in
theorem LastGiven.find?_reverse (last : LastGiven setter edits given) :
    edits.reverse.find? (fun change => ∃ given, setter given = change) = given.map setter := by
  cases last with
  | never unused => exact find?_reverse_eq_none unused
  | last before unused => simp [find?_reverse_eq_none unused]

/-- The last call is the only one that is last. -/
theorem LastGiven.unique (injective : Function.Injective setter)
    (first : LastGiven setter edits given) (second : LastGiven setter edits other) :
    given = other :=
  Option.map_injective injective (first.find?_reverse.symm.trans second.find?_reverse)

end

/-- What an audience is written as, if it is not dropped. -/
def audienceValue : List String → Option Json
  | [] => none
  | [single] => some (.string single)
  | several => some (.array (several.map .string))

theorem assignment?_audience (texts : List String) :
    (Edit.audience texts).assignment? =
      some (.payload, Registered.audience, audienceValue texts) := by
  match texts with
  | [] => rfl
  | [single] => rfl
  | first :: second :: others => rfl

/-- An edit is the setter that a registered claim has, whichever claim that is. -/
structure Edit.IsSetterOf (change : Edit) (name : String) : Prop where
  issuer : name = Registered.issuer → ∃ given, Edit.issuer given = change
  subject : name = Registered.subject → ∃ given, Edit.subject given = change
  audience : name = Registered.audience → ∃ given, Edit.audience given = change
  expiresAt : name = Registered.expiresAt → ∃ given, Edit.expiresAt given = change
  notBefore : name = Registered.notBefore → ∃ given, Edit.notBefore given = change
  issuedAt : name = Registered.issuedAt → ∃ given, Edit.issuedAt given = change
  tokenId : name = Registered.tokenId → ∃ given, Edit.tokenId given = change

/-- Only the setter of a registered claim says anything of it. -/
theorem Edit.isSetterOf_of_saysOf {change : Edit} {name : String} {value : Option Json}
    (registered : name ∈ Registered.names) (said : change.saysOf .payload name = some value) :
    change.IsSetterOf name := by
  have assigned := assignment?_of_saysOf said
  cases change with
  | headerClaim => cases assigned
  | keyId => cases assigned
  | claim other given =>
      obtain ⟨accepted, same⟩ := Option.ite_none_right_eq_some.mp assigned
      cases same
      exact absurd registered (not_registered accepted)
  | dateClaim other instant =>
      obtain ⟨accepted, same⟩ := Option.ite_none_right_eq_some.mp assigned
      cases same
      exact absurd registered (not_registered accepted)
  | audience texts =>
      rw [assignment?_audience] at assigned
      cases assigned
      constructor <;> intro same <;> first | exact ⟨_, rfl⟩ | exact absurd same (by decide)
  | _ =>
      cases assigned
      constructor <;> intro same <;> first | exact ⟨_, rfl⟩ | exact absurd same (by decide)

/-- A registered claim holds what its setter was last called with. -/
theorem exists_lastGiven {α : Type} {setter : α → Edit} {name : String} {written : α → Option Json}
    (assigns : ∀ given, (setter given).assignment? = some (.payload, name, written given))
    (own : ∀ change : Edit, change.IsSetterOf name → ∃ given, setter given = change)
    (registered : name ∈ Registered.names) (edits : List Edit) :
    ∃ given, LastGiven setter edits given ∧
      (new.editAll edits).payload.find? name = given.bind written := by
  have said (given : α) : (setter given).saysOf .payload name = some (written given) := by
    rw [Edit.saysOf, assigns]
    exact if_pos ⟨rfl, rfl⟩
  have held := find?_editAll edits .payload name
  cases asked : edits.reverse.findSome? (Edit.saysOf .payload name) with
  | none =>
      rw [asked] at held
      refine ⟨none, .never fun given member => ?_, held⟩
      have silent := List.findSome?_eq_none_iff.mp asked _ (List.mem_reverse.mpr member)
      cases (said given).symm.trans silent
  | some value =>
      rw [asked] at held
      obtain ⟨after, change, before, split, found, silent⟩ := List.findSome?_eq_some_iff.mp asked
      obtain ⟨given, rfl⟩ := own change (Edit.isSetterOf_of_saysOf registered found)
      cases found.symm.trans (said given)
      obtain rfl : edits = before.reverse ++ setter given :: after.reverse := by
        rw [← List.reverse_reverse edits, split]
        simp
      refine ⟨some given, .last _ fun other member => ?_, held⟩
      cases (said other).symm.trans (silent _ (List.mem_reverse.mp member))

/-!
## What is read
-/

/-- The registered claims that a payload reads as the setters were last called. No
audience is read if the last one given was empty. -/
structure IsIssued (edits : List Edit) (payload : Payload) : Prop where
  issuer : LastGiven .issuer edits payload.issuer
  subject : LastGiven .subject edits payload.subject
  tokenId : LastGiven .tokenId edits payload.tokenId
  audience : ∃ given, LastGiven .audience edits given ∧
    payload.audience = given.filter fun texts => texts ≠ []
  expiresAt : ∃ given, LastGiven .expiresAt edits given ∧
    payload.expiresAt = given.map fun instant => .ofSeconds instant.unixSeconds
  notBefore : ∃ given, LastGiven .notBefore edits given ∧
    payload.notBefore = given.map fun instant => .ofSeconds instant.unixSeconds
  issuedAt : ∃ given, LastGiven .issuedAt edits given ∧
    payload.issuedAt = given.map fun instant => .ofSeconds instant.unixSeconds

section

variable {edits : List Edit} {payload : Payload} {name : String}
  (same : ∀ name ∈ Registered.names,
    payload.claims.find? name = (new.editAll edits).payload.find? name)

include same

theorem lastGiven_string? {setter : String → Edit}
    (assigns : ∀ text, (setter text).assignment? = some (.payload, name, some (.string text)))
    (own : ∀ change : Edit, change.IsSetterOf name → ∃ given, setter given = change)
    (registered : name ∈ Registered.names) :
    LastGiven setter edits (payload.claims.string? name) := by
  obtain ⟨given, last, held⟩ := exists_lastGiven assigns own registered edits
  have read : payload.claims.string? name = given := by
    rw [Claims.string?, same name registered, held]
    cases given <;> rfl
  exact read ▸ last

theorem exists_lastGiven_date {setter : Instant → Edit}
    (assigns : ∀ instant, (setter instant).assignment? =
      some (.payload, name, some (.ofInt64 instant.unixSeconds)))
    (own : ∀ change : Edit, change.IsSetterOf name → ∃ given, setter given = change)
    (registered : name ∈ Registered.names) :
    ∃ given, LastGiven setter edits given ∧
      payload.date name = given.map fun instant => .ofSeconds instant.unixSeconds := by
  obtain ⟨given, last, held⟩ := exists_lastGiven assigns own registered edits
  refine ⟨given, last, ?_⟩
  rw [Payload.date, Claims.node?, same name registered, held]
  cases given with
  | none => rfl
  | some instant =>
      change ((Json.ofInt64 instant.unixSeconds).truncate?).map Instant.ofSeconds = _
      rw [truncate?_ofInt64]
      rfl

theorem exists_lastGiven_audience :
    ∃ given, LastGiven .audience edits given ∧
      payload.audience = given.filter fun texts => texts ≠ [] := by
  have registered : Registered.audience ∈ Registered.names := by decide
  obtain ⟨given, last, held⟩ := exists_lastGiven assignment?_audience
    (fun _ setter => setter.audience rfl) registered edits
  have listed (texts : List String) : (texts.map Json.string).filterMap Json.string? = texts := by
    rw [List.filterMap_map]
    exact List.filterMap_some
  refine ⟨given, last, ?_⟩
  rw [Payload.audience, Claims.node?, same _ registered, held]
  match given with
  | none => rfl
  | some [] => rfl
  | some [single] => rfl
  | some (first :: second :: others) => exact congrArg some (listed (first :: second :: others))

theorem isIssued_of_find? : IsIssued edits payload where
  issuer := lastGiven_string? same (fun _ => rfl) (fun _ setter => setter.issuer rfl) (by decide)
  subject := lastGiven_string? same (fun _ => rfl) (fun _ setter => setter.subject rfl) (by decide)
  tokenId := lastGiven_string? same (fun _ => rfl) (fun _ setter => setter.tokenId rfl) (by decide)
  audience := exists_lastGiven_audience same
  expiresAt := exists_lastGiven_date same (fun _ => rfl) (fun _ setter => setter.expiresAt rfl)
    (by decide)
  notBefore := exists_lastGiven_date same (fun _ => rfl) (fun _ setter => setter.notBefore rfl)
    (by decide)
  issuedAt := exists_lastGiven_date same (fun _ => rfl) (fun _ setter => setter.issuedAt rfl)
    (by decide)

end

/-!
## Issued tokens
-/

theorem setClaim_refused_iff (draft : Draft) (name : String) (value : Json) :
    (∃ error, draft.setClaim name value = .error error) ↔
      name ∈ ["", "iss", "sub", "aud", "exp", "nbf", "iat", "jti"] := by
  change _ ↔ name ∈ "" :: Registered.names
  rw [← not_iff_not, ← nameError?_eq_none_iff, setClaim]
  cases nameError? name with
  | none => simp
  | some error => simp

theorem edit_of_refused {draft : Draft} {change : Edit} {error : ArgumentError}
    (refused : draft.apply change = .error error) : draft.edit change = draft := by
  rw [edit, refused]

/-- The registered claims of a draft pass the checks of a payload after any edits, and a
claim is refused under their names and the empty one, and under no other name, which
leaves the draft as it was. A token that was signed, with whatever provider, is decoded
within the limits, and its registered claims are then read as their setters were last
called. -/
theorem isIssued_of_sign (edits : List Edit) :
    (∃ payload, Payload.ofClaims (new.editAll edits).payload = .ok payload) ∧
      (∀ (draft : Draft) (name : String) (value : Json) (instant : Instant),
        ((∃ error, draft.apply (.claim name value) = .error error) ↔
          name ∈ ["", "iss", "sub", "aud", "exp", "nbf", "iat", "jti"]) ∧
        ((∃ error, draft.apply (.dateClaim name instant) = .error error) ↔
          name ∈ ["", "iss", "sub", "aud", "exp", "nbf", "iat", "jti"])) ∧
      (∀ (draft : Draft) (change : Edit) (error : ArgumentError),
        draft.apply change = .error error → draft.edit change = draft) ∧
      ∀ (provider : SigningProvider) (algorithm : Algorithm) (text : String),
        ((new.editAll edits).signWith provider algorithm).outcome = .ok text → ∃ signature,
          algorithm.signWith provider
            (Bytes.ofText ((new.editAll edits).signingInput algorithm)) = .ok signature ∧
          ((∃ token, Token.decode text = .ok token) ↔
            (new.editAll edits).WithinLimits algorithm signature text) ∧
          ∀ token, Token.decode text = .ok token → IsIssued edits token.payload := by
  refine ⟨⟨⟨_, defect?_editAll edits⟩, Payload.ofClaims_eq_ok_iff.mpr rfl⟩, ?_,
    fun draft change error => edit_of_refused, ?_⟩
  · intro draft name value instant
    exact ⟨setClaim_refused_iff draft name value, setClaim_refused_iff draft name _⟩
  · intro provider algorithm text signed
    obtain ⟨signature, made, written⟩ := signWith_eq_ok_iff.mp signed
    refine ⟨signature, made, exists_decode_iff edits algorithm written, fun token decoded => ?_⟩
    obtain ⟨-, -, payload, -⟩ := (decode_eq_ok_iff_reread algorithm written token).mp decoded
    refine isIssued_of_find? fun name registered => ?_
    rw [payload, find?_reread_of_registered edits registered]

theorem isIssued_of_sign_of_overwritten :
    ∃ token, Token.decode
        "eyJhbGciOiJub25lIiwidHlwIjoiSldUIn0.eyJpc3MiOiJhbm4iLCJuIjowLjMzMzMzMzMzMzMzMzMzMzN9."
          = .ok token ∧
      token.payload.issuer = some "ann" ∧ token.payload.audience = none := by
  obtain ⟨-, -, -, issued⟩ := isIssued_of_sign [.audience ["api", "web"], .issuer "joe",
    .claim "iss" (.string "eve"), .issuer "ann", .audience [],
    .claim "n" (.number (.float (.ofRatio 1 3)))]
  obtain ⟨signature, made, decodes, reads⟩ := issued SigningProvider.own .none
    "eyJhbGciOiJub25lIiwidHlwIjoiSldUIn0.eyJpc3MiOiJhbm4iLCJuIjowLjMzMzMzMzMzMzMzMzMzMzN9."
    (signWith_eq_ok_iff.mpr ⟨[], rfl, by decide +kernel⟩)
  obtain rfl : [] = signature := Except.ok.inj made
  obtain ⟨token, decoded⟩ := decodes.mpr
    ⟨by decide +kernel, by decide +kernel, by decide, by decide +kernel, by decide +kernel⟩
  have read := reads token decoded
  have issuer : token.payload.issuer = some "ann" :=
    read.issuer.unique (fun _ _ => Edit.issuer.inj)
      (.last [.audience ["api", "web"], .issuer "joe", .claim "iss" (.string "eve")] (by simp))
  obtain ⟨given, last, audience⟩ := read.audience
  have dropped : given = some [] :=
    last.unique (fun _ _ => Edit.audience.inj)
      (.last [.audience ["api", "web"], .issuer "joe", .claim "iss" (.string "eve"),
        .issuer "ann"] (by simp))
  subst dropped
  exact ⟨token, decoded, issuer, audience⟩

end Draft

end WebToken
