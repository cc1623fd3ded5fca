import WebToken.Proofs.Json.Agreement
import WebToken.Proofs.Policy.Window
import WebToken.Proofs.Token.RoundTrip

/-!
# Verifying what was issued

A draft and a policy that are edited alike go together: what the policy expects in
the end, the draft holds. So the token that the draft is signed into passes the
verifier of the policy at every time, as no date claim is left to a window.
-/

set_option autoImplicit false

namespace WebToken

/-!
## Algorithms that accept their own signatures
-/

namespace Algorithm

/-- Whether the algorithm signs and verifies with the halves of a key pair. -/
def UsesKeyPair : Algorithm → Prop
  | .none => False
  | .hmac _ => False
  | .rsa _ => True
  | .ecdsa _ => True

/-- Every signature that the algorithm makes with a provider it also accepts. -/
def AcceptsOwnSignatures (provider : SigningProvider) (algorithm : Algorithm) : Prop :=
  ∀ input signature, algorithm.signWith provider input = .ok signature →
    (algorithm.verify input signature).outcome = .ok ()

/-- Of algorithms without a key pair nothing has to be assumed. -/
theorem acceptsOwnSignatures {provider : SigningProvider} {algorithm : Algorithm}
    (paired : algorithm.UsesKeyPair → algorithm.AcceptsOwnSignatures provider) :
    algorithm.AcceptsOwnSignatures provider := by
  cases algorithm with
  | none =>
      intro input signature made
      cases made
      rfl
  | hmac keyed =>
      intro input signature made
      cases made
      exact if_pos rfl
  | rsa scheme => exact paired trivial
  | ecdsa scheme => exact paired trivial

end Algorithm

/-!
## Expectations of a value
-/

theorem Lookup.ofNode_of_ne_null (name : String) {node : Json} (notNull : node ≠ .null) :
    ofNode name (some node) = .present name node := by
  cases node with
  | null => exact absurd rfl notNull
  | _ => rfl

theorem Requirement.check_of_metBy {requirement : Requirement} {token : Token} {node : Json}
    (found : requirement.claim token = .present requirement.name node)
    (met : requirement.expected.MetBy node) (nowMillis : Int) :
    requirement.check token nowMillis = .ok () := by
  unfold check
  rw [found]
  cases expects : requirement.expected with
  | value expected =>
      rw [expects] at met
      exact if_pos met
  | strings expected =>
      rw [expects] at met
      exact if_pos (beq_iff_eq.mpr met)
  | date expected =>
      rw [expects] at met
      exact if_pos (beq_iff_eq.mpr met)
  | window leeway =>
      rw [expects] at met
      exact met.elim
  | predicate accepts =>
      rw [expects] at met
      exact met.elim

/-- What is held under a name goes with what is expected of it. Nothing is expected
of a null. -/
inductive Answers : Option Json → Option Expectation → Prop
  | absent : Answers none none
  | null : Answers (some .null) none
  | met {value : Json} {expected : Expectation} (notNull : value ≠ .null)
      (met : expected.MetBy value) : Answers (some value) (some expected)

namespace Draft

/-!
## Edits of a draft as edits of a policy
-/

/-- The edit of a policy under the same name. Header claims have none, and neither
has an edit that the draft refuses. -/
def Edit.mirrored? : Edit → Option Policy.Edit
  | .headerClaim _ _ => none
  | .keyId value => some (.keyId value)
  | .issuer value => some (.issuer value)
  | .subject value => some (.subject value)
  | .audience [] => some (.waiveClaim Registered.audience)
  | .audience values => some (.audience values)
  | .expiresAt instant => some (.expiresAt instant)
  | .notBefore instant => some (.notBefore instant)
  | .issuedAt instant => some (.issuedAt instant)
  | .tokenId value => some (.tokenId value)
  | .claim name value => if nameError? name = none then some (.claim name value) else none
  | .dateClaim name instant =>
      if nameError? name = none then some (.dateClaim name instant) else none

theorem stringList?_strings (texts : List String) :
    (Json.array (texts.map .string)).stringList? = some texts := by
  change (texts.map Json.string).mapM Json.string? = some texts
  induction texts with
  | nil => rfl
  | cons text texts ih =>
      rw [List.map_cons, List.mapM_cons, ih]
      rfl

inductive Edit.IsMirrored : Edit → Option Policy.Edit → Prop
  | header (name : String) (value : Json) : IsMirrored (.headerClaim name value) none
  | refused {change : Edit} (idle : change.assignment? = none) : IsMirrored change none
  | alike {change : Edit} {mirrored : Policy.Edit} {part : Part} {name : String}
      {value : Option Json} {expected : Option Expectation}
      (assigned : change.assignment? = some (part, name, value))
      (asked : mirrored.assignment? = some (part, name, expected))
      (answers : Answers value expected) : IsMirrored change (some mirrored)

theorem answers_string (text : String) :
    Answers (some (.string text)) (some (.value (.string text))) :=
  .met nofun (Json.agrees_self (.string text))

theorem answers_date (second : Int64) : Answers (some (.ofInt64 second)) (some (.date second)) :=
  .met nofun (truncate?_ofInt64 second)

/-- An edit and its mirror image are about the same claim and go together. -/
theorem Edit.isMirrored (change : Edit) : change.IsMirrored change.mirrored? := by
  cases change with
  | headerClaim name value => exact .header name value
  | keyId value => exact .alike rfl rfl (answers_string value)
  | issuer value => exact .alike rfl rfl (answers_string value)
  | subject value => exact .alike rfl rfl (answers_string value)
  | audience values =>
      match values with
      | [] => exact .alike rfl rfl .absent
      | [single] => exact .alike rfl rfl (.met nofun rfl)
      | first :: second :: others =>
          exact .alike rfl rfl (.met nofun (stringList?_strings (first :: second :: others)))
  | expiresAt instant => exact .alike rfl rfl (answers_date instant.unixSeconds)
  | notBefore instant => exact .alike rfl rfl (answers_date instant.unixSeconds)
  | issuedAt instant => exact .alike rfl rfl (answers_date instant.unixSeconds)
  | tokenId value => exact .alike rfl rfl (answers_string value)
  | claim name value =>
      rw [Edit.mirrored?]
      by_cases accepted : nameError? name = none
      · rw [if_pos accepted]
        have assigned : Edit.assignment? (.claim name value) = some (.payload, name, some value) :=
          if_pos accepted
        cases value with
        | null => exact .alike assigned rfl .null
        | _ => exact .alike assigned rfl (.met nofun (Json.agrees_self _))
      · rw [if_neg accepted]
        exact .refused (if_neg accepted)
  | dateClaim name instant =>
      rw [Edit.mirrored?]
      by_cases accepted : nameError? name = none
      · rw [if_pos accepted]
        exact .alike (if_pos accepted) rfl (answers_date instant.unixSeconds)
      · rw [if_neg accepted]
        exact .refused (if_neg accepted)

/-- What an edit says of a claim goes with what its mirror image says of it. -/
theorem Edit.saysOf_mirrored? {change : Edit}
    (unkeyed : ∀ value, change ≠ .headerClaim HeaderName.keyId value) {part : Part} {name : String}
    (about : part = .header → name = HeaderName.keyId) :
    Option.Rel Answers (change.saysOf part name)
      (change.mirrored?.bind (Policy.Edit.saysOf part name)) := by
  have image := change.isMirrored
  unfold Edit.saysOf Policy.Edit.saysOf
  generalize change.mirrored? = mirrored at image ⊢
  cases image with
  | header other value =>
      have elsewhere : ¬(Part.header = part ∧ other = name) := by
        intro same
        obtain ⟨rfl, rfl⟩ := same
        exact unkeyed value (congrArg (Edit.headerClaim · value) (about rfl))
      simp only [Edit.assignment?, Option.bind_some, Option.bind_none, if_neg elsewhere]
      exact .none
  | refused idle =>
      rw [idle]
      exact .none
  | alike assigned asked answers =>
      simp only [assigned, asked, Option.bind_some]
      split
      next same => exact .some answers
      next other => exact .none

/-- After any run of edits each claim that is held goes with what the mirrored run
expects of it. -/
theorem answers_editAll {edits : List Edit}
    (unkeyed : ∀ value, Edit.headerClaim HeaderName.keyId value ∉ edits) {part : Part}
    {name : String} (about : part = .header → name = HeaderName.keyId) :
    Answers (((new.editAll edits).claims part).find? name)
      (Policy.expectedAfter (edits.filterMap Edit.mirrored?) part name) := by
  -- On the end of the run: the last edit decides what is held and what is expected alike.
  induction edits using List.reverseRecOn with
  | nil => cases part <;> exact .absent
  | append_singleton edits change ih =>
      have before := ih fun value member => unkeyed value (List.mem_append_left _ member)
      have unkeyedChange : ∀ value, change ≠ .headerClaim HeaderName.keyId value :=
        fun value same => unkeyed value (List.mem_append_right _ (same ▸ List.mem_singleton_self _))
      have said := Edit.saysOf_mirrored? unkeyedChange about
      have found : ((new.editAll (edits ++ [change])).claims part).find? name = _ :=
        (congrArg (fun draft => (draft.claims part).find? name)
          (editAll_append new edits [change])).trans (find?_edit _ change part name)
      rw [found, List.filterMap_append]
      cases mirrored : change.mirrored? with
      | none =>
          rw [mirrored, Option.bind_none] at said
          rw [List.filterMap_cons_none mirrored, List.filterMap_nil, List.append_nil]
          generalize change.saysOf part name = held at said ⊢
          cases said with
          | none => exact before
      | some image =>
          rw [mirrored, Option.bind_some] at said
          rw [List.filterMap_cons_some mirrored, List.filterMap_nil, Policy.expectedAfter_concat]
          generalize change.saysOf part name = held, image.saysOf part name = asked at said ⊢
          cases said with
          | none => exact before
          | some answers => exact answers

end Draft

/-!
## The mirrored policy
-/

namespace Policy

theorem Edit.saysOf_header {name : String} (other : name ≠ HeaderName.keyId) (change : Edit) :
    change.saysOf .header name = none := by
  cases change with
  | keyId value => exact if_neg fun same => other same.2.symm
  | claim name value => cases value <;> rfl
  | _ => rfl

/-- Nothing is ever expected of the header but of the key's identifier. -/
theorem expectedAfter_header {name : String} (other : name ≠ HeaderName.keyId)
    (edits : List Edit) : expectedAfter edits .header name = none := by
  have silent : edits.reverse.findSome? (Edit.saysOf .header name) = none :=
    List.findSome?_eq_none_iff.mpr fun change _ => Edit.saysOf_header other change
  rw [expectedAfter, silent]
  rfl

theorem mem_windowsAfter {edits : List Edit} {requirement : Requirement}
    (member : requirement ∈ windowsAfter edits) :
    ∃ name ∈ Registered.dates, expectedAfter edits .payload name = none ∧
      requirement = ⟨.payload, name, .window (leewayAfter edits name)⟩ := by
  obtain ⟨name, kept, rfl⟩ := List.mem_map.mp member
  obtain ⟨dated, windowed⟩ := List.mem_filter.mp kept
  obtain ⟨free, -⟩ := Bool.and_eq_true_iff.mp windowed
  exact ⟨name, dated, Option.isNone_iff_eq_none.mp free, rfl⟩

end Policy

namespace Draft

/-- The algorithm and the type apart, a claim is read as it was drafted. -/
theorem IsReadAs.claim_eq {draft : Draft} {algorithm : Algorithm} {signature : Bytes}
    {token : Token} (read : draft.IsReadAs algorithm signature token)
    {requirement : Requirement}
    (about : requirement.part = .header → requirement.name = HeaderName.keyId) :
    requirement.claim token =
      .ofNode requirement.name ((draft.claims requirement.part).find? requirement.name) := by
  unfold Requirement.claim
  cases part : requirement.part with
  | header =>
      have apart : HeaderName.keyId ≠ HeaderName.algorithm ∧
          HeaderName.keyId ≠ HeaderName.type := by decide
      simp only [Claims.lookup, read.header, find?_headerFor, about part, apart.1, apart.2,
        false_and, ↓reduceIte]
      rfl
  | payload =>
      simp only [Claims.lookup, read.payload]
      rfl

/-- A token meets what is expected of it by the mirrored run of edits. -/
theorem IsReadAs.check_of_expectedAfter {edits : List Edit} {algorithm : Algorithm}
    {signature : Bytes} {token : Token}
    (read : (new.editAll edits).IsReadAs algorithm signature token)
    (unkeyed : ∀ value, Edit.headerClaim HeaderName.keyId value ∉ edits)
    {requirement : Requirement}
    (expects : Policy.expectedAfter (edits.filterMap Edit.mirrored?) requirement.part
      requirement.name = some requirement.expected) (nowMillis : Int) :
    requirement.check token nowMillis = .ok () := by
  have about : requirement.part = .header → requirement.name = HeaderName.keyId := by
    intro part
    by_contra other
    rw [part, Policy.expectedAfter_header other] at expects
    cases expects
  have answers := answers_editAll unkeyed about
  rw [expects] at answers
  cases held : ((new.editAll edits).claims requirement.part).find? requirement.name with
  | none =>
      rw [held] at answers
      cases answers
  | some value =>
      rw [held] at answers
      cases answers with
      | met notNull met =>
          have found : requirement.claim token = .present requirement.name value := by
            rw [read.claim_eq about, held, Lookup.ofNode_of_ne_null _ notNull]
          exact Requirement.check_of_metBy found met nowMillis

/-- A date claim of which nothing is expected was not set, so that its window lets
it pass at every time. -/
theorem IsReadAs.check_window {edits : List Edit} {algorithm : Algorithm} {signature : Bytes}
    {token : Token} (read : (new.editAll edits).IsReadAs algorithm signature token)
    (unkeyed : ∀ value, Edit.headerClaim HeaderName.keyId value ∉ edits) {name : String}
    (dated : name ∈ Registered.dates)
    (free : Policy.expectedAfter (edits.filterMap Edit.mirrored?) .payload name = none)
    (leeway : UInt64) (now : Instant) :
    (⟨.payload, name, .window leeway⟩ : Requirement).check token now.unixMillis = .ok () := by
  have answers : Answers ((new.editAll edits).payload.find? name) _ :=
    answers_editAll unkeyed (fun header => nomatch (header : Part.payload = .header))
  rw [free] at answers
  refine (Requirement.check_window_eq_ok_iff dated leeway token now).mpr ?_
  unfold Requirement.PassesWindow
  rw [read.payload]
  cases held : (new.editAll edits).payload.find? name with
  | none => exact .inl rfl
  | some value =>
      rw [held] at answers
      cases answers
      exact .inr (.inl rfl)

theorem IsReadAs.algorithm {draft : Draft} {algorithm : Algorithm} {signature : Bytes}
    {token : Token} (read : draft.IsReadAs algorithm signature token) :
    token.header.algorithm = some algorithm.name := by
  rw [Header.algorithm, read.header, Claims.string?, find?_headerFor, if_pos rfl]
  rfl

/-- A signed draft is accepted at every time by the verifier of the policy that was
edited alike, and is read as it was drafted, whatever the provider of the signature
was. Only the key's identifier must not be set as a header claim, of which the policy
learns nothing. -/
theorem verify_mirrored (provider : SigningProvider) {algorithm : Algorithm} {edits : List Edit}
    {signature : Bytes} {text : String}
    (paired : algorithm.UsesKeyPair → algorithm.AcceptsOwnSignatures provider)
    (plain : ∀ change ∈ edits, ∀ given ∈ change.values, given.IsPlain)
    (unkeyed : ∀ value, Edit.headerClaim HeaderName.keyId value ∉ edits)
    (made : algorithm.signWith provider
      (Bytes.ofText ((new.editAll edits).signingInput algorithm)) = .ok signature)
    (signed : ((new.editAll edits).signWith provider algorithm).outcome = .ok text)
    (limits : (new.editAll edits).WithinLimits algorithm signature text) :
    ∃ token, token.header.claims = (new.editAll edits).headerFor algorithm ∧
      token.payload.claims = (new.editAll edits).payload ∧
      ∀ now, (((Policy.new algorithm).editAll (edits.filterMap Edit.mirrored?)).verifier.verify
        now text).outcome = .ok token := by
  obtain ⟨other, alsoMade, written⟩ := signWith_eq_ok_iff.mp signed
  obtain rfl : signature = other := Except.ok.inj (made.symm.trans alsoMade)
  obtain ⟨token, decoded⟩ := (exists_decode_iff edits algorithm written).mpr limits
  obtain ⟨-, read⟩ := (decode_eq_ok_iff algorithm plain written token).mp decoded
  have sameAlgorithm : ((Policy.new algorithm).editAll
      (edits.filterMap Edit.mirrored?)).verifier.algorithm = algorithm :=
    Policy.algorithm_editAll (Policy.new algorithm) _
  refine ⟨token, read.header, read.payload, fun now => Verifier.verify_eq_ok_iff.mpr ?_⟩
  rw [sameAlgorithm, read.signingInput, read.signature]
  refine ⟨decoded, read.algorithm, Algorithm.acceptsOwnSignatures paired _ signature made, ?_⟩
  intro requirement member
  rw [Policy.verifier, Policy.windowedRequirements_editAll] at member
  rcases List.mem_append.mp member with asked | windowed
  · have inForce := Policy.inForce_editAll algorithm (edits.filterMap Edit.mirrored?)
    exact read.check_of_expectedAfter unkeyed ((inForce.members requirement).mp asked) _
  · obtain ⟨name, dated, free, rfl⟩ := Policy.mem_windowsAfter windowed
    exact read.check_window unkeyed dated free _ now

/-- A claim that was asked for and then set to null is issued as null, and is asked for
no more. -/
theorem verify_mirrored_of_null :
    ∃ text token, ((new.editAll [.audience ["a", "b"], .keyId "k", .claim "n" (.bool true),
        .expiresAt ⟨1, 0, by decide⟩, .claim "n" .null, .audience []]).signWith
          SigningProvider.own (.hmac ⟨.sha256, [115], by decide⟩)).outcome = .ok text ∧
      token.payload.claims.find? "n" = some .null ∧
      ∀ now, (((Policy.new (.hmac ⟨.sha256, [115], by decide⟩)).editAll [.audience ["a", "b"],
        .keyId "k", .claim "n" (.bool true), .expiresAt ⟨1, 0, by decide⟩, .claim "n" .null,
        .waiveClaim Registered.audience]).verifier.verify now text).outcome = .ok token := by
  have plain : ∀ change ∈ ([.audience ["a", "b"], .keyId "k", .claim "n" (.bool true),
      .expiresAt ⟨1, 0, by decide⟩, .claim "n" .null, .audience []] : List Edit),
      ∀ given ∈ change.values, given.IsPlain := by
    simp [Edit.values, Json.IsPlain, Json.IntegersOnly, Json.Ordered]
  have unpaired : ¬Algorithm.UsesKeyPair (.hmac ⟨.sha256, [115], by decide⟩) := id
  obtain ⟨token, -, payload, accepted⟩ := verify_mirrored SigningProvider.own
    (fun paired => absurd paired unpaired) plain (by simp) rfl
    (signWith_eq_ok_iff.mpr ⟨_, rfl, rfl⟩)
    ⟨by decide +kernel, by decide +kernel, by decide +kernel, by decide +kernel,
      by decide +kernel⟩
  refine ⟨_, token, signWith_eq_ok_iff.mpr ⟨_, rfl, rfl⟩, ?_, accepted⟩
  rw [payload]
  rfl

end Draft

end WebToken
