import Mathlib.Data.List.Sort
import WebToken.Proofs.Base64Url.Spelling
import WebToken.Proofs.Token.Decoding
import WebToken.Proofs.Token.Drafting

/-!
# What the signed text tells

The text that is signed depends on what the edits of a draft write in the end, and on
nothing else of them: neither their order nor what was overwritten shows. Where no
number is a float, the text in turn determines the claims that were signed.
-/

set_option autoImplicit false

namespace WebToken

/-!
## Claims by name
-/

theorem Json.Members.mem_of_find? {name : String} {value : Json} {members : Members}
    (found : find? name members = some value) : (name, value) ∈ members := by
  induction members with
  | nil => cases found
  | cons head rest ih =>
      rw [find?] at found
      split at found
      next same =>
        rw [same, ← Option.some.inj found]
        exact List.mem_cons_self
      next => exact List.mem_cons_of_mem head (ih found)

/-- In order there is one way to list what is found under each name. -/
theorem Json.Members.eq_of_find? {left right : Members} (leftOrdered : left.Ordered)
    (rightOrdered : right.Ordered) (same : ∀ name, find? name left = find? name right) :
    left = right := by
  have irreflexive : Std.Irrefl fun earlier later : String × Json => earlier.1 < later.1 :=
    ⟨fun member => String.lt_irrefl member.1⟩
  have antisymmetric : Std.Antisymm fun earlier later : String × Json => earlier.1 < later.1 :=
    ⟨fun _ _ before after => absurd after (String.lt_asymm before)⟩
  refine leftOrdered.eq_of_mem_iff rightOrdered fun member => ⟨fun listed => ?_, fun listed => ?_⟩
  · exact mem_of_find? ((same member.1).symm.trans (find?_of_mem leftOrdered listed))
  · exact mem_of_find? ((same member.1).trans (find?_of_mem rightOrdered listed))

theorem Claims.eq_of_members {left right : Claims} (same : left.members = right.members) :
    left = right := by
  cases left
  cases right
  congr

theorem Claims.eq_of_find? {left right : Claims}
    (same : ∀ name, left.find? name = right.find? name) : left = right :=
  eq_of_members (Json.Members.eq_of_find? left.ordered right.ordered same)

theorem Claims.eq_of_render {left right : Claims} (leftPlain : left.toJson.IsPlain)
    (rightPlain : right.toJson.IsPlain) (same : left.render = right.render) : left = right := by
  apply eq_of_members
  have written := Json.eq_of_chars_eq leftPlain rightPlain (String.ofList_injective same)
  exact Json.object.inj written

namespace Draft

/-!
## What edits write in the end
-/

/-- What the last edit that writes or drops a claim leaves of it, if it is left at all.
An edit that is refused does neither. -/
def lastWrite (edits : List Edit) (part : Part) (name : String) : Option Json :=
  (edits.reverse.findSome? (Edit.saysOf part name)).join

/-- Two runs of edits write the same in the end. What is set as the algorithm does not
count, and a type that is not set counts as the one that is written for it. -/
structure SameWrites (edits others : List Edit) : Prop where
  header : ∀ name, name ≠ HeaderName.algorithm → name ≠ HeaderName.type →
    lastWrite edits .header name = lastWrite others .header name
  type : (lastWrite edits .header HeaderName.type).getD (.string "JWT") =
    (lastWrite others .header HeaderName.type).getD (.string "JWT")
  payload : ∀ name, lastWrite edits .payload name = lastWrite others .payload name

theorem find?_header (edits : List Edit) (name : String) :
    (new.editAll edits).header.find? name = lastWrite edits .header name :=
  find?_editAll edits .header name

theorem find?_payload (edits : List Edit) (name : String) :
    (new.editAll edits).payload.find? name = lastWrite edits .payload name :=
  find?_editAll edits .payload name

theorem find?_headerFor_type (edits : List Edit) (algorithm : Algorithm) :
    ((new.editAll edits).headerFor algorithm).find? HeaderName.type =
      some ((lastWrite edits .header HeaderName.type).getD (.string "JWT")) := by
  have apart : HeaderName.type ≠ HeaderName.algorithm := by decide
  rw [find?_headerFor, if_neg apart, find?_header]
  cases lastWrite edits .header HeaderName.type with
  | none => rfl
  | some value => rfl

theorem find?_headerFor_of_ne (edits : List Edit) (algorithm : Algorithm) {name : String}
    (unnamed : name ≠ HeaderName.algorithm) (untyped : name ≠ HeaderName.type) :
    ((new.editAll edits).headerFor algorithm).find? name = lastWrite edits .header name := by
  rw [find?_headerFor, if_neg unnamed, if_neg fun typed => untyped typed.1, find?_header]

/-- Edits write the same in the end exactly if the same claims are signed. -/
theorem sameWrites_iff {edits others : List Edit} (algorithm : Algorithm) :
    SameWrites edits others ↔
      (new.editAll edits).headerFor algorithm = (new.editAll others).headerFor algorithm ∧
        (new.editAll edits).payload = (new.editAll others).payload := by
  constructor
  · intro same
    obtain ⟨header, type, payload⟩ := same
    constructor
    · apply Claims.eq_of_find?
      intro name
      by_cases named : name = HeaderName.algorithm
      · rw [find?_headerFor, find?_headerFor, if_pos named, if_pos named]
      by_cases typed : name = HeaderName.type
      · rw [typed, find?_headerFor_type, find?_headerFor_type, type]
      · rw [find?_headerFor_of_ne edits algorithm named typed,
          find?_headerFor_of_ne others algorithm named typed, header name named typed]
    · apply Claims.eq_of_find?
      intro name
      rw [find?_payload, find?_payload, payload]
  · intro signed
    obtain ⟨header, payload⟩ := signed
    refine ⟨fun name named typed => ?_, ?_, fun name => ?_⟩
    · rw [← find?_headerFor_of_ne edits algorithm named typed, header,
        find?_headerFor_of_ne others algorithm named typed]
    · apply Option.some.inj
      rw [← find?_headerFor_type edits algorithm, header, find?_headerFor_type]
    · rw [← find?_payload, payload, find?_payload]

/-!
## The text that is signed
-/

theorem render_eq_of_signingInput {draft other : Draft} {algorithm : Algorithm}
    (same : draft.signingInput algorithm = other.signingInput algorithm) :
    (draft.headerFor algorithm).render = (other.headerFor algorithm).render ∧
      draft.payload.render = other.payload.render := by
  -- With an empty signature the two texts have three parts each, which are the same.
  have parts (draft : Draft) : Token.parts (draft.signingInput algorithm ++ "." ++ "") =
      [Base64Url.encode (Bytes.ofText (draft.headerFor algorithm).render),
        Base64Url.encode (Bytes.ofText draft.payload.render), ""] :=
    Token.parts_compact (Base64Url.dot_not_mem_encode _) (Base64Url.dot_not_mem_encode _)
      (by decide)
  have segments := parts draft
  rw [same, parts other] at segments
  obtain ⟨header, rest⟩ := List.cons.inj segments
  obtain ⟨payload, -⟩ := List.cons.inj rest
  exact ⟨(Bytes.ofText_injective (Base64Url.encode_injective header)).symm,
    (Bytes.ofText_injective (Base64Url.encode_injective payload)).symm⟩

/-- Only signatures on a curve come from the provider. -/
theorem signWith_eq_of_signingInput {draft other : Draft} {algorithm : Algorithm}
    (apart : ∀ scheme, algorithm ≠ .ecdsa scheme)
    (same : draft.signingInput algorithm = other.signingInput algorithm)
    (provider foreign : SigningProvider) :
    draft.signWith provider algorithm = other.signWith foreign algorithm := by
  have signature (input : Bytes) :
      algorithm.signWith provider input = algorithm.signWith foreign input := by
    cases algorithm with
    | none => rfl
    | hmac => rfl
    | rsa => rfl
    | ecdsa scheme => exact absurd rfl (apart scheme)
  rw [signWith, signWith, same, signature]

/-- The signed text depends on what the edits write in the end only, and so does the
token, with whatever providers, unless the signature is one on a curve. Without floats
the text determines the claims that are signed, with the algorithm and the type filled
in. -/
theorem signingInput_determines_claims (algorithm : Algorithm) (edits others : List Edit) :
    (SameWrites edits others →
      (new.editAll edits).signingInput algorithm = (new.editAll others).signingInput algorithm ∧
        ((∀ scheme, algorithm ≠ .ecdsa scheme) → ∀ provider foreign,
          (new.editAll edits).signWith provider algorithm =
            (new.editAll others).signWith foreign algorithm)) ∧
      ((∀ change ∈ edits ++ others, ∀ given ∈ change.values, given.IsPlain) →
        (new.editAll edits).signingInput algorithm = (new.editAll others).signingInput algorithm →
          (new.editAll edits).headerFor algorithm = (new.editAll others).headerFor algorithm ∧
            (new.editAll edits).payload = (new.editAll others).payload) := by
  constructor
  · intro same
    obtain ⟨header, payload⟩ := (sameWrites_iff algorithm).mp same
    have input : (new.editAll edits).signingInput algorithm =
        (new.editAll others).signingInput algorithm := by
      rw [signingInput, signingInput, header, payload]
    exact ⟨input, fun apart => signWith_eq_of_signingInput apart input⟩
  · intro plain same
    obtain ⟨here, there⟩ := List.forall_mem_append.mp plain
    obtain ⟨header, payload⟩ := render_eq_of_signingInput same
    exact ⟨Claims.eq_of_render (isPlain_headerFor algorithm here)
        (isPlain_headerFor algorithm there) header,
      Claims.eq_of_render (isPlain_payload here) (isPlain_payload there) payload⟩

theorem signingInput_determines_claims_of_reordered :
    (new.editAll [.audience ["api"], .headerClaim HeaderName.algorithm (.string "HS256"),
        .issuer "joe", .claim "n" (.ofInt64 7), .issuer "ann", .audience []]).sign .none =
      (new.editAll [.headerClaim HeaderName.type (.string "JWT"), .claim "iss" .null,
        .issuer "ann", .claim "n" (.ofInt64 7)]).sign .none ∧
    (new.editAll [.audience ["api"], .headerClaim HeaderName.algorithm (.string "HS256"),
        .issuer "joe", .claim "n" (.ofInt64 7), .issuer "ann", .audience []]).payload =
      (new.editAll [.headerClaim HeaderName.type (.string "JWT"), .claim "iss" .null,
        .issuer "ann", .claim "n" (.ofInt64 7)]).payload := by
  obtain ⟨depends, determines⟩ := signingInput_determines_claims .none
    [.audience ["api"], .headerClaim HeaderName.algorithm (.string "HS256"), .issuer "joe",
      .claim "n" (.ofInt64 7), .issuer "ann", .audience []]
    [.headerClaim HeaderName.type (.string "JWT"), .claim "iss" .null, .issuer "ann",
      .claim "n" (.ofInt64 7)]
  obtain ⟨input, token⟩ := depends ((sameWrites_iff .none).mpr ⟨rfl, rfl⟩)
  refine ⟨token nofun SigningProvider.own SigningProvider.own, (determines ?_ input).2⟩
  simp [Edit.values, Json.IsPlain, Json.IntegersOnly, Json.Ordered, Json.ofInt64,
    Json.Number.ofInt64]

end Draft

end WebToken
