import WebToken.Proofs.Token.Decoding
import WebToken.Proofs.Token.Drafting
import WebToken.Proofs.Token.Segments

/-!
# Decoding what was signed

A signed draft is taken apart again exactly if it is within the limits of
decoding. Signing checks none of them, so that a draft may be signed into a text
that is then refused.
-/

set_option autoImplicit false

namespace WebToken

namespace Draft

theorem signWith_eq_ok_iff {provider : SigningProvider} {draft : Draft} {algorithm : Algorithm}
    {text : String} :
    (draft.signWith provider algorithm).outcome = .ok text ↔ ∃ signature,
      algorithm.signWith provider (Bytes.ofText (draft.signingInput algorithm)) =
          .ok signature ∧
        text = draft.signingInput algorithm ++ "." ++ Base64Url.encode signature := by
  unfold signWith
  cases signed : algorithm.signWith provider (Bytes.ofText (draft.signingInput algorithm)) with
  | error error =>
      simp only [signed]
      refine ⟨nofun, ?_⟩
      intro signing
      obtain ⟨signature, made, -⟩ := signing
      cases made
  | ok made =>
      simp only [signed]
      constructor
      · intro written
        exact ⟨made, rfl, (Except.ok.inj written).symm⟩
      · intro signing
        obtain ⟨signature, same, rfl⟩ := signing
        rw [Except.ok.inj same]

/-- What decoding accepts of a signed draft. The size of the payload is bounded by
that of the whole text. -/
structure WithinLimits (draft : Draft) (algorithm : Algorithm) (signature : Bytes)
    (text : String) : Prop where
  textSize : text.utf8ByteSize ≤ 65536
  headerSize : (draft.headerFor algorithm).render.utf8ByteSize ≤ 8192
  signatureSize : signature.length ≤ 1024
  headerNesting : (draft.headerFor algorithm).toJson.nesting ≤ 127
  payloadNesting : draft.payload.toJson.nesting ≤ 127

theorem payloadSize_le {draft : Draft} {algorithm : Algorithm} {signature : Bytes} {text : String}
    (written : text = draft.signingInput algorithm ++ "." ++ Base64Url.encode signature)
    (short : text.utf8ByteSize ≤ 65536) :
    draft.payload.render.utf8ByteSize ≤ Limits.payload := by
  rw [written, signingInput] at short
  rw [← Bytes.length_ofText]
  exact Token.payload_length_le short

/-- A token is a signed draft taken apart. -/
structure IsReadAs (draft : Draft) (algorithm : Algorithm) (signature : Bytes) (token : Token) :
    Prop where
  header : token.header.claims = draft.headerFor algorithm
  payload : token.payload.claims = draft.payload
  headerSegment : token.headerSegment =
    Base64Url.encode (Bytes.ofText (draft.headerFor algorithm).render)
  payloadSegment : token.payloadSegment = Base64Url.encode (Bytes.ofText draft.payload.render)
  signatureSegment : token.signatureSegment = Base64Url.encode signature
  signature : token.signature = signature

theorem IsReadAs.signingInput {draft : Draft} {algorithm : Algorithm} {signature : Bytes}
    {token : Token} (read : draft.IsReadAs algorithm signature token) :
    token.signingInput = draft.signingInput algorithm := by
  rw [Token.signingInput_eq, read.headerSegment, read.payloadSegment, Draft.signingInput]

/-- A signed draft is taken apart within the limits only, and into what its claims are
read as. -/
theorem decode_eq_ok_iff_reread {draft : Draft} (algorithm : Algorithm) {signature : Bytes}
    {text : String}
    (written : text = draft.signingInput algorithm ++ "." ++ Base64Url.encode signature)
    (token : Token) :
    Token.decode text = .ok token ↔ draft.WithinLimits algorithm signature text ∧
      token.header.claims = (draft.headerFor algorithm).reread ∧
      token.payload.claims = draft.payload.reread ∧ token.signature = signature ∧
      token.headerSegment = Base64Url.encode (Bytes.ofText (draft.headerFor algorithm).render) ∧
      token.payloadSegment = Base64Url.encode (Bytes.ofText draft.payload.render) ∧
      token.signatureSegment = Base64Url.encode signature := by
  rw [Token.decode_encode_eq_ok_iff written]
  constructor
  · intro conditions
    obtain ⟨textSize, ⟨headerSize, headerNesting, header⟩, ⟨-, payloadNesting, payload⟩,
      ⟨signatureSize, same⟩, segments⟩ := conditions
    exact ⟨⟨textSize, headerSize, signatureSize, headerNesting, payloadNesting⟩, header, payload,
      same, segments⟩
  · intro conditions
    obtain ⟨limits, header, payload, same, segments⟩ := conditions
    -- The limit of the payload is none of its own: a longer one makes the text too long.
    have payloadSize := payloadSize_le written limits.textSize
    exact ⟨limits.textSize, ⟨limits.headerSize, limits.headerNesting, header⟩,
      ⟨payloadSize, limits.payloadNesting, payload⟩, ⟨limits.signatureSize, same⟩, segments⟩

/-!
## Registered claims
-/

/-- Registered claims have no floats, so that they are read as they were set. -/
theorem find?_reread_of_registered (edits : List Edit) {name : String}
    (registered : name ∈ Registered.names) :
    (new.editAll edits).payload.reread.find? name = (new.editAll edits).payload.find? name := by
  rw [Claims.find?_reread]
  cases found : (new.editAll edits).payload.find? name with
  | none => rfl
  | some value =>
      obtain ⟨change, -, assigned⟩ := exists_edit_of_find? .payload found
      obtain ⟨integers, ordered⟩ := (Edit.writes assigned).isPlain_of_registered registered
      rw [Option.map_some, Json.reread_eq_self value integers ordered]

theorem defect?_reread_editAll (edits : List Edit) :
    Payload.defect? (new.editAll edits).payload.reread = none := by
  have form := Payload.defect?_eq_none_iff.mp (defect?_editAll edits)
  refine Payload.defect?_eq_none_iff.mpr ⟨fun name dated => ?_, ?_⟩
  · rw [Payload.HasDateForm, find?_reread_of_registered edits (dates_apart name dated).1]
    exact form.dates name dated
  · rw [Payload.HasAudienceForm, find?_reread_of_registered edits (by decide)]
    exact form.audience

theorem exists_decode_iff (edits : List Edit) (algorithm : Algorithm) {signature : Bytes}
    {text : String} (written : text = (new.editAll edits).signingInput algorithm ++ "." ++
      Base64Url.encode signature) :
    (∃ token, Token.decode text = .ok token) ↔
      (new.editAll edits).WithinLimits algorithm signature text := by
  constructor
  · intro decodes
    obtain ⟨token, decoded⟩ := decodes
    exact ((decode_eq_ok_iff_reread algorithm written token).mp decoded).1
  · intro limits
    exact Token.exists_decode_encode written limits.textSize limits.headerSize
      limits.headerNesting (payloadSize_le written limits.textSize) limits.payloadNesting
      limits.signatureSize (defect?_reread_editAll edits)

/-!
## Drafts without floats
-/

section

variable (algorithm : Algorithm) {edits : List Edit} {signature : Bytes} {text : String}
  (plain : ∀ change ∈ edits, ∀ given ∈ change.values, given.IsPlain)
  (written : text = (new.editAll edits).signingInput algorithm ++ "." ++
    Base64Url.encode signature)

include plain written

theorem decode_eq_ok_iff (token : Token) :
    Token.decode text = .ok token ↔
      (new.editAll edits).WithinLimits algorithm signature text ∧
        (new.editAll edits).IsReadAs algorithm signature token := by
  rw [decode_eq_ok_iff_reread algorithm written,
    Claims.reread_eq_self (isPlain_headerFor algorithm plain),
    Claims.reread_eq_self (isPlain_payload plain)]
  constructor
  · intro conditions
    obtain ⟨limits, header, payload, same, headerSegment, payloadSegment, signatureSegment⟩ :=
      conditions
    exact ⟨limits, header, payload, headerSegment, payloadSegment, signatureSegment, same⟩
  · intro conditions
    obtain ⟨limits, read⟩ := conditions
    exact ⟨limits, read.header, read.payload, read.signature, read.headerSegment,
      read.payloadSegment, read.signatureSegment⟩

end

/-- A signed draft is decoded within the limits only, whatever provider made the
signature. What is decoded has the payload of the draft and its header, with the name
of the algorithm whatever was set under it, and with a type of its own exactly if none
was set. Its signature covers the text that was signed. -/
theorem decode_sign (provider : SigningProvider) (algorithm : Algorithm) {edits : List Edit}
    {text : String} (plain : ∀ change ∈ edits, ∀ given ∈ change.values, given.IsPlain)
    (signed : ((new.editAll edits).signWith provider algorithm).outcome = .ok text) :
    ∃ signature,
      algorithm.signWith provider (Bytes.ofText ((new.editAll edits).signingInput algorithm)) =
        .ok signature ∧
      ((∃ token, Token.decode text = .ok token) ↔
        (new.editAll edits).WithinLimits algorithm signature text) ∧
      ∀ token, Token.decode text = .ok token →
        token.payload.claims = (new.editAll edits).payload ∧
        ((∃ value, Edit.headerClaim HeaderName.type value ∈ edits) →
          token.header.claims = (new.editAll edits).header.insert HeaderName.algorithm
            (.string algorithm.name)) ∧
        ((∀ value, Edit.headerClaim HeaderName.type value ∉ edits) →
          token.header.claims = ((new.editAll edits).header.insert HeaderName.algorithm
            (.string algorithm.name)).insert HeaderName.type (.string "JWT")) ∧
        token.signature = signature ∧
        token.signingInput = (new.editAll edits).signingInput algorithm := by
  obtain ⟨signature, made, written⟩ := signWith_eq_ok_iff.mp signed
  refine ⟨signature, made, exists_decode_iff edits algorithm written, fun token decoded => ?_⟩
  obtain ⟨-, read⟩ := (decode_eq_ok_iff algorithm plain written token).mp decoded
  have header := read.header.trans (headerFor_eq (new.editAll edits) algorithm)
  refine ⟨read.payload, ?_, ?_, read.signature, read.signingInput⟩
  · intro typed
    obtain ⟨value, member⟩ := typed
    rw [header, if_neg fun unset => (find?_type_eq_none_iff edits).mp unset value member]
  · intro unset
    rw [header, if_pos ((find?_type_eq_none_iff edits).mpr unset)]

theorem decode_sign_of_set_algorithm :
    ∃ token, Token.decode "eyJhbGciOiJub25lIiwidHlwIjoiYXQrand0In0.eyJpc3MiOiJqb2UiLCJuIjpudWxsfQ."
        = .ok token ∧
      token.header.claims.find? HeaderName.algorithm = some (.string "none") ∧
      token.payload.claims.find? Registered.issuer = some (.string "joe") := by
  have signed : ((new.editAll [.headerClaim HeaderName.type (.string "at+jwt"),
      .headerClaim HeaderName.algorithm (.string "HS256"), .issuer "joe",
      .claim "n" .null]).signWith SigningProvider.own .none).outcome =
        .ok "eyJhbGciOiJub25lIiwidHlwIjoiYXQrand0In0.eyJpc3MiOiJqb2UiLCJuIjpudWxsfQ." :=
    signWith_eq_ok_iff.mpr ⟨[], rfl, by decide +kernel⟩
  have plain : ∀ change ∈ ([.headerClaim HeaderName.type (.string "at+jwt"),
      .headerClaim HeaderName.algorithm (.string "HS256"), .issuer "joe", .claim "n" .null] :
        List Edit), ∀ given ∈ change.values, given.IsPlain := by
    simp [Edit.values, Json.IsPlain, Json.IntegersOnly, Json.Ordered]
  obtain ⟨signature, made, decodes, reads⟩ := decode_sign SigningProvider.own .none plain signed
  obtain rfl : [] = signature := Except.ok.inj made
  obtain ⟨token, decoded⟩ := decodes.mpr
    ⟨by decide +kernel, by decide +kernel, by decide, by decide +kernel, by decide +kernel⟩
  obtain ⟨payload, typed, -⟩ := reads token decoded
  refine ⟨token, decoded, ?_, ?_⟩
  · rw [typed ⟨.string "at+jwt", List.mem_cons_self⟩]
    rfl
  · rw [payload]
    rfl

end Draft

end WebToken
