import WebToken.Proofs.Base64Url
import WebToken.Proofs.Json.RoundTrip
import WebToken.Proofs.Token.Slices

/-!
# Decoding what was encoded

A text decodes exactly if each of its three segments does, and the token holds
what the segments spell. Claims that were written as a segment are read if their
text is within the size of the segment and nests no deeper than the reader goes.
-/

set_option autoImplicit false

namespace WebToken

theorem Payload.ofClaims_eq_ok_iff {claims : Claims} {payload : Payload} :
    ofClaims claims = .ok payload ↔ payload.claims = claims := by
  unfold ofClaims
  constructor
  · intro checked
    split at checked
    next found =>
      cases checked
      rfl
    next found => cases checked
  · rintro rfl
    split
    next found => rfl
    next defect found => cases payload.sound.symm.trans found

/-!
## Claims that are read
-/

namespace Claims

/-- What the text of claims is read as. -/
def reread (claims : Claims) : Claims :=
  ⟨Json.rereadMembers claims.members, Json.ordered_rereadMembers claims.ordered⟩

theorem find?_reread (claims : Claims) (name : String) :
    claims.reread.find? name = (claims.find? name).map Json.reread :=
  Json.find?_rereadMembers name claims.members

/-- Reading keeps every text, and makes none of another value. -/
theorem string?_reread (claims : Claims) (name : String) :
    claims.reread.string? name = claims.string? name := by
  rw [string?, string?, find?_reread]
  cases claims.find? name with
  | none => rfl
  | some value => exact Json.string?_reread value

theorem reread_eq_self {claims : Claims} (plain : claims.toJson.IsPlain) :
    claims.reread = claims := by
  obtain ⟨integers, -, ordered⟩ := plain
  cases claims with
  | mk members sorted =>
      unfold reread
      congr
      exact Json.rereadMembers_eq_self members integers ordered

theorem ofList_members (claims : Claims) : ofList claims.members = claims := by
  cases claims with
  | mk members sorted =>
      unfold ofList
      congr
      exact Json.Members.ofList_eq_self sorted

end Claims

namespace Token

theorem checked_eq_ok_iff {claims : Claims} {payload : Payload} :
    (Payload.ofClaims claims).mapError DecodeError.registeredClaim = .ok payload ↔
      payload.claims = claims := by
  rw [← Payload.ofClaims_eq_ok_iff]
  cases Payload.ofClaims claims with
  | error defect => exact ⟨nofun, nofun⟩
  | ok checked => exact ⟨fun same => congrArg _ (Except.ok.inj same),
      fun same => congrArg _ (Except.ok.inj same)⟩

/-- A segment that has to be there and spell claims. -/
def SpellsClaims (segment : Segment) (maximum : Nat) (text : String) (claims : Claims) : Prop :=
  text ≠ "" ∧ ∃ chars, segmentText segment maximum text = .ok chars ∧
    parseClaims segment chars = .ok claims

theorem decodeSegments_eq_ok_iff {header payload signature : String} {headerClaims : Claims}
    {checked : Payload} {octets : Bytes} :
    decodeSegments header payload signature = .ok (headerClaims, checked, octets) ↔
      SpellsClaims .header Limits.header header headerClaims ∧
        SpellsClaims .payload Limits.payload payload checked.claims ∧
        segmentBytes .signature Limits.signature signature = .ok octets := by
  unfold SpellsClaims
  -- The refusals of empty segments come off first, so that one chain of steps is left.
  by_cases headerGiven : header = ""
  · subst headerGiven
    exact ⟨nofun, fun decoded => absurd rfl decoded.1.1⟩
  by_cases payloadGiven : payload = ""
  · subst payloadGiven
    have refused : decodeSegments header "" signature = .error (.emptySegment .payload) := by
      rw [decodeSegments, if_neg (mt String.isEmpty_iff.mp headerGiven)]
      rfl
    rw [refused]
    exact ⟨nofun, fun decoded => absurd rfl decoded.2.1.1⟩
  rw [decodeSegments, if_neg (mt String.isEmpty_iff.mp headerGiven),
    if_neg (mt String.isEmpty_iff.mp payloadGiven)]
  simp only [bind_eq_ok_iff, checked_eq_ok_iff]
  constructor
  · intro decoded
    obtain ⟨headerText, headerSpelled, payloadText, payloadSpelled, _, headerRead, payloadClaims,
      payloadRead, _, rfl, _, signatureSpelled, packed⟩ := decoded
    cases packed
    exact ⟨⟨headerGiven, headerText, headerSpelled, headerRead⟩,
      ⟨payloadGiven, payloadText, payloadSpelled, payloadRead⟩, signatureSpelled⟩
  · intro spelled
    obtain ⟨⟨-, headerText, headerSpelled, headerRead⟩,
      ⟨-, payloadText, payloadSpelled, payloadRead⟩, signatureSpelled⟩ := spelled
    exact ⟨headerText, headerSpelled, payloadText, payloadSpelled, _, headerRead, _, payloadRead,
      checked, rfl, _, signatureSpelled, rfl⟩

/-!
## Framing
-/

theorem parts_append {header payload : String} (headerWhole : '.' ∉ header.toList)
    (payloadWhole : '.' ∉ payload.toList) (rest : String) :
    parts (header ++ "." ++ payload ++ "." ++ rest) = header :: payload :: parts rest := by
  have spelled : (header ++ "." ++ payload ++ "." ++ rest).toList =
      header.toList ++ '.' :: (payload.toList ++ '.' :: rest.toList) := by
    simp only [String.toList_append, List.append_assoc]
    rfl
  rw [parts, spelled, List.splitOn_append_cons_self_of_not_mem headerWhole,
    List.splitOn_append_cons_self_of_not_mem payloadWhole]
  simp only [List.map_cons, String.ofList_toList]
  rfl

theorem parts_compact {header payload signature : String} (headerWhole : '.' ∉ header.toList)
    (payloadWhole : '.' ∉ payload.toList) (signatureWhole : '.' ∉ signature.toList) :
    parts (header ++ "." ++ payload ++ "." ++ signature) = [header, payload, signature] := by
  rw [parts_append headerWhole payloadWhole, parts, List.splitOn_eq_singleton signatureWhole,
    List.map_singleton, String.ofList_toList]

/-- What a text of three parts is decoded as. -/
theorem decode_of_parts {text header payload signature : String}
    (split : parts text = [header, payload, signature])
    (short : text.utf8ByteSize ≤ Limits.token) :
    decode text =
      (decodeSegments header payload signature).map
        (ofParts text header payload signature split) := by
  unfold decode
  rw [if_neg (Nat.not_lt.mpr short)]
  split
  next found =>
    have same := split.symm.trans found
    cases same
    rfl
  next other => exact absurd split (other _ _ _)

theorem ofParts_segments (token : Token)
    (split : parts token.text =
      [token.headerSegment, token.payloadSegment, token.signatureSegment]) :
    ofParts token.text token.headerSegment token.payloadSegment token.signatureSegment split
      (token.header.claims, token.payload, token.signature) = token := by
  have payloadEnd := token.payloadEnd_eq
  rw [headerEnd_eq] at payloadEnd
  ext1
  · rfl
  · exact token.headerEnd_eq.symm
  · exact payloadEnd.symm
  · rfl
  · rfl
  · rfl

theorem segments_ofParts {text header payload signature : String}
    (split : parts text = [header, payload, signature]) (taken : Claims × Payload × Bytes) :
    (ofParts text header payload signature split taken).headerSegment = header ∧
      (ofParts text header payload signature split taken).payloadSegment = payload ∧
      (ofParts text header payload signature split taken).signatureSegment = signature := by
  obtain ⟨headerSegment, payloadSegment, signatureSegment, -⟩ :=
    slices_of_text (eq_compact_of_parts split : (ofParts text header payload signature split
      taken).text = _) rfl rfl
  exact ⟨headerSegment, payloadSegment, signatureSegment⟩

/-- A text decodes as the token whose segments are its parts. -/
theorem decode_eq_ok_iff_parts {token : Token} {text : String} :
    decode text = .ok token ↔ text.utf8ByteSize ≤ Limits.token ∧
      parts text = [token.headerSegment, token.payloadSegment, token.signatureSegment] ∧
      decodeSegments token.headerSegment token.payloadSegment token.signatureSegment =
        .ok (token.header.claims, token.payload, token.signature) := by
  constructor
  · intro decoded
    have short : text.utf8ByteSize ≤ Limits.token := by
      refine Nat.not_lt.mp fun long => ?_
      rw [decode, if_pos long] at decoded
      cases decoded
    obtain ⟨header, payload, signature, split⟩ :
        ∃ header payload signature, parts text = [header, payload, signature] := by
      rw [decode, if_neg (Nat.not_lt.mpr short)] at decoded
      split at decoded
      next header payload signature split => exact ⟨header, payload, signature, split⟩
      next => cases decoded
    rw [decode_of_parts split short] at decoded
    obtain ⟨taken, found, rfl⟩ := map_eq_ok_iff.mp decoded
    obtain ⟨headerSame, payloadSame, signatureSame⟩ := segments_ofParts split taken
    rw [headerSame, payloadSame, signatureSame]
    exact ⟨short, split, found⟩
  · intro spelled
    obtain ⟨short, split, found⟩ := spelled
    obtain rfl : token.text = text := token.text_eq.trans (eq_compact_of_parts split).symm
    rw [decode_of_parts split short, found, Except.map, ofParts_segments]

/-- What a text of three whole segments takes to decode. -/
theorem decode_compact_eq_ok_iff {header payload signature : Bytes} {token : Token}
    {text : String} (written : text = Base64Url.encode header ++ "." ++ Base64Url.encode payload ++
      "." ++ Base64Url.encode signature) :
    decode text = .ok token ↔ text.utf8ByteSize ≤ Limits.token ∧
      decodeSegments (Base64Url.encode header) (Base64Url.encode payload)
        (Base64Url.encode signature) = .ok (token.header.claims, token.payload, token.signature) ∧
      token.headerSegment = Base64Url.encode header ∧
      token.payloadSegment = Base64Url.encode payload ∧
      token.signatureSegment = Base64Url.encode signature := by
  have split : parts text = _ := written ▸ parts_compact (Base64Url.dot_not_mem_encode header)
    (Base64Url.dot_not_mem_encode payload) (Base64Url.dot_not_mem_encode signature)
  rw [decode_eq_ok_iff_parts, split]
  refine and_congr_right fun _ => ?_
  constructor
  · intro decoded
    obtain ⟨same, found⟩ := decoded
    simp only [List.cons.injEq, and_true] at same
    obtain ⟨headerSame, payloadSame, signatureSame⟩ := same
    rw [← headerSame, ← payloadSame, ← signatureSame] at found
    exact ⟨found, headerSame.symm, payloadSame.symm, signatureSame.symm⟩
  · intro decoded
    obtain ⟨found, headerSame, payloadSame, signatureSame⟩ := decoded
    rw [headerSame, payloadSame, signatureSame]
    exact ⟨rfl, found⟩

/-!
## Encoded segments
-/

theorem segmentBytes_eq_ok_iff {segment : Segment} {maximum : Nat} {text : String}
    {octets : Bytes} :
    segmentBytes segment maximum text = .ok octets ↔
      text = Base64Url.encode octets ∧ octets.length ≤ maximum := by
  unfold segmentBytes
  rw [← Base64Url.decode_eq_ok_iff]
  cases Base64Url.decode text with
  | error fault => exact ⟨nofun, fun spelled => nomatch spelled.1⟩
  | ok bytes =>
      simp only [Except.ok.injEq]
      split
      next long =>
        refine ⟨nofun, fun short => ?_⟩
        obtain ⟨rfl, short⟩ := short
        exact absurd long (Nat.not_lt.mpr short)
      next short =>
        simp only [Except.ok.injEq]
        exact ⟨fun same => ⟨same, same ▸ Nat.not_lt.mp short⟩, And.left⟩

theorem segmentText_eq_ok_iff {segment : Segment} {maximum : Nat} {text : String}
    {chars : List Char} :
    segmentText segment maximum text = .ok chars ↔ ∃ octets,
      text = Base64Url.encode octets ∧ octets.length ≤ maximum ∧
        octets = Bytes.ofText (String.ofList chars) := by
  simp only [← Utf8.decode_eq_ok_iff, ← and_assoc, ← @segmentBytes_eq_ok_iff segment]
  unfold segmentText
  cases segmentBytes segment maximum text with
  | error error =>
      refine ⟨nofun, fun spelled => ?_⟩
      obtain ⟨octets, spelled, -⟩ := spelled
      cases spelled
  | ok bytes =>
      simp only [Except.ok.injEq, exists_eq_left']
      cases Utf8.decode bytes with
      | error fault => exact ⟨nofun, nofun⟩
      | ok read => simp only [Except.ok.injEq]

theorem segmentBytes_encode (segment : Segment) (maximum : Nat) (bytes octets : Bytes) :
    segmentBytes segment maximum (Base64Url.encode bytes) = .ok octets ↔
      bytes.length ≤ maximum ∧ octets = bytes := by
  rw [segmentBytes_eq_ok_iff, ← Base64Url.decode_eq_ok_iff, Base64Url.decode_encode,
    Except.ok.injEq]
  constructor
  · rintro ⟨rfl, short⟩
    exact ⟨short, rfl⟩
  · rintro ⟨short, rfl⟩
    exact ⟨rfl, short⟩

theorem segmentText_encode (segment : Segment) (maximum : Nat) (text : String)
    (chars : List Char) :
    segmentText segment maximum (Base64Url.encode (Bytes.ofText text)) = .ok chars ↔
      text.utf8ByteSize ≤ maximum ∧ chars = text.toList := by
  simp only [segmentText_eq_ok_iff, ← Base64Url.decode_eq_ok_iff, Base64Url.decode_encode,
    Except.ok.injEq, exists_eq_left', Bytes.length_ofText]
  refine and_congr_right fun _ => ⟨fun same => ?_, fun same => ?_⟩
  · rw [Bytes.ofText_injective same, String.toList_ofList]
  · rw [same, String.ofList_toList]

theorem SpellsClaims.dot_not_mem {segment : Segment} {maximum : Nat} {text : String}
    {claims : Claims} (spelled : SpellsClaims segment maximum text claims) : '.' ∉ text.toList := by
  obtain ⟨-, chars, read, -⟩ := spelled
  obtain ⟨octets, rfl, -⟩ := segmentText_eq_ok_iff.mp read
  exact Base64Url.dot_not_mem_encode octets

/-- A text that decodes has the segments of the token for its parts, and the last
one spells the signature. -/
theorem parts_of_decode {token : Token} {text : String} (decoded : decode text = .ok token) :
    parts text = [token.headerSegment, token.payloadSegment, token.signatureSegment] ∧
      token.signatureSegment = Base64Url.encode token.signature ∧
      '.' ∉ token.headerSegment.toList ∧ '.' ∉ token.payloadSegment.toList := by
  obtain ⟨-, split, taken⟩ := decode_eq_ok_iff_parts.mp decoded
  obtain ⟨headerSpelled, payloadSpelled, signatureSpelled⟩ := decodeSegments_eq_ok_iff.mp taken
  exact ⟨split, (segmentBytes_eq_ok_iff.mp signatureSpelled).1, headerSpelled.dot_not_mem,
    payloadSpelled.dot_not_mem⟩

theorem eq_text_of_decode {token : Token} {text : String} (decoded : decode text = .ok token) :
    text = token.text :=
  (eq_compact_of_parts (parts_of_decode decoded).1).trans token.text_eq.symm

theorem encode_ne_empty {bytes : Bytes} (given : bytes ≠ []) : Base64Url.encode bytes ≠ "" := by
  intro empty
  have size := Base64Url.utf8ByteSize_encode bytes
  have positive : 0 < bytes.length := List.length_pos_iff.mpr given
  rw [empty, String.utf8ByteSize_empty] at size
  omega

/-!
## Encoded claims
-/

theorem getLast?_charsOfMembers (members : Json.Members) :
    (Json.charsOfMembers members).getLast? = some '\x7d' := by
  induction members with
  | nil => rfl
  | cons member members ih =>
      have closed : Json.charsOfMembers (member :: members) =
          (',' :: (Json.stringText member.1 ++ ':' :: member.2.chars)) ++
            Json.charsOfMembers members := by
        simp only [Json.charsOfMembers, List.cons_append, List.append_assoc]
      rw [closed, List.getLast?_append, ih]
      rfl

/-- The text of claims has the braces of an object. -/
theorem isBraced_chars (claims : Claims) : isBraced claims.toJson.chars = true := by
  unfold Claims.toJson
  cases claims.members with
  | nil => rfl
  | cons member members =>
      have closed : Json.chars (.object (member :: members)) =
          ('\x7b' :: (Json.stringText member.1 ++ ':' :: member.2.chars)) ++
            Json.charsOfMembers members := by
        simp only [Json.chars, List.cons_append, List.append_assoc]
      rw [isBraced, closed, List.getLast?_append, getLast?_charsOfMembers]
      rfl

theorem parseClaims_chars (segment : Segment) (claims read : Claims) :
    parseClaims segment claims.toJson.chars = .ok read ↔
      claims.toJson.nesting ≤ Json.Reader.maxDepth ∧ read = claims.reread := by
  rw [parseClaims, if_pos (isBraced_chars claims)]
  by_cases shallow : claims.toJson.nesting ≤ Json.Reader.maxDepth
  · have members : Json.readMembers claims.toJson.chars = .ok claims.reread.members :=
      Json.readMembers_chars shallow
    simp only [members, Claims.ofList_members, Except.ok.injEq, shallow, true_and, eq_comm]
  · obtain ⟨fault, refused⟩ := Json.readMembers_chars_of_deep shallow
    have read : Json.readMembers claims.toJson.chars = .error fault := refused
    simp only [read]
    exact ⟨nofun, fun deep => absurd deep.1 shallow⟩

theorem render_ne_empty (claims : Claims) : Bytes.ofText claims.render ≠ [] := by
  intro empty
  have braced := isBraced_chars claims
  have size := Bytes.length_ofText claims.render
  rw [empty, List.length_nil] at size
  have none : claims.toJson.chars = [] := String.ofList_eq_empty_iff.mp
    (String.utf8ByteSize_eq_zero_iff.mp size.symm)
  rw [none] at braced
  cases braced

/-- A segment that was made of claims spells what these are read as and no other claims,
within the size of the segment and the depth of the reader. -/
theorem spellsClaims_encode (segment : Segment) (maximum : Nat) (claims read : Claims) :
    SpellsClaims segment maximum (Base64Url.encode (Bytes.ofText claims.render)) read ↔
      claims.render.utf8ByteSize ≤ maximum ∧ claims.toJson.nesting ≤ Json.Reader.maxDepth ∧
        read = claims.reread := by
  have written : claims.render.toList = claims.toJson.chars := String.toList_ofList
  constructor
  · intro spells
    obtain ⟨-, chars, spelled, parsed⟩ := spells
    obtain ⟨short, rfl⟩ := (segmentText_encode segment maximum claims.render chars).mp spelled
    rw [written, parseClaims_chars segment] at parsed
    exact ⟨short, parsed⟩
  · intro within
    obtain ⟨short, parsed⟩ := within
    refine ⟨encode_ne_empty (render_ne_empty claims), claims.render.toList, ?_, ?_⟩
    · exact (segmentText_encode segment maximum claims.render _).mpr ⟨short, rfl⟩
    · rw [written]
      exact (parseClaims_chars segment claims read).mpr parsed

/-- A token that was made of claims and a signature is taken apart within the limits
only, and into what the claims are read as and the signature. -/
theorem decode_encode_eq_ok_iff {header payload : Claims} {signature : Bytes} {token : Token}
    {text : String} (written : text = Base64Url.encode (Bytes.ofText header.render) ++ "." ++
      Base64Url.encode (Bytes.ofText payload.render) ++ "." ++ Base64Url.encode signature) :
    decode text = .ok token ↔ text.utf8ByteSize ≤ Limits.token ∧
      (header.render.utf8ByteSize ≤ Limits.header ∧
        header.toJson.nesting ≤ Json.Reader.maxDepth ∧ token.header.claims = header.reread) ∧
      (payload.render.utf8ByteSize ≤ Limits.payload ∧
        payload.toJson.nesting ≤ Json.Reader.maxDepth ∧
          token.payload.claims = payload.reread) ∧
      (signature.length ≤ Limits.signature ∧ token.signature = signature) ∧
      token.headerSegment = Base64Url.encode (Bytes.ofText header.render) ∧
      token.payloadSegment = Base64Url.encode (Bytes.ofText payload.render) ∧
      token.signatureSegment = Base64Url.encode signature := by
  rw [decode_compact_eq_ok_iff written, decodeSegments_eq_ok_iff, spellsClaims_encode,
    spellsClaims_encode, segmentBytes_encode]
  simp only [and_assoc]

/-- Within the limits there is something to decode, if what the claims are read as passes
the checks of a payload. -/
theorem exists_decode_encode {header payload : Claims} {signature : Bytes} {text : String}
    (written : text = Base64Url.encode (Bytes.ofText header.render) ++ "." ++
      Base64Url.encode (Bytes.ofText payload.render) ++ "." ++ Base64Url.encode signature)
    (textSize : text.utf8ByteSize ≤ Limits.token)
    (headerSize : header.render.utf8ByteSize ≤ Limits.header)
    (headerNesting : header.toJson.nesting ≤ Json.Reader.maxDepth)
    (payloadSize : payload.render.utf8ByteSize ≤ Limits.payload)
    (payloadNesting : payload.toJson.nesting ≤ Json.Reader.maxDepth)
    (signatureSize : signature.length ≤ Limits.signature)
    (sound : Payload.defect? payload.reread = none) : ∃ token, decode text = .ok token := by
  have split : parts text = _ := written ▸ parts_compact (Base64Url.dot_not_mem_encode _)
    (Base64Url.dot_not_mem_encode _) (Base64Url.dot_not_mem_encode signature)
  have taken := decodeSegments_eq_ok_iff.mpr
    ⟨(spellsClaims_encode .header Limits.header header _).mpr ⟨headerSize, headerNesting, rfl⟩,
      (spellsClaims_encode .payload Limits.payload payload
        (Payload.claims ⟨payload.reread, sound⟩)).mpr ⟨payloadSize, payloadNesting, rfl⟩,
      (segmentBytes_encode .signature Limits.signature signature _).mpr ⟨signatureSize, rfl⟩⟩
  rw [decode_of_parts split textSize, taken]
  exact ⟨_, rfl⟩

end Token

end WebToken
