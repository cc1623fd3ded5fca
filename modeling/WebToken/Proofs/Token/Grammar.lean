import WebToken.Proofs.Token.Decoding
import WebToken.Proofs.Token.Registered

/-!
# The grammar of compact tokens

A text decodes if and only if it is spelled by the grammar below, and the token
that comes out loses nothing of it: joined by dots its segments are the text, and
they are also what the text holds between the offsets that their sizes give.
-/

set_option autoImplicit false

namespace WebToken

namespace Token

/-!
## The grammar
-/

/-- A segment is the one spelling of a text in braces, and the text is read as an
object of these claims. -/
def SpellsObject (maximum : Nat) (segment : String) (claims : Claims) : Prop :=
  segment ≠ "" ∧ ∃ octets text members, segment = Base64Url.encode octets ∧
    octets.length ≤ maximum ∧ octets = Bytes.ofText text ∧
    text.toList.head? = some '\x7b' ∧ text.toList.getLast? = some '\x7d' ∧
    Json.readMembers text.toList = .ok members ∧ claims = Claims.ofList members

/-- A text is the compact form of three segments that spell these claims and this
signature. -/
structure IsCompact (text header payload signature : String) (headerClaims payloadClaims : Claims)
    (octets : Bytes) : Prop where
  size : text.utf8ByteSize ≤ 65536
  dots : text.toList.count '.' = 2
  framed : text = header ++ "." ++ payload ++ "." ++ signature
  header : SpellsObject 8192 header headerClaims
  payload : SpellsObject 49152 payload payloadClaims
  registered : Payload.HasForm payloadClaims
  signature : signature = Base64Url.encode octets
  signatureSize : octets.length ≤ 1024

/-!
## Offsets
-/

/-- The token is cut from a text: what it holds is the whole text, and each part is the
slice of its octets between the offsets. -/
structure IsCutFrom (token : Token) (text : String) : Prop where
  whole : token.text = text
  header : Bytes.ofText token.headerSegment = (Bytes.ofText text).take token.headerEnd
  payload : Bytes.ofText token.payloadSegment =
    ((Bytes.ofText text).take token.payloadEnd).drop (token.headerEnd + 1)
  signature : Bytes.ofText token.signatureSegment =
    (Bytes.ofText text).drop (token.payloadEnd + 1)
  signingInput : Bytes.ofText token.signingInput = (Bytes.ofText text).take token.payloadEnd
  joined : token.headerSegment ++ "." ++ token.payloadSegment ++ "." ++ token.signatureSegment =
    text

theorem isCutFrom_text (token : Token) : token.IsCutFrom token.text := by
  have dot : Bytes.ofText "." = [46] := by decide
  have signed : Bytes.ofText token.signingInput =
      Bytes.ofText token.headerSegment ++ 46 :: Bytes.ofText token.payloadSegment := by
    simp only [signingInput_eq, Bytes.ofText_append, dot, List.append_assoc, List.cons_append,
      List.nil_append]
  have whole : Bytes.ofText token.text =
      Bytes.ofText token.signingInput ++ 46 :: Bytes.ofText token.signatureSegment := by
    simp only [text_eq, signingInput_eq, Bytes.ofText_append, dot, List.append_assoc,
      List.cons_append, List.nil_append]
  have headerSize : (Bytes.ofText token.headerSegment).length = token.headerEnd :=
    (Bytes.length_ofText token.headerSegment).trans token.headerEnd_eq.symm
  have signedSize : (Bytes.ofText token.signingInput).length = token.payloadEnd := by
    rw [signed, List.length_append, List.length_cons, headerSize, Bytes.length_ofText,
      payloadEnd_eq]
    omega
  have signingInput : (Bytes.ofText token.text).take token.payloadEnd =
      Bytes.ofText token.signingInput := by
    rw [whole, List.take_left' signedSize]
  refine ⟨rfl, ?_, ?_, ?_, signingInput.symm, token.text_eq.symm⟩
  · rw [whole, signed, List.append_assoc, List.take_left' headerSize]
  · rw [signingInput, signed, ← headerSize, List.drop_length_add_append]
    rfl
  · rw [whole, ← signedSize, List.drop_length_add_append]
    rfl

/-!
## What decodes
-/

theorem spellsObject_iff (segment : Segment) {maximum : Nat} {text : String} {claims : Claims} :
    SpellsObject maximum text claims ↔ SpellsClaims segment maximum text claims := by
  unfold SpellsObject SpellsClaims
  refine and_congr_right fun _ => ?_
  simp only [segmentText_eq_ok_iff]
  constructor
  · intro spelled
    obtain ⟨octets, written, members, spelled, short, encoded, opened, closed, read, rfl⟩ := spelled
    refine ⟨written.toList, ⟨octets, spelled, short, ?_⟩, ?_⟩
    · rw [encoded, String.ofList_toList]
    · have braced : isBraced written.toList = true := by
        rw [isBraced, opened, closed]
        rfl
      simp only [parseClaims, braced, ↓reduceIte, read]
  · intro spelled
    obtain ⟨chars, ⟨octets, spelled, short, encoded⟩, parsed⟩ := spelled
    refine ⟨octets, String.ofList chars, ?_⟩
    rw [String.toList_ofList]
    unfold parseClaims at parsed
    split at parsed
    next braced =>
      obtain ⟨opened, closed⟩ := Bool.and_eq_true_iff.mp braced
      cases read : Json.readMembers chars with
      | error fault =>
          rw [read] at parsed
          cases parsed
      | ok members =>
          rw [read] at parsed
          cases parsed
          exact ⟨members, spelled, short, encoded, beq_iff_eq.mp opened, beq_iff_eq.mp closed,
            rfl, rfl⟩
    next open_ => cases parsed

theorem count_dot_encode (bytes : Bytes) : (Base64Url.encode bytes).toList.count '.' = 0 :=
  List.count_eq_zero.mpr (Base64Url.dot_not_mem_encode bytes)

/-- Decoding accepts exactly the compact forms. It gives the segments, claims and
signature of which the text is the compact form, and a token that is cut from the
text. -/
theorem isCompact_iff_decode (text : String) :
    (∀ header payload signature headerClaims payloadClaims octets,
      IsCompact text header payload signature headerClaims payloadClaims octets ↔
        ∃ token, decode text = .ok token ∧ token.headerSegment = header ∧
          token.payloadSegment = payload ∧ token.signatureSegment = signature ∧
          token.signingInput = header ++ "." ++ payload ∧
          token.header.claims = headerClaims ∧ token.payload.claims = payloadClaims ∧
          token.signature = octets) ∧
      ∀ token, decode text = .ok token → token.IsCutFrom text := by
  have cut : ∀ token, decode text = .ok token → token.IsCutFrom text := by
    intro token decoded
    obtain rfl := eq_text_of_decode decoded
    exact token.isCutFrom_text
  refine ⟨fun header payload signature headerClaims payloadClaims octets => ⟨?_, ?_⟩, cut⟩
  · intro compact
    obtain ⟨size, -, framed, headerSpelled, payloadSpelled, registered, rfl, short⟩ := compact
    have taken : decodeSegments header payload (Base64Url.encode octets) = .ok (headerClaims,
        ⟨payloadClaims, Payload.defect?_eq_none_iff.mpr registered⟩, octets) :=
      decodeSegments_eq_ok_iff.mpr ⟨(spellsObject_iff .header).mp headerSpelled,
        (spellsObject_iff .payload).mp payloadSpelled, segmentBytes_eq_ok_iff.mpr ⟨rfl, short⟩⟩
    obtain ⟨-, headerOctets, -, -, rfl, -⟩ := headerSpelled
    obtain ⟨-, payloadOctets, -, -, rfl, -⟩ := payloadSpelled
    have split : parts text = _ := framed ▸ parts_compact
      (Base64Url.dot_not_mem_encode headerOctets) (Base64Url.dot_not_mem_encode payloadOctets)
      (Base64Url.dot_not_mem_encode octets)
    have decoded := decode_of_parts split size
    rw [taken] at decoded
    obtain ⟨headerSame, payloadSame, signatureSame⟩ := segments_ofParts split (headerClaims,
      ⟨payloadClaims, Payload.defect?_eq_none_iff.mpr registered⟩, octets)
    refine ⟨_, decoded, headerSame, payloadSame, signatureSame, ?_, rfl, rfl, rfl⟩
    rw [signingInput_eq, headerSame, payloadSame]
  · rintro ⟨token, decoded, rfl, rfl, rfl, -, rfl, rfl, rfl⟩
    obtain ⟨size, split, taken⟩ := decode_eq_ok_iff_parts.mp decoded
    obtain ⟨headerSpelled, payloadSpelled, signatureSpelled⟩ := decodeSegments_eq_ok_iff.mp taken
    obtain ⟨signature, short⟩ := segmentBytes_eq_ok_iff.mp signatureSpelled
    have headerObject := (spellsObject_iff .header).mpr headerSpelled
    have payloadObject := (spellsObject_iff .payload).mpr payloadSpelled
    have framed := eq_compact_of_parts split
    refine ⟨size, ?_, framed, headerObject, payloadObject,
      Payload.defect?_eq_none_iff.mp token.payload.sound, signature, short⟩
    obtain ⟨-, headerOctets, -, -, header, -⟩ := headerObject
    obtain ⟨-, payloadOctets, -, -, payload, -⟩ := payloadObject
    rw [framed, header, payload, signature]
    simp only [String.toList_append, List.count_append, count_dot_encode]
    rfl

end Token

end WebToken
