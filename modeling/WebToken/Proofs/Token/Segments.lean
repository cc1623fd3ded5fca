import WebToken.Proofs.Base64Url.Spelling
import WebToken.Proofs.Token.Decoding

/-!
# What a segment may hold

Each text of a segment has one of three outcomes: its octets, the size of too many
of them, or the refusal of a text that spells none. The limit of the payload is out
of reach, since a text that long is refused as a whole.
-/

set_option autoImplicit false

namespace WebToken

namespace Token

theorem segmentBytes_cases (segment : Segment) (maximum : Nat) (text : String) :
    (∃ octets, text = Base64Url.encode octets ∧ octets.length ≤ maximum ∧
        segmentBytes segment maximum text = .ok octets) ∨
      (∃ octets, text = Base64Url.encode octets ∧ maximum < octets.length ∧
        segmentBytes segment maximum text = .error (.tooLarge segment octets.length maximum)) ∨
      (∀ octets, text ≠ Base64Url.encode octets) ∧
        ∃ fault, segmentBytes segment maximum text = .error (.invalidBase64 segment fault) := by
  unfold segmentBytes
  cases decoded : Base64Url.decode text with
  | error fault =>
      refine .inr (.inr ⟨fun octets spelled => ?_, fault, rfl⟩)
      rw [Base64Url.decode_eq_ok_iff.mpr spelled] at decoded
      cases decoded
  | ok octets =>
      have spelled := Base64Url.decode_eq_ok_iff.mp decoded
      by_cases long : octets.length > maximum
      · exact .inr (.inl ⟨octets, spelled, long, if_pos long⟩)
      · exact .inl ⟨octets, spelled, Nat.not_lt.mp long, if_neg long⟩

/-- A segment is read exactly if it is the spelling of a byte string within the limit. A
text that spells none is refused as such: one with a character that is no symbol, with a
single symbol left over or with an unused bit set. A spelling beyond the limit is refused
with the size of what it spells. -/
theorem segmentBytes_of_spelling (segment : Segment) (maximum : Nat) (text : String) :
    (∀ octets, segmentBytes segment maximum text = .ok octets ↔
        text = Base64Url.encode octets ∧ octets.length ≤ maximum) ∧
      ((∃ fault, segmentBytes segment maximum text = .error (.invalidBase64 segment fault)) ↔
        ∀ octets, text ≠ Base64Url.encode octets) ∧
      ((∀ octets, text ≠ Base64Url.encode octets) ↔ ¬ Base64Url.IsSpelling text) ∧
      ∀ size, segmentBytes segment maximum text = .error (.tooLarge segment size maximum) ↔
        ∃ octets, text = Base64Url.encode octets ∧ octets.length = size ∧ maximum < size := by
  refine ⟨fun octets => segmentBytes_eq_ok_iff, ?_, ?_, ?_⟩
  · rcases segmentBytes_cases segment maximum text with
      ⟨octets, spelled, -, read⟩ | ⟨octets, spelled, -, refused⟩ | ⟨unspelled, refused⟩
    · rw [read]
      exact ⟨nofun, fun unspelled => absurd spelled (unspelled octets)⟩
    · rw [refused]
      exact ⟨nofun, fun unspelled => absurd spelled (unspelled octets)⟩
    · exact ⟨fun _ => unspelled, fun _ => refused⟩
  · rw [Base64Url.isSpelling_iff, not_exists]
  · intro size
    rcases segmentBytes_cases segment maximum text with
      ⟨octets, spelled, short, read⟩ | ⟨octets, spelled, long, refused⟩ |
        ⟨unspelled, fault, refused⟩
    · rw [read]
      refine ⟨nofun, fun oversized => ?_⟩
      obtain ⟨other, same, rfl, long⟩ := oversized
      rw [← Base64Url.encode_injective (spelled.symm.trans same)] at long
      exact absurd short (Nat.not_le.mpr long)
    · rw [refused]
      constructor
      · intro same
        cases same
        exact ⟨octets, spelled, rfl, long⟩
      · intro oversized
        obtain ⟨other, same, rfl, -⟩ := oversized
        rw [Base64Url.encode_injective (spelled.symm.trans same)]
    · rw [refused]
      refine ⟨nofun, fun oversized => ?_⟩
      obtain ⟨other, same, -⟩ := oversized
      exact absurd same (unspelled other)

/-!
## Sizes that are refused
-/

section

variable {segment other : Segment} {maximum size bound : Nat} {text : String}

theorem exists_octets_of_tooLarge
    (refused : segmentBytes segment maximum text = .error (.tooLarge other size bound)) :
    other = segment ∧ ∃ octets, text = Base64Url.encode octets ∧ maximum < octets.length := by
  rcases segmentBytes_cases segment maximum text with
    ⟨octets, -, -, read⟩ | ⟨octets, spelled, long, refusal⟩ | ⟨-, fault, refusal⟩
  · cases refused.symm.trans read
  · cases refused.symm.trans refusal
    exact ⟨rfl, octets, spelled, long⟩
  · cases refused.symm.trans refusal

theorem segmentBytes_of_segmentText
    (refused : segmentText segment maximum text = .error (.tooLarge other size bound)) :
    segmentBytes segment maximum text = .error (.tooLarge other size bound) := by
  unfold segmentText at refused
  cases read : segmentBytes segment maximum text with
  | error error =>
      simp only [read] at refused
      cases refused
      rfl
  | ok bytes =>
      simp only [read] at refused
      cases decoded : Utf8.decode bytes with
      | error fault =>
          rw [decoded] at refused
          cases refused
      | ok chars =>
          rw [decoded] at refused
          cases refused

theorem parseClaims_ne_tooLarge (chars : List Char) :
    parseClaims segment chars ≠ .error (.tooLarge other size bound) := by
  unfold parseClaims
  split
  · cases Json.readMembers chars with
    | error fault => exact nofun
    | ok members => exact nofun
  · exact nofun

theorem ofClaims_ne_tooLarge (claims : Claims) :
    (Payload.ofClaims claims).mapError DecodeError.registeredClaim ≠
      .error (.tooLarge other size bound) := by
  cases Payload.ofClaims claims with
  | error defect => exact nofun
  | ok payload => exact nofun

end

theorem exists_payload_of_tooLarge {header payload signature : String} {size bound : Nat}
    (refused : decodeSegments header payload signature = .error (.tooLarge .payload size bound)) :
    ∃ octets, payload = Base64Url.encode octets ∧ Limits.payload < octets.length := by
  by_cases headerGiven : header = ""
  · subst headerGiven
    cases refused
  by_cases payloadGiven : payload = ""
  · subst payloadGiven
    rw [decodeSegments, if_neg (mt String.isEmpty_iff.mp headerGiven)] at refused
    cases refused
  rw [decodeSegments, if_neg (mt String.isEmpty_iff.mp headerGiven),
    if_neg (mt String.isEmpty_iff.mp payloadGiven)] at refused
  -- Of the steps only the two that read the payload and the signature could name a size
  -- of theirs, and the signature would not name the payload.
  simp only [bind_eq_error_iff] at refused
  rcases refused with header | ⟨_, -, payload | ⟨_, -, claims | ⟨_, -, claims | ⟨_, -, checked |
    ⟨_, -, signature | ⟨_, -, packed⟩⟩⟩⟩⟩⟩
  · cases (exists_octets_of_tooLarge (segmentBytes_of_segmentText header)).1
  · exact (exists_octets_of_tooLarge (segmentBytes_of_segmentText payload)).2
  · exact absurd claims (parseClaims_ne_tooLarge _)
  · exact absurd claims (parseClaims_ne_tooLarge _)
  · exact absurd checked (ofClaims_ne_tooLarge _)
  · cases (exists_octets_of_tooLarge signature).1
  · cases packed

/-- A text within its limit has no room for a payload beyond its own. -/
theorem payload_length_le {header signature : String} {octets : Bytes}
    (short : (header ++ "." ++ Base64Url.encode octets ++ "." ++ signature).utf8ByteSize ≤
      Limits.token) :
    octets.length ≤ Limits.payload := by
  have dot : ".".utf8ByteSize = 1 := rfl
  simp only [String.utf8ByteSize_append, Base64Url.utf8ByteSize_encode, dot, Limits.token] at short
  rw [Limits.payload]
  omega

/-- Decoding never refuses the size of the payload: a text whose payload spells more than
that limit allows is itself beyond the limit of a text, and is refused as such. -/
theorem decode_of_large_payload (text : String) :
    (∀ size maximum, decode text ≠ .error (.tooLarge .payload size maximum)) ∧
      ∀ header signature octets, parts text = [header, Base64Url.encode octets, signature] →
        49152 < octets.length → 65536 < text.utf8ByteSize ∧
          decode text = .error (.tokenTooLarge text.utf8ByteSize 65536) := by
  constructor
  · intro size maximum refused
    unfold decode at refused
    split at refused
    next => cases refused
    next short =>
      split at refused
      next header payload signature split =>
        obtain ⟨octets, rfl, long⟩ := exists_payload_of_tooLarge (map_eq_error_iff.mp refused)
        rw [eq_compact_of_parts split] at short
        exact absurd (payload_length_le (Nat.not_lt.mp short)) (Nat.not_le.mpr long)
      next => cases refused
  · intro header signature octets split long
    have oversized : 65536 < text.utf8ByteSize := by
      rw [eq_compact_of_parts split]
      refine Nat.not_le.mp fun short => ?_
      exact absurd (payload_length_le short) (Nat.not_le.mpr long)
    exact ⟨oversized, if_pos oversized⟩

theorem decode_of_payload_above_limit :
    65536 < ("e30" ++ "." ++ Base64Url.encode (List.replicate 49153 0) ++ "." ++ "").utf8ByteSize ∧
      decode ("e30" ++ "." ++ Base64Url.encode (List.replicate 49153 0) ++ "." ++ "") =
        .error (.tokenTooLarge
          ("e30" ++ "." ++ Base64Url.encode (List.replicate 49153 0) ++ "." ++ "").utf8ByteSize
          65536) := by
  refine (decode_of_large_payload _).2 "e30" "" (List.replicate 49153 0) ?_ ?_
  · exact parts_compact (by decide) (Base64Url.dot_not_mem_encode _) (by decide)
  · rw [List.length_replicate]
    decide

end Token

end WebToken
