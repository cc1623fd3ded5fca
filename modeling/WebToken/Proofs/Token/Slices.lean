import WebToken.Proofs.Text.Utf8
import WebToken.Token.Compact

/-!
# Slices of a token

A token holds its text and the offsets of two dots. The slices between them are the
segments that the text is put together from, octet by octet: none of the slices cuts a
character, and none leaves the text.
-/

set_option autoImplicit false

namespace WebToken

namespace Text

theorem utf8ByteSize_cons (first : Char) (rest : List Char) :
    (String.ofList (first :: rest)).utf8ByteSize =
      first.utf8Size + (String.ofList rest).utf8ByteSize := by
  rw [← Bytes.length_ofText, ← Bytes.length_ofText, Bytes.ofText, Bytes.ofText,
    String.toList_ofList, String.toList_ofList, List.flatMap_cons, List.length_append,
    String.length_utf8EncodeChar]

theorem before_append (front behind : List Char) :
    before (String.ofList front).utf8ByteSize (front ++ behind) = front := by
  induction front with
  | nil =>
      cases behind with
      | nil => rfl
      | cons first rest =>
          rw [List.nil_append, before, if_neg]
          exact Nat.not_le.mpr first.utf8Size_pos
  | cons first rest ih =>
      rw [utf8ByteSize_cons, List.cons_append, before, if_pos (Nat.le_add_right ..),
        Nat.add_sub_cancel_left, ih]

theorem after_append (front behind : List Char) :
    after (String.ofList front).utf8ByteSize (front ++ behind) = behind := by
  induction front with
  | nil =>
      cases behind with
      | nil => rfl
      | cons first rest =>
          rw [List.nil_append, after, if_neg]
          exact Nat.not_le.mpr first.utf8Size_pos
  | cons first rest ih =>
      rw [utf8ByteSize_cons, List.cons_append, after, if_pos (Nat.le_add_right ..),
        Nat.add_sub_cancel_left, ih]

/-- What stands between two other parts of a text is a slice of it. -/
theorem slice_append (front middle behind : String) :
    slice (front ++ middle ++ behind) front.utf8ByteSize (front ++ middle).utf8ByteSize =
      middle := by
  have until_ := before_append (front ++ middle).toList behind.toList
  have from_ := after_append front.toList middle.toList
  rw [String.ofList_toList] at until_ from_
  rw [slice, String.toList_append, until_, String.toList_append, from_, String.ofList_toList]

end Text

namespace Token

theorem size_dot : ".".utf8ByteSize = 1 := rfl

/-- The slices of a token are the segments that its text is put together from. -/
theorem slices_of_text {token : Token} {header payload signature : String}
    (text : token.text = header ++ "." ++ payload ++ "." ++ signature)
    (headerEnd : token.headerEnd = header.utf8ByteSize)
    (payloadEnd : token.payloadEnd = token.headerEnd + 1 + payload.utf8ByteSize) :
    token.headerSegment = header ∧ token.payloadSegment = payload ∧
      token.signatureSegment = signature ∧ token.signingInput = header ++ "." ++ payload := by
  have none : "".utf8ByteSize = 0 := rfl
  refine ⟨?_, ?_, ?_, ?_⟩
  · have sliced := Text.slice_append "" header ("." ++ payload ++ "." ++ signature)
    rw [headerSegment, text, headerEnd]
    simpa only [String.empty_append, none, String.append_assoc] using sliced
  · have sliced := Text.slice_append (header ++ ".") payload ("." ++ signature)
    rw [payloadSegment, text, payloadEnd, headerEnd]
    simpa only [String.utf8ByteSize_append, size_dot, String.append_assoc, Nat.add_assoc]
      using sliced
  · have sliced := Text.slice_append (header ++ "." ++ payload ++ ".") signature ""
    rw [signatureSegment, text, payloadEnd, headerEnd]
    simpa only [String.utf8ByteSize_append, size_dot, String.append_empty] using sliced
  · have sliced := Text.slice_append "" (header ++ "." ++ payload) ("." ++ signature)
    rw [signingInput, text, payloadEnd, headerEnd]
    simpa only [String.empty_append, none, String.utf8ByteSize_append, size_dot,
      String.append_assoc, Nat.add_assoc] using sliced

section

variable (token : Token)

theorem text_eq :
    token.text = token.headerSegment ++ "." ++ token.payloadSegment ++ "." ++
      token.signatureSegment := by
  obtain ⟨header, payload, signature, text, headerEnd, payloadEnd⟩ := token.framed
  obtain ⟨rfl, rfl, rfl, -⟩ := slices_of_text text headerEnd payloadEnd
  exact text

theorem signingInput_eq :
    token.signingInput = token.headerSegment ++ "." ++ token.payloadSegment := by
  obtain ⟨header, payload, signature, text, headerEnd, payloadEnd⟩ := token.framed
  obtain ⟨rfl, rfl, -, signed⟩ := slices_of_text text headerEnd payloadEnd
  exact signed

theorem text_eq_signed :
    token.text = token.signingInput ++ "." ++ token.signatureSegment := by
  rw [signingInput_eq]
  exact token.text_eq

theorem headerEnd_eq : token.headerEnd = token.headerSegment.utf8ByteSize := by
  obtain ⟨header, payload, signature, text, headerEnd, payloadEnd⟩ := token.framed
  obtain ⟨rfl, -⟩ := slices_of_text text headerEnd payloadEnd
  exact headerEnd

theorem payloadEnd_eq :
    token.payloadEnd = token.headerEnd + 1 + token.payloadSegment.utf8ByteSize := by
  obtain ⟨header, payload, signature, text, headerEnd, payloadEnd⟩ := token.framed
  obtain ⟨-, rfl, -⟩ := slices_of_text text headerEnd payloadEnd
  exact payloadEnd

end

end Token

end WebToken
