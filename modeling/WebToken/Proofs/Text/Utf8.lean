import WebToken.Text.Utf8

/-!
# Reading back text in UTF-8

Every text is read back from its octets. Each character is recognised by its
lead octet and takes as many octets as its code asks for.
-/

set_option autoImplicit false

namespace WebToken

namespace Bytes

theorem ofText_append (left right : String) :
    ofText (left ++ right) = ofText left ++ ofText right := by
  rw [ofText, String.toList_append, List.flatMap_append]
  rfl

theorem length_ofText (text : String) : (ofText text).length = text.utf8ByteSize := by
  have octets : text.toByteArray = text.toList.utf8Encode := by
    rw [← String.toByteArray_ofList, String.ofList_toList]
  rw [← String.size_toByteArray, octets, List.utf8Encode, List.size_toByteArray, ofText]

end Bytes

namespace Utf8

variable {offset : Nat} {seen : List Char} {lead second third fourth : UInt8} {rest : Bytes}

theorem decodeFrom_one (single : lead < 0x80) :
    decodeFrom offset seen (lead :: rest) =
      decodeFrom (offset + 1) (Char.ofNat lead.toNat :: seen) rest := by
  rw [decodeFrom.eq_def]
  simp only [if_pos single]

theorem decodeFrom_two (range : 0xC2 ≤ lead ∧ lead ≤ 0xDF)
    (continued : isContinuation second = true) :
    decodeFrom offset seen (lead :: second :: rest) =
      decodeFrom (offset + 2)
        (Char.ofNat (lead.toNat % 32 * 64 + tailBits second) :: seen) rest := by
  have long : ¬ lead < 0x80 := by grind
  rw [decodeFrom.eq_def]
  simp only [if_neg long, if_pos range, continued, ↓reduceIte]

theorem decodeFrom_three (range : 0xE0 ≤ lead ∧ lead ≤ 0xEF)
    (restricted : isSecond lead second = true) (continued : isContinuation third = true) :
    decodeFrom offset seen (lead :: second :: third :: rest) =
      decodeFrom (offset + 3)
        (Char.ofNat ((lead.toNat % 16 * 64 + tailBits second) * 64 + tailBits third) :: seen)
        rest := by
  have long : ¬ lead < 0x80 := by grind
  have longer : ¬ (0xC2 ≤ lead ∧ lead ≤ 0xDF) := by grind
  rw [decodeFrom.eq_def]
  simp only [if_neg long, if_neg longer, if_pos range, restricted, continued,
    ↓reduceIte]

theorem decodeFrom_four (range : 0xF0 ≤ lead ∧ lead ≤ 0xF4)
    (restricted : isSecond lead second = true) (continued : isContinuation third = true)
    (ended : isContinuation fourth = true) :
    decodeFrom offset seen (lead :: second :: third :: fourth :: rest) =
      decodeFrom (offset + 4)
        (Char.ofNat (((lead.toNat % 8 * 64 + tailBits second) * 64 + tailBits third) * 64 +
          tailBits fourth) :: seen) rest := by
  have long : ¬ lead < 0x80 := by grind
  have longer : ¬ (0xC2 ≤ lead ∧ lead ≤ 0xDF) := by grind
  have longest : ¬ (0xE0 ≤ lead ∧ lead ≤ 0xEF) := by grind
  rw [decodeFrom.eq_def]
  simp only [if_neg long, if_neg longer, if_neg longest, if_pos range, restricted,
    continued, ended, ↓reduceIte]

theorem toNat_octet {number : Nat} (small : number < 256) : (UInt8.ofNat number).toNat = number :=
  UInt8.toNat_ofNat_of_lt' small

theorem isContinuation_iff :
    isContinuation second = true ↔ 128 ≤ second.toNat ∧ second.toNat ≤ 191 := by
  simp only [isContinuation, Bool.and_eq_true, decide_eq_true_eq, UInt8.le_iff_toNat_le]
  rfl

/-- The second octet of a longer form is a continuation that some lead octets restrict
further. -/
theorem isSecond_iff :
    isSecond lead second = true ↔ isContinuation second = true ∧
      (lead.toNat = 224 → 160 ≤ second.toNat) ∧ (lead.toNat = 237 → second.toNat ≤ 159) ∧
      (lead.toNat = 240 → 144 ≤ second.toNat) ∧ (lead.toNat = 244 → second.toNat ≤ 143) := by
  simp only [isSecond, isContinuation, ← UInt8.toNat_inj, UInt8.le_iff_toNat_le,
    UInt8.reduceToNat]
  grind

/-- A continuation octet of six bits. -/
theorem tailBits_ofNat (bits : Nat) :
    isContinuation (UInt8.ofNat (bits % 64 + 128)) = true ∧
      tailBits (UInt8.ofNat (bits % 64 + 128)) = bits % 64 := by
  have octet : (UInt8.ofNat (bits % 64 + 128)).toNat = bits % 64 + 128 :=
    toNat_octet (by omega)
  constructor
  · rw [isContinuation_iff, octet]
    omega
  · simp only [tailBits, octet]
    omega

/-- A lead octet is in its range if its number is. -/
theorem lead_range (low high : Nat) {number : Nat} (within : low ≤ number ∧ number ≤ high)
    (small : high < 256) :
    UInt8.ofNat low ≤ UInt8.ofNat number ∧ UInt8.ofNat number ≤ UInt8.ofNat high := by
  rw [UInt8.le_iff_toNat_le, UInt8.le_iff_toNat_le, toNat_octet (by omega), toNat_octet (by omega),
    toNat_octet small]
  exact within

/-!
## The octets of a code
-/

variable {code : Nat}

theorem decodeFrom_code_one (small : code ≤ 127) :
    decodeFrom offset seen (UInt8.ofNat code :: rest) =
      decodeFrom (offset + 1) (Char.ofNat code :: seen) rest := by
  have octet : (UInt8.ofNat code).toNat = code := toNat_octet (by omega)
  have single : UInt8.ofNat code < 0x80 := by
    rw [UInt8.lt_iff_toNat_lt, octet]
    exact Nat.lt_succ_of_le small
  rw [decodeFrom_one single, octet]

theorem decodeFrom_code_two (lower : 127 < code) (upper : code ≤ 2047) :
    decodeFrom offset seen
        (UInt8.ofNat (code / 64 % 32 + 192) :: UInt8.ofNat (code % 64 + 128) :: rest) =
      decodeFrom (offset + 2) (Char.ofNat code :: seen) rest := by
  obtain ⟨continued, tail⟩ := tailBits_ofNat code
  have octet : (UInt8.ofNat (code / 64 % 32 + 192)).toNat = code / 64 % 32 + 192 :=
    toNat_octet (by omega)
  have range := lead_range 194 223
    (show 194 ≤ code / 64 % 32 + 192 ∧ code / 64 % 32 + 192 ≤ 223 by omega) (by omega)
  have whole : (code / 64 % 32 + 192) % 32 * 64 + code % 64 = code := by omega
  rw [decodeFrom_two range continued, octet, tail, whole]

theorem decodeFrom_code_three (lower : 2047 < code) (upper : code ≤ 65535)
    (scalar : code < 55296 ∨ 57343 < code) :
    decodeFrom offset seen
        (UInt8.ofNat (code / 4096 % 16 + 224) :: UInt8.ofNat (code / 64 % 64 + 128) ::
          UInt8.ofNat (code % 64 + 128) :: rest) =
      decodeFrom (offset + 3) (Char.ofNat code :: seen) rest := by
  obtain ⟨continued, tail⟩ := tailBits_ofNat code
  obtain ⟨middle, middleTail⟩ := tailBits_ofNat (code / 64)
  have octet : (UInt8.ofNat (code / 4096 % 16 + 224)).toNat = code / 4096 % 16 + 224 :=
    toNat_octet (by omega)
  have second : (UInt8.ofNat (code / 64 % 64 + 128)).toNat = code / 64 % 64 + 128 :=
    toNat_octet (by omega)
  have range := lead_range 224 239
    (show 224 ≤ code / 4096 % 16 + 224 ∧ code / 4096 % 16 + 224 ≤ 239 by omega) (by omega)
  have restricted : isSecond (UInt8.ofNat (code / 4096 % 16 + 224))
      (UInt8.ofNat (code / 64 % 64 + 128)) = true := by
    refine isSecond_iff.mpr ⟨middle, ?_, ?_, ?_, ?_⟩ <;> rw [octet, second] <;> omega
  have whole : ((code / 4096 % 16 + 224) % 16 * 64 + code / 64 % 64) * 64 + code % 64 = code := by
    omega
  rw [decodeFrom_three range restricted continued, octet, middleTail, tail, whole]

theorem decodeFrom_code_four (lower : 65535 < code) (upper : code < 1114112) :
    decodeFrom offset seen
        (UInt8.ofNat (code / 262144 % 8 + 240) :: UInt8.ofNat (code / 4096 % 64 + 128) ::
          UInt8.ofNat (code / 64 % 64 + 128) :: UInt8.ofNat (code % 64 + 128) :: rest) =
      decodeFrom (offset + 4) (Char.ofNat code :: seen) rest := by
  obtain ⟨continued, tail⟩ := tailBits_ofNat code
  obtain ⟨middle, middleTail⟩ := tailBits_ofNat (code / 64)
  obtain ⟨front, frontTail⟩ := tailBits_ofNat (code / 4096)
  have octet : (UInt8.ofNat (code / 262144 % 8 + 240)).toNat = code / 262144 % 8 + 240 :=
    toNat_octet (by omega)
  have second : (UInt8.ofNat (code / 4096 % 64 + 128)).toNat = code / 4096 % 64 + 128 :=
    toNat_octet (by omega)
  have range := lead_range 240 244
    (show 240 ≤ code / 262144 % 8 + 240 ∧ code / 262144 % 8 + 240 ≤ 244 by omega) (by omega)
  have restricted : isSecond (UInt8.ofNat (code / 262144 % 8 + 240))
      (UInt8.ofNat (code / 4096 % 64 + 128)) = true := by
    refine isSecond_iff.mpr ⟨front, ?_, ?_, ?_, ?_⟩ <;> rw [octet, second] <;> omega
  have whole : (((code / 262144 % 8 + 240) % 8 * 64 + code / 4096 % 64) * 64 +
      code / 64 % 64) * 64 + code % 64 = code := by
    omega
  rw [decodeFrom_four range restricted middle continued, octet, frontTail, middleTail, tail, whole]

/-!
## Whole texts
-/

/-- A character is read back from its octets, whatever follows them. -/
theorem decodeFrom_utf8EncodeChar (character : Char) :
    decodeFrom offset seen (String.utf8EncodeChar character ++ rest) =
      decodeFrom (offset + (String.utf8EncodeChar character).length) (character :: seen) rest := by
  have valid : character.toNat < 55296 ∨ 57343 < character.toNat ∧ character.toNat < 1114112 :=
    character.valid
  have same : Char.ofNat character.val.toNat = character := Char.ofNat_toNat character
  fun_cases String.utf8EncodeChar character with
  | case1 code one => exact (decodeFrom_code_one one).trans (by rw [same]; rfl)
  | case2 code one two =>
      exact (decodeFrom_code_two (Nat.not_le.mp one) two).trans (by rw [same]; rfl)
  | case3 code one two three =>
      have scalar : character.toNat < 55296 ∨ 57343 < character.toNat :=
        valid.imp_right And.left
      exact (decodeFrom_code_three (Nat.not_le.mp two) three scalar).trans (by rw [same]; rfl)
  | case4 code one two three =>
      have upper : character.toNat < 1114112 := by omega
      exact (decodeFrom_code_four (Nat.not_le.mp three) upper).trans (by rw [same]; rfl)

theorem decodeFrom_flatMap (offset : Nat) (seen characters : List Char) :
    decodeFrom offset seen (characters.flatMap String.utf8EncodeChar) =
      .ok (seen.reverse ++ characters) := by
  induction characters generalizing offset seen with
  | nil => simp [decodeFrom]
  | cons character characters ih =>
      rw [List.flatMap_cons, decodeFrom_utf8EncodeChar, ih, List.reverse_cons, List.append_assoc,
        List.singleton_append]

theorem decode_ofText (text : String) : decode (Bytes.ofText text) = .ok text.toList :=
  decodeFrom_flatMap 0 [] text.toList

/-!
## Only texts are read
-/

theorem toNat_ofNat_of_scalar (scalar : code < 55296 ∨ 57343 < code ∧ code < 1114112) :
    (Char.ofNat code).val.toNat = code := by
  have valid : code.isValidChar := scalar
  rw [Char.ofNat, dif_pos valid]
  rfl

theorem tailBits_of_isContinuation (continued : isContinuation second = true) :
    tailBits second = second.toNat - 128 := by
  obtain ⟨lower, upper⟩ := isContinuation_iff.mp continued
  unfold tailBits
  omega

theorem utf8EncodeChar_one (single : lead < 0x80) :
    String.utf8EncodeChar (Char.ofNat lead.toNat) = [lead] := by
  have small : lead.toNat < 128 := UInt8.lt_iff_toNat_lt.mp single
  have value := toNat_ofNat_of_scalar (show lead.toNat < 55296 ∨ _ by omega)
  rw [String.utf8EncodeChar]
  simp only [value, if_pos (show lead.toNat ≤ 127 by omega), UInt8.ofNat_toNat]

theorem utf8EncodeChar_two (range : 0xC2 ≤ lead ∧ lead ≤ 0xDF)
    (continued : isContinuation second = true) :
    String.utf8EncodeChar (Char.ofNat (lead.toNat % 32 * 64 + tailBits second)) =
      [lead, second] := by
  rw [UInt8.le_iff_toNat_le, UInt8.le_iff_toNat_le] at range
  obtain ⟨lower, upper⟩ : 194 ≤ lead.toNat ∧ lead.toNat ≤ 223 := range
  have bounds := isContinuation_iff.mp continued
  rw [tailBits_of_isContinuation continued]
  generalize whole : lead.toNat % 32 * 64 + (second.toNat - 128) = code
  have value := toNat_ofNat_of_scalar (show code < 55296 ∨ _ by omega)
  have front : code / 64 % 32 + 192 = lead.toNat := by omega
  have back : code % 64 + 128 = second.toNat := by omega
  rw [String.utf8EncodeChar]
  simp only [value, if_neg (show ¬code ≤ 127 by omega), if_pos (show code ≤ 2047 by omega), front,
    back, UInt8.ofNat_toNat]

theorem utf8EncodeChar_three (range : 0xE0 ≤ lead ∧ lead ≤ 0xEF)
    (restricted : isSecond lead second = true) (continued : isContinuation third = true) :
    String.utf8EncodeChar (Char.ofNat
        ((lead.toNat % 16 * 64 + tailBits second) * 64 + tailBits third)) =
      [lead, second, third] := by
  rw [UInt8.le_iff_toNat_le, UInt8.le_iff_toNat_le] at range
  obtain ⟨lower, upper⟩ : 224 ≤ lead.toNat ∧ lead.toNat ≤ 239 := range
  obtain ⟨middle, overlong, surrogate, -, -⟩ := isSecond_iff.mp restricted
  have bounds := isContinuation_iff.mp middle
  have bounds' := isContinuation_iff.mp continued
  rw [tailBits_of_isContinuation middle, tailBits_of_isContinuation continued]
  generalize whole : (lead.toNat % 16 * 64 + (second.toNat - 128)) * 64 +
    (third.toNat - 128) = code
  have long : 2047 < code := by omega
  have scalar : code < 55296 ∨ 57343 < code ∧ code < 1114112 := by omega
  have value := toNat_ofNat_of_scalar scalar
  have first : code / 4096 % 16 + 224 = lead.toNat := by omega
  have next : code / 64 % 64 + 128 = second.toNat := by omega
  have last : code % 64 + 128 = third.toNat := by omega
  rw [String.utf8EncodeChar]
  simp only [value, if_neg (show ¬code ≤ 127 by omega), if_neg (Nat.not_le.mpr long),
    if_pos (show code ≤ 65535 by omega), first, next, last, UInt8.ofNat_toNat]

theorem utf8EncodeChar_four (range : 0xF0 ≤ lead ∧ lead ≤ 0xF4)
    (restricted : isSecond lead second = true) (continued : isContinuation third = true)
    (ended : isContinuation fourth = true) :
    String.utf8EncodeChar (Char.ofNat
        (((lead.toNat % 8 * 64 + tailBits second) * 64 + tailBits third) * 64 +
          tailBits fourth)) = [lead, second, third, fourth] := by
  rw [UInt8.le_iff_toNat_le, UInt8.le_iff_toNat_le] at range
  obtain ⟨lower, upper⟩ : 240 ≤ lead.toNat ∧ lead.toNat ≤ 244 := range
  obtain ⟨middle, -, -, short, large⟩ := isSecond_iff.mp restricted
  have bounds := isContinuation_iff.mp middle
  have bounds' := isContinuation_iff.mp continued
  have bounds'' := isContinuation_iff.mp ended
  rw [tailBits_of_isContinuation middle, tailBits_of_isContinuation continued,
    tailBits_of_isContinuation ended]
  generalize whole : ((lead.toNat % 8 * 64 + (second.toNat - 128)) * 64 +
    (third.toNat - 128)) * 64 + (fourth.toNat - 128) = code
  have long : 65535 < code := by omega
  have scalar : code < 55296 ∨ 57343 < code ∧ code < 1114112 := by omega
  have value := toNat_ofNat_of_scalar scalar
  have first : code / 262144 % 8 + 240 = lead.toNat := by omega
  have next : code / 4096 % 64 + 128 = second.toNat := by omega
  have middle : code / 64 % 64 + 128 = third.toNat := by omega
  have last : code % 64 + 128 = fourth.toNat := by omega
  rw [String.utf8EncodeChar]
  simp only [value, if_neg (show ¬code ≤ 127 by omega), if_neg (show ¬code ≤ 2047 by omega),
    if_neg (Nat.not_le.mpr long), first, next, middle, last, UInt8.ofNat_toNat]

/-- What is decoded has the octets that were read. -/
theorem eq_flatMap_of_decodeFrom {bytes : Bytes} {characters : List Char}
    (decoded : decodeFrom offset seen bytes = .ok characters) :
    ∃ read, characters = seen.reverse ++ read ∧
      bytes = read.flatMap String.utf8EncodeChar := by
  -- A character that is read goes from the octets to the front of what was read before.
  have consumed : ∀ {character : Char} {octets rest : Bytes} {seen : List Char},
      String.utf8EncodeChar character = octets →
      (∃ read, characters = (character :: seen).reverse ++ read ∧
        rest = read.flatMap String.utf8EncodeChar) →
      ∃ read, characters = seen.reverse ++ read ∧
        octets ++ rest = read.flatMap String.utf8EncodeChar := by
    rintro character octets rest seen rfl ⟨read, rfl, rfl⟩
    refine ⟨character :: read, ?_, ?_⟩
    · rw [List.reverse_cons, List.append_assoc, List.singleton_append]
    · rw [List.flatMap_cons]
  fun_induction decodeFrom offset seen bytes with
  | case1 => exact ⟨[], by rw [← Except.ok.inj decoded, List.append_nil], rfl⟩
  | case2 offset seen lead rest single ih => exact consumed (utf8EncodeChar_one single) (ih decoded)
  | case4 offset seen lead long range second rest continued code ih =>
      exact consumed (utf8EncodeChar_two range continued) (ih decoded)
  | case8 offset seen lead _ _ range second restricted third rest continued code ih =>
      exact consumed (utf8EncodeChar_three range restricted continued) (ih decoded)
  | case14 offset seen lead _ _ _ range second restricted third continued fourth rest ended code
      ih =>
      exact consumed (utf8EncodeChar_four range restricted continued ended) (ih decoded)
  | _ => cases decoded

/-- Octets are decoded if and only if they are those of a text. -/
theorem decode_eq_ok_iff {bytes : Bytes} {characters : List Char} :
    decode bytes = .ok characters ↔ bytes = Bytes.ofText (String.ofList characters) := by
  constructor
  · intro decoded
    obtain ⟨read, rfl, octets⟩ := eq_flatMap_of_decodeFrom decoded
    rw [Bytes.ofText, String.toList_ofList]
    exact octets
  · rintro rfl
    rw [decode_ofText, String.toList_ofList]

end Utf8

theorem Bytes.ofText_injective {left right : String} (same : ofText left = ofText right) :
    left = right := by
  have decoded := Utf8.decode_ofText left
  rw [same, Utf8.decode_ofText] at decoded
  exact (String.toList_inj.mp (Except.ok.inj decoded)).symm

end WebToken
