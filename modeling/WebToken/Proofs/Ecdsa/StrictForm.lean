import Mathlib.Data.List.TakeWhile
import WebToken.Ecdsa.Signature
import WebToken.Proofs.Ecdsa.JoseSignature

/-!
# The tagged form is the strict encoding

Tags are put on octet by octet, without a number ever being formed. What comes out is
the strict encoding of the two numbers that the halves of a signature denote: the
content of each number is the shortest that does not read as negative, and no length
takes more octets than it needs.
-/

set_option autoImplicit false

namespace WebToken

/-!
## Digits of a number
-/

namespace Bytes

theorem value_lt (bytes : Bytes) : value bytes < 256 ^ bytes.length := by
  induction bytes with
  | nil => exact Nat.one_pos
  | cons first rest ih =>
      have octet := first.toNat_lt
      rw [value_cons, List.length_cons, Nat.pow_succ, Nat.mul_comm (256 ^ rest.length)]
      calc first.toNat * 256 ^ rest.length + value rest
          < first.toNat * 256 ^ rest.length + 256 ^ rest.length := Nat.add_lt_add_left ih _
        _ = (first.toNat + 1) * 256 ^ rest.length := (Nat.succ_mul ..).symm
        _ ≤ 256 * 256 ^ rest.length := Nat.mul_le_mul_right _ octet

/-- Digits above the width do not show. -/
theorem ofValue_mul_add (width above number : Nat) :
    ofValue width (above * 256 ^ width + number) = ofValue width number := by
  induction width generalizing above with
  | zero => rfl
  | succ width ih =>
      have power : above * 256 ^ (width + 1) = above * 256 * 256 ^ width := by
        rw [Nat.pow_succ, Nat.mul_comm (256 ^ width), Nat.mul_assoc]
      have digit : (above * 256 * 256 ^ width + number) / 256 ^ width =
          above * 256 + number / 256 ^ width := by
        rw [Nat.add_comm, Nat.add_mul_div_right _ _ (Nat.pow_pos (by decide)), Nat.add_comm]
      have octet : UInt8.ofNat (above * 256 + number / 256 ^ width) =
          UInt8.ofNat (number / 256 ^ width) := by
        rw [← UInt8.toNat_inj, UInt8.toNat_ofNat', UInt8.toNat_ofNat']
        omega
      rw [ofValue, ofValue, power, digit, octet, ih]

theorem ofValue_value (bytes : Bytes) : ofValue bytes.length (value bytes) = bytes := by
  induction bytes with
  | nil => rfl
  | cons first rest ih =>
      have digit : (first.toNat * 256 ^ rest.length + value rest) / 256 ^ rest.length =
          first.toNat := by
        rw [Nat.add_comm, Nat.add_mul_div_right _ _ (Nat.pow_pos (by decide)),
          Nat.div_eq_of_lt (value_lt rest), Nat.zero_add]
      rw [List.length_cons, ofValue, value_cons, digit, ofValue_mul_add, ih, UInt8.ofNat_toNat]

theorem value_dropWhile_zero (bytes : Bytes) :
    value (bytes.dropWhile (· == 0)) = value bytes := by
  induction bytes with
  | nil => rfl
  | cons first rest ih =>
      by_cases zero : first = 0
      · subst zero
        rw [List.dropWhile_cons_of_pos (by rfl), ih, value_cons, UInt8.toNat_zero, Nat.zero_mul,
          Nat.zero_add]
      · rw [List.dropWhile_cons_of_neg (by simpa using zero)]

theorem ne_zero_of_dropWhile {bytes rest : Bytes} {first : UInt8}
    (digits : bytes.dropWhile (· == 0) = first :: rest) : first ≠ 0 := by
  have head := List.dropWhile_get_zero_not (· == 0) bytes (by rw [digits]; exact Nat.succ_pos _)
  simpa [digits] using head

/-- A number needs as many octets as it has digits after its leading zeros. -/
theorem widthOf_value {first : UInt8} {rest : Bytes} (leading : first ≠ 0) :
    widthOf (value (first :: rest)) = rest.length + 1 := by
  have digit : 1 ≤ first.toNat :=
    Nat.one_le_iff_ne_zero.mpr fun zero => leading (UInt8.toNat_inj.mp zero)
  have power : ∀ count, 256 ^ count = 2 ^ (8 * count) := fun count => (Nat.pow_mul 2 8 count).symm
  have lower : 2 ^ (8 * rest.length) ≤ value (first :: rest) := by
    rw [value_cons, ← power]
    exact Nat.le_add_right_of_le (Nat.le_mul_of_pos_left _ digit)
  have upper : value (first :: rest) < 2 ^ (8 * (rest.length + 1)) := by
    rw [← power]
    exact value_lt (first :: rest)
  have nonzero : value (first :: rest) ≠ 0 :=
    Nat.ne_of_gt (Nat.lt_of_lt_of_le (Nat.two_pow_pos _) lower)
  have least := (Nat.le_log2 nonzero).mpr lower
  have greatest := (Nat.log2_lt nonzero).mpr upper
  unfold widthOf
  omega

end Bytes

/-!
## What strict encoding writes
-/

namespace JoseSignature

theorem integerContent_eq_naturalContent (field : Bytes) :
    integerContent field = Der.naturalContent (Bytes.value field) := by
  rw [← Bytes.value_dropWhile_zero]
  unfold integerContent
  cases digits : field.dropWhile (· == 0) with
  | nil => rfl
  | cons first rest =>
      have leading := Bytes.ne_zero_of_dropWhile digits
      have written : Bytes.ofValue (Bytes.widthOf (Bytes.value (first :: rest)))
          (Bytes.value (first :: rest)) = first :: rest := by
        rw [Bytes.widthOf_value leading]
        exact Bytes.ofValue_value (first :: rest)
      simp only [Der.naturalContent, written, List.head?_cons, Option.any_some,
        decide_eq_true_eq]

theorem lengthOctets_of_short {length : Nat} (short : length < 128) :
    Der.lengthOctets length = [UInt8.ofNat length] :=
  if_pos short

theorem lengthOctets_of_octet {length : Nat} (long : 128 ≤ length) (octet : length ≤ 255) :
    Der.lengthOctets length = [0x81, UInt8.ofNat length] := by
  have nonzero : length ≠ 0 := by omega
  have least := (Nat.le_log2 nonzero).mpr (show 2 ^ 7 ≤ length from long)
  have greatest := (Nat.log2_lt nonzero).mpr (show length < 2 ^ 8 by omega)
  have width : Bytes.widthOf length = 1 := by
    unfold Bytes.widthOf
    omega
  simp only [Der.lengthOctets, if_neg (Nat.not_lt.mpr long), width, Bytes.ofValue, Nat.pow_zero,
    Nat.div_one]
  rfl

theorem taggedInteger_eq_item {content : Bytes} (short : content.length < 128) :
    taggedInteger content = Der.item .integer content := by
  rw [Der.item, lengthOctets_of_short short]
  rfl

theorem sequenceOf_eq_item {first second : Bytes} (firstShort : first.length < 128)
    (secondShort : second.length < 128) (short : first.length + second.length + 4 ≤ 255) :
    sequenceOf first second =
      Der.item .sequence (Der.item .integer first ++ Der.item .integer second) := by
  have size := length_taggedIntegers first second
  rw [← taggedInteger_eq_item firstShort, ← taggedInteger_eq_item secondShort, Der.item, size]
  simp only [sequenceOf, size]
  split
  next long =>
    rw [lengthOctets_of_octet long short]
    rfl
  next plain =>
    rw [lengthOctets_of_short (Nat.lt_succ_of_le (Nat.not_lt.mp plain))]
    rfl

section

variable {jose der : Bytes} {fieldLength : UInt64}

/-- The two numbers that the halves of a signature denote. -/
def numbers (jose : Bytes) (fieldLength : UInt64) : Ecdsa.Signature :=
  ⟨Bytes.value (jose.take fieldLength.toNat), Bytes.value (jose.drop fieldLength.toNat)⟩

/-- What is written for a narrow field is the strict encoding of its numbers. -/
theorem eq_write_of_toDer (written : toDer jose fieldLength = .ok der)
    (narrow : fieldLength.toNat ≤ 126) : der = (numbers jose fieldLength).write := by
  obtain ⟨-, -, width, short, rfl⟩ := toDer_eq_ok_iff.mp written
  have first := length_integerContent_le (jose.take fieldLength.toNat)
  have second := length_integerContent_le (jose.drop fieldLength.toNat)
  rw [List.length_take] at first
  rw [List.length_drop] at second
  rw [sequenceOf_eq_item (by omega) (by omega) short, integerContent_eq_naturalContent,
    integerContent_eq_naturalContent]
  rfl

/-- Fields of up to 124 octets leave room for both numbers, so that every signature of
the right length is written. -/
theorem toDer_eq_write (positive : fieldLength ≠ 0) (narrow : fieldLength.toNat ≤ 124)
    (width : jose.length = 2 * fieldLength.toNat) :
    toDer jose fieldLength = .ok (numbers jose fieldLength).write := by
  have first := length_integerContent_le (jose.take fieldLength.toNat)
  have second := length_integerContent_le (jose.drop fieldLength.toNat)
  rw [List.length_take] at first
  rw [List.length_drop] at second
  have written := toDer_eq_ok_iff.mpr ⟨positive, by omega, width, by omega, rfl⟩
  rw [← eq_write_of_toDer written (by omega), written]

end

end JoseSignature

end WebToken
