/-!
# Byte strings

Byte strings are lists of octets, so that codecs recurse on them directly.
Their unsigned value is read most significant octet first.
-/

set_option autoImplicit false

namespace WebToken

/-- A finite string of octets. -/
abbrev Bytes := List UInt8

namespace Bytes

/-- The octets of a text in UTF-8. -/
def ofText (text : String) : Bytes :=
  text.toList.flatMap String.utf8EncodeChar

/-- The unsigned number that the octets denote, most significant first.
The empty string denotes zero, and leading zero octets change nothing. -/
def value (bytes : Bytes) : Nat :=
  bytes.foldl (fun total byte => total * 256 + byte.toNat) 0

/-- The lowest `width` base-256 digits of a number, most significant first.
Digits above that width are dropped. -/
def ofValue : (width : Nat) → (number : Nat) → Bytes
  | 0, _ => []
  | width + 1, number => UInt8.ofNat (number / 256 ^ width) :: ofValue width number

theorem length_ofValue (width number : Nat) : (ofValue width number).length = width := by
  induction width with
  | zero => rfl
  | succ width ih => simp [ofValue, ih]

theorem foldl_value (bytes : Bytes) (total : Nat) :
    bytes.foldl (fun total byte => total * 256 + byte.toNat) total =
      total * 256 ^ bytes.length + bytes.value := by
  unfold value
  induction bytes generalizing total with
  | nil => simp
  | cons first rest ih =>
      simp only [List.foldl_cons, List.length_cons, ih (total * 256 + first.toNat),
        ih (0 * 256 + first.toNat)]
      grind

/-- The first octet counts as many times as the rest has values. -/
theorem value_cons (first : UInt8) (rest : Bytes) :
    value (first :: rest) = first.toNat * 256 ^ rest.length + value rest := by
  have split := foldl_value rest first.toNat
  simpa [value] using split

/-- Writing keeps the number, as far as the width allows. -/
theorem value_ofValue (width number : Nat) : value (ofValue width number) = number % 256 ^ width := by
  induction width with
  | zero => simp [ofValue, value, Nat.mod_one]
  | succ width ih =>
      rw [ofValue, value_cons, ih, length_ofValue, UInt8.toNat_ofNat', Nat.pow_succ 256,
        Nat.mod_mul, Nat.mul_comm (256 ^ width), Nat.add_comm]

/-- How many octets a number needs; one is used for zero. -/
def widthOf (number : Nat) : Nat :=
  number.log2 / 8 + 1

def fill (count : Nat) (byte : UInt8) : Bytes :=
  List.replicate count byte

end Bytes

end WebToken
