import WebToken.Error
import WebToken.Proofs.Chain
import WebToken.Proofs.Ecdsa.StrictForm

/-!
# The tagged forms that are read

More tagged forms are read than are written: a length may stand after a marker that it
does not need, and a number may have zeros in front or start with its high bit set, which
does not make it negative. What is read is a sequence of exactly two numbers all the same,
and each of them has to fit a field.
-/

set_option autoImplicit false

namespace WebToken

namespace JoseSignature

/-!
## Forms
-/

/-- A length in one octet, or in the octet after a marker, be that needed or not. -/
inductive SpellsLength : Bytes → Nat → Prop where
  | plain (octet : UInt8) (below : octet < 0x80) : SpellsLength [octet] octet.toNat
  | marked (octet : UInt8) : SpellsLength [0x81, octet] octet.toNat

structure SpellsInteger (item content : Bytes) : Prop where
  tagged : ∃ length : UInt8, item = integerTag :: length :: content ∧ length.toNat = content.length
  given : 1 ≤ content.length
  short : content.length ≤ 127

/-- A sequence that reaches to the end, and what stands in it. -/
def SpellsSequence (der items : Bytes) : Prop :=
  ∃ length, der = sequenceTag :: (length ++ items) ∧ SpellsLength length items.length

/-- A sequence of two numbers with these contents, and nothing else. -/
def Spells (der first second : Bytes) : Prop :=
  ∃ length items firstItem secondItem, der = sequenceTag :: (length ++ items) ∧
    SpellsLength length items.length ∧ items = firstItem ++ secondItem ∧
      SpellsInteger firstItem first ∧ SpellsInteger secondItem second

theorem SpellsLength.length_pos {octets : Bytes} {length : Nat}
    (spelled : SpellsLength octets length) : 1 ≤ octets.length := by
  cases spelled with
  | plain octet below => exact Nat.le_refl 1
  | marked octet => exact Nat.le_succ 1

theorem SpellsInteger.length_eq {item content : Bytes} (spelled : SpellsInteger item content) :
    item.length = content.length + 2 := by
  obtain ⟨length, rfl, -⟩ := spelled.tagged
  rfl

/-- Two numbers take at least six octets, after the tag and the length. -/
theorem Spells.length_ge {der first second : Bytes} (spelled : Spells der first second) :
    8 ≤ der.length := by
  obtain ⟨length, items, firstItem, secondItem, rfl, stated, rfl, firstSpelled, secondSpelled⟩ :=
    spelled
  have positive := stated.length_pos
  have firstSize := firstSpelled.length_eq
  have secondSize := secondSpelled.length_eq
  have firstGiven := firstSpelled.given
  have secondGiven := secondSpelled.given
  simp only [List.length_cons, List.length_append]
  omega

/-!
## Readers
-/

theorem readHeader_eq_ok_iff {der rest : Bytes} {stated : Nat} :
    readHeader der = .ok (stated, rest) ↔
      ∃ length, der = sequenceTag :: (length ++ rest) ∧ SpellsLength length stated := by
  constructor
  · intro read
    unfold readHeader at read
    split at read
    next tag octet unread =>
      split at read
      next => cases read
      next sequence =>
        obtain rfl := Decidable.not_not.mp sequence
        split at read
        next below =>
          cases read
          exact ⟨[octet], rfl, .plain octet below⟩
        next =>
          split at read
          next marker =>
            subst marker
            cases unread with
            | nil => cases read
            | cons length unread =>
                cases read
                exact ⟨[0x81, length], rfl, .marked length⟩
          next => cases read
    next => cases read
  · intro spelled
    obtain ⟨length, rfl, spells⟩ := spelled
    cases spells with
    | plain octet below => simp [readHeader, below]
    | marked octet =>
        have notPlain : ¬ (0x81 : UInt8) < 0x80 := by decide
        simp [readHeader, notPlain]

theorem readInteger_eq_ok_iff {bytes content rest : Bytes} :
    readInteger bytes = .ok (content, rest) ↔
      ∃ item, bytes = item ++ rest ∧ SpellsInteger item content := by
  constructor
  · intro read
    unfold readInteger at read
    split at read
    next tag length unread =>
      split at read
      next => cases read
      next integer =>
        obtain rfl := Decidable.not_not.mp integer
        split at read
        next => cases read
        next supported =>
          obtain ⟨nonzero, below⟩ := not_or.mp supported
          split at read
          next => cases read
          next whole =>
            cases read
            have size : (unread.take length.toNat).length = length.toNat :=
              List.length_take_of_le (Nat.not_lt.mp whole)
            have positive : length.toNat ≠ 0 := fun zero => nonzero (UInt8.toNat_inj.mp zero)
            have bound : length.toNat < 128 := UInt8.lt_iff_toNat_lt.mp (UInt8.not_le.mp below)
            refine ⟨_, (congrArg (integerTag :: length :: ·)
              (List.take_append_drop length.toNat unread)).symm, ⟨length, rfl, size.symm⟩, ?_, ?_⟩
            · rw [size]
              exact Nat.one_le_iff_ne_zero.mpr positive
            · rw [size]
              exact Nat.le_of_lt_succ bound
    next => cases read
  · intro spelled
    obtain ⟨item, rfl, ⟨length, rfl, size⟩, given, short⟩ := spelled
    have same : integerTag :: length :: content = taggedInteger content := by
      rw [taggedInteger, ← size, UInt8.ofNat_toNat]
    rw [same]
    exact readInteger_taggedInteger given (Nat.lt_succ_of_le short) rest

theorem readSequence_eq_ok_iff {der items : Bytes} :
    readSequence der = .ok items ↔ SpellsSequence der items := by
  unfold readSequence
  rw [bind_eq_ok_iff]
  constructor
  · intro read
    obtain ⟨⟨stated, content⟩, header, matched⟩ := read
    obtain ⟨length, rfl, spelled⟩ := readHeader_eq_ok_iff.mp header
    dsimp only at matched
    split at matched
    next => cases matched
    next same =>
      cases matched
      exact ⟨length, rfl, Decidable.not_not.mp same ▸ spelled⟩
  · intro spelled
    obtain ⟨length, rfl, spelled⟩ := spelled
    refine ⟨(items.length, items), readHeader_eq_ok_iff.mpr ⟨length, rfl, spelled⟩, ?_⟩
    exact if_neg (not_not_intro rfl)

/-!
## Contents as fields
-/

theorem value_stripZeros (fieldLength : Nat) (content : Bytes) :
    Bytes.value (stripZeros fieldLength content) = Bytes.value content := by
  induction content with
  | nil => rfl
  | cons first rest ih =>
      rw [stripZeros]
      split
      next stripped =>
        obtain ⟨-, rfl⟩ := stripped
        simp [ih, Bytes.value_cons]
      next => rfl

/-- What is left too long starts with a digit. -/
theorem le_value_stripZeros {fieldLength : Nat} {content : Bytes}
    (long : fieldLength < (stripZeros fieldLength content).length) :
    256 ^ fieldLength ≤ Bytes.value content := by
  induction content with
  | nil => exact absurd long (Nat.not_lt_zero _)
  | cons first rest ih =>
      rw [stripZeros] at long
      split at long
      next stripped =>
        obtain ⟨-, rfl⟩ := stripped
        simpa [Bytes.value_cons] using ih long
      next kept =>
        have digit : first ≠ 0 := fun zero => kept ⟨long, zero⟩
        have positive : 1 ≤ first.toNat :=
          Nat.one_le_iff_ne_zero.mpr fun zero => digit (UInt8.toNat_inj.mp zero)
        rw [Bytes.value_cons]
        calc 256 ^ fieldLength
            ≤ 256 ^ rest.length := Nat.pow_le_pow_right (by decide) (Nat.le_of_lt_succ long)
          _ ≤ first.toNat * 256 ^ rest.length := Nat.le_mul_of_pos_left _ positive
          _ ≤ first.toNat * 256 ^ rest.length + Bytes.value rest := Nat.le_add_right _ _

theorem value_fill_append (count : Nat) (digits : Bytes) :
    Bytes.value (Bytes.fill count 0 ++ digits) = Bytes.value digits := by
  induction count with
  | zero => rfl
  | succ count ih =>
      rw [Bytes.fill, List.replicate_succ, List.cons_append, Bytes.value_cons]
      simpa [Bytes.fill] using ih

theorem fill_append_eq_ofValue {fieldLength : Nat} {digits : Bytes}
    (fits : digits.length ≤ fieldLength) :
    Bytes.fill (fieldLength - digits.length) 0 ++ digits =
      Bytes.ofValue fieldLength (Bytes.value digits) := by
  have width : (Bytes.fill (fieldLength - digits.length) 0 ++ digits).length = fieldLength := by
    simp [Bytes.fill, fits]
  have whole := Bytes.ofValue_value (Bytes.fill (fieldLength - digits.length) 0 ++ digits)
  rw [width, value_fill_append] at whole
  exact whole.symm

/-- A content becomes a field if its number fits, however many zeros it has in front. -/
theorem fieldOf_eq_ok_iff {fieldLength : Nat} {content field : Bytes} :
    fieldOf fieldLength content = .ok field ↔
      Bytes.value content < 256 ^ fieldLength ∧
        field = Bytes.ofValue fieldLength (Bytes.value content) := by
  have number := value_stripZeros fieldLength content
  unfold fieldOf
  by_cases long : fieldLength < (stripZeros fieldLength content).length
  · have large := le_value_stripZeros long
    simp only [long, ↓reduceIte, reduceCtorEq, false_iff, not_and]
    exact fun fits => absurd fits (Nat.not_lt.mpr large)
  · have fits := Nat.not_lt.mp long
    have small : Bytes.value content < 256 ^ fieldLength := by
      rw [← number]
      exact Nat.lt_of_lt_of_le (Bytes.value_lt _) (Nat.pow_le_pow_right (by decide) fits)
    simp only [long, ↓reduceIte, fill_append_eq_ofValue fits, number, Except.ok.injEq, small,
      true_and, eq_comm]

theorem readFields_succ_eq_ok_iff {fieldLength count : Nat} {bytes fields rest : Bytes} :
    readFields fieldLength (count + 1) bytes = .ok (fields, rest) ↔
      ∃ item content behind others, bytes = item ++ behind ∧ SpellsInteger item content ∧
        Bytes.value content < 256 ^ fieldLength ∧
        readFields fieldLength count behind = .ok (others, rest) ∧
        fields = Bytes.ofValue fieldLength (Bytes.value content) ++ others := by
  rw [readFields, bind_eq_ok_iff]
  constructor
  · intro read
    obtain ⟨⟨content, behind⟩, number, afterNumber⟩ := read
    obtain ⟨item, rfl, spelled⟩ := readInteger_eq_ok_iff.mp number
    obtain ⟨field, filled, afterField⟩ := bind_eq_ok_iff.mp afterNumber
    obtain ⟨fits, rfl⟩ := fieldOf_eq_ok_iff.mp filled
    obtain ⟨⟨others, unread⟩, later, packed⟩ := bind_eq_ok_iff.mp afterField
    cases packed
    exact ⟨item, content, behind, others, rfl, spelled, fits, later, rfl⟩
  · intro spelled
    obtain ⟨item, content, behind, others, rfl, spelled, fits, later, rfl⟩ := spelled
    refine ⟨(content, behind), readInteger_eq_ok_iff.mpr ⟨item, rfl, spelled⟩, ?_⟩
    refine bind_eq_ok_iff.mpr ⟨_, fieldOf_eq_ok_iff.mpr ⟨fits, rfl⟩, ?_⟩
    exact bind_eq_ok_iff.mpr ⟨(others, rest), later, rfl⟩

theorem readNumbers_two_eq_ok_iff {fieldLength : Nat} {items jose : Bytes} :
    readNumbers fieldLength 2 items = .ok jose ↔
      ∃ first second firstItem secondItem, items = firstItem ++ secondItem ∧
        SpellsInteger firstItem first ∧ SpellsInteger secondItem second ∧
        Bytes.value first < 256 ^ fieldLength ∧ Bytes.value second < 256 ^ fieldLength ∧
        jose = Bytes.ofValue fieldLength (Bytes.value first) ++
          Bytes.ofValue fieldLength (Bytes.value second) := by
  simp only [readNumbers_eq_ok_iff, readFields_succ_eq_ok_iff]
  constructor
  · intro read
    obtain ⟨firstItem, first, _, _, rfl, firstSpelled, firstFits,
      ⟨secondItem, second, behind, others, rfl, secondSpelled, secondFits, none, rfl⟩, rfl⟩ := read
    cases none
    exact ⟨first, second, firstItem, secondItem, by rw [List.append_nil], firstSpelled,
      secondSpelled, firstFits, secondFits, by rw [List.append_nil]⟩
  · intro spelled
    obtain ⟨first, second, firstItem, secondItem, rfl, firstSpelled, secondSpelled, firstFits,
      secondFits, rfl⟩ := spelled
    exact ⟨firstItem, first, secondItem, _, rfl, firstSpelled, firstFits,
      ⟨secondItem, second, [], [], (List.append_nil _).symm, secondSpelled, secondFits, rfl,
        (List.append_nil _).symm⟩, rfl⟩

/-!
## Signatures that are read
-/

section

variable {der jose : Bytes} {fieldLength : UInt64}

/-- A signature comes out of every form of two numbers that fit, and of no other octets, if
twice the length of a field is neither too large for memory nor wraps. -/
theorem ofDer_eq_ok_iff_spells (word : fieldLength.toNat < 2 ^ 63) :
    ofDer der fieldLength = .ok jose ↔
      1 ≤ fieldLength.toNat ∧ 2 * fieldLength.toNat < 2 ^ 63 ∧
        ∃ first second, Spells der first second ∧
          Bytes.value first < 256 ^ fieldLength.toNat ∧
          Bytes.value second < 256 ^ fieldLength.toNat ∧
            jose = Bytes.ofValue fieldLength.toNat (Bytes.value first) ++
              Bytes.ofValue fieldLength.toNat (Bytes.value second) := by
  simp only [ofDer_eq_ok_iff_two word, readSequence_eq_ok_iff, readNumbers_two_eq_ok_iff]
  constructor
  · intro read
    obtain ⟨nonzero, held, items, ⟨length, rfl, spelled⟩, first, second, firstItem, secondItem,
      rfl, firstSpelled, secondSpelled, firstFits, secondFits, rfl⟩ := read
    rw [memoryLimit] at held
    exact ⟨Nat.one_le_iff_ne_zero.mpr (toNat_ne_zero nonzero), by omega, first, second,
      ⟨length, _, firstItem, secondItem, rfl, spelled, rfl, firstSpelled, secondSpelled⟩,
      firstFits, secondFits, rfl⟩
  · intro spelled
    obtain ⟨positive, held, first, second, ⟨length, items, firstItem, secondItem, rfl, spelled,
      rfl, firstSpelled, secondSpelled⟩, firstFits, secondFits, rfl⟩ := spelled
    rw [memoryLimit]
    exact ⟨ne_zero_of_toNat positive, by omega, _, ⟨length, rfl, spelled⟩, first, second,
      firstItem, secondItem, rfl, firstSpelled, secondSpelled, firstFits, secondFits, rfl⟩

/-- Where twice the length wraps there is no whole field, so that no number is read: zeros
come out of the empty sequence. -/
theorem ofDer_eq_ok_iff_of_wide (wide : 2 ^ 63 ≤ fieldLength.toNat) :
    ofDer der fieldLength = .ok jose ↔
      2 * fieldLength.toNat % 2 ^ 64 < 2 ^ 63 ∧ SpellsSequence der [] ∧
        jose = Bytes.fill (2 * fieldLength.toNat % 2 ^ 64) 0 := by
  have word := fieldLength.toNat_lt
  have wrapped := joseLength_of_wide wide
  have short : joseLength fieldLength < fieldLength.toNat := by omega
  have nonzero : fieldLength ≠ 0 := ne_zero_of_toNat (Nat.le_trans (by decide) wide)
  rw [ofDer_eq_ok_iff_readNumbers, Nat.div_eq_of_lt short, Nat.mod_eq_of_lt short,
    joseLength_eq_mod, memoryLimit, ← Nat.lt_iff_le_pred (by decide)]
  simp only [ne_eq, nonzero, not_false_eq_true, true_and, readSequence_eq_ok_iff,
    readNumbers_eq_ok_iff, readFields, Except.ok.injEq, Prod.mk.injEq]
  refine and_congr_right fun _ => ⟨fun read => ?_, fun spelled => ?_⟩
  · obtain ⟨items, fields, spelled, ⟨rfl, rfl⟩, rfl⟩ := read
    exact ⟨spelled, rfl⟩
  · obtain ⟨spelled, rfl⟩ := spelled
    exact ⟨[], [], spelled, ⟨rfl, rfl⟩, rfl⟩

/-- Memory is asked for as soon as there is a sequence, whatever stands in it. -/
theorem ofDer_eq_outOfMemory_iff :
    ofDer der fieldLength = .error .outOfMemory ↔
      2 ^ 63 ≤ 2 * fieldLength.toNat % 2 ^ 64 ∧ ∃ items, SpellsSequence der items := by
  rw [← joseLength_eq_mod]
  simp only [← readSequence_eq_ok_iff]
  unfold ofDer
  by_cases zero : fieldLength = 0
  · subst zero
    exact ⟨nofun, fun large => absurd large.1 (by decide)⟩
  rw [if_neg zero]
  cases readSequence der with
  | error fault => exact ⟨nofun, fun large => nomatch large.2⟩
  | ok content =>
      dsimp only
      by_cases large : joseLength fieldLength > memoryLimit
      · rw [if_pos large]
        exact ⟨fun _ => ⟨large, content, rfl⟩, fun _ => rfl⟩
      · rw [if_neg large]
        refine ⟨fun stopped => ?_, fun stopped => absurd stopped.1 large⟩
        cases found : readNumbers fieldLength.toNat (joseLength fieldLength / fieldLength.toNat)
            content <;> rw [found] at stopped <;> cases stopped

end

end JoseSignature

end WebToken
