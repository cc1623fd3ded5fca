import WebToken.Proofs.Ecdsa.LiberalForm

/-!
# The one strict encoding

Two numbers have exactly one strict encoding: no length takes more octets than it needs,
and each content is the shortest that does not read as negative. Writing a signature gives
this encoding, so that reading any form and writing it again makes it strict.
-/

set_option autoImplicit false

namespace WebToken

namespace JoseSignature

/-!
## Strictness
-/

/-- A length in one octet below 128, or else in as many octets as it has digits, after
their number with its high bit set. -/
inductive StrictLength : Bytes → Nat → Prop where
  | plain (octet : UInt8) (below : octet < 0x80) : StrictLength [octet] octet.toNat
  | counted (count first : UInt8) (rest : Bytes)
      (counts : count.toNat = 0x80 + (rest.length + 1)) (significant : first ≠ 0)
      (needed : 0x80 ≤ Bytes.value (first :: rest)) :
      StrictLength (count :: first :: rest) (Bytes.value (first :: rest))

def StrictItem (tag : UInt8) (item content : Bytes) : Prop :=
  ∃ length, item = tag :: (length ++ content) ∧ StrictLength length content.length

structure MinimalContent (content : Bytes) (number : Nat) : Prop where
  minimal : Der.isNaturalContent content = true
  denotes : Bytes.value content = number

def StrictInteger (item : Bytes) (number : Nat) : Prop :=
  ∃ content, StrictItem integerTag item content ∧ MinimalContent content number

/-- A sequence of the two numbers and nothing else, strict in every part. -/
def StrictSignature (der : Bytes) (numbers : Ecdsa.Signature) : Prop :=
  ∃ first second, StrictItem sequenceTag der (first ++ second) ∧
    StrictInteger first numbers.r ∧ StrictInteger second numbers.s

/-!
## Uniqueness
-/

theorem StrictLength.eq_lengthOctets {octets : Bytes} {length : Nat}
    (strict : StrictLength octets length) : octets = Der.lengthOctets length := by
  cases strict with
  | plain octet below =>
      have short : octet.toNat < 128 := UInt8.lt_iff_toNat_lt.mp below
      rw [lengthOctets_of_short short, UInt8.ofNat_toNat]
  | counted count first rest counts significant needed =>
      have width : Bytes.widthOf (Bytes.value (first :: rest)) = rest.length + 1 :=
        Bytes.widthOf_value significant
      have digits := Bytes.ofValue_value (first :: rest)
      rw [List.length_cons, ← width] at digits
      have marker : UInt8.ofNat (128 + Bytes.widthOf (Bytes.value (first :: rest))) = count := by
        rw [width, ← counts, UInt8.ofNat_toNat]
      simp only [Der.lengthOctets, if_neg (Nat.not_lt.mpr needed), marker, digits]

theorem StrictItem.eq_item {tag : Der.Tag} {item content : Bytes}
    (strict : StrictItem tag.octet item content) : item = Der.item tag content := by
  obtain ⟨length, rfl, short⟩ := strict
  rw [short.eq_lengthOctets, Der.item]

theorem integerContent_of_isNaturalContent {content : Bytes}
    (minimal : Der.isNaturalContent content = true) : integerContent content = content := by
  match content with
  | [only] =>
      have below : ¬ 0x80 ≤ only := UInt8.not_le.mpr (of_decide_eq_true minimal)
      by_cases zero : only = 0
      · subst zero
        rfl
      · simp [integerContent, zero, below]
  | first :: second :: rest =>
      simp only [Der.isNaturalContent, Bool.and_eq_true, decide_eq_true_eq,
        Bool.or_eq_true] at minimal
      obtain ⟨below, needed⟩ := minimal
      have nonnegative : ¬ 0x80 ≤ first := UInt8.not_le.mpr below
      by_cases zero : first = 0
      · have high : 0x80 ≤ second := needed.resolve_left (not_not_intro zero)
        have leading : second ≠ 0 := by
          rintro rfl
          exact absurd high (by decide)
        simp [integerContent, zero, leading, high]
      · simp [integerContent, zero, nonnegative]

theorem MinimalContent.eq_naturalContent {content : Bytes} {number : Nat}
    (minimal : MinimalContent content number) : content = Der.naturalContent number := by
  obtain ⟨minimal, rfl⟩ := minimal
  rw [← integerContent_eq_naturalContent, integerContent_of_isNaturalContent minimal]

theorem StrictInteger.eq_natural {item : Bytes} {number : Nat}
    (strict : StrictInteger item number) : item = Der.natural number := by
  obtain ⟨content, framed, minimal⟩ := strict
  have whole : item = Der.item .integer content := StrictItem.eq_item framed
  rw [whole, minimal.eq_naturalContent, Der.natural]

theorem StrictSignature.eq_write {der : Bytes} {numbers : Ecdsa.Signature}
    (strict : StrictSignature der numbers) : der = numbers.write := by
  obtain ⟨first, second, framed, firstStrict, secondStrict⟩ := strict
  have whole : der = Der.item .sequence (first ++ second) := StrictItem.eq_item framed
  rw [whole, firstStrict.eq_natural, secondStrict.eq_natural, Ecdsa.Signature.write]

/-!
## Existence
-/

theorem strictLength_lengthOctets {length : Nat} (octet : length ≤ 255) :
    StrictLength (Der.lengthOctets length) length := by
  have same : (UInt8.ofNat length).toNat = length :=
    UInt8.toNat_ofNat_of_lt' (Nat.lt_succ_of_le octet)
  by_cases short : length < 128
  · have below : UInt8.ofNat length < 0x80 := by
      rw [UInt8.lt_iff_toNat_lt, same]
      exact short
    have plain := StrictLength.plain _ below
    rwa [same, ← lengthOctets_of_short short] at plain
  · have long := Nat.not_lt.mp short
    have single : Bytes.value [UInt8.ofNat length] = length := by
      simp [Bytes.value, same]
    have significant : UInt8.ofNat length ≠ 0 := by
      intro zero
      rw [zero] at same
      exact absurd (same ▸ long) (by decide)
    have counted := StrictLength.counted 0x81 _ [] rfl significant (by rw [single]; exact long)
    rwa [single, ← lengthOctets_of_octet long octet] at counted

theorem strictItem_item (tag : Der.Tag) {content : Bytes} (octet : content.length ≤ 255) :
    StrictItem tag.octet (Der.item tag content) content :=
  ⟨_, rfl, strictLength_lengthOctets octet⟩

/-- What a field is written as is minimal, and denotes the same number. -/
theorem minimalContent_integerContent (field : Bytes) :
    MinimalContent (integerContent field) (Bytes.value field) := by
  rw [← Bytes.value_dropWhile_zero]
  unfold integerContent
  cases digits : field.dropWhile (· == 0) with
  | nil => exact ⟨rfl, rfl⟩
  | cons first rest =>
      have leading := Bytes.ne_zero_of_dropWhile digits
      by_cases high : 0x80 ≤ first
      · simp only [high, ↓reduceIte]
        refine ⟨by simpa [Der.isNaturalContent] using high, ?_⟩
        simp [Bytes.value_cons]
      · have below : first < 0x80 := UInt8.not_le.mp high
        simp only [high, ↓reduceIte]
        refine ⟨?_, rfl⟩
        cases rest with
        | nil => simpa [Der.isNaturalContent] using below
        | cons second rest => simpa [Der.isNaturalContent, leading] using below

section

variable {jose der : Bytes} {fieldLength : UInt64}

theorem strictSignature_of_toDer (written : toDer jose fieldLength = .ok der)
    (narrow : fieldLength.toNat ≤ 126) : StrictSignature der (numbers jose fieldLength) := by
  obtain ⟨-, -, width, short, rfl⟩ := toDer_eq_ok_iff.mp written
  have first := length_integerContent_le (jose.take fieldLength.toNat)
  have second := length_integerContent_le (jose.drop fieldLength.toNat)
  rw [List.length_take] at first
  rw [List.length_drop] at second
  have firstShort : (integerContent (jose.take fieldLength.toNat)).length < 128 := by omega
  have secondShort : (integerContent (jose.drop fieldLength.toNat)).length < 128 := by omega
  have size := length_taggedIntegers (integerContent (jose.take fieldLength.toNat))
    (integerContent (jose.drop fieldLength.toNat))
  rw [taggedInteger_eq_item firstShort, taggedInteger_eq_item secondShort] at size
  rw [sequenceOf_eq_item firstShort secondShort short]
  exact ⟨_, _, strictItem_item .sequence (size.trans_le short),
    ⟨_, strictItem_item .integer (by omega), minimalContent_integerContent _⟩,
    ⟨_, strictItem_item .integer (by omega), minimalContent_integerContent _⟩⟩

/-- A signature is written if both of its minimal contents fit behind one length octet. -/
theorem exists_toDer_iff :
    (∃ der, toDer jose fieldLength = .ok der) ↔
      1 ≤ fieldLength.toNat ∧ jose.length < 2 ^ 64 ∧ jose.length = 2 * fieldLength.toNat ∧
        ∃ first second, MinimalContent first (numbers jose fieldLength).r ∧
          MinimalContent second (numbers jose fieldLength).s ∧
            4 + first.length + second.length ≤ 255 := by
  have firstMinimal := minimalContent_integerContent (jose.take fieldLength.toNat)
  have secondMinimal := minimalContent_integerContent (jose.drop fieldLength.toNat)
  constructor
  · rintro ⟨der, written⟩
    obtain ⟨nonzero, word, width, short, -⟩ := toDer_eq_ok_iff.mp written
    exact ⟨Nat.one_le_iff_ne_zero.mpr (toNat_ne_zero nonzero), by omega, width, _, _, firstMinimal,
      secondMinimal, by omega⟩
  · rintro ⟨positive, word, width, first, second, firstSame, secondSame, short⟩
    obtain rfl := firstSame.eq_naturalContent.trans firstMinimal.eq_naturalContent.symm
    obtain rfl := secondSame.eq_naturalContent.trans secondMinimal.eq_naturalContent.symm
    exact ⟨_, toDer_eq_ok_iff.mpr ⟨ne_zero_of_toNat positive, by omega, width, by omega, rfl⟩⟩

end

/-!
## Strict among the forms that are read
-/

section

variable {rest others : Bytes}

theorem StrictLength.eq_of_append {strict spelled : Bytes} {length other : Nat}
    (short : StrictLength strict length) (spells : SpellsLength spelled other)
    (same : strict ++ rest = spelled ++ others) : strict = spelled := by
  cases short with
  | plain octet below =>
      cases spells with
      | plain => simpa using (List.cons.inj same).1
      | marked =>
          obtain ⟨rfl, -⟩ := List.cons.inj same
          exact absurd below (by decide)
  | counted count first digits counts =>
      cases spells with
      | plain octet below =>
          obtain ⟨rfl, -⟩ := List.cons.inj same
          have small : count.toNat < 128 := UInt8.lt_iff_toNat_lt.mp below
          rw [counts] at small
          exact absurd small (Nat.not_lt.mpr (Nat.le_add_right _ _))
      | marked octet =>
          obtain ⟨rfl, behind⟩ := List.cons.inj same
          obtain rfl : digits = [] :=
            List.eq_nil_of_length_eq_zero (Nat.succ.inj (Nat.add_left_cancel counts)).symm
          obtain ⟨rfl, -⟩ := List.cons.inj behind
          rfl

theorem StrictInteger.eq_of_append {item spelled content : Bytes} {number : Nat}
    (strict : StrictInteger item number) (spells : SpellsInteger spelled content)
    (same : item ++ rest = spelled ++ others) :
    Bytes.value content = number ∧ rest = others := by
  obtain ⟨digits, ⟨length, rfl, short⟩, -, rfl⟩ := strict
  obtain ⟨⟨octet, rfl, size⟩, -, supported⟩ := spells
  have behind : length ++ (digits ++ rest) = [octet] ++ (content ++ others) := by
    simpa using same
  have below : octet < 0x80 := by
    rw [UInt8.lt_iff_toNat_lt, size]
    exact Nat.lt_succ_of_le supported
  obtain rfl := short.eq_of_append (.plain octet below) behind
  have width : digits.length = content.length := by
    rw [← size]
    generalize digits.length = width at short
    cases short with
    | plain => rfl
  obtain ⟨rfl, rfl⟩ := List.append_inj (List.append_cancel_left behind) width
  exact ⟨rfl, rfl⟩

/-- A strict form is read as the numbers that it encodes. -/
theorem StrictSignature.eq_of_spells {der first second : Bytes} {encoded : Ecdsa.Signature}
    (strict : StrictSignature der encoded) (spelled : Spells der first second) :
    encoded = ⟨Bytes.value first, Bytes.value second⟩ := by
  obtain ⟨firstItem, secondItem, ⟨length, rfl, short⟩, firstStrict, secondStrict⟩ := strict
  obtain ⟨spelledLength, items, firstSpelled, secondSpelled, same, spells, rfl, firstSpells,
    secondSpells⟩ := spelled
  have behind := (List.cons.inj same).2
  obtain rfl := short.eq_of_append spells behind
  obtain ⟨firstNumber, rfl⟩ :=
    firstStrict.eq_of_append firstSpells (List.append_cancel_left behind)
  have whole : secondItem ++ [] = secondItem ++ [] := rfl
  obtain ⟨secondNumber, -⟩ := secondStrict.eq_of_append secondSpells whole
  rw [firstNumber, secondNumber]

end

section

variable {fieldLength : UInt64}

theorem numbers_ofValue {first second : Nat} (firstFits : first < 256 ^ fieldLength.toNat)
    (secondFits : second < 256 ^ fieldLength.toNat) :
    numbers (Bytes.ofValue fieldLength.toNat first ++ Bytes.ofValue fieldLength.toNat second)
      fieldLength = ⟨first, second⟩ := by
  have width := Bytes.length_ofValue fieldLength.toNat first
  rw [numbers, List.take_left' width, List.drop_left' width, Bytes.value_ofValue,
    Bytes.value_ofValue, Nat.mod_eq_of_lt firstFits, Nat.mod_eq_of_lt secondFits]

/-- What is read from any form is written as the strict form of the same numbers, if the
fields are narrow enough for every signature to be written. -/
theorem toDer_of_ofDer {der jose : Bytes} (read : ofDer der fieldLength = .ok jose)
    (narrow : fieldLength.toNat ≤ 124) :
    ∃ first second strict, Spells der first second ∧ toDer jose fieldLength = .ok strict ∧
      StrictSignature strict ⟨Bytes.value first, Bytes.value second⟩ := by
  obtain ⟨positive, -, first, second, spelled, firstFits, secondFits, rfl⟩ :=
    (ofDer_eq_ok_iff_spells (Nat.lt_of_le_of_lt narrow (by decide))).mp read
  have width : (Bytes.ofValue fieldLength.toNat (Bytes.value first) ++
      Bytes.ofValue fieldLength.toNat (Bytes.value second)).length = 2 * fieldLength.toNat := by
    rw [List.length_append, Bytes.length_ofValue, Bytes.length_ofValue, Nat.two_mul]
  have written := toDer_eq_write (ne_zero_of_toNat positive) narrow width
  have strict := strictSignature_of_toDer written (narrow.trans (by decide))
  rw [numbers_ofValue firstFits secondFits] at strict written
  exact ⟨first, second, _, spelled, written, strict⟩

/-- A signature with fields of at most 126 octets is written as the one strict encoding of
the numbers that its halves denote, provided that its content fits behind a length of one
octet and that its own length is a word. Fields of at most 124 octets always do: what was
read of them is written strictly, which gives back the form that was read if and only if
that one was strict. -/
theorem toDer_unique_strict (jose : Bytes) (fieldLength : UInt64) :
    ((∃ der, toDer jose fieldLength = .ok der) ↔
      1 ≤ fieldLength.toNat ∧ jose.length < 2 ^ 64 ∧ jose.length = 2 * fieldLength.toNat ∧
        ∃ first second, MinimalContent first (Bytes.value (jose.take fieldLength.toNat)) ∧
          MinimalContent second (Bytes.value (jose.drop fieldLength.toNat)) ∧
            4 + first.length + second.length ≤ 255) ∧
    (fieldLength.toNat ≤ 126 → ∀ der, toDer jose fieldLength = .ok der →
      ∀ other, other = der ↔ StrictSignature other
        ⟨Bytes.value (jose.take fieldLength.toNat), Bytes.value (jose.drop fieldLength.toNat)⟩) ∧
    (fieldLength.toNat ≤ 124 → ∀ der, ofDer der fieldLength = .ok jose →
      ∃ first second strict, Spells der first second ∧ toDer jose fieldLength = .ok strict ∧
        StrictSignature strict ⟨Bytes.value first, Bytes.value second⟩ ∧
          (strict = der ↔ ∃ encoded, StrictSignature der encoded)) := by
  refine ⟨exists_toDer_iff, fun narrow der written other => ?_, fun narrow der read => ?_⟩
  · have strict := strictSignature_of_toDer written narrow
    constructor
    · rintro rfl
      exact strict
    · intro also
      exact also.eq_write.trans strict.eq_write.symm
  · obtain ⟨first, second, strict, spelled, written, encodes⟩ := toDer_of_ofDer read narrow
    refine ⟨first, second, strict, spelled, written, encodes, ?_⟩
    constructor
    · rintro rfl
      exact ⟨_, encodes⟩
    · rintro ⟨encoded, already⟩
      obtain rfl := already.eq_of_spells spelled
      exact encodes.eq_write.trans already.eq_write.symm

end

/-- A form with a marker that it does not need, a redundant zero and a number that starts
with its high bit set is read, and what was read is written otherwise. -/
theorem toDer_unique_strict_of_liberal :
    ofDer [0x30, 0x81, 8, 2, 2, 0x00, 0x05, 2, 2, 0x80, 0x01] 2 = .ok [0x00, 0x05, 0x80, 0x01] ∧
      toDer [0x00, 0x05, 0x80, 0x01] 2 = .ok [0x30, 8, 2, 1, 0x05, 2, 3, 0x00, 0x80, 0x01] ∧
      StrictSignature [0x30, 8, 2, 1, 0x05, 2, 3, 0x00, 0x80, 0x01] ⟨0x05, 0x8001⟩ ∧
      ¬ ∃ encoded,
        StrictSignature [0x30, 0x81, 8, 2, 2, 0x00, 0x05, 2, 2, 0x80, 0x01] encoded := by
  have read : ofDer [0x30, 0x81, 8, 2, 2, 0x00, 0x05, 2, 2, 0x80, 0x01] 2 =
      .ok [0x00, 0x05, 0x80, 0x01] := by decide
  have written : toDer [0x00, 0x05, 0x80, 0x01] 2 =
      .ok [0x30, 8, 2, 1, 0x05, 2, 3, 0x00, 0x80, 0x01] := rfl
  obtain ⟨-, unique, liberal⟩ := toDer_unique_strict [0x00, 0x05, 0x80, 0x01] 2
  refine ⟨read, written, (unique (by decide) _ written _).mp rfl, fun already => ?_⟩
  obtain ⟨first, second, strict, -, again, -, restored⟩ := liberal (by decide) _ read
  obtain rfl := Except.ok.inj (written.symm.trans again)
  exact absurd (restored.mpr already) (by decide)

end JoseSignature

end WebToken
