import WebToken.Ecdsa.JoseSignature
import WebToken.Proofs.Chain

/-!
# From fixed width to tags and back

A signature that was given its tags is read back as it was, as long as both of its
numbers are short enough to be read. A number is written with its length in one
octet whatever that length is, but it is read only up to 127 octets. So there are
fields for which a signature is written and then refused.
-/

set_option autoImplicit false

namespace WebToken.JoseSignature

/-!
## What is written
-/

/-- The sequence of two numbers. Its length takes one octet, after a marker from
128 on. -/
def sequenceOf (first second : Bytes) : Bytes :=
  let content := taggedInteger first ++ taggedInteger second
  if content.length > 127 then sequenceTag :: 0x81 :: UInt8.ofNat content.length :: content
  else sequenceTag :: UInt8.ofNat content.length :: content

theorem length_taggedIntegers (first second : Bytes) :
    (taggedInteger first ++ taggedInteger second).length = first.length + second.length + 4 := by
  simp only [taggedInteger, List.length_append, List.length_cons]
  omega

/-- Twice the length of a field wraps for the upper half of the words. -/
theorem joseLength_of_wide {fieldLength : UInt64} (wide : 2 ^ 63 ≤ fieldLength.toNat) :
    joseLength fieldLength = 2 * fieldLength.toNat - 2 ^ 64 := by
  have word := fieldLength.toNat_lt
  rw [joseLength_eq_mod, Nat.mod_eq_sub_mod (by omega), Nat.mod_eq_of_lt (by omega)]

theorem toNat_ne_zero {fieldLength : UInt64} (nonzero : fieldLength ≠ 0) :
    fieldLength.toNat ≠ 0 :=
  fun zero => nonzero (UInt64.toNat_inj.mp zero)

theorem ne_zero_of_toNat {fieldLength : UInt64} (positive : 1 ≤ fieldLength.toNat) :
    fieldLength ≠ 0 := by
  rintro rfl
  exact absurd positive (by decide)

/-- What wraps is less than one field, so that it is never the length of two of them. -/
theorem lt_of_length_eq_joseLength {jose : Bytes} {fieldLength : UInt64}
    (width : jose.length = joseLength fieldLength) (inside : fieldLength.toNat ≤ jose.length) :
    fieldLength.toNat < 2 ^ 63 := by
  refine Nat.lt_of_not_le fun wide => ?_
  have word := fieldLength.toNat_lt
  have wrapped := joseLength_of_wide wide
  omega

theorem toDer_eq_ok_iff {jose der : Bytes} {fieldLength : UInt64} :
    toDer jose fieldLength = .ok der ↔
      fieldLength ≠ 0 ∧ fieldLength.toNat < 2 ^ 63 ∧ jose.length = 2 * fieldLength.toNat ∧
        (integerContent (jose.take fieldLength.toNat)).length +
          (integerContent (jose.drop fieldLength.toNat)).length + 4 ≤ 255 ∧
        der = sequenceOf (integerContent (jose.take fieldLength.toNat))
          (integerContent (jose.drop fieldLength.toNat)) := by
  unfold toDer sequenceOf
  generalize integerContent (jose.take fieldLength.toNat) = first
  generalize integerContent (jose.drop fieldLength.toNat) = second
  by_cases misfit : fieldLength = 0 ∨ jose.length ≠ joseLength fieldLength
  · rw [if_pos misfit]
    refine ⟨nofun, fun written => ?_⟩
    obtain ⟨positive, word, fits, -⟩ := written
    rcases misfit with zero | other
    · exact absurd zero positive
    · exact absurd (fits.trans (joseLength_eq word).symm) other
  obtain ⟨positive, matched⟩ := not_or.mp misfit
  have width := Decidable.not_not.mp matched
  rw [if_neg misfit]
  by_cases outside : jose.length < fieldLength.toNat
  · rw [if_pos outside]
    refine ⟨nofun, fun written => ?_⟩
    obtain ⟨-, -, fits, -⟩ := written
    omega
  · have word := lt_of_length_eq_joseLength width (Nat.not_lt.mp outside)
    rw [if_neg outside]
    rw [joseLength_eq word] at width
    simp only [length_taggedIntegers]
    by_cases long : first.length + second.length + 4 > 255
    · rw [if_pos long]
      exact ⟨nofun, fun written => absurd long (Nat.not_lt.mpr written.2.2.2.1)⟩
    · rw [if_neg long]
      have short := Nat.not_lt.mp long
      constructor
      · intro written
        refine ⟨positive, word, width, short, ?_⟩
        split at written
        next marked => exact (Except.ok.inj written).symm.trans (if_pos marked).symm
        next plain => exact (Except.ok.inj written).symm.trans (if_neg plain).symm
      · intro written
        obtain ⟨-, -, -, -, rfl⟩ := written
        split <;> rfl

theorem length_dropWhile_le (field : Bytes) :
    (field.dropWhile (· == 0)).length ≤ field.length :=
  (List.dropWhile_sublist _).length_le

theorem length_integerContent_pos (field : Bytes) : 0 < (integerContent field).length := by
  unfold integerContent
  split
  · exact Nat.one_pos
  · split <;> exact Nat.succ_pos _

/-- A number takes at most one octet more than its field. -/
theorem length_integerContent_le (field : Bytes) :
    (integerContent field).length ≤ field.length + 1 := by
  have kept := length_dropWhile_le field
  unfold integerContent
  split
  next => exact Nat.succ_le_succ (Nat.zero_le _)
  next first rest digits =>
    rw [digits] at kept
    split
    · exact Nat.succ_le_succ kept
    · exact Nat.le_succ_of_le kept

/-!
## What is read
-/

theorem readHeader_sequenceOf {first second : Bytes}
    (short : first.length + second.length + 4 ≤ 255) :
    readHeader (sequenceOf first second) =
      .ok (first.length + second.length + 4, taggedInteger first ++ taggedInteger second) := by
  have octet : (UInt8.ofNat (first.length + second.length + 4)).toNat =
      first.length + second.length + 4 :=
    UInt8.toNat_ofNat_of_lt' (Nat.lt_succ_of_le short)
  simp only [sequenceOf, length_taggedIntegers]
  split
  next marked =>
    have long : ¬ (0x81 : UInt8) < 0x80 := by decide
    simp only [readHeader, ne_eq, not_true_eq_false, if_neg long, ↓reduceIte, octet]
  next plain =>
    have below : UInt8.ofNat (first.length + second.length + 4) < 0x80 := by
      rw [UInt8.lt_iff_toNat_lt, octet]
      exact Nat.lt_succ_of_le (Nat.not_lt.mp plain)
    simp only [readHeader, ne_eq, not_true_eq_false, if_pos below, ↓reduceIte, octet]

theorem readInteger_taggedInteger {content : Bytes} (positive : 0 < content.length)
    (short : content.length < 128) (rest : Bytes) :
    readInteger (taggedInteger content ++ rest) = .ok (content, rest) := by
  have octet : (UInt8.ofNat content.length).toNat = content.length :=
    UInt8.toNat_ofNat_of_lt' (Nat.lt_trans short (by decide))
  have supported : ¬(UInt8.ofNat content.length = 0 ∨ 0x80 ≤ UInt8.ofNat content.length) := by
    rw [← UInt8.toNat_inj, UInt8.le_iff_toNat_le, octet]
    change ¬(content.length = 0 ∨ 128 ≤ content.length)
    omega
  have whole : ¬(content ++ rest).length < content.length := by
    rw [List.length_append]
    omega
  simp only [taggedInteger, List.cons_append, readInteger, ne_eq, not_true_eq_false, ↓reduceIte,
    if_neg supported, octet, if_neg whole, List.take_left, List.drop_left]

theorem readInteger_of_long {content : Bytes} (long : 128 ≤ content.length)
    (bounded : content.length ≤ 255) (rest : Bytes) :
    readInteger (taggedInteger content ++ rest) =
      .error (.unsupportedIntegerLength content.length) := by
  have octet : (UInt8.ofNat content.length).toNat = content.length :=
    UInt8.toNat_ofNat_of_lt' (Nat.lt_succ_of_le bounded)
  have unsupported : UInt8.ofNat content.length = 0 ∨ 0x80 ≤ UInt8.ofNat content.length := by
    right
    rw [UInt8.le_iff_toNat_le, octet]
    exact long
  simp only [taggedInteger, List.cons_append, readInteger, ne_eq, not_true_eq_false, ↓reduceIte,
    if_pos unsupported, octet]

/-!
## Numbers as fields
-/

theorem stripZeros_of_le {fieldLength : Nat} {content : Bytes}
    (fits : content.length ≤ fieldLength) : stripZeros fieldLength content = content := by
  cases content with
  | nil => rfl
  | cons first rest =>
      rw [stripZeros, if_neg]
      exact fun longer => Nat.not_lt.mpr fits longer.1

theorem fieldOf_of_le {fieldLength : Nat} {content : Bytes} (fits : content.length ≤ fieldLength) :
    fieldOf fieldLength content =
      .ok (Bytes.fill (fieldLength - content.length) 0 ++ content) := by
  simp only [fieldOf, stripZeros_of_le fits, if_neg (Nat.not_lt.mpr fits)]

theorem fill_append_zero {fieldLength : Nat} (digits : Bytes) (fits : digits.length < fieldLength) :
    Bytes.fill (fieldLength - (digits.length + 1)) 0 ++ 0 :: digits =
      Bytes.fill (fieldLength - digits.length) 0 ++ digits := by
  obtain ⟨zeros, same⟩ : ∃ zeros, fieldLength - digits.length = zeros + 1 :=
    ⟨fieldLength - digits.length - 1, by omega⟩
  rw [same, show fieldLength - (digits.length + 1) = zeros by omega, Bytes.fill, Bytes.fill,
    List.replicate_succ', List.append_assoc, List.singleton_append]

/-- A field is its digits after as many zeros as are missing. -/
theorem fill_append_dropWhile (field : Bytes) :
    Bytes.fill (field.length - (field.dropWhile (· == 0)).length) 0 ++
      field.dropWhile (· == 0) = field := by
  induction field with
  | nil => rfl
  | cons first rest ih =>
      by_cases zero : first = 0
      · subst zero
        rw [List.dropWhile_cons_of_pos (by rfl), List.length_cons,
          Nat.succ_sub (length_dropWhile_le rest), Bytes.fill, List.replicate_succ,
          List.cons_append]
        exact congrArg (0 :: ·) ih
      · rw [List.dropWhile_cons_of_neg (by simpa using zero), Nat.sub_self]
        rfl

/-- The number of a field is read back as that field. -/
theorem fieldOf_integerContent {field : Bytes} (given : field ≠ []) :
    fieldOf field.length (integerContent field) = .ok field := by
  have positive : 0 < field.length := List.length_pos_iff.mpr given
  have kept := length_dropWhile_le field
  have whole := fill_append_dropWhile field
  unfold integerContent
  cases digits : field.dropWhile (· == 0) with
  | nil =>
      rw [digits] at whole
      rw [fieldOf_of_le (Nat.succ_le_of_lt positive)]
      exact congrArg Except.ok ((fill_append_zero [] positive).trans whole)
  | cons first rest =>
      rw [digits] at whole kept
      by_cases high : 0x80 ≤ first
      · simp only [if_pos high]
        rcases Nat.lt_or_eq_of_le kept with shorter | full
        · rw [fieldOf_of_le (Nat.succ_le_of_lt shorter)]
          exact congrArg Except.ok ((fill_append_zero (first :: rest) shorter).trans whole)
        · -- The field begins with its first digit, so the zero in front is one too many.
          have stripped : stripZeros field.length (0 :: first :: rest) = first :: rest := by
            rw [stripZeros, if_pos ⟨by rw [← full, List.length_cons]; exact Nat.lt_succ_self _, rfl⟩]
            exact stripZeros_of_le kept
          simp only [fieldOf, stripped, if_neg (Nat.not_lt.mpr kept), whole]
      · simp only [if_neg high]
        rw [fieldOf_of_le kept, whole]

/-!
## There and back
-/

theorem readSequence_sequenceOf {first second : Bytes}
    (short : first.length + second.length + 4 ≤ 255) :
    readSequence (sequenceOf first second) = .ok (taggedInteger first ++ taggedInteger second) := by
  rw [readSequence, readHeader_sequenceOf short, ← length_taggedIntegers]
  exact if_neg (not_not_intro rfl)

theorem readFields_of_short {field : Bytes} (given : field ≠ [])
    (short : (integerContent field).length < 128) (count : Nat) (rest : Bytes) :
    readFields field.length (count + 1) (taggedInteger (integerContent field) ++ rest) =
      (readFields field.length count rest).map fun read => (field ++ read.1, read.2) := by
  rw [readFields, readInteger_taggedInteger (length_integerContent_pos field) short]
  simp only [bind, Except.bind, fieldOf_integerContent given]
  cases readFields field.length count rest with
  | error fault => rfl
  | ok read => rfl

theorem readFields_of_long {content : Bytes} (long : 128 ≤ content.length)
    (bounded : content.length ≤ 255) (fieldLength count : Nat) (rest : Bytes) :
    readFields fieldLength (count + 1) (taggedInteger content ++ rest) =
      .error (.unsupportedIntegerLength content.length) := by
  rw [readFields, readInteger_of_long long bounded]
  rfl

theorem readNumbers_eq_ok_iff {fieldLength count : Nat} {bytes fields : Bytes} :
    readNumbers fieldLength count bytes = .ok fields ↔
      readFields fieldLength count bytes = .ok (fields, []) := by
  unfold readNumbers
  cases readFields fieldLength count bytes with
  | error fault => exact ⟨nofun, nofun⟩
  | ok read =>
      obtain ⟨found, rest⟩ := read
      cases rest with
      | nil => exact ⟨fun same => by cases same; rfl, fun same => by cases same; rfl⟩
      | cons extra rest => exact ⟨nofun, nofun⟩

/-- Two numbers with their tags are read as their fields if both are short enough. -/
theorem readNumbers_taggedIntegers {r s : Bytes} (given : r ≠ []) (alike : s.length = r.length)
    (bounded : (integerContent r).length + (integerContent s).length + 4 ≤ 255) :
    readNumbers r.length 2 (taggedInteger (integerContent r) ++ taggedInteger (integerContent s)) =
        .ok (r ++ s) ↔
      (integerContent r).length < 128 ∧ (integerContent s).length < 128 := by
  have second := List.append_nil (taggedInteger (integerContent s))
  rw [readNumbers_eq_ok_iff]
  by_cases firstShort : (integerContent r).length < 128
  · rw [readFields_of_short given firstShort, ← second, ← alike]
    by_cases secondShort : (integerContent s).length < 128
    · have givenToo : s ≠ [] :=
        List.ne_nil_of_length_pos (alike ▸ List.length_pos_iff.mpr given)
      rw [readFields_of_short givenToo secondShort]
      refine ⟨fun _ => ⟨firstShort, secondShort⟩, fun _ => ?_⟩
      simp only [readFields, Except.map, List.append_nil]
    · rw [readFields_of_long (Nat.not_lt.mp secondShort) (by omega)]
      exact ⟨nofun, fun short => absurd short.2 secondShort⟩
  · rw [readFields_of_long (Nat.not_lt.mp firstShort) (by omega)]
    exact ⟨nofun, fun short => absurd short.1 firstShort⟩

/-- A signature comes out of the whole fields of what fits into memory. -/
theorem ofDer_eq_ok_iff_readNumbers {der jose : Bytes} {fieldLength : UInt64} :
    ofDer der fieldLength = .ok jose ↔
      fieldLength ≠ 0 ∧ joseLength fieldLength ≤ memoryLimit ∧ ∃ content fields,
        readSequence der = .ok content ∧
        readNumbers fieldLength.toNat (joseLength fieldLength / fieldLength.toNat) content =
          .ok fields ∧
        jose = fields ++ Bytes.fill (joseLength fieldLength % fieldLength.toNat) 0 := by
  unfold ofDer
  by_cases zero : fieldLength = 0
  · rw [if_pos zero]
    exact ⟨nofun, fun read => absurd zero read.1⟩
  rw [if_neg zero]
  cases readSequence der with
  | error fault => exact ⟨nofun, fun read => nomatch read.2.2⟩
  | ok content =>
      dsimp only
      by_cases large : joseLength fieldLength > memoryLimit
      · rw [if_pos large]
        exact ⟨nofun, fun read => absurd large (Nat.not_lt.mpr read.2.1)⟩
      · rw [if_neg large]
        cases found : readNumbers fieldLength.toNat (joseLength fieldLength / fieldLength.toNat)
            content with
        | error fault =>
            refine ⟨nofun, fun read => ?_⟩
            obtain ⟨-, -, _, fields, same, given, -⟩ := read
            cases same
            cases found.symm.trans given
        | ok fields =>
            constructor
            · intro read
              exact ⟨zero, Nat.not_lt.mp large, content, fields, rfl, found,
                (Except.ok.inj read).symm⟩
            · intro read
              obtain ⟨-, -, _, others, same, given, rfl⟩ := read
              cases same
              cases found.symm.trans given
              rfl

/-- Below the upper half of the words there are two fields and nothing behind them. -/
theorem ofDer_eq_ok_iff_two {der jose : Bytes} {fieldLength : UInt64}
    (word : fieldLength.toNat < 2 ^ 63) :
    ofDer der fieldLength = .ok jose ↔
      fieldLength ≠ 0 ∧ 2 * fieldLength.toNat ≤ memoryLimit ∧ ∃ content,
        readSequence der = .ok content ∧ readNumbers fieldLength.toNat 2 content = .ok jose := by
  rw [ofDer_eq_ok_iff_readNumbers, joseLength_eq word]
  refine and_congr_right fun nonzero => and_congr_right fun _ => ?_
  have positive := Nat.pos_of_ne_zero (toNat_ne_zero nonzero)
  rw [Nat.mul_div_cancel _ positive, Nat.mul_mod_left]
  simp only [Bytes.fill, List.replicate_zero, List.append_nil, exists_and_left, exists_eq_right']

section

variable {jose der : Bytes} {fieldLength : UInt64}

/-- A written signature is read back if and only if both of its numbers are read, and memory
holds it. -/
theorem ofDer_eq_ok_iff (written : toDer jose fieldLength = .ok der) :
    ofDer der fieldLength = .ok jose ↔ jose.length ≤ memoryLimit ∧
      (integerContent (jose.take fieldLength.toNat)).length < 128 ∧
        (integerContent (jose.drop fieldLength.toNat)).length < 128 := by
  obtain ⟨nonzero, word, width, bounded, rfl⟩ := toDer_eq_ok_iff.mp written
  have first : (jose.take fieldLength.toNat).length = fieldLength.toNat := by
    rw [List.length_take]
    omega
  have second : (jose.drop fieldLength.toNat).length = (jose.take fieldLength.toNat).length := by
    rw [first, List.length_drop]
    omega
  have given : jose.take fieldLength.toNat ≠ [] :=
    List.ne_nil_of_length_pos (by rw [first]; exact Nat.pos_of_ne_zero (toNat_ne_zero nonzero))
  have numbers := readNumbers_taggedIntegers given second bounded
  rw [first, List.take_append_drop] at numbers
  rw [ofDer_eq_ok_iff_two word, readSequence_sequenceOf bounded, ← width, ← numbers]
  simp only [ne_eq, nonzero, not_false_eq_true, Except.ok.injEq, exists_eq_left', true_and]

/-- The numbers of a narrow field are always short enough. -/
theorem ofDer_of_narrow (written : toDer jose fieldLength = .ok der)
    (narrow : fieldLength.toNat ≤ 126) : ofDer der fieldLength = .ok jose := by
  obtain ⟨-, -, width, -, -⟩ := toDer_eq_ok_iff.mp written
  have first := length_integerContent_le (jose.take fieldLength.toNat)
  have second := length_integerContent_le (jose.drop fieldLength.toNat)
  rw [List.length_take] at first
  rw [List.length_drop] at second
  have held : jose.length ≤ memoryLimit := by
    rw [memoryLimit]
    omega
  exact (ofDer_eq_ok_iff written).mpr ⟨held, by omega, by omega⟩

/-- Taking the tags off what was given them. Each of the two numbers has to be short
enough to be read, which the numbers of a field of at most 126 octets are, and no octets
that there are exceed what memory holds. Then the same signature comes back, so that no two
are written alike. -/
theorem ofDer_toDer (written : toDer jose fieldLength = .ok der) :
    ∃ first second, der = sequenceOf first second ∧
      first = integerContent (jose.take fieldLength.toNat) ∧
      second = integerContent (jose.drop fieldLength.toNat) ∧
      (ofDer der fieldLength = .ok jose ↔
        jose.length ≤ memoryLimit ∧ first.length < 128 ∧ second.length < 128) ∧
      (fieldLength.toNat ≤ 126 → ofDer der fieldLength = .ok jose ∧
        ∀ other, toDer other fieldLength = .ok der → other = jose) := by
  obtain ⟨-, -, -, -, sequence⟩ := toDer_eq_ok_iff.mp written
  refine ⟨_, _, sequence, rfl, rfl, ofDer_eq_ok_iff written, fun narrow => ?_⟩
  have back := ofDer_of_narrow written narrow
  refine ⟨back, fun other alike => ?_⟩
  exact Except.ok.inj ((ofDer_of_narrow alike narrow).symm.trans back)

end

/-- A zero octet that is added, one that is kept and one that is the whole number all
come off again. A number of 127 octets that needs a zero in front is written, and is
then refused. -/
theorem ofDer_toDer_of_high_bit :
    (∃ der, toDer [0x80, 0x01, 0x00, 0x90] 2 = .ok der ∧
      ofDer der 2 = .ok [0x80, 0x01, 0x00, 0x90]) ∧
    ∃ der, toDer (Bytes.fill 127 0xFF ++ Bytes.fill 127 0x00) 127 = .ok der ∧
      ofDer der 127 ≠ .ok (Bytes.fill 127 0xFF ++ Bytes.fill 127 0x00) := by
  have small : toDer [0x80, 0x01, 0x00, 0x90] 2 =
      .ok [0x30, 9, 2, 3, 0x00, 0x80, 0x01, 2, 2, 0x00, 0x90] := rfl
  have large : toDer (Bytes.fill 127 0xFF ++ Bytes.fill 127 0x00) 127 =
      .ok ([0x30, 0x81, 133, 2, 128, 0x00] ++ Bytes.fill 127 0xFF ++ [2, 1, 0x00]) :=
    toDer_eq_ok_iff.mpr
      ⟨by decide, by decide, by decide +kernel, by decide +kernel, by decide +kernel⟩
  obtain ⟨-, -, -, -, -, -, narrow⟩ := ofDer_toDer small
  obtain ⟨first, second, -, rfl, rfl, back, -⟩ := ofDer_toDer large
  refine ⟨⟨_, small, (narrow (by decide)).1⟩, _, large, fun same => ?_⟩
  exact absurd (back.mp same).2.1 (by decide +kernel)

end WebToken.JoseSignature
