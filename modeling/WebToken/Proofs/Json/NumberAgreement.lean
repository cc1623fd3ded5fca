import WebToken.Proofs.Json.NumberValue

/-!
# Where numbers agree that differ in value

Numbers of the same value agree. Signed integers agree only then. Any other pair is
rounded to binary64 before it is compared, so that numbers with one rounding agree too,
as large unsigned integers do with their neighbours. The rounding of a number that
binary64 represents is the number itself, and such numbers agree only if they have the
same value.
-/

set_option autoImplicit false

namespace WebToken

namespace Binary64

/-!
## Magnitudes of ranks
-/

/-- A significand and an exponent that a rank stands for: significands below `2 ^ 52`
have no other exponent than the least one. -/
structure Normal (significand exponent : Nat) : Prop where
  fits : significand < 2 ^ 53
  leading : 2 ^ 52 ≤ significand ∨ exponent = 0

namespace Normal

variable {significand exponent : Nat}

theorem unitsOfRank_eq (normal : Normal significand exponent) :
    unitsOfRank (exponent * 2 ^ 52 + significand) = significand * 2 ^ exponent := by
  have fits := normal.fits
  unfold unitsOfRank
  by_cases small : significand < 2 ^ 52
  · obtain rfl := normal.leading.resolve_left (Nat.not_le_of_lt small)
    simp [small]
  · have large : ¬ exponent * 2 ^ 52 + significand < 2 ^ 52 := by omega
    have remainder : 2 ^ 52 + (exponent * 2 ^ 52 + significand) % 2 ^ 52 = significand := by omega
    have quotient : (exponent * 2 ^ 52 + significand) / 2 ^ 52 - 1 = exponent := by omega
    rw [if_neg large, remainder, quotient]

/-- The leading bit of a magnitude is that of its significand. -/
theorem log2_add {added : Nat} (normal : Normal significand exponent)
    (leading : 2 ^ 52 ≤ significand) (narrow : added < 2 ^ exponent) :
    (significand * 2 ^ exponent + added).log2 = 52 + exponent := by
  have lower : 2 ^ 52 * 2 ^ exponent ≤ significand * 2 ^ exponent + added :=
    Nat.le_add_right_of_le (Nat.mul_le_mul_right _ leading)
  have upper : significand * 2 ^ exponent + added < 2 ^ 53 * 2 ^ exponent :=
    calc significand * 2 ^ exponent + added
        < significand * 2 ^ exponent + 2 ^ exponent := Nat.add_lt_add_left narrow _
      _ = (significand + 1) * 2 ^ exponent := (Nat.succ_mul ..).symm
      _ ≤ 2 ^ 53 * 2 ^ exponent := Nat.mul_le_mul_right _ normal.fits
  have positive : 0 < 2 ^ 52 * 2 ^ exponent := Nat.mul_pos (by decide) (Nat.two_pow_pos exponent)
  rw [Nat.log2_eq_iff (Nat.lt_of_lt_of_le positive lower).ne', Nat.pow_add,
    show 52 + exponent + 1 = 53 + exponent by omega, Nat.pow_add]
  exact ⟨lower, upper⟩

theorem log2_sub (normal : Normal significand exponent) :
    (significand * 2 ^ exponent).log2 - 52 = exponent := by
  cases normal.leading with
  | inl leading =>
      have logarithm := normal.log2_add leading (Nat.two_pow_pos exponent)
      rw [Nat.add_zero] at logarithm
      rw [logarithm, Nat.add_sub_cancel_left]
  | inr least =>
      subst least
      rw [Nat.pow_zero, Nat.mul_one]
      by_cases zero : significand = 0
      · rw [zero]
        rfl
      · have bound := (Nat.log2_lt zero).mpr normal.fits
        omega

/-- A magnitude on the grid of its exponent is not moved by rounding. -/
theorem nearestRank_eq (normal : Normal significand exponent) :
    nearestRank (significand * 2 ^ exponent) 1 = exponent * 2 ^ 52 + significand := by
  have positive := Nat.two_pow_pos exponent
  have kept : roundHalfEven (significand * 2 ^ exponent) (2 ^ exponent) = significand := by
    unfold roundHalfEven
    simp only [Nat.mul_mod_left, Nat.mul_div_cancel _ positive, Nat.mul_zero, positive, ↓reduceIte]
  simp only [nearestRank, Nat.div_one, Nat.one_mul, normal.log2_sub, kept]

end Normal

theorem exists_normal (rank : Nat) :
    ∃ significand exponent, Normal significand exponent ∧
      rank = exponent * 2 ^ 52 + significand := by
  by_cases small : rank < 2 ^ 52
  · exact ⟨rank, 0, ⟨by omega, .inr rfl⟩, by omega⟩
  · exact ⟨2 ^ 52 + rank % 2 ^ 52, rank / 2 ^ 52 - 1, ⟨by omega, .inl (by omega)⟩, by omega⟩

/-- The magnitude of a rank is rounded to that rank. -/
theorem nearestRank_unitsOfRank (rank : Nat) : nearestRank (unitsOfRank rank) 1 = rank := by
  obtain ⟨significand, exponent, normal, rfl⟩ := exists_normal rank
  rw [normal.unitsOfRank_eq, normal.nearestRank_eq]

/-- Magnitudes of at most 53 bits are finite numbers, at any exponent of the format. -/
theorem exists_unitsOfRank {significand exponent : Nat} (fits : significand < 2 ^ 53)
    (range : exponent ≤ 2045) :
    ∃ rank, rank < endRank ∧ unitsOfRank rank = significand * 2 ^ exponent := by
  have finite : endRank = 2047 * 2 ^ 52 := rfl
  -- Bits are moved from the exponent to the significand until that has its leading bit.
  induction exponent generalizing significand with
  | zero =>
      have normal : Normal significand 0 := ⟨fits, .inr rfl⟩
      exact ⟨_, by omega, normal.unitsOfRank_eq⟩
  | succ exponent ih =>
      by_cases leading : 2 ^ 52 ≤ significand
      · have normal : Normal significand (exponent + 1) := ⟨fits, .inl leading⟩
        exact ⟨_, by omega, normal.unitsOfRank_eq⟩
      · have doubled : 2 * significand < 2 ^ 53 := by omega
        obtain ⟨rank, bound, units⟩ := ih doubled (by omega)
        refine ⟨rank, bound, ?_⟩
        rw [units, Nat.pow_succ, Nat.mul_comm 2, Nat.mul_assoc, Nat.mul_comm 2]

/-!
## Integers that are binary64 numbers
-/

theorem scaled_natAbs (number : Binary64) : number.scaled.natAbs = number.units := by
  unfold scaled
  cases number.negative with
  | false => exact Int.natAbs_natCast number.units
  | true => exact (Int.natAbs_neg _).trans (Int.natAbs_natCast number.units)

theorem scaled_eq_of_units {number : Binary64} {integer : Int}
    (sign : number.negative = decide (integer < 0))
    (units : number.units = integer.natAbs * unitsPerOne) :
    number.scaled = integer * unitsPerOne := by
  have widened : (number.units : Int) = integer.natAbs * unitsPerOne := by
    rw [units, Int.natCast_mul]
  by_cases negative : integer < 0
  · rw [scaled, sign, decide_eq_true negative, if_pos rfl, widened,
      Int.ofNat_natAbs_of_nonpos negative.le, Int.neg_mul, Int.neg_neg]
  · rw [scaled, sign, decide_eq_false negative, if_neg Bool.false_ne_true, widened,
      Int.natAbs_of_nonneg (Int.not_lt.mp negative)]

/-- An integer that is the value of a finite number is rounded to that value. -/
theorem scaled_ofInt {integer : Int} {number : Binary64}
    (represented : number.scaled = integer * unitsPerOne) :
    (ofInt integer).scaled = integer * unitsPerOne := by
  have magnitude : integer.natAbs * unitsPerOne = number.units := by
    rw [← number.scaled_natAbs, represented, Int.natAbs_mul, Int.natAbs_natCast]
  have nearest : nearestRank (integer.natAbs * unitsPerOne) 1 = number.rank := by
    rw [magnitude]
    exact nearestRank_unitsOfRank number.rank
  have rank : (ofInt integer).rank = number.rank := by
    have finite := number.rank_lt
    simp only [ofInt, roundUnits, nearest]
    omega
  refine scaled_eq_of_units rfl ?_
  rw [magnitude, Binary64.units, rank, Binary64.units]

theorem value_eq_iff {left right : Binary64} :
    left.value = right.value ↔ left.scaled = right.scaled := by
  have nonzero : (unitsPerOne : ℚ) ≠ 0 := Nat.cast_ne_zero.mpr unitsPerOne_pos.ne'
  rw [value, value, div_left_inj' nonzero, Int.cast_inj]

theorem value_eq_intCast_iff {number : Binary64} {integer : Int} :
    number.value = integer ↔ number.scaled = integer * unitsPerOne := by
  have nonzero : (unitsPerOne : ℚ) ≠ 0 := Nat.cast_ne_zero.mpr unitsPerOne_pos.ne'
  rw [value, div_eq_iff nonzero]
  exact_mod_cast Iff.rfl

theorem value_negate (number : Binary64) : number.negate.value = -number.value := by
  have scaled_negate : number.negate.scaled = -number.scaled := by
    unfold scaled negate
    cases number.negative with
    | false => rfl
    | true => exact (Int.neg_neg _).symm
  rw [value, value, scaled_negate, Int.cast_neg, neg_div]

theorem value_ofInt (whole : Nat) :
    (ofInt whole).value = (ofInt whole).units / unitsPerOne := by
  have positive : (ofInt whole).negative = false :=
    decide_eq_false (Int.not_lt.mpr (Int.natCast_nonneg whole))
  rw [value, scaled, positive, if_neg Bool.false_ne_true, Int.cast_natCast]

theorem sameValue_iff {left right : Binary64} :
    left.sameValue right = true ↔ left.value = right.value := by
  rw [value_eq_iff, sameValue, beq_iff_eq]

theorem value_ofInt_iff {integer : Int} :
    (ofInt integer).value = integer ↔ ∃ number : Binary64, number.value = integer := by
  constructor
  · intro kept
    exact ⟨_, kept⟩
  · intro represented
    obtain ⟨number, value⟩ := represented
    exact value_eq_intCast_iff.mpr (scaled_ofInt (value_eq_intCast_iff.mp value))

theorem exists_value_eq {integer : Int} (fits : integer.natAbs ≤ 2 ^ 53) :
    ∃ number : Binary64, number.value = integer := by
  have magnitude : ∃ rank, rank < endRank ∧ unitsOfRank rank = integer.natAbs * unitsPerOne := by
    obtain ⟨bits, size, units⟩ := exists_unitsPerOne
    rw [units]
    rcases Nat.lt_or_eq_of_le fits with below | equal
    · exact exists_unitsOfRank below (by omega)
    · have halved : 2 ^ 53 * 2 ^ bits = 2 ^ 52 * 2 ^ (bits + 1) := by
        rw [← Nat.pow_add, ← Nat.pow_add, show 53 + bits = 52 + (bits + 1) by omega]
      rw [equal, halved]
      exact exists_unitsOfRank (by decide) (by omega)
  obtain ⟨rank, finite, units⟩ := magnitude
  exact ⟨⟨decide (integer < 0), rank, finite⟩,
    value_eq_intCast_iff.mpr (scaled_eq_of_units rfl units)⟩

end Binary64

/-!
## Agreement
-/

namespace Json.Number

/-- An integer that fits a signed 64-bit word. -/
def IsSigned : Number → Prop
  | .integer whole _ _ => whole < 2 ^ 63
  | .float _ => False

/-- Rounding to binary64 does not move the number. -/
def IsExact (number : Number) : Prop :=
  number.toBinary64.value = number.value

theorem isExact_iff {number : Number} :
    number.IsExact ↔ ∃ rounded : Binary64, rounded.value = number.value := by
  cases number with
  | integer whole lower upper => exact Binary64.value_ofInt_iff
  | float rounded => exact ⟨fun _ => ⟨rounded, rfl⟩, fun _ => rfl⟩

theorem isExact_of_natAbs_le {whole : Int} {lower : -2 ^ 63 ≤ whole} {upper : whole < 2 ^ 64}
    (fits : whole.natAbs ≤ 2 ^ 53) : (integer whole lower upper).IsExact :=
  isExact_iff.mpr (Binary64.exists_value_eq fits)

theorem int64?_eq_none {number : Number} (unsigned : ¬ number.IsSigned) : number.int64? = none := by
  cases number with
  | integer whole lower upper => exact if_neg unsigned
  | float rounded => rfl

/-- Signed integers agree exactly where they have the same value. -/
theorem agrees_iff_of_signed {left right : Number} (signedLeft : left.IsSigned)
    (signedRight : right.IsSigned) : left.agrees right = true ↔ left.value = right.value := by
  cases left with
  | float rounded => cases signedLeft
  | integer whole lower upper =>
      cases right with
      | float rounded => cases signedRight
      | integer other least greatest =>
          have bound : whole < 2 ^ 63 := signedLeft
          have otherBound : other < 2 ^ 63 := signedRight
          simp only [agrees, int64?, bound, otherBound, ↓reduceIte, beq_iff_eq, value, Int.cast_inj,
            ← Int64.toInt_inj, Int64.toInt_ofInt_of_le lower bound,
            Int64.toInt_ofInt_of_le least otherBound]

/-- Any other numbers agree exactly where their roundings have the same value. -/
theorem agrees_iff_of_not_signed {left right : Number}
    (mixed : ¬ (left.IsSigned ∧ right.IsSigned)) :
    left.agrees right = true ↔ left.toBinary64.value = right.toBinary64.value := by
  rw [← Binary64.sameValue_iff]
  by_cases signedLeft : left.IsSigned
  · have unsigned := int64?_eq_none fun signedRight => mixed ⟨signedLeft, signedRight⟩
    unfold agrees
    rw [unsigned]
    cases left.int64? <;> rfl
  · have unsigned := int64?_eq_none signedLeft
    unfold agrees
    rw [unsigned]

theorem toBinary64_value_congr {left right : Number} (same : left.value = right.value) :
    left.toBinary64.value = right.toBinary64.value := by
  cases left with
  | integer whole lower upper =>
      cases right with
      | integer other least greatest =>
          have equal : whole = other := Int.cast_inj.mp same
          subst equal
          rfl
      | float rounded => exact (isExact_iff.mpr ⟨rounded, same.symm⟩).trans same
  | float rounded =>
      have kept : right.IsExact := isExact_iff.mpr ⟨rounded, same⟩
      exact same.trans kept.symm

theorem agrees_iff {left right : Number} :
    left.agrees right = true ↔
      left.value = right.value ∨
        (¬ (left.IsSigned ∧ right.IsSigned) ∧
          left.toBinary64.value = right.toBinary64.value) := by
  by_cases signed : left.IsSigned ∧ right.IsSigned
  · rw [agrees_iff_of_signed signed.1 signed.2]
    simp only [signed, and_self, not_true_eq_false, false_and, or_false]
  · rw [agrees_iff_of_not_signed signed]
    constructor
    · intro rounded
      exact .inr ⟨signed, rounded⟩
    · intro either
      cases either with
      | inl same => exact toBinary64_value_congr same
      | inr rounded => exact rounded.2

/-- Numbers agree where they have the same value, and otherwise where they have the same
rounding, unless both are signed integers. Comparison is by value for signed integers,
and for the numbers that binary64 represents, which are the integers up to `2 ^ 53` and
the floats among others. -/
theorem agrees_up_to_rounding (left right : Number) :
    ((Json.number left).agrees (.number right) = true ↔
      left.value = right.value ∨
        (¬ (left.IsSigned ∧ right.IsSigned) ∧
          left.toBinary64.value = right.toBinary64.value)) ∧
    (left.IsSigned ∧ right.IsSigned ∨ left.IsExact ∧ right.IsExact →
      ((Json.number left).agrees (.number right) = true ↔ left.value = right.value)) ∧
    (left.IsExact ↔ ∃ rounded : Binary64, rounded.value = left.value) ∧
    ∀ whole lower upper, whole.natAbs ≤ 2 ^ 53 → (integer whole lower upper).IsExact := by
  have compared : (Json.number left).agrees (.number right) = left.agrees right := by
    rw [Json.agrees]
  rw [compared]
  refine ⟨agrees_iff, ?_, isExact_iff, fun _ _ _ => isExact_of_natAbs_le⟩
  intro kinds
  by_cases signed : left.IsSigned ∧ right.IsSigned
  · exact agrees_iff_of_signed signed.1 signed.2
  · obtain ⟨exactLeft, exactRight⟩ := kinds.resolve_left signed
    rw [agrees_iff_of_not_signed signed, exactLeft, exactRight]

/-- The largest number of 64 bits agrees with the one before it. -/
theorem not_agrees_iff_value :
    ¬ ∀ left right : Number,
      (Json.number left).agrees (.number right) = true ↔ left.value = right.value := by
  intro byValue
  have agreed : (Json.number (.integer (2 ^ 64 - 2) (by decide) (by decide))).agrees
      (.number (.integer (2 ^ 64 - 1) (by decide) (by decide))) = true := by
    decide +kernel
  have same := (byValue _ _).mp agreed
  simp only [value, Int.cast_inj] at same
  exact absurd same (by decide)

end Json.Number

end WebToken
