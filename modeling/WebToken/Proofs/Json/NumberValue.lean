import Mathlib.Data.Rat.Floor
import WebToken.Json.Basic

/-!
# The number that a JSON number denotes

Integers and binary64 numbers both denote an exact rational. Truncation in a
signed 64-bit word, where it gives a result, is truncation of that rational. For
integers above the word this rests on rounding: it never takes such an integer
below the bound that it is compared with. Truncation gives a result whenever the
truncated rational is in the word, since no binary64 number lies just outside of it.
-/

set_option autoImplicit false

namespace WebToken

namespace Binary64

theorem exists_unitsPerOne : ∃ bits, bits = 1074 ∧ unitsPerOne = 2 ^ bits :=
  ⟨_, rfl, unitsPerOne.eq_def⟩

theorem unitsPerOne_pos : 0 < unitsPerOne := by
  obtain ⟨bits, -, units⟩ := exists_unitsPerOne
  exact units ▸ Nat.two_pow_pos bits

/-!
## Large integers
-/

theorem le_unitsOfRank {rank exponent : Nat} (large : (exponent + 1) * 2 ^ 52 ≤ rank) :
    2 ^ 52 * 2 ^ exponent ≤ unitsOfRank rank := by
  have notSmall : ¬ rank < 2 ^ 52 := by omega
  have quotient : exponent + 1 ≤ rank / 2 ^ 52 := (Nat.le_div_iff_mul_le (by decide)).mpr large
  rw [unitsOfRank, if_neg notSmall]
  exact Nat.mul_le_mul (Nat.le_add_right _ _)
    (Nat.pow_le_pow_right (by decide) (Nat.le_sub_of_add_le quotient))

theorem div_le_roundHalfEven (numerator denominator : Nat) :
    numerator / denominator ≤ roundHalfEven numerator denominator := by
  unfold roundHalfEven
  grind

theorem roundHalfEven_le (numerator denominator : Nat) :
    roundHalfEven numerator denominator ≤ numerator / denominator + 1 := by
  unfold roundHalfEven
  grind

/-- The rank of an integer from `2 ^ 63` on, within 64 bits: the numbers of its
binary exponent are `2 ^ 11` apart. -/
theorem nearestRank_bounds {magnitude : Nat} (lower : 2 ^ 63 ≤ magnitude)
    (upper : magnitude < 2 ^ 64) :
    1086 * 2 ^ 52 ≤ nearestRank (magnitude * unitsPerOne) 1 ∧
      nearestRank (magnitude * unitsPerOne) 1 ≤ 1087 * 2 ^ 52 := by
  -- The exponent of the unit stays a variable, so that no step computes the power.
  obtain ⟨bits, size, units⟩ := exists_unitsPerOne
  rw [units]
  have positive : 0 < 2 ^ bits := Nat.two_pow_pos bits
  have logarithm : (magnitude * 2 ^ bits).log2 = 63 + bits := by
    refine (Nat.log2_eq_iff (Nat.mul_ne_zero (by omega) positive.ne')).mpr ⟨?_, ?_⟩
    · rw [Nat.pow_add]
      exact Nat.mul_le_mul_right _ lower
    · rw [show 63 + bits + 1 = 64 + bits by omega, Nat.pow_add]
      exact Nat.mul_lt_mul_of_pos_right upper positive
  have shift : 63 + bits - 52 = 11 + bits := by omega
  have quotient : magnitude * 2 ^ bits / 2 ^ (11 + bits) = magnitude / 2 ^ 11 := by
    rw [Nat.pow_add, Nat.mul_div_mul_right _ _ positive]
  have below := div_le_roundHalfEven (magnitude * 2 ^ bits) (2 ^ (11 + bits))
  have above := roundHalfEven_le (magnitude * 2 ^ bits) (2 ^ (11 + bits))
  rw [quotient] at below above
  simp only [nearestRank, Nat.div_one, logarithm, Nat.one_mul, shift]
  omega

/-- An integer from `2 ^ 63` on, within 64 bits, is rounded to a number that is
not below `2 ^ 63`. -/
theorem le_scaled_ofInt {integer : Int} (lower : 2 ^ 63 ≤ integer) (upper : integer < 2 ^ 64) :
    2 ^ 63 * (unitsPerOne : Int) ≤ (ofInt integer).scaled := by
  have magnitude : 2 ^ 63 ≤ integer.natAbs ∧ integer.natAbs < 2 ^ 64 := by omega
  obtain ⟨least, greatest⟩ := nearestRank_bounds magnitude.1 magnitude.2
  have finite : 1087 * 2 ^ 52 < endRank := by decide
  have rank : (ofInt integer).rank = nearestRank (integer.natAbs * unitsPerOne) 1 := by
    simp only [ofInt, roundUnits]
    omega
  have units : 2 ^ 63 * unitsPerOne ≤ (ofInt integer).units := by
    obtain ⟨bits, size, unit⟩ := exists_unitsPerOne
    have large : (11 + bits + 1) * 2 ^ 52 ≤ (ofInt integer).rank := by
      rw [rank, size]
      exact least
    have split : 2 ^ 52 * 2 ^ (11 + bits) = 2 ^ 63 * 2 ^ bits := by
      rw [← Nat.pow_add, ← Nat.pow_add, show 52 + (11 + bits) = 63 + bits by omega]
    rw [unit, ← split]
    exact le_unitsOfRank large
  have positive : (ofInt integer).negative = false := decide_eq_false (by omega)
  have widened : ((2 ^ 63 * unitsPerOne : Nat) : Int) ≤ (ofInt integer).units :=
    Int.ofNat_le.mpr units
  rw [Int.natCast_mul] at widened
  simp only [scaled, positive, Bool.false_eq_true, ↓reduceIte]
  exact widened

end Binary64

/-!
## Truncation
-/

/-- The integer between a number and zero that is nearest to the number. -/
def towardZero (number : ℚ) : ℤ :=
  if 0 ≤ number then ⌊number⌋ else ⌈number⌉

theorem towardZero_intCast (integer : ℤ) : towardZero integer = integer := by
  simp [towardZero]

theorem towardZero_neg (number : ℚ) : towardZero (-number) = -towardZero number := by
  rcases lt_trichotomy number 0 with negative | rfl | positive
  · rw [towardZero, if_pos (neg_nonneg.mpr negative.le), towardZero, if_neg negative.not_ge,
      Int.floor_neg]
  · rfl
  · rw [towardZero, if_neg (neg_neg_of_pos positive).not_ge, towardZero, if_pos positive.le,
      Int.ceil_neg]

theorem towardZero_natCast_div (numerator denominator : Nat) :
    towardZero (numerator / denominator) = (numerator / denominator : Nat) := by
  have nonneg : (0 : ℚ) ≤ numerator / denominator := by positivity
  rw [towardZero, if_pos nonneg, Rat.floor_natCast_div_natCast, Int.natCast_ediv]

namespace Binary64

def value (number : Binary64) : ℚ :=
  number.scaled / unitsPerOne

theorem towardZero_value (number : Binary64) : towardZero number.value = number.truncate := by
  unfold value scaled truncate
  cases number.negative with
  | false => exact towardZero_natCast_div number.units unitsPerOne
  | true =>
      simp only [↓reduceIte, Int.cast_neg, Int.cast_natCast, neg_div]
      rw [towardZero_neg, towardZero_natCast_div]

/-- The truncation of a number within the signed word is within the word. -/
theorem truncate_mem {number : Binary64} (lower : -(2 ^ 63 * (unitsPerOne : Int)) ≤ number.scaled)
    (upper : number.scaled < 2 ^ 63 * (unitsPerOne : Int)) :
    -2 ^ 63 ≤ number.truncate ∧ number.truncate < 2 ^ 63 := by
  unfold scaled at lower upper
  unfold truncate
  cases sign : number.negative with
  | false =>
      simp only [sign, Bool.false_eq_true, ↓reduceIte] at upper ⊢
      have units : number.units < 2 ^ 63 * unitsPerOne := by omega
      have quotient := (Nat.div_lt_iff_lt_mul unitsPerOne_pos).mpr units
      generalize number.units / unitsPerOne = magnitude at quotient ⊢
      omega
  | true =>
      simp only [sign, ↓reduceIte] at lower ⊢
      have units : number.units ≤ unitsPerOne * 2 ^ 63 := by omega
      have quotient := Nat.div_le_of_le_mul units
      generalize number.units / unitsPerOne = magnitude at quotient ⊢
      omega

/-- No number lies strictly between `2 ^ 63` and the next integer: from there on the
numbers are at least `2 ^ 11` apart. -/
theorem unitsOfRank_le {rank : Nat} (below : unitsOfRank rank < (2 ^ 63 + 1) * unitsPerOne) :
    unitsOfRank rank ≤ 2 ^ 63 * unitsPerOne := by
  obtain ⟨bits, -, units⟩ := exists_unitsPerOne
  rw [units] at below ⊢
  have positive : 0 < 2 ^ bits := Nat.two_pow_pos bits
  have split : 2 ^ 63 * 2 ^ bits = 2 ^ 52 * 2 ^ (11 + bits) := by
    rw [← Nat.pow_add, ← Nat.pow_add, show 52 + (11 + bits) = 63 + bits by omega]
  unfold unitsOfRank at below ⊢
  by_cases small : rank < 2 ^ 52
  · rw [if_pos small]
    exact Nat.le_of_lt (Nat.lt_of_lt_of_le (Nat.lt_trans small (by decide))
      (Nat.le_mul_of_pos_right (2 ^ 63) positive))
  · rw [if_neg small] at below ⊢
    have remainder : rank % 2 ^ 52 < 2 ^ 52 := Nat.mod_lt rank (by decide)
    generalize rank % 2 ^ 52 = fraction at below remainder ⊢
    generalize rank / 2 ^ 52 - 1 = exponent at below ⊢
    rcases Nat.lt_or_ge exponent (11 + bits) with low | high
    · calc (2 ^ 52 + fraction) * 2 ^ exponent
          ≤ 2 ^ 53 * 2 ^ (10 + bits) := Nat.mul_le_mul (by omega)
            (Nat.pow_le_pow_right (by decide) (by omega))
        _ = 2 ^ 63 * 2 ^ bits := by
            rw [← Nat.pow_add, ← Nat.pow_add, show 53 + (10 + bits) = 63 + bits by omega]
    · obtain ⟨more, rfl⟩ := Nat.exists_eq_add_of_le high
      have grid : (2 ^ 52 + fraction) * 2 ^ (11 + bits + more) =
          (2 ^ 52 + fraction) * 2 ^ more * 2 ^ (11 + bits) := by
        rw [Nat.pow_add, Nat.mul_assoc, Nat.mul_comm (2 ^ more)]
      have next : (2 ^ 63 + 1) * 2 ^ bits ≤ (2 ^ 52 + 1) * 2 ^ (11 + bits) := by
        rw [Nat.add_mul, Nat.add_mul, split, Nat.one_mul, Nat.one_mul]
        exact Nat.add_le_add_left (Nat.pow_le_pow_right (by decide) (by omega)) _
      rw [grid] at below ⊢
      have steps := Nat.lt_of_mul_lt_mul_right (Nat.lt_of_lt_of_le below next)
      rw [split]
      exact Nat.mul_le_mul_right _ (Nat.le_of_lt_succ steps)

/-- A number whose truncation is within the signed word is within the word itself. -/
theorem scaled_mem {number : Binary64} (lower : -2 ^ 63 ≤ number.truncate)
    (upper : number.truncate < 2 ^ 63) :
    -(2 ^ 63 * (unitsPerOne : Int)) ≤ number.scaled ∧
      number.scaled < 2 ^ 63 * (unitsPerOne : Int) := by
  have positive := unitsPerOne_pos
  unfold truncate at lower upper
  unfold scaled
  cases sign : number.negative with
  | false =>
      simp only [sign, Bool.false_eq_true, ↓reduceIte] at lower upper ⊢
      have units : number.units < 2 ^ 63 * unitsPerOne :=
        (Nat.div_lt_iff_lt_mul positive).mp (by omega)
      omega
  | true =>
      simp only [sign, ↓reduceIte] at lower upper ⊢
      have below : number.units < (2 ^ 63 + 1) * unitsPerOne :=
        (Nat.div_lt_iff_lt_mul positive).mp (by omega)
      have units : number.units ≤ 2 ^ 63 * unitsPerOne := unitsOfRank_le below
      omega

theorem value_mem_iff {number : Binary64} :
    -2 ^ 63 ≤ number.value ∧ number.value < 2 ^ 63 ↔
      -(2 ^ 63 * (unitsPerOne : Int)) ≤ number.scaled ∧
        number.scaled < 2 ^ 63 * (unitsPerOne : Int) := by
  have positive : (0 : ℚ) < unitsPerOne := Nat.cast_pos.mpr unitsPerOne_pos
  rw [value, le_div_iff₀ positive, div_lt_iff₀ positive, neg_mul]
  exact_mod_cast Iff.rfl

end Binary64

namespace Json.Number

def value : Number → ℚ
  | .integer whole _ _ => whole
  | .float rounded => rounded.value

theorem truncate?_float (rounded : Binary64) :
    (float rounded).truncate? =
      if -(2 ^ 63 * (Binary64.unitsPerOne : Int)) ≤ rounded.scaled ∧
          rounded.scaled < 2 ^ 63 * (Binary64.unitsPerOne : Int) then
        some (Int64.ofInt rounded.truncate)
      else none := rfl

/-- Truncation that gives a result truncates the rational. -/
theorem toInt_of_truncate? {number : Number} {second : Int64}
    (fits : number.truncate? = some second) : second.toInt = towardZero number.value := by
  cases number with
  | integer whole lower upper =>
      rw [value, towardZero_intCast]
      by_cases signed : whole < 2 ^ 63
      · simp only [truncate?, int64?, signed, ↓reduceIte, Option.some.injEq] at fits
        rw [← fits, Int64.toInt_ofInt_of_le lower signed]
      · have large := Binary64.le_scaled_ofInt (Int.not_lt.mp signed) upper
        have outside : ¬ (Binary64.ofInt whole).scaled < 2 ^ 63 * Binary64.unitsPerOne :=
          Int.not_lt.mpr large
        simp only [truncate?, int64?, signed, toBinary64, outside, ↓reduceIte, and_false] at fits
        cases fits
  | float rounded =>
      rw [value, Binary64.towardZero_value]
      rw [truncate?_float, Option.ite_none_right_eq_some] at fits
      obtain ⟨⟨lower, upper⟩, truncated⟩ := fits
      obtain ⟨least, greatest⟩ := Binary64.truncate_mem lower upper
      rw [← Option.some.inj truncated, Int64.toInt_ofInt_of_le least greatest]

/-- Truncation gives a result if and only if that is in the range of a signed word. -/
theorem exists_truncate?_iff {number : Number} :
    (∃ second, number.truncate? = some second) ↔
      -2 ^ 63 ≤ towardZero number.value ∧ towardZero number.value < 2 ^ 63 := by
  constructor
  · intro fits
    obtain ⟨second, truncated⟩ := fits
    rw [← toInt_of_truncate? truncated]
    exact ⟨second.le_toInt, second.toInt_lt⟩
  · intro range
    obtain ⟨lower, upper⟩ := range
    cases number with
    | integer whole least greatest =>
        rw [value, towardZero_intCast] at upper
        refine ⟨Int64.ofInt whole, ?_⟩
        simp only [truncate?, int64?, upper, ↓reduceIte]
    | float rounded =>
        rw [value, Binary64.towardZero_value] at lower upper
        exact ⟨_, (truncate?_float rounded).trans (if_pos (Binary64.scaled_mem lower upper))⟩

/-- Truncation gives the truncated rational wherever a signed word holds it. -/
theorem truncate?_eq_some_iff {number : Number} {second : Int64} :
    number.truncate? = some second ↔ second.toInt = towardZero number.value := by
  constructor
  · exact toInt_of_truncate?
  · intro same
    have range : -2 ^ 63 ≤ towardZero number.value ∧ towardZero number.value < 2 ^ 63 := by
      rw [← same]
      exact ⟨second.le_toInt, second.toInt_lt⟩
    obtain ⟨truncated, fits⟩ := exists_truncate?_iff.mpr range
    have equal : truncated = second :=
      Int64.toInt_inj.mp ((toInt_of_truncate? fits).trans same.symm)
    rw [fits, equal]

/-- A number lies in the range of a signed 64-bit word, its fraction included. -/
def FitsInt64 (number : Number) : Prop :=
  -2 ^ 63 ≤ number.value ∧ number.value < 2 ^ 63

/-- A number is in range exactly if its truncation is: of the fractions that would be
cut off below the range, none belongs to a binary64 number. -/
theorem fitsInt64_iff {number : Number} :
    number.FitsInt64 ↔
      -2 ^ 63 ≤ towardZero number.value ∧ towardZero number.value < 2 ^ 63 := by
  cases number with
  | integer whole lower upper =>
      rw [FitsInt64, value, towardZero_intCast]
      exact_mod_cast Iff.rfl
  | float rounded =>
      rw [FitsInt64, value, Binary64.value_mem_iff, Binary64.towardZero_value]
      constructor
      · intro range
        exact Binary64.truncate_mem range.1 range.2
      · intro range
        exact Binary64.scaled_mem range.1 range.2

theorem truncate?_eq_none_iff {number : Number} :
    number.truncate? = none ↔ ¬ number.FitsInt64 := by
  rw [fitsInt64_iff, ← exists_truncate?_iff, ← Option.ne_none_iff_exists', not_ne_iff]

end Json.Number

end WebToken
