import Mathlib.Data.Nat.Log
import WebToken.Proofs.Json.NumberAgreement

/-!
# Rounding keeps the order

A quotient that is not above another one is not rounded above it either. So the finite
numbers are ordered as their ranks are, a result is finite if a larger one is, and no
quotient is rounded past the magnitude of a finite number.
-/

set_option autoImplicit false

namespace WebToken.Binary64

/-!
## Quotients
-/

section

variable {numerator denominator otherNumerator otherDenominator : Nat}

theorem div_le_div_of_mul_le (positive : 0 < denominator) (otherPositive : 0 < otherDenominator)
    (below : numerator * otherDenominator ≤ otherNumerator * denominator) :
    numerator / denominator ≤ otherNumerator / otherDenominator := by
  rw [Nat.le_div_iff_mul_le otherPositive]
  refine Nat.le_of_mul_le_mul_right ?_ positive
  calc numerator / denominator * otherDenominator * denominator
      = numerator / denominator * denominator * otherDenominator := Nat.mul_right_comm ..
    _ ≤ numerator * otherDenominator := Nat.mul_le_mul_right _ (Nat.div_mul_le_self ..)
    _ ≤ otherNumerator * denominator := below

theorem roundHalfEven_mono (positive : 0 < denominator) (otherPositive : 0 < otherDenominator)
    (below : numerator * otherDenominator ≤ otherNumerator * denominator) :
    roundHalfEven numerator denominator ≤ roundHalfEven otherNumerator otherDenominator := by
  have quotients := div_le_div_of_mul_le positive otherPositive below
  rcases Nat.lt_or_eq_of_le quotients with less | same
  · calc roundHalfEven numerator denominator
        ≤ numerator / denominator + 1 := roundHalfEven_le ..
      _ ≤ otherNumerator / otherDenominator := less
      _ ≤ roundHalfEven otherNumerator otherDenominator := div_le_roundHalfEven ..
  · -- With one quotient the remainders decide, each as a part of its denominator.
    have remainders : numerator % denominator * otherDenominator ≤
        otherNumerator % otherDenominator * denominator := by
      have left := Nat.div_add_mod numerator denominator
      have right := Nat.div_add_mod otherNumerator otherDenominator
      rw [← left, ← right, ← same] at below
      nlinarith
    unfold roundHalfEven
    rw [← same]
    generalize numerator % denominator = remainder at remainders ⊢
    generalize otherNumerator % otherDenominator = other at remainders ⊢
    have half : denominator ≤ 2 * remainder → otherDenominator ≤ 2 * other := by
      intro reached
      by_contra short
      nlinarith
    have more : denominator < 2 * remainder → otherDenominator < 2 * other := by
      intro passed
      by_contra short
      nlinarith
    dsimp only
    split_ifs <;> omega

theorem roundHalfEven_le_of_lt {bound : Nat} (positive : 0 < denominator)
    (below : numerator < bound * denominator) : roundHalfEven numerator denominator ≤ bound := by
  have quotient := (Nat.div_lt_iff_lt_mul positive).mpr below
  exact (roundHalfEven_le ..).trans quotient

/-!
## Ranks
-/

/-- Within a spacing the ranks go up to the first one of the next spacing. -/
theorem nearestRank_le (positive : 0 < denominator) :
    nearestRank numerator denominator ≤ ((numerator / denominator).log2 - 52 + 2) * 2 ^ 52 := by
  have bound : numerator / denominator < 2 ^ ((numerator / denominator).log2 - 52 + 53) := by
    by_cases zero : numerator / denominator = 0
    · rw [zero]
      exact Nat.two_pow_pos _
    · exact (Nat.log2_lt zero).mp (by omega)
  unfold nearestRank
  generalize (numerator / denominator).log2 - 52 = shift at bound ⊢
  have rounded : roundHalfEven numerator (denominator * 2 ^ shift) ≤ 2 ^ 53 := by
    apply roundHalfEven_le_of_lt (Nat.mul_pos positive (Nat.two_pow_pos shift))
    rw [Nat.div_lt_iff_lt_mul positive, Nat.pow_add] at bound
    calc numerator < 2 ^ shift * 2 ^ 53 * denominator := bound
      _ = 2 ^ 53 * (denominator * 2 ^ shift) := by
          rw [Nat.mul_comm (2 ^ shift), Nat.mul_assoc, Nat.mul_comm (2 ^ shift)]
  dsimp only
  omega

theorem le_nearestRank (positive : 0 < denominator)
    (large : 0 < (numerator / denominator).log2 - 52) :
    ((numerator / denominator).log2 - 52 + 1) * 2 ^ 52 ≤ nearestRank numerator denominator := by
  have nonzero : numerator / denominator ≠ 0 := by
    intro zero
    rw [zero] at large
    exact absurd large (by decide)
  have bound := (Nat.le_log2 nonzero).mp (le_refl _)
  unfold nearestRank
  obtain ⟨shift, same⟩ : ∃ shift, (numerator / denominator).log2 = shift + 52 :=
    ⟨(numerator / denominator).log2 - 52, by omega⟩
  rw [same, Nat.pow_add] at bound
  rw [same, Nat.add_sub_cancel]
  have rounded : 2 ^ 52 ≤ roundHalfEven numerator (denominator * 2 ^ shift) := by
    refine le_trans ?_ (div_le_roundHalfEven ..)
    rw [Nat.le_div_iff_mul_le (Nat.mul_pos positive (Nat.two_pow_pos shift))]
    rw [Nat.le_div_iff_mul_le positive] at bound
    calc 2 ^ 52 * (denominator * 2 ^ shift) = 2 ^ shift * 2 ^ 52 * denominator := by
          rw [Nat.mul_comm (2 ^ shift), Nat.mul_assoc, Nat.mul_comm (2 ^ shift)]
      _ ≤ numerator := bound
  rw [Nat.add_mul, Nat.one_mul]
  exact Nat.add_le_add_left rounded _

theorem nearestRank_mono (positive : 0 < denominator) (otherPositive : 0 < otherDenominator)
    (below : numerator * otherDenominator ≤ otherNumerator * denominator) :
    nearestRank numerator denominator ≤ nearestRank otherNumerator otherDenominator := by
  have quotients := div_le_div_of_mul_le positive otherPositive below
  have shifts : (numerator / denominator).log2 - 52 ≤
      (otherNumerator / otherDenominator).log2 - 52 := by
    rw [Nat.log2_eq_log_two, Nat.log2_eq_log_two]
    exact Nat.sub_le_sub_right (Nat.log_mono_right quotients) 52
  rcases Nat.lt_or_eq_of_le shifts with less | same
  · have lower := le_nearestRank otherPositive (Nat.zero_lt_of_lt less)
    refine (nearestRank_le positive).trans (le_trans (Nat.mul_le_mul_right _ ?_) lower)
    exact Nat.succ_le_succ less
  · unfold nearestRank
    rw [← same]
    generalize (numerator / denominator).log2 - 52 = shift
    refine Nat.add_le_add_left ?_ _
    have spacing := Nat.two_pow_pos shift
    apply roundHalfEven_mono (Nat.mul_pos positive spacing) (Nat.mul_pos otherPositive spacing)
    rw [← Nat.mul_assoc, ← Nat.mul_assoc]
    exact Nat.mul_le_mul_right _ below

end

theorem unitsOfRank_mono {rank other : Nat} (below : rank ≤ other) :
    unitsOfRank rank ≤ unitsOfRank other := by
  by_contra above
  have back := nearestRank_mono Nat.one_pos Nat.one_pos
    (Nat.mul_le_mul_right 1 (Nat.le_of_not_le above))
  rw [nearestRank_unitsOfRank, nearestRank_unitsOfRank] at back
  obtain rfl := Nat.le_antisymm below back
  exact above (le_refl _)

theorem unitsOfRank_inj {rank other : Nat} (same : unitsOfRank rank = unitsOfRank other) :
    rank = other := by
  rw [← nearestRank_unitsOfRank rank, same, nearestRank_unitsOfRank]

/-!
## Magnitudes that are not rounded
-/

/-- A finite number has this magnitude. -/
def IsMagnitude (magnitude : Nat) : Prop :=
  ∃ rank, rank < endRank ∧ unitsOfRank rank = magnitude

theorem isMagnitude_units (number : Binary64) : IsMagnitude number.units :=
  ⟨number.rank, number.rank_lt, rfl⟩

theorem isMagnitude_whole {whole : Nat} (fits : whole ≤ 2 ^ 53) :
    IsMagnitude (whole * unitsPerOne) := by
  have represented := exists_value_eq (show (whole : Int).natAbs ≤ 2 ^ 53 by omega)
  obtain ⟨number, value⟩ := represented
  have units : number.units = whole * unitsPerOne := by
    rw [← number.scaled_natAbs, value_eq_intCast_iff.mp value, Int.natAbs_mul, Int.natAbs_natCast,
      Int.natAbs_natCast]
  exact units ▸ number.isMagnitude_units

section

variable {negative : Bool} {magnitude numerator denominator : Nat}

theorem units_roundUnits_le (finite : IsMagnitude magnitude) (positive : 0 < denominator)
    (below : numerator ≤ magnitude * denominator) :
    (roundUnits negative numerator denominator).units ≤ magnitude := by
  obtain ⟨rank, -, rfl⟩ := finite
  have ranks : nearestRank numerator denominator ≤ nearestRank (unitsOfRank rank) 1 :=
    nearestRank_mono positive Nat.one_pos ((Nat.mul_one numerator).symm ▸ below)
  rw [nearestRank_unitsOfRank] at ranks
  exact unitsOfRank_mono ((Nat.min_le_left _ _).trans ranks)

theorem le_units_roundUnits (finite : IsMagnitude magnitude) (positive : 0 < denominator)
    (above : magnitude * denominator ≤ numerator) :
    magnitude ≤ (roundUnits negative numerator denominator).units := by
  obtain ⟨rank, bound, rfl⟩ := finite
  have ranks : nearestRank (unitsOfRank rank) 1 ≤ nearestRank numerator denominator :=
    nearestRank_mono Nat.one_pos positive ((Nat.mul_one numerator).symm ▸ above)
  rw [nearestRank_unitsOfRank] at ranks
  exact unitsOfRank_mono (Nat.le_min.mpr ⟨ranks, Nat.le_sub_one_of_lt bound⟩)

theorem units_roundUnits_eq (finite : IsMagnitude magnitude) (positive : 0 < denominator)
    (same : numerator = magnitude * denominator) :
    (roundUnits negative numerator denominator).units = magnitude :=
  Nat.le_antisymm (units_roundUnits_le finite positive same.le)
    (le_units_roundUnits finite positive same.ge)

end

theorem units_ofInt {whole : Nat} (finite : IsMagnitude (whole * unitsPerOne)) :
    (ofInt whole).units = whole * unitsPerOne :=
  units_roundUnits_eq finite Nat.one_pos (Nat.mul_one _).symm

end WebToken.Binary64
