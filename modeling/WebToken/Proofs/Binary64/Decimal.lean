import WebToken.Proofs.Binary64.Monotone

/-!
# Decimal numbers that are read as finite numbers

A decimal number is read in steps that each round. Dividing by a power of ten never leaves
the finite range, and multiplying keeps the order, so that below the largest numbers only
one significand for each power of ten has to be looked at.
-/

set_option autoImplicit false

namespace WebToken.Binary64

/-!
## Operands
-/

theorem rank_ofInt (magnitude : Nat) :
    (ofInt magnitude).rank = min (nearestRank (magnitude * unitsPerOne) 1) (endRank - 1) := by
  simp only [ofInt, roundUnits, Int.natAbs_natCast]

theorem units_ofInt_mono {magnitude other : Nat} (below : magnitude ≤ other) :
    (ofInt magnitude).units ≤ (ofInt other).units := by
  have ranks : nearestRank (magnitude * unitsPerOne) 1 ≤ nearestRank (other * unitsPerOne) 1 :=
    nearestRank_mono Nat.one_pos Nat.one_pos
      (Nat.mul_le_mul_right 1 (Nat.mul_le_mul_right unitsPerOne below))
  apply unitsOfRank_mono
  rw [rank_ofInt, rank_ofInt]
  exact min_le_min_right _ ranks

theorem unitsPerOne_le_powerOfTen (exponent : Nat) :
    unitsPerOne ≤ (powerOfTen exponent).units := by
  have one : (ofInt (1 : Nat)).units = unitsPerOne := by
    rw [units_ofInt (isMagnitude_whole (by decide)), Nat.one_mul]
  have power : 1 ≤ 10 ^ exponent := Nat.one_le_pow _ _ (by decide)
  exact one ▸ units_ofInt_mono power

/-!
## Operations
-/

section

variable {number other factor operand : Binary64}

/-- A divisor from one up gives no larger number. -/
theorem exists_div? (number : Binary64) (large : unitsPerOne ≤ operand.units) :
    ∃ quotient, number.div? operand = some quotient := by
  have positive : 0 < operand.units := Nat.lt_of_lt_of_le unitsPerOne_pos large
  have smaller : nearestRank (number.units * unitsPerOne) operand.units ≤ number.rank := by
    have back : nearestRank number.units 1 = number.rank := nearestRank_unitsOfRank number.rank
    rw [← back]
    apply nearestRank_mono positive Nat.one_pos
    rw [Nat.mul_one]
    exact Nat.mul_le_mul_left _ large
  have finite := Nat.lt_of_le_of_lt smaller number.rank_lt
  exact ⟨_, dif_pos finite⟩

theorem exists_div?_powerOfTen (number : Binary64) (power : Nat) :
    ∃ quotient, number.div? (powerOfTen power) = some quotient :=
  exists_div? number (unitsPerOne_le_powerOfTen power)

theorem mul?_of_le (below : number.units ≤ other.units)
    (alsoBelow : factor.units ≤ operand.units) (finite : (other.mul? operand).isSome = true) :
    (number.mul? factor).isSome = true := by
  unfold mul? roundUnits? at finite ⊢
  have ranks : nearestRank (number.units * factor.units) unitsPerOne ≤
      nearestRank (other.units * operand.units) unitsPerOne :=
    nearestRank_mono unitsPerOne_pos unitsPerOne_pos
      (Nat.mul_le_mul_right _ (Nat.mul_le_mul below alsoBelow))
  split at finite
  next otherFinite =>
    rw [dif_pos (Nat.lt_of_le_of_lt ranks otherFinite)]
    rfl
  next => cases finite

theorem exists_descend (rounds : Nat) (number : Binary64) (exponent : Int) :
    ∃ left, descend rounds number exponent = some left := by
  induction rounds generalizing number exponent with
  | zero => exact ⟨_, rfl⟩
  | succ rounds ih =>
      rw [descend]
      split
      next =>
        obtain ⟨quotient, divided⟩ := exists_div?_powerOfTen number 308
        rw [divided]
        exact ih quotient (exponent + 308)
      next => exact ⟨_, rfl⟩

end

/-!
## Reading
-/

section

variable {significand other : Nat} {exponent : Int}

theorem ofDecimal?_of_neg (negative : exponent < 0) :
    (ofDecimal? significand exponent).isSome = true := by
  obtain ⟨⟨number, left⟩, divided⟩ :=
    exists_descend (exponent.natAbs / 308) (ofInt significand) exponent
  simp only [ofDecimal?, Int.not_le.mpr negative, ↓reduceIte, divided]
  split
  next =>
    obtain ⟨quotient, last⟩ := exists_div?_powerOfTen number left.natAbs
    rw [last]
    rfl
  next => rfl

theorem ofDecimal?_of_le {power largest : Nat} (inTable : largest ≤ 308) (lower : power ≤ largest)
    (below : significand ≤ other) (finite : (ofDecimal? other largest).isSome = true) :
    (ofDecimal? significand power).isSome = true := by
  have bounded : (largest : Int) ≤ 308 := by exact_mod_cast inTable
  have powerBounded : (power : Int) ≤ 308 := by exact_mod_cast lower.trans inTable
  simp only [ofDecimal?, Int.natCast_nonneg, bounded, powerBounded, ↓reduceIte,
    Int.toNat_natCast] at finite ⊢
  exact mul?_of_le (units_ofInt_mono below)
    (units_ofInt_mono (Nat.pow_le_pow_right (by decide) lower)) finite

theorem units_lt (number : Binary64) : number.units < 10 ^ 309 * unitsPerOne := by
  have top : unitsOfRank (endRank - 1) < 10 ^ 309 * unitsPerOne := by decide +kernel
  exact (unitsOfRank_mono (Nat.le_sub_one_of_lt number.rank_lt)).trans_lt top

/-- Twice the number halfway between the largest two, in units. -/
def topHalves : Nat :=
  unitsOfRank (endRank - 2) + unitsOfRank (endRank - 1)

theorem topHalves_lt : topHalves < 10 ^ 309 * (2 * unitsPerOne) := by
  have last := units_lt ⟨false, endRank - 1, by decide⟩
  have before := units_lt ⟨false, endRank - 2, by decide⟩
  calc topHalves < 10 ^ 309 * unitsPerOne + 10 ^ 309 * unitsPerOne :=
        Nat.add_lt_add before last
    _ = 10 ^ 309 * (2 * unitsPerOne) := by
        generalize 10 ^ 309 = power
        ring

/-- Up to the power 291 all of 17 digits are finite, and from the next one on those that are
not past the number halfway between the largest two. -/
theorem ofDecimal?_of_table :
    (ofDecimal? (10 ^ 17) (291 : Nat)).isSome = true ∧ ∀ above : Nat, above < 17 →
      (ofDecimal? (topHalves / (10 ^ (292 + above) * (2 * unitsPerOne)))
        (292 + above : Nat)).isSome = true := by
  decide +kernel

theorem ofDecimal?_of_halves {power : Nat} (short : significand ≤ 10 ^ 17)
    (positive : 0 < significand)
    (below : significand * 10 ^ power * (2 * unitsPerOne) ≤ topHalves) :
    (ofDecimal? significand power).isSome = true := by
  have one : 0 < 2 * unitsPerOne := Nat.mul_pos (by decide) unitsPerOne_pos
  have inTable : power < 309 := by
    by_contra large
    refine absurd (topHalves_lt.trans_le ?_) (Nat.not_lt.mpr below)
    apply Nat.mul_le_mul_right
    calc 10 ^ 309 ≤ 10 ^ power := Nat.pow_le_pow_right (by decide) (Nat.not_lt.mp large)
      _ ≤ significand * 10 ^ power := Nat.le_mul_of_pos_left _ positive
  rcases Nat.lt_or_ge power 292 with low | high
  · exact ofDecimal?_of_le (by decide) (Nat.le_of_lt_succ low) short ofDecimal?_of_table.1
  · obtain ⟨above, rfl⟩ := Nat.exists_eq_add_of_le high
    refine ofDecimal?_of_le (Nat.le_of_lt_succ inTable) le_rfl ?_
      (ofDecimal?_of_table.2 above (by omega))
    rw [Nat.le_div_iff_mul_le (Nat.mul_pos (Nat.pow_pos (by decide)) one), ← Nat.mul_assoc]
    exact below

end

end WebToken.Binary64
