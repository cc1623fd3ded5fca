import Mathlib.Order.Compare
import WebToken.Binary64.Shortest
import WebToken.Proofs.Binary64.Decimal

/-!
# The shortest digits are read as a finite number

The shortest decimal number of a float has at most 17 digits, or is the power of ten above
them, and lies within the midpoints next to the float. So it is read as a finite number,
whichever zeros are taken off its end. Only the largest float has to be looked at by itself:
the midpoint above it is not finite.
-/

set_option autoImplicit false

namespace WebToken.Binary64

/-!
## Comparison
-/

namespace Decimal

/-- A decimal number does not exceed a number of half units. -/
def AtMost (decimal : Decimal) (halves : Nat) : Prop :=
  if 0 ≤ decimal.exponent then
    decimal.significand * 10 ^ decimal.exponent.toNat * (2 * unitsPerOne) ≤ halves
  else decimal.significand * (2 * unitsPerOne) ≤ halves * 10 ^ decimal.exponent.natAbs

variable {decimal : Decimal}

theorem compareHalves_ne_gt_iff {halves : Nat} :
    decimal.compareHalves halves ≠ .gt ↔ decimal.AtMost halves := by
  unfold compareHalves AtMost
  split <;> rw [compare_le_iff_le]

theorem AtMost.mono {halves more : Nat} (bounded : decimal.AtMost halves) (below : halves ≤ more) :
    decimal.AtMost more := by
  unfold AtMost at bounded ⊢
  by_cases nonneg : 0 ≤ decimal.exponent
  · rw [if_pos nonneg] at bounded ⊢
    exact bounded.trans below
  · rw [if_neg nonneg] at bounded ⊢
    exact bounded.trans (Nat.mul_le_mul_right _ below)

theorem atMost_of_roundsTo {rank : Nat} (rounds : decimal.roundsTo rank = true) :
    decimal.AtMost (unitsOfRank rank + unitsOfRank (rank + 1)) := by
  have midpoints : unitsOfRank (rank - 1) + unitsOfRank rank ≤
      unitsOfRank rank + unitsOfRank (rank + 1) :=
    Nat.add_le_add (unitsOfRank_mono (Nat.sub_le _ _)) (unitsOfRank_mono (Nat.le_succ _))
  unfold roundsTo at rounds
  dsimp only at rounds
  split at rounds
  next above => exact compareHalves_ne_gt_iff.mp (by rw [above]; decide)
  next equal => exact (compareHalves_ne_gt_iff.mp (by rw [equal]; decide)).mono midpoints
  next equal _ => exact compareHalves_ne_gt_iff.mp (by rw [equal]; decide)
  next => cases rounds

theorem compareHalves_zero (exponent : Int) {halves : Nat} (positive : 0 < halves) :
    compareHalves ⟨0, exponent⟩ halves = .lt := by
  unfold compareHalves
  split
  next => simpa [compare_lt_iff_lt] using positive
  next => simpa [compare_lt_iff_lt] using positive

/-- Zero rounds to no number but itself. -/
theorem significand_pos_of_roundsTo {rank : Nat} (positive : 0 < rank)
    (rounds : decimal.roundsTo rank = true) : 0 < decimal.significand := by
  by_contra none
  obtain ⟨significand, exponent⟩ := decimal
  obtain rfl : significand = 0 := Nat.eq_zero_of_not_pos none
  have one : 0 < unitsOfRank 1 := by decide
  have units : 0 < unitsOfRank rank := one.trans_le (unitsOfRank_mono positive)
  have below := compareHalves_zero exponent
    (Nat.add_pos_right (unitsOfRank (rank - 1)) units)
  have above := compareHalves_zero exponent
    (Nat.add_pos_left units (unitsOfRank (rank + 1)))
  simp [roundsTo, below, above] at rounds

/-- Zeros at the end may be taken off. -/
theorem AtMost.of_trim {digits zeros power halves : Nat} (bounded : decimal.AtMost halves)
    (trimmed : decimal.significand = digits * 10 ^ zeros)
    (shifted : (power : Int) = decimal.exponent + zeros) :
    digits * 10 ^ power * (2 * unitsPerOne) ≤ halves := by
  unfold AtMost at bounded
  split at bounded
  next nonneg =>
    obtain ⟨exponent, same⟩ := Int.eq_ofNat_of_zero_le nonneg
    rw [same, Int.toNat_natCast, trimmed, Nat.mul_assoc digits, ← Nat.pow_add] at bounded
    obtain rfl : power = zeros + exponent := by omega
    exact bounded
  next negative =>
    obtain ⟨exponent, same⟩ := Int.exists_eq_neg_ofNat (Int.not_le.mp negative).le
    rw [same, Int.natAbs_neg, Int.natAbs_natCast, trimmed] at bounded
    obtain rfl : zeros = power + exponent := by omega
    apply Nat.le_of_mul_le_mul_right _ (Nat.pow_pos (n := exponent) (show 0 < 10 by decide))
    calc digits * 10 ^ power * (2 * unitsPerOne) * 10 ^ exponent
        = digits * 10 ^ (power + exponent) * (2 * unitsPerOne) := by
          rw [Nat.mul_right_comm, Nat.mul_assoc digits, ← Nat.pow_add]
      _ ≤ halves * 10 ^ exponent := bounded

end Decimal

/-!
## Digits
-/

/-- A number of units is below the power of ten that its magnitude is measured by. -/
theorem units_lt_magnitude (units : Nat) :
    ∃ count : Nat, magnitudeExponent units = count - 324 ∧ 0 < count ∧
      units * 10 ^ 324 < 10 ^ count * unitsPerOne := by
  have given : 0 < (Nat.toDigits 10 (units * 10 ^ 324 / unitsPerOne)).length :=
    List.length_pos_iff.mpr Nat.toDigits_ne_nil
  refine ⟨_, rfl, given, ?_⟩
  rw [← Nat.div_lt_iff_lt_mul unitsPerOne_pos]
  exact (Nat.length_toDigits_le_iff (by decide) given).mp le_rfl

theorem length_toDigits_le {units power : Nat} (positive : 0 < power)
    (below : units < 10 ^ power * unitsPerOne) (scale : Nat) :
    (Nat.toDigits 10 (units * 10 ^ scale / unitsPerOne)).length ≤ power + scale := by
  rw [Nat.length_toDigits_le_iff (by decide) (Nat.add_pos_left positive scale),
    Nat.div_lt_iff_lt_mul unitsPerOne_pos, Nat.pow_add, Nat.mul_right_comm]
  exact Nat.mul_lt_mul_of_pos_right below (Nat.pow_pos (by decide))

theorem mem_neighbours {units : Nat} {exponent : Int} {decimal : Decimal}
    (candidate : decimal ∈ neighbours units exponent) :
    decimal.exponent = exponent ∧ decimal.significand ≤
      (if 0 ≤ exponent then units else units * 10 ^ exponent.natAbs) /
        (if 0 ≤ exponent then unitsPerOne * 10 ^ exponent.toNat else unitsPerOne) + 1 := by
  unfold neighbours at candidate
  generalize (if 0 ≤ exponent then units else units * 10 ^ exponent.natAbs) = numerator
    at candidate ⊢
  generalize (if 0 ≤ exponent then unitsPerOne * 10 ^ exponent.toNat else unitsPerOne) =
    denominator at candidate ⊢
  have listed : decimal = ⟨numerator / denominator, exponent⟩ ∨
      decimal = ⟨numerator / denominator + 1, exponent⟩ := by
    dsimp only at candidate
    split at candidate
    next => simpa using candidate
    next => simpa [or_comm] using candidate
  rcases listed with rfl | rfl
  · exact ⟨rfl, Nat.le_succ _⟩
  · exact ⟨rfl, le_rfl⟩

/-- On a grid that leaves a number of digits before its step, neighbours have at most that
many, or are the next power of ten. -/
theorem significand_le_of_neighbours {units count : Nat} {decimal : Decimal}
    (candidate : decimal ∈ neighbours units (magnitudeExponent units - count)) :
    decimal.significand ≤ 10 ^ count := by
  obtain ⟨size, magnitude, -, below⟩ := units_lt_magnitude units
  obtain ⟨-, bound⟩ := mem_neighbours candidate
  refine bound.trans ?_
  rw [magnitude]
  apply Nat.succ_le_of_lt
  split
  next nonneg =>
    obtain ⟨exponent, same⟩ := Int.eq_ofNat_of_zero_le nonneg
    obtain rfl : size = 324 + count + exponent := by omega
    rw [same, Int.toNat_natCast]
    rw [Nat.div_lt_iff_lt_mul (Nat.mul_pos unitsPerOne_pos (Nat.pow_pos (by decide)))]
    apply Nat.lt_of_mul_lt_mul_right (a := 10 ^ 324)
    calc units * 10 ^ 324 < 10 ^ (324 + count + exponent) * unitsPerOne := below
      _ = 10 ^ count * (unitsPerOne * 10 ^ exponent) * 10 ^ 324 := by
          rw [Nat.pow_add, Nat.pow_add]
          generalize 10 ^ 324 = scale
          ring
  next negative =>
    obtain ⟨exponent, same⟩ := Int.exists_eq_neg_ofNat (Int.not_le.mp negative).le
    obtain total : size + exponent = 324 + count := by omega
    rw [same, Int.natAbs_neg, Int.natAbs_natCast, Nat.div_lt_iff_lt_mul unitsPerOne_pos]
    apply Nat.lt_of_mul_lt_mul_right (a := 10 ^ size)
    calc units * 10 ^ exponent * 10 ^ size = units * 10 ^ 324 * 10 ^ count := by
          rw [Nat.mul_assoc, ← Nat.pow_add, Nat.add_comm, total, Nat.pow_add, Nat.mul_assoc]
      _ < 10 ^ size * unitsPerOne * 10 ^ count :=
          Nat.mul_lt_mul_of_pos_right below (Nat.pow_pos (by decide))
      _ = 10 ^ count * unitsPerOne * 10 ^ size := by ring

/-!
## The shortest decimal number
-/

section

variable (number : Binary64)

theorem shortest_cases :
    shortest number = ⟨0, 0⟩ ∨ ∃ count : Nat, 1 ≤ count ∧ count ≤ 17 ∧
      shortest number ∈ neighbours number.units (magnitudeExponent number.units - count) ∧
        (shortest number).roundsTo number.rank = true := by
  unfold shortest
  dsimp only
  generalize searched : (List.range' 1 17).findSome? _ = found
  cases found with
  | none => exact .inl rfl
  | some decimal =>
      obtain ⟨count, member, candidate⟩ := List.exists_of_findSome?_eq_some searched
      obtain ⟨least, greatest⟩ := List.mem_range'_1.mp member
      have rounds := List.find?_some candidate
      exact .inr ⟨count, least, Nat.le_of_lt_succ greatest, List.mem_of_find?_eq_some candidate,
        rounds⟩

theorem significand_shortest_le : (shortest number).significand ≤ 10 ^ 17 := by
  rcases shortest_cases number with zero | ⟨count, -, short, candidate, -⟩
  · rw [zero]
    exact Nat.zero_le _
  · exact (significand_le_of_neighbours candidate).trans (Nat.pow_le_pow_right (by decide) short)

theorem magnitudeExponent_le : magnitudeExponent number.units ≤ 309 := by
  have size := length_toDigits_le (by decide) number.units_lt 324
  unfold magnitudeExponent
  omega

theorem exponent_shortest_bounds :
    -340 ≤ (shortest number).exponent ∧ (shortest number).exponent ≤ 308 := by
  rcases shortest_cases number with zero | ⟨count, least, greatest, candidate, -⟩
  · rw [zero]
    decide
  · have upper := magnitudeExponent_le number
    obtain ⟨size, magnitude, given, -⟩ := units_lt_magnitude number.units
    rw [(mem_neighbours candidate).1]
    omega

/-- Were no decimal number found, zero would be taken. -/
theorem shortest_eq_or_pos (positive : 0 < number.rank) :
    shortest number = ⟨0, 0⟩ ∨ 0 < (shortest number).significand := by
  rcases shortest_cases number with zero | ⟨count, -, -, -, rounds⟩
  · exact .inl zero
  · exact .inr (Decimal.significand_pos_of_roundsTo positive rounds)

/-- The largest number is read from its digits. -/
theorem shortest_of_top (top : number.rank = endRank - 1) :
    shortest number = ⟨17976931348623157, 292⟩ ∧
      (ofDecimal? 17976931348623157 (292 : Nat)).isSome = true := by
  have digits : ∀ negative, shortest ⟨negative, endRank - 1, by decide⟩ =
      ⟨17976931348623157, 292⟩ ∧
        (ofDecimal? 17976931348623157 (292 : Nat)).isSome = true := by
    decide +kernel
  obtain ⟨negative, rank, finite⟩ := number
  cases top
  exact digits negative

end

theorem ofDecimal?_shortest {number : Binary64} {digits zeros : Nat} (positive : 0 < digits)
    (trimmed : (shortest number).significand = digits * 10 ^ zeros) :
    (ofDecimal? digits ((shortest number).exponent + zeros)).isSome = true := by
  generalize shifted : (shortest number).exponent + zeros = exponent
  rcases lt_or_ge exponent 0 with negative | nonneg
  · exact ofDecimal?_of_neg negative
  obtain ⟨power, rfl⟩ := Int.eq_ofNat_of_zero_le nonneg
  by_cases top : number.rank = endRank - 1
  · obtain ⟨shortest, finite⟩ := shortest_of_top number top
    rw [shortest] at trimmed shifted
    dsimp only at trimmed shifted
    cases zeros with
    | zero =>
        obtain rfl : 17976931348623157 = digits := trimmed.trans (Nat.mul_one digits)
        obtain rfl : power = 292 := by omega
        exact finite
    | succ zeros =>
        rw [Nat.pow_succ, ← Nat.mul_assoc] at trimmed
        omega
  · rcases shortest_cases number with zero | ⟨count, -, -, candidate, rounds⟩
    · rw [zero] at trimmed
      exact absurd trimmed.symm
        (Nat.mul_pos positive (Nat.pow_pos (n := zeros) (show 0 < 10 by decide))).ne'
    · have finite := number.rank_lt
      have bounded := (Decimal.atMost_of_roundsTo rounds).mono
        (Nat.add_le_add (unitsOfRank_mono (show number.rank ≤ endRank - 2 by omega))
          (unitsOfRank_mono (show number.rank + 1 ≤ endRank - 1 by omega)))
      have short : digits ≤ 10 ^ 17 :=
        calc digits ≤ digits * 10 ^ zeros := Nat.le_mul_of_pos_right _ (Nat.pow_pos (by decide))
          _ = (shortest number).significand := trimmed.symm
          _ ≤ 10 ^ 17 := significand_shortest_le number
      exact ofDecimal?_of_halves short positive (bounded.of_trim trimmed shifted.symm)

end WebToken.Binary64
