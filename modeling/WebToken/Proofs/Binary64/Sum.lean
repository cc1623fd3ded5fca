import Mathlib.Tactic.Ring
import WebToken.Proofs.Binary64.Decimal

/-!
# Adding a fraction to a whole number

The sum of a whole number and a fraction is rounded to the whole number itself if the
fraction is small beside the spacing of the numbers there. From `2 ^ 53` on that happens
to every fraction below one. Otherwise the sum is above the whole number, and below
`2 ^ 53` it is not above the next whole number.
-/

set_option autoImplicit false

namespace WebToken.Binary64

/-!
## Fractions beside powers of two
-/

section

variable {numerator denominator shift rest : Nat} (exponents : shift + (53 + rest) = 1074)

include exponents

theorem unitsPerOne_eq : unitsPerOne = 2 ^ shift * (2 ^ 53 * 2 ^ rest) := by
  obtain ⟨bits, size, unit⟩ := exists_unitsPerOne
  rw [unit, ← Nat.pow_add, ← Nat.pow_add, exponents, size]

theorem units_ofRatio_lt (small : denominator ≤ 2 ^ 52)
    (below : numerator * 2 ^ shift < denominator) :
    (ofRatio numerator denominator).units < 2 ^ 53 * 2 ^ rest := by
  have finite : IsMagnitude ((2 ^ 53 - 1) * 2 ^ rest) :=
    exists_unitsOfRank (by decide) (by omega)
  have bound : (ofRatio numerator denominator).units ≤ (2 ^ 53 - 1) * 2 ^ rest := by
    apply units_roundUnits_le finite (Nat.zero_lt_of_lt below)
    have scaled : numerator * 2 ^ shift * 2 ^ 53 ≤ (2 ^ 53 - 1) * denominator := by omega
    calc numerator * unitsPerOne = numerator * 2 ^ shift * 2 ^ 53 * 2 ^ rest := by
          rw [unitsPerOne_eq exponents, ← Nat.mul_assoc, ← Nat.mul_assoc]
      _ ≤ (2 ^ 53 - 1) * denominator * 2 ^ rest := Nat.mul_le_mul_right _ scaled
      _ = (2 ^ 53 - 1) * 2 ^ rest * denominator := Nat.mul_right_comm ..
  refine Nat.lt_of_le_of_lt bound (Nat.mul_lt_mul_of_pos_right ?_ (Nat.two_pow_pos rest))
  decide

theorem lt_units_ofRatio (positive : 0 < denominator) (small : denominator ≤ 2 ^ 52)
    (above : denominator < numerator * 2 ^ shift) :
    2 ^ 53 * 2 ^ rest < (ofRatio numerator denominator).units := by
  have finite : IsMagnitude ((2 ^ 52 + 1) * 2 ^ (rest + 1)) :=
    exists_unitsOfRank (by decide) (by omega)
  have double : 2 ^ (rest + 1) = 2 * 2 ^ rest := Nat.pow_succ'
  have bound : (2 ^ 52 + 1) * 2 ^ (rest + 1) ≤ (ofRatio numerator denominator).units := by
    apply le_units_roundUnits finite positive
    have scaled : (2 ^ 52 + 1) * 2 * denominator ≤ numerator * 2 ^ shift * 2 ^ 53 := by omega
    calc (2 ^ 52 + 1) * 2 ^ (rest + 1) * denominator
        = (2 ^ 52 + 1) * 2 * denominator * 2 ^ rest := by
          rw [double, ← Nat.mul_assoc, Nat.mul_right_comm]
      _ ≤ numerator * 2 ^ shift * 2 ^ 53 * 2 ^ rest := Nat.mul_le_mul_right _ scaled
      _ = numerator * unitsPerOne := by
          rw [unitsPerOne_eq exponents, ← Nat.mul_assoc, ← Nat.mul_assoc]
  refine Nat.lt_of_lt_of_le ?_ bound
  rw [double, ← Nat.mul_assoc]
  exact Nat.mul_lt_mul_of_pos_right (by decide) (Nat.two_pow_pos rest)

theorem units_ofRatio_eq (positive : 0 < denominator)
    (same : numerator * 2 ^ shift = denominator) :
    (ofRatio numerator denominator).units = 2 ^ 53 * 2 ^ rest := by
  have finite : IsMagnitude (2 ^ 53 * 2 ^ rest) := by
    have double : 2 ^ (rest + 1) = 2 * 2 ^ rest := Nat.pow_succ'
    have halved : 2 ^ 53 * 2 ^ rest = 2 ^ 52 * 2 ^ (rest + 1) := by
      rw [double, ← Nat.mul_assoc]
    rw [halved]
    exact exists_unitsOfRank (by decide) (by omega)
  apply units_roundUnits_eq finite positive
  rw [unitsPerOne_eq exponents, ← same, ← Nat.mul_assoc, Nat.mul_comm]

theorem units_ofRatio_lt_iff (positive : 0 < denominator) (small : denominator ≤ 2 ^ 52) :
    (ofRatio numerator denominator).units < 2 ^ 53 * 2 ^ rest ↔
      numerator * 2 ^ shift < denominator := by
  constructor
  · intro below
    rcases Nat.lt_trichotomy (numerator * 2 ^ shift) denominator with less | same | more
    · exact less
    · exact absurd (units_ofRatio_eq exponents positive same) below.ne
    · exact absurd (lt_units_ofRatio exponents positive small more) below.not_gt
  · exact units_ofRatio_lt exponents small

theorem units_ofRatio_eq_iff (positive : 0 < denominator) (small : denominator ≤ 2 ^ 52) :
    (ofRatio numerator denominator).units = 2 ^ 53 * 2 ^ rest ↔
      numerator * 2 ^ shift = denominator := by
  constructor
  · intro equal
    rcases Nat.lt_trichotomy (numerator * 2 ^ shift) denominator with less | same | more
    · exact absurd equal (units_ofRatio_lt exponents small less).ne
    · exact same
    · exact absurd equal (lt_units_ofRatio exponents positive small more).ne'
  · exact units_ofRatio_eq exponents positive

end

/-!
## Sums
-/

theorem roundHalfEven_add {significand spacing added : Nat} (narrow : added < spacing) :
    roundHalfEven (significand * spacing + added) spacing =
      if 2 * added < spacing then significand
      else if 2 * added = spacing then significand + significand % 2 else significand + 1 := by
  have quotient : (significand * spacing + added) / spacing = significand := by
    rw [Nat.add_comm, Nat.add_mul_div_right _ _ (Nat.zero_lt_of_lt narrow),
      Nat.div_eq_of_lt narrow, Nat.zero_add]
  have remainder : (significand * spacing + added) % spacing = added := by
    rw [Nat.mul_add_mod_self_right, Nat.mod_eq_of_lt narrow]
  simp only [roundHalfEven, quotient, remainder]

namespace Normal

variable {significand exponent added : Nat}

/-- The rank after that of a significand and an exponent is the next significand's, also
where that is the first of the next exponent. -/
theorem unitsOfRank_succ (normal : Normal significand exponent) :
    unitsOfRank (exponent * 2 ^ 52 + significand + 1) = (significand + 1) * 2 ^ exponent := by
  obtain ⟨fits, leading⟩ := normal
  rcases Nat.lt_or_eq_of_le (Nat.succ_le_of_lt fits) with below | last
  · have next : Normal (significand + 1) exponent := ⟨below, by omega⟩
    rw [Nat.add_assoc]
    exact next.unitsOfRank_eq
  · have next : Normal (2 ^ 52) (exponent + 1) := ⟨by decide, .inl (Nat.le_refl _)⟩
    have rank : exponent * 2 ^ 52 + significand + 1 = (exponent + 1) * 2 ^ 52 + 2 ^ 52 := by omega
    have carried : significand + 1 = 2 ^ 52 * 2 := by omega
    have double : 2 ^ (exponent + 1) = 2 * 2 ^ exponent := Nat.pow_succ'
    rw [rank, next.unitsOfRank_eq, double, ← Nat.mul_assoc, carried]

theorem nearestRank_add (normal : Normal significand exponent) (leading : 2 ^ 52 ≤ significand)
    (narrow : added < 2 ^ exponent) :
    nearestRank (significand * 2 ^ exponent + added) 1 =
      exponent * 2 ^ 52 + roundHalfEven (significand * 2 ^ exponent + added) (2 ^ exponent) := by
  simp only [nearestRank, Nat.div_one, Nat.one_mul, normal.log2_add leading narrow,
    Nat.add_sub_cancel_left]

/-- What is added is lost if it is less than half of the spacing, or half of it beside an
even significand. -/
theorem nearestRank_add_eq_iff (normal : Normal significand exponent)
    (leading : 2 ^ 52 ≤ significand) :
    nearestRank (significand * 2 ^ exponent + added) 1 = exponent * 2 ^ 52 + significand ↔
      2 * added < 2 ^ exponent ∨ 2 * added = 2 ^ exponent ∧ significand % 2 = 0 := by
  have spacing := Nat.two_pow_pos exponent
  by_cases narrow : added < 2 ^ exponent
  · rw [normal.nearestRank_add leading narrow, roundHalfEven_add narrow]
    split_ifs <;> omega
  · have next : exponent * 2 ^ 52 + significand + 1 ≤
        nearestRank (significand * 2 ^ exponent + added) 1 := by
      have ranks := nearestRank_mono Nat.one_pos Nat.one_pos
        (show (significand + 1) * 2 ^ exponent * 1 ≤ (significand * 2 ^ exponent + added) * 1 by
          rw [Nat.succ_mul]
          omega)
      rw [← normal.unitsOfRank_succ, nearestRank_unitsOfRank] at ranks
      exact ranks
    omega

end Normal

section

variable {number added : Binary64}

theorem units_addMagnitudes
    (nearest : nearestRank (number.units + added.units) 1 = number.rank) :
    (addMagnitudes number added).units = number.units := by
  have rank : (addMagnitudes number added).rank =
      min (nearestRank (number.units + added.units) 1) (endRank - 1) := rfl
  rw [units, units, rank, nearest, Nat.min_eq_left (Nat.le_sub_one_of_lt number.rank_lt)]

/-- Short of the largest number, a sum is the first number only if it is rounded to it. -/
theorem units_addMagnitudes_eq_iff (room : number.rank + 1 < endRank) :
    (addMagnitudes number added).units = number.units ↔
      nearestRank (number.units + added.units) 1 = number.rank := by
  constructor
  · intro same
    have ranks : min (nearestRank (number.units + added.units) 1) (endRank - 1) = number.rank :=
      unitsOfRank_inj same
    omega
  · exact units_addMagnitudes

end

/-!
## Whole numbers and fractions
-/

/-- A fraction is less than half of the spacing from a whole number to the next number, or
half of it while the significand is even. The spacing is `2 ^ -52` of the leading bit, and
the significand is the whole number shifted to 53 bits. -/
def IsLost (numerator denominator whole : Nat) : Prop :=
  numerator * 2 ^ (53 - whole.log2) < denominator ∨
    numerator * 2 ^ (53 - whole.log2) = denominator ∧ whole * 2 ^ (52 - whole.log2) % 2 = 0

section

variable {numerator denominator whole : Nat}

instance : Decidable (IsLost numerator denominator whole) :=
  inferInstanceAs (Decidable (_ ∨ _))

theorem units_ofRatio_zero (positive : 0 < denominator) : (ofRatio 0 denominator).units = 0 := by
  have finite : IsMagnitude (0 * unitsPerOne) := isMagnitude_whole (Nat.zero_le _)
  rw [Nat.zero_mul] at finite
  exact units_roundUnits_eq finite positive (by rw [Nat.zero_mul, Nat.zero_mul])

theorem units_addMagnitudes_zero (added : Binary64) :
    (addMagnitudes (ofInt (0 : Nat)) added).units = added.units := by
  have zero : (ofInt (0 : Nat)).units = 0 := by
    rw [units_ofInt (isMagnitude_whole (Nat.zero_le _)), Nat.zero_mul]
  apply units_roundUnits_eq added.isMagnitude_units Nat.one_pos
  rw [zero, Nat.zero_add, Nat.mul_one]

/-- From one on the whole number has an exponent that leaves room for any fraction. -/
theorem exists_normal_whole (positive : 0 < whole) (fits : whole < 2 ^ 53) :
    ∃ rest, 53 - whole.log2 + (53 + rest) = 1074 ∧ rest < 1022 ∧
      Normal (whole * 2 ^ (52 - whole.log2)) (rest + 54) ∧
      2 ^ 52 ≤ whole * 2 ^ (52 - whole.log2) ∧
      (ofInt whole).rank = (rest + 54) * 2 ^ 52 + whole * 2 ^ (52 - whole.log2) := by
  have bound := (Nat.log2_lt positive.ne').mpr fits
  have lower := Nat.log2_self_le positive.ne'
  have upper := Nat.lt_log2_self (n := whole)
  obtain ⟨less, split⟩ : ∃ less, whole.log2 + less = 52 := ⟨52 - whole.log2, by omega⟩
  have shift : 52 - whole.log2 = less := by omega
  have leading : 2 ^ 52 ≤ whole * 2 ^ less := by
    rw [← split, Nat.pow_add]
    exact Nat.mul_le_mul_right _ lower
  have narrow : whole * 2 ^ less < 2 ^ 53 := by
    rw [show 53 = whole.log2 + 1 + less by omega, Nat.pow_add]
    exact Nat.mul_lt_mul_of_pos_right upper (Nat.two_pow_pos less)
  have normal : Normal (whole * 2 ^ less) (968 + whole.log2 + 54) := ⟨narrow, .inl leading⟩
  rw [shift]
  refine ⟨968 + whole.log2, by omega, by omega, normal, leading, ?_⟩
  apply unitsOfRank_inj
  have units : (ofInt whole).units = whole * unitsPerOne := units_ofInt (isMagnitude_whole fits.le)
  obtain ⟨bits, size, unit⟩ := exists_unitsPerOne
  rw [normal.unitsOfRank_eq, Nat.mul_assoc, ← Nat.pow_add,
    show less + (968 + whole.log2 + 54) = bits by omega, ← unit]
  exact units

theorem units_add_fraction_eq_iff (fits : whole < 2 ^ 53) (positive : 0 < denominator)
    (small : denominator ≤ 2 ^ 52) :
    (addMagnitudes (ofInt whole) (ofRatio numerator denominator)).units = whole * unitsPerOne ↔
      IsLost numerator denominator whole := by
  by_cases zero : whole = 0
  · subst zero
    rw [units_addMagnitudes_zero, Nat.zero_mul, IsLost, Nat.log2_zero, Nat.sub_zero]
    by_cases nothing : numerator = 0
    · subst nothing
      rw [units_ofRatio_zero positive]
      omega
    · obtain ⟨rest, exponents⟩ : ∃ rest, 53 + (53 + rest) = 1074 := ⟨968, rfl⟩
      have above := lt_units_ofRatio exponents positive small
        (show denominator < numerator * 2 ^ 53 by omega)
      have nonzero := (Nat.zero_lt_of_lt above).ne'
      omega
  · obtain ⟨rest, exponents, range, normal, leading, rank⟩ :=
      exists_normal_whole (Nat.pos_of_ne_zero zero) fits
    have finite : endRank = 2047 * 2 ^ 52 := rfl
    have narrow := normal.fits
    have room : (ofInt whole).rank + 1 < endRank := by omega
    have half : 2 ^ (rest + 54) = 2 * (2 ^ 53 * 2 ^ rest) := by
      rw [← Nat.pow_add, ← Nat.pow_succ', show rest + 54 = (53 + rest).succ by omega]
    have less : (ofRatio numerator denominator).units < _ ↔ _ :=
      units_ofRatio_lt_iff exponents positive small
    have equal : (ofRatio numerator denominator).units = _ ↔ _ :=
      units_ofRatio_eq_iff exponents positive small
    rw [← units_ofInt (isMagnitude_whole fits.le), units_addMagnitudes_eq_iff room, units, rank,
      normal.unitsOfRank_eq, normal.nearestRank_add_eq_iff leading, half, IsLost, ← less, ← equal]
    omega

theorem units_ofRatio_lt_unitsPerOne (proper : numerator < denominator)
    (small : denominator ≤ 2 ^ 52) : (ofRatio numerator denominator).units < unitsPerOne := by
  obtain ⟨rest, exponents⟩ : ∃ rest, 0 + (53 + rest) = 1074 := ⟨1021, rfl⟩
  have below := units_ofRatio_lt exponents small (by rwa [Nat.pow_zero, Nat.mul_one])
  rw [unitsPerOne_eq exponents, Nat.pow_zero, Nat.one_mul]
  exact below

/-- A sum is not below the whole number, and not above the next one. -/
theorem units_add_fraction_bounds (fits : whole < 2 ^ 53) (proper : numerator < denominator)
    (small : denominator ≤ 2 ^ 52) :
    whole * unitsPerOne ≤ (addMagnitudes (ofInt whole) (ofRatio numerator denominator)).units ∧
      (addMagnitudes (ofInt whole) (ofRatio numerator denominator)).units ≤
        (whole + 1) * unitsPerOne := by
  have fraction := units_ofRatio_lt_unitsPerOne proper small
  have exact := units_ofInt (isMagnitude_whole fits.le)
  constructor
  · apply le_units_roundUnits (isMagnitude_whole fits.le) Nat.one_pos
    rw [exact, Nat.mul_one]
    exact Nat.le_add_right ..
  · apply units_roundUnits_le (isMagnitude_whole fits) Nat.one_pos
    rw [exact, Nat.mul_one, Nat.succ_mul]
    exact Nat.add_le_add_left fraction.le _

end

/-!
## Numbers from `2 ^ 53` on
-/

section

variable {number added : Binary64}

theorem exists_normal_of_large (large : 2 ^ 53 * unitsPerOne ≤ number.units) :
    ∃ significand exponent, Normal significand exponent ∧ 2 ^ 52 ≤ significand ∧
      number.rank = exponent * 2 ^ 52 + significand ∧
      ∃ more, 2 ^ exponent = 2 * unitsPerOne * more := by
  obtain ⟨significand, exponent, normal, rank⟩ := exists_normal number.rank
  obtain ⟨bits, size, unit⟩ := exists_unitsPerOne
  have above : bits < exponent := by
    by_contra low
    have power : 2 ^ exponent ≤ 2 ^ bits := Nat.pow_le_pow_right (by decide) (Nat.not_lt.mp low)
    have bound : number.units < 2 ^ 53 * unitsPerOne := by
      rw [units, rank, normal.unitsOfRank_eq, unit]
      exact Nat.lt_of_lt_of_le
        (Nat.mul_lt_mul_of_pos_right normal.fits (Nat.two_pow_pos exponent))
        (Nat.mul_le_mul_left _ power)
    exact absurd large (Nat.not_le.mpr bound)
  refine ⟨significand, exponent, normal, normal.leading.resolve_right (by omega), rank,
    2 ^ (exponent - bits - 1), ?_⟩
  rw [unit, ← Nat.pow_succ', ← Nat.pow_add]
  exact congrArg (2 ^ ·) (by omega)

theorem unitsPerOne_dvd_units (large : 2 ^ 53 * unitsPerOne ≤ number.units) :
    unitsPerOne ∣ number.units := by
  obtain ⟨significand, exponent, normal, -, rank, more, power⟩ := exists_normal_of_large large
  refine ⟨significand * 2 * more, ?_⟩
  rw [units, rank, normal.unitsOfRank_eq, power]
  ring

/-- The numbers are so far apart that less than one is lost. -/
theorem units_addMagnitudes_of_large (large : 2 ^ 53 * unitsPerOne ≤ number.units)
    (proper : added.units < unitsPerOne) : (addMagnitudes number added).units = number.units := by
  obtain ⟨significand, exponent, normal, leading, rank, more, power⟩ :=
    exists_normal_of_large large
  have positive : 0 < more := by
    by_contra zero
    rw [Nat.eq_zero_of_not_pos zero, Nat.mul_zero] at power
    exact (Nat.two_pow_pos exponent).ne' power
  have narrow : 2 * added.units < 2 ^ exponent :=
    calc 2 * added.units < 2 * unitsPerOne := by omega
      _ ≤ 2 * unitsPerOne * more := Nat.le_mul_of_pos_right _ positive
      _ = 2 ^ exponent := power.symm
  have nearest : nearestRank (number.units + added.units) 1 = number.rank := by
    rw [units, rank, normal.unitsOfRank_eq]
    exact (normal.nearestRank_add_eq_iff leading).mpr (.inl narrow)
  exact units_addMagnitudes nearest

end

/-!
## Rounding up
-/

section

variable {number : Binary64} {whole : Nat}

theorem ceilMagnitude_eq (exact : number.units = whole * unitsPerOne) :
    number.ceilMagnitude = whole := by
  have positive := unitsPerOne_pos
  rw [ceilMagnitude, exact, Nat.add_comm, Nat.add_mul_div_right _ _ positive,
    Nat.div_eq_of_lt (Nat.sub_one_lt positive.ne'), Nat.zero_add]

theorem ceilMagnitude_eq_succ (above : whole * unitsPerOne < number.units)
    (below : number.units ≤ (whole + 1) * unitsPerOne) : number.ceilMagnitude = whole + 1 := by
  have positive := unitsPerOne_pos
  rw [ceilMagnitude]
  apply Nat.div_eq_of_lt_le
  · rw [Nat.succ_mul]
    omega
  · rw [Nat.succ_mul] at below
    rw [Nat.succ_mul, Nat.succ_mul]
    omega

end

/-- From `2 ^ 53` on, up to the bound of a signed word, what is rounded up is the whole
number that was rounded in the first place. -/
theorem ceilMagnitude_add_fraction_of_large {whole numerator denominator : Nat}
    (lower : 2 ^ 53 ≤ whole) (upper : whole ≤ 2 ^ 63) (proper : numerator < denominator)
    (small : denominator ≤ 2 ^ 52) :
    ((addMagnitudes (ofInt whole) (ofRatio numerator denominator)).ceilMagnitude : ℚ) =
        (ofInt whole).value ∧
      (addMagnitudes (ofInt whole) (ofRatio numerator denominator)).ceilMagnitude ≤ 2 ^ 63 := by
  have large : 2 ^ 53 * unitsPerOne ≤ (ofInt whole).units := by
    rw [← units_ofInt (isMagnitude_whole (Nat.le_refl _))]
    exact units_ofInt_mono lower
  have bound : (ofInt whole).units ≤ 2 ^ 63 * unitsPerOne := by
    have finite : IsMagnitude (2 ^ 63 * unitsPerOne) := by
      obtain ⟨bits, size, unit⟩ := exists_unitsPerOne
      have shifted : 2 ^ 63 * unitsPerOne = 2 ^ 52 * 2 ^ (11 + bits) := by
        rw [unit, ← Nat.pow_add, ← Nat.pow_add]
        exact congrArg (2 ^ ·) (by omega)
      rw [shifted]
      exact exists_unitsOfRank (by decide) (by omega)
    rw [← units_ofInt finite]
    exact units_ofInt_mono upper
  have sum := units_addMagnitudes_of_large large (units_ofRatio_lt_unitsPerOne proper small)
  obtain ⟨ceiling, exact⟩ := unitsPerOne_dvd_units large
  rw [Nat.mul_comm] at exact
  have rounded := ceilMagnitude_eq (sum.trans exact)
  have nonzero : (unitsPerOne : ℚ) ≠ 0 := Nat.cast_ne_zero.mpr unitsPerOne_pos.ne'
  rw [rounded, value_ofInt, exact, Nat.cast_mul, mul_div_cancel_right₀ _ nonzero]
  rw [exact] at bound
  exact ⟨rfl, Nat.le_of_mul_le_mul_right bound unitsPerOne_pos⟩

end WebToken.Binary64
