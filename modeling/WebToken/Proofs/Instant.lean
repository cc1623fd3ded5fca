import Mathlib.Order.Bounds.Defs
import WebToken.Instant
import WebToken.Proofs.Binary64.Sum
import WebToken.Proofs.Policy.InForce
import WebToken.Proofs.Token.Drafting

/-!
# The second that stands for an instant

Tokens carry whole seconds. From the epoch on the second of an instant is the last one
that is not after it. Before the epoch it comes from a sum of binary64 numbers, in which
nanoseconds vanish further than `2 ^ 24` seconds away from the epoch, and single seconds
further than `2 ^ 53`. Where that happens the instant is moved later.
-/

set_option autoImplicit false

namespace WebToken

namespace Instant

/-- The whole seconds between an instant and the epoch. -/
def secondsAway (instant : Instant) : Nat :=
  instant.nanoseconds.natAbs / 1000000000

/-- The nanoseconds that are left over. -/
def nanosAway (instant : Instant) : Nat :=
  instant.nanoseconds.natAbs % 1000000000

/-- The nanoseconds that are left over vanish in the sum with the whole seconds. -/
def LosesFraction (instant : Instant) : Prop :=
  instant.nanosAway ≠ 0 ∧ Binary64.IsLost instant.nanosAway 1000000000 instant.secondsAway

/-- The stated second is the last one that is not after the instant. -/
def RoundsDown (instant : Instant) : Prop :=
  IsGreatest {second : Int64 | ofSeconds second ≤ instant} instant.unixSeconds

/-!
## Seconds beside an instant
-/

section

variable {instant : Instant} {second : Int64}

theorem nanoseconds_ofSeconds (second : Int64) :
    (ofSeconds second).nanoseconds = second.toInt * 1000000000 :=
  Int.add_zero _

theorem le_iff {earlier later : Instant} :
    earlier ≤ later ↔ earlier.nanoseconds ≤ later.nanoseconds :=
  Iff.rfl

theorem ofSeconds_le_iff : ofSeconds second ≤ instant ↔ second.toInt ≤ instant.seconds.toInt := by
  have bound := instant.nanos_lt
  rw [le_iff, nanoseconds_ofSeconds, nanoseconds]
  omega

theorem isGreatest_iff :
    IsGreatest {second : Int64 | ofSeconds second ≤ instant} second ↔
      second.toInt = instant.seconds.toInt := by
  constructor
  · intro greatest
    obtain ⟨member, bound⟩ := greatest
    have own : ofSeconds instant.seconds ≤ instant := ofSeconds_le_iff.mpr (Int.le_refl _)
    exact Int.le_antisymm (ofSeconds_le_iff.mp member) (Int64.le_iff_toInt_le.mp (bound own))
  · intro same
    refine ⟨ofSeconds_le_iff.mpr same.le, fun other member => ?_⟩
    rw [Int64.le_iff_toInt_le, same]
    exact ofSeconds_le_iff.mp member

theorem natAbs_nanoseconds (instant : Instant) :
    instant.nanoseconds.natAbs = instant.secondsAway * 1000000000 + instant.nanosAway :=
  (Nat.div_add_mod' instant.nanoseconds.natAbs 1000000000).symm

theorem nanosAway_lt (instant : Instant) : instant.nanosAway < 1000000000 :=
  Nat.mod_lt _ (by decide)

/-- Before the epoch the second of an instant counts the fraction as a whole one. -/
theorem seconds_of_neg (early : instant.nanoseconds < 0) :
    instant.seconds.toInt = -(instant.secondsAway : Int) ∧ instant.nanosAway = 0 ∨
      instant.seconds.toInt = -(instant.secondsAway + 1 : Int) ∧ instant.nanosAway ≠ 0 := by
  have away := natAbs_nanoseconds instant
  have left := nanosAway_lt instant
  have bound := instant.nanos_lt
  rw [nanoseconds] at early away
  omega

theorem secondsAway_le (early : instant.nanoseconds < 0) : instant.secondsAway ≤ 2 ^ 63 := by
  have least := instant.seconds.le_toInt
  have seconds := seconds_of_neg early
  omega

end

/-!
## Before the epoch
-/

section

variable {instant : Instant}

theorem approximateSeconds_eq (instant : Instant) :
    approximateSeconds instant.nanoseconds.natAbs =
      Binary64.addMagnitudes (Binary64.ofInt instant.secondsAway)
        (Binary64.ofRatio instant.nanosAway 1000000000) := rfl

theorem toInt_unixSeconds {ceiling : Nat} (early : instant.nanoseconds < 0)
    (rounded : (approximateSeconds instant.nanoseconds.natAbs).ceilMagnitude = ceiling)
    (bound : ceiling ≤ 2 ^ 63) : instant.unixSeconds.toInt = -(ceiling : Int) := by
  simp only [unixSeconds, Int.not_le.mpr early, ↓reduceIte, rounded]
  by_cases fits : ceiling < 2 ^ 63
  · rw [if_pos fits, Int64.toInt_ofInt_of_le (by omega) (by omega)]
  · rw [if_neg fits, Int64.toInt_minValue]
    omega

section

variable (early : instant.nanoseconds < 0) (near : instant.secondsAway < 2 ^ 53)

include early near

theorem toInt_unixSeconds_of_lost
    (lost : Binary64.IsLost instant.nanosAway 1000000000 instant.secondsAway) :
    instant.unixSeconds.toInt = -(instant.secondsAway : Int) := by
  have sum := (Binary64.units_add_fraction_eq_iff near (by decide) (by decide)).mpr lost
  refine toInt_unixSeconds early ?_ (by omega)
  rw [approximateSeconds_eq]
  exact Binary64.ceilMagnitude_eq sum

theorem toInt_unixSeconds_of_kept
    (kept : ¬ Binary64.IsLost instant.nanosAway 1000000000 instant.secondsAway) :
    instant.unixSeconds.toInt = -((instant.secondsAway + 1 : Nat) : Int) := by
  have sum := mt (Binary64.units_add_fraction_eq_iff near (by decide) (by decide)).mp kept
  have proper := nanosAway_lt instant
  obtain ⟨lower, upper⟩ := Binary64.units_add_fraction_bounds near proper (by decide)
  refine toInt_unixSeconds early ?_ (by omega)
  rw [approximateSeconds_eq]
  exact Binary64.ceilMagnitude_eq_succ (lower.lt_of_ne (Ne.symm sum)) upper

theorem roundsDown_iff : instant.RoundsDown ↔ ¬ instant.LosesFraction := by
  rw [RoundsDown, isGreatest_iff, LosesFraction]
  have seconds := seconds_of_neg early
  by_cases lost : Binary64.IsLost instant.nanosAway 1000000000 instant.secondsAway
  · have stated := toInt_unixSeconds_of_lost early near lost
    simp only [lost, and_true]
    omega
  · have stated := toInt_unixSeconds_of_kept early near lost
    simp only [lost, and_false, not_false_eq_true, iff_true]
    have fractional : instant.nanosAway ≠ 0 := by
      intro zero
      apply lost
      rw [zero]
      exact .inl (by omega)
    omega

/-- An instant that loses its fraction states the second after it. -/
theorem isLeast_of_losesFraction (loses : instant.LosesFraction) :
    IsLeast {second : Int64 | instant ≤ ofSeconds second} instant.unixSeconds ∧
      ¬ ofSeconds instant.unixSeconds ≤ instant := by
  obtain ⟨fractional, lost⟩ := loses
  have stated := toInt_unixSeconds_of_lost early near lost
  have away := natAbs_nanoseconds instant
  have left := nanosAway_lt instant
  have seconds := seconds_of_neg early
  refine ⟨⟨?_, fun other member => ?_⟩, ?_⟩
  · rw [Set.mem_ofPred_eq, le_iff, nanoseconds_ofSeconds]
    omega
  · rw [Set.mem_ofPred_eq, le_iff, nanoseconds_ofSeconds] at member
    rw [Int64.le_iff_toInt_le]
    omega
  · rw [ofSeconds_le_iff]
    omega

end

theorem value_unixSeconds_of_far (early : instant.nanoseconds < 0)
    (far : 2 ^ 53 ≤ instant.secondsAway) :
    (instant.unixSeconds.toInt : ℚ) = -(Binary64.ofInt instant.secondsAway).value := by
  obtain ⟨value, bound⟩ := Binary64.ceilMagnitude_add_fraction_of_large far (secondsAway_le early)
    (nanosAway_lt instant) (by decide)
  rw [toInt_unixSeconds early (congrArg _ (approximateSeconds_eq instant)) bound, ← value,
    Int.cast_neg, Int.cast_natCast]

theorem roundsDown_iff_of_far (early : instant.nanoseconds < 0)
    (far : 2 ^ 53 ≤ instant.secondsAway) :
    instant.RoundsDown ↔
      (Binary64.ofInt instant.secondsAway).value = -instant.seconds.toInt := by
  rw [RoundsDown, isGreatest_iff, ← @Int.cast_inj ℚ, value_unixSeconds_of_far early far,
    neg_eq_iff_eq_neg]

end

/-- Less than `2 ^ 24` seconds before the epoch every nanosecond counts. -/
theorem not_losesFraction_of_near {instant : Instant} (near : instant.secondsAway < 2 ^ 24) :
    ¬ instant.LosesFraction := by
  intro loses
  obtain ⟨fractional, lost⟩ := loses
  have logarithm : instant.secondsAway.log2 ≤ 23 := by
    by_cases zero : instant.secondsAway = 0
    · rw [zero]
      decide
    · exact Nat.le_of_lt_succ ((Nat.log2_lt zero).mpr near)
  have power : 2 ^ 30 ≤ 2 ^ (53 - instant.secondsAway.log2) :=
    Nat.pow_le_pow_right (by decide) (by omega)
  have product : 2 ^ 30 ≤ instant.nanosAway * 2 ^ (53 - instant.secondsAway.log2) :=
    power.trans (Nat.le_mul_of_pos_left _ (Nat.pos_of_ne_zero fractional))
  unfold Binary64.IsLost at lost
  omega

theorem roundsDown_of_nonneg {instant : Instant} (late : 0 ≤ instant.nanoseconds) :
    instant.RoundsDown := by
  rw [RoundsDown, isGreatest_iff, unixSeconds, if_pos late]

/-!
## Whole seconds
-/

theorem unixSeconds_ofSeconds_iff {second : Int64} :
    (ofSeconds second).unixSeconds = second ↔
      0 ≤ second ∨ ∃ number : Binary64, number.value = second.toInt := by
  have count := nanoseconds_ofSeconds second
  rcases Int.lt_or_le second.toInt 0 with negative | positive
  · have early : (ofSeconds second).nanoseconds < 0 := by omega
    have away : (ofSeconds second).secondsAway = second.toInt.natAbs := by
      unfold secondsAway
      omega
    have left : (ofSeconds second).nanosAway = 0 := by
      unfold nanosAway
      omega
    have notPositive : ¬ 0 ≤ second := by
      rw [Int64.le_iff_toInt_le]
      exact Int.not_le.mpr negative
    rw [or_iff_right notPositive, ← Int64.toInt_inj]
    rcases Nat.lt_or_ge (ofSeconds second).secondsAway (2 ^ 53) with near | far
    · have lost : Binary64.IsLost (ofSeconds second).nanosAway 1000000000
          (ofSeconds second).secondsAway := by
        rw [left]
        exact .inl (by omega)
      have stated := toInt_unixSeconds_of_lost early near lost
      have represented := Binary64.exists_value_eq (show second.toInt.natAbs ≤ 2 ^ 53 by omega)
      refine iff_of_true ?_ represented
      omega
    · have stated := value_unixSeconds_of_far early far
      have magnitude : ((second.toInt.natAbs : Int) : ℚ) = -second.toInt := by
        rw [Int.ofNat_natAbs_of_nonpos negative.le, Int.cast_neg]
      rw [away] at stated
      rw [← @Int.cast_inj ℚ, stated, neg_eq_iff_eq_neg, ← magnitude, Binary64.value_ofInt_iff]
      constructor
      · intro represented
        obtain ⟨number, value⟩ := represented
        exact ⟨number.negate, by rw [Binary64.value_negate, value, magnitude, neg_neg]⟩
      · intro represented
        obtain ⟨number, value⟩ := represented
        exact ⟨number.negate, by rw [Binary64.value_negate, value, magnitude]⟩
  · have late : 0 ≤ (ofSeconds second).nanoseconds := by omega
    have notNegative : 0 ≤ second := Int64.le_iff_toInt_le.mpr positive
    refine iff_of_true ?_ (.inl notNegative)
    rw [unixSeconds, if_pos late]
    rfl

end Instant

/-!
## Dates that are written and asked for
-/

/-- The instant that an edit writes as a date. -/
def Draft.Edit.instant? : Draft.Edit → Option Instant
  | .expiresAt instant => some instant
  | .notBefore instant => some instant
  | .issuedAt instant => some instant
  | .dateClaim _ instant => some instant
  | _ => none

theorem Draft.Edit.value_of_instant? {change : Draft.Edit} {instant : Instant}
    (dated : change.instant? = some instant) {part : Part} {name : String} {value : Option Json}
    (assigned : change.assignment? = some (part, name, value)) :
    value = some (.ofInt64 instant.unixSeconds) := by
  cases change with
  | dateClaim other given =>
      obtain ⟨-, same⟩ := Option.ite_none_right_eq_some.mp assigned
      cases same
      cases dated
      rfl
  | _ => cases dated <;> cases assigned <;> rfl

/-- The instant that an edit asks for as an exact date. -/
def Policy.Edit.instant? : Policy.Edit → Option Instant
  | .expiresAt instant => some instant
  | .notBefore instant => some instant
  | .issuedAt instant => some instant
  | .dateClaim _ instant => some instant
  | _ => none

theorem Policy.Edit.assignment?_of_instant? {change : Policy.Edit} {instant : Instant}
    (dated : change.instant? = some instant) :
    ∃ name, change.assignment? = some (.payload, name, some (.date instant.unixSeconds)) := by
  cases change <;> cases dated <;> exact ⟨_, rfl⟩

namespace Instant

/-- From the epoch on, and up to `2 ^ 24` seconds before it, the stated second is the last
one that is not after the instant. Further back it is the one after the instant instead
where the fraction is lost, and from `2 ^ 53` seconds back on the number nearest to the
whole seconds. So every second is stated as itself but for the negative ones that are no
binary64 numbers, and dates that are written or asked for are moved as far. -/
theorem unixSeconds_up_to_rounding (instant : Instant) (second : Int64) :
    (0 ≤ instant.nanoseconds ∨ instant.secondsAway < 2 ^ 24 → instant.RoundsDown) ∧
    (instant.nanoseconds < 0 → instant.secondsAway < 2 ^ 53 →
      (instant.RoundsDown ↔ ¬ instant.LosesFraction) ∧
        (instant.LosesFraction →
          IsLeast {later : Int64 | instant ≤ ofSeconds later} instant.unixSeconds ∧
            ¬ ofSeconds instant.unixSeconds ≤ instant)) ∧
    (instant.nanoseconds < 0 → 2 ^ 53 ≤ instant.secondsAway →
      (instant.unixSeconds.toInt : ℚ) = -(Binary64.ofInt instant.secondsAway).value ∧
        (instant.RoundsDown ↔
          (Binary64.ofInt instant.secondsAway).value = -instant.seconds.toInt)) ∧
    ((ofSeconds second).unixSeconds = second ↔
      0 ≤ second ∨ ∃ number : Binary64, number.value = second.toInt) ∧
    (∀ change, Draft.Edit.instant? change = some instant → ∀ part name value,
      change.assignment? = some (part, name, value) →
        value = some (.ofInt64 instant.unixSeconds)) ∧
    ∀ change, Policy.Edit.instant? change = some instant →
      ∃ name, change.assignment? = some (.payload, name, some (.date instant.unixSeconds)) := by
  refine ⟨fun exact => ?_, fun early near => ?_, fun early far => ?_, unixSeconds_ofSeconds_iff,
    fun _ dated _ _ _ => Draft.Edit.value_of_instant? dated,
    fun _ => Policy.Edit.assignment?_of_instant?⟩
  · rcases Int.lt_or_le instant.nanoseconds 0 with early | late
    · have near := exact.resolve_left (Int.not_le.mpr early)
      have below : instant.secondsAway < 2 ^ 53 := Nat.lt_trans near (by decide)
      exact (roundsDown_iff early below).mpr (not_losesFraction_of_near near)
    · exact roundsDown_of_nonneg late
  · exact ⟨roundsDown_iff early near, isLeast_of_losesFraction early near⟩
  · exact ⟨value_unixSeconds_of_far early far, roundsDown_iff_of_far early far⟩

/-- A nanosecond before a whole second that is `2 ^ 24` seconds before the epoch is not
kept, and neither is the first second that no number has. -/
theorem not_roundsDown :
    (¬ ∀ instant : Instant, instant.RoundsDown) ∧
      (¬ ∀ second : Int64, (ofSeconds second).unixSeconds = second) ∧
      ¬ ∀ instant : Instant, ofSeconds instant.unixSeconds ≤ instant := by
  have stated : (⟨-16777217, 999999999, by decide⟩ : Instant).unixSeconds = -16777216 := by
    decide +kernel
  refine ⟨fun down => ?_, fun kept => ?_, fun before => ?_⟩
  · have seconds := isGreatest_iff.mp (down ⟨-16777217, 999999999, by decide⟩)
    rw [stated] at seconds
    exact absurd seconds (by decide)
  · have moved : (ofSeconds (-9007199254740993)).unixSeconds = -9007199254740992 := by
      decide +kernel
    have same := moved.symm.trans (kept _)
    exact absurd same (by decide)
  · have later := before ⟨-16777217, 999999999, by decide⟩
    rw [stated] at later
    exact absurd later (by decide)

theorem unixSeconds_up_to_rounding_of_nanosecond :
    IsLeast {later : Int64 | (⟨-16777217, 999999999, by decide⟩ : Instant) ≤ ofSeconds later}
        (-16777216) ∧
      (ofSeconds (-42)).unixSeconds = -42 := by
  have stated : (⟨-16777217, 999999999, by decide⟩ : Instant).unixSeconds = -16777216 := by
    decide +kernel
  obtain ⟨-, near, -, kept, -⟩ :=
    unixSeconds_up_to_rounding ⟨-16777217, 999999999, by decide⟩ (-42)
  constructor
  · rw [← stated]
    exact ((near (by decide) (by decide)).2 ⟨by decide, by decide +kernel⟩).1
  · exact kept.mpr (.inr (Binary64.exists_value_eq (by decide)))

end Instant

end WebToken
