import Mathlib.Data.List.DropRight
import WebToken.Proofs.Binary64.Shortest
import WebToken.Proofs.Json.Scalar

/-!
# Reading back floats

Every float that is written is read as a float again, and nothing after its text is used
up. It need not be the same float: the digits are the shortest ones, but reading rounds
more than once.
-/

set_option autoImplicit false

namespace WebToken.Json

/-!
## Written digits
-/

theorem ofDigitChars_lt_pow {digits : List Char}
    (all : ∀ digit ∈ digits, digit.isDigit = true) :
    Nat.ofDigitChars 10 digits 0 < 10 ^ digits.length := by
  induction digits with
  | nil => exact Nat.one_pos
  | cons digit digits ih =>
      obtain ⟨here, later⟩ := List.forall_mem_cons.mp all
      have small : digit.toNat - '0'.toNat ≤ 9 :=
        Nat.sub_le_of_le_add (Char.isDigit_iff_toNat.mp here).2
      have scaled := Nat.mul_le_mul_left (10 ^ digits.length) small
      have rest := ih later
      rw [Nat.ofDigitChars_cons, Nat.ofDigitChars_eq_ofDigitChars_zero, List.length_cons,
        Nat.pow_succ, Nat.mul_zero, Nat.zero_add]
      omega

/-- Only zeros are taken off the end. -/
theorem exists_trimZeros (digits : List Char) :
    ∃ zeros, digits = trimZeros digits ++ List.replicate zeros '0' := by
  have taken : ∀ digit ∈ digits.rtakeWhile (· == '0'), digit = '0' := by
    intro digit member
    exact eq_of_beq (List.mem_rtakeWhile_imp (p := (· == '0')) member)
  refine ⟨(digits.rtakeWhile (· == '0')).length, ?_⟩
  rw [← List.eq_replicate_of_mem taken]
  exact List.rdropWhile_append_rtakeWhile.symm

/-- The digits of a positive number do not start with a zero, and those left without the
zeros at the end denote it up to a power of ten. -/
theorem exists_trimZeros_digitsOf {number : Nat} (positive : 0 < number) :
    ∃ first more zeros, trimZeros (digitsOf number) = first :: more ∧ first ≠ '0' ∧
      (∀ digit ∈ first :: more, digit.isDigit = true) ∧
      (digitsOf number).length = (first :: more).length + zeros ∧
      number = Nat.ofDigitChars 10 (first :: more) 0 * 10 ^ zeros := by
  obtain ⟨zeros, split⟩ := exists_trimZeros (digitsOf number)
  have front := head?_digitsOf_ne_zero positive
  cases kept : trimZeros (digitsOf number) with
  | nil =>
      rw [kept, List.nil_append] at split
      cases zeros with
      | zero => exact absurd split Nat.toDigits_ne_nil
      | succ zeros => exact absurd (by rw [split]; rfl) front
  | cons first more =>
      rw [kept] at split
      refine ⟨first, more, zeros, rfl, ?_, ?_, ?_, ?_⟩
      · rintro rfl
        exact front (by rw [split]; rfl)
      · intro digit member
        exact isDigit_of_mem_digitsOf (split ▸ List.mem_append_left _ member)
      · rw [split, List.length_append, List.length_replicate]
      · have denoted : Nat.ofDigitChars 10 (digitsOf number) 0 = number :=
          Nat.ofDigitChars_ten_toDigits
        rw [← denoted, split, Nat.ofDigitChars_append, Nat.ofDigitChars_replicate_zero,
          Nat.mul_comm]

namespace Reader

/-!
## Steps on digits
-/

variable {negative : Bool} {significand : Nat} {exponent : Int} {digits rest : List Char}

section

variable (given : digits ≠ []) (all : ∀ digit ∈ digits, digit.isDigit = true)
  (fits : Nat.ofDigitChars 10 digits significand < 2 ^ 64)

include given all fits

theorem fractionPart_exponent :
    fractionPart negative significand exponent (digits ++ 'e' :: rest) =
      exponentPart negative (Nat.ofDigitChars 10 digits significand) (exponent - digits.length)
        rest := by
  have other : 'e'.isDigit = false := rfl
  obtain ⟨taken, dropped⟩ := takeWhile_isDigit all (endsDigits_cons other rest)
  obtain ⟨first, more, rfl⟩ := List.exists_cons_of_ne_nil given
  rw [List.cons_append] at taken dropped ⊢
  rw [fractionPart, if_pos (all first List.mem_cons_self)]
  simp only [taken, dropped, appendDigits_eq fits]

theorem fractionPart_ended (ended : IsEnded rest) :
    fractionPart negative significand exponent (digits ++ rest) =
      floatOf negative (Nat.ofDigitChars 10 digits significand) (exponent - digits.length)
        rest := by
  obtain ⟨taken, dropped⟩ := takeWhile_isDigit all ended.endsDigits
  obtain ⟨first, more, rfl⟩ := List.exists_cons_of_ne_nil given
  rw [List.cons_append] at taken dropped ⊢
  rw [fractionPart, if_pos (all first List.mem_cons_self)]
  simp only [taken, dropped, appendDigits_eq fits]
  cases rest with
  | nil => rfl
  | cons next rest => rcases ended next rfl with rfl | rfl | rfl <;> rfl

end

theorem exponentDigits_append {written : Nat} (all : ∀ digit ∈ digits, digit.isDigit = true)
    (stopped : EndsDigits rest) (fits : Nat.ofDigitChars 10 digits written < 2 ^ 31) :
    exponentDigits written (digits ++ rest) = (some (Nat.ofDigitChars 10 digits written), rest) := by
  induction digits generalizing written with
  | nil =>
      cases rest with
      | nil => rfl
      | cons next rest =>
          rw [List.nil_append, exponentDigits, if_neg (by simp [stopped next rfl])]
          rfl
  | cons digit digits ih =>
      obtain ⟨here, later⟩ := List.forall_mem_cons.mp all
      rw [ofDigitChars_cons] at fits ⊢
      have next : written * 10 + digitValue digit < 2 ^ 31 :=
        Nat.lt_of_le_of_lt (le_ofDigitChars digits _) fits
      rw [List.cons_append, exponentDigits, if_pos here]
      simp only [if_pos next, ih later fits]

/-- A signed exponent is added to what the digits before it leave. -/
theorem exponentPart_signed {power : Int} (near : power.natAbs < 2 ^ 31)
    (stopped : EndsDigits rest) :
    exponentPart negative significand exponent
        ((if power < 0 then '-' else '+') :: digitsOf power.natAbs ++ rest) =
      floatOf negative significand (exponent + power) rest := by
  have denoted : Nat.ofDigitChars 10 (digitsOf power.natAbs) 0 = power.natAbs :=
    Nat.ofDigitChars_ten_toDigits
  cases written : digitsOf power.natAbs with
  | nil => exact absurd written Nat.toDigits_ne_nil
  | cons first digits =>
      have all : ∀ digit ∈ first :: digits, digit.isDigit = true :=
        fun digit member => isDigit_of_mem_digitsOf (written ▸ member)
      obtain ⟨here, later⟩ := List.forall_mem_cons.mp all
      have step : Nat.ofDigitChars 10 digits (digitValue first) = power.natAbs := by
        rw [written, Nat.ofDigitChars_cons, Nat.mul_zero, Nat.zero_add] at denoted
        exact denoted
      have read := exponentDigits_append later stopped (step.symm ▸ near)
      rw [step] at read
      by_cases below : power < 0
      · have moved : exponent - power.natAbs = exponent + power := by omega
        simp only [if_pos below, List.cons_append, exponentPart, if_pos here, read, moved]
        rfl
      · have moved : exponent + power.natAbs = exponent + power := by omega
        simp only [if_neg below, List.cons_append, exponentPart, if_pos here, read,
          Bool.false_eq_true, ↓reduceIte, moved]

/-!
## Placed digits
-/

section

variable {first : Char} {whole fraction more : List Char}

/-- Digits around a point are read as the number that they denote without it, with an
exponent for those after it. -/
theorem number_point (all : ∀ digit ∈ first :: whole ++ fraction, digit.isDigit = true)
    (leading : first = '0' → whole = []) (given : fraction ≠ []) (ended : IsEnded rest)
    (fits : Nat.ofDigitChars 10 (first :: whole ++ fraction) 0 < 2 ^ 64) :
    number negative (first :: whole ++ '.' :: (fraction ++ rest)) =
      floatOf negative (Nat.ofDigitChars 10 (first :: whole ++ fraction) 0) (-fraction.length)
        rest := by
  obtain ⟨before, after⟩ := List.forall_mem_append.mp all
  rw [Nat.ofDigitChars_append] at fits ⊢
  have wholeFits := Nat.lt_of_le_of_lt (le_ofDigitChars fraction _) fits
  refine (number_whole negative before leading (endsDigits_cons rfl _) wholeFits).trans ?_
  refine (fractionPart_ended given after fits ended).trans ?_
  rw [Int.zero_sub]

/-- Digits in scientific notation are read with the point after the first one. -/
theorem number_scientific {power : Int} (all : ∀ digit ∈ first :: more, digit.isDigit = true)
    (near : power.natAbs < 2 ^ 31) (ended : IsEnded rest)
    (fits : Nat.ofDigitChars 10 (first :: more) 0 < 2 ^ 64) :
    number negative ([first] ++ (match more with | [] => [] | rest => '.' :: rest) ++
        'e' :: (if power < 0 then '-' else '+') :: digitsOf power.natAbs ++ rest) =
      floatOf negative (Nat.ofDigitChars 10 (first :: more) 0) (power - more.length) rest := by
  obtain ⟨here, later⟩ := List.forall_mem_cons.mp all
  have single : ∀ digit ∈ [first], digit.isDigit = true := List.forall_mem_singleton.mpr here
  have split : Nat.ofDigitChars 10 (first :: more) 0 =
      Nat.ofDigitChars 10 more (Nat.ofDigitChars 10 [first] 0) :=
    Nat.ofDigitChars_append (l := [first]) 0
  have firstFits := Nat.lt_of_le_of_lt (le_ofDigitChars more _) (split ▸ fits)
  simp only [List.append_assoc, List.cons_append, List.nil_append]
  cases more with
  | nil =>
      refine (number_whole negative single (fun _ => rfl) (endsDigits_cons rfl _)
        firstFits).trans ?_
      refine (exponentPart_signed near ended.endsDigits).trans ?_
      rw [List.length_nil, Int.natCast_zero, Int.zero_add, Int.sub_zero]
  | cons next more =>
      refine (number_whole negative single (fun _ => rfl) (endsDigits_cons rfl _)
        firstFits).trans ?_
      refine (fractionPart_exponent (List.cons_ne_nil next more) later (split ▸ fits)).trans ?_
      refine (exponentPart_signed near ended.endsDigits).trans ?_
      rw [← split, Int.zero_sub, Int.add_comm, ← Int.sub_eq_add_neg]

/-- In positional notation there are digits on both sides of the point, and no more than fit. -/
theorem placeDigits_positional {power : Int} (positional : -5 ≤ power ∧ power < 16)
    (all : ∀ digit ∈ first :: more, digit.isDigit = true) (nonzero : first ≠ '0')
    (fits : Nat.ofDigitChars 10 (first :: more) 0 < 2 ^ 64) :
    ∃ front whole fraction,
      placeDigits (first :: more) power = front :: whole ++ '.' :: fraction ∧
      (∀ digit ∈ front :: whole ++ fraction, digit.isDigit = true) ∧
      (front = '0' → whole = []) ∧ fraction ≠ [] ∧
      Nat.ofDigitChars 10 (front :: whole ++ fraction) 0 < 2 ^ 64 := by
  have leading (whole : List Char) : first = '0' → whole = [] := fun zero => absurd zero nonzero
  have zeros (count : Nat) : ∀ digit ∈ List.replicate count '0', digit.isDigit = true := by
    intro digit member
    rw [List.eq_of_mem_replicate member]
    rfl
  rw [placeDigits, if_pos positional]
  split
  next below =>
    refine ⟨'0', [], _, rfl, ?_, fun _ => rfl, by simp, ?_⟩
    · exact List.forall_mem_append.mpr ⟨zeros 1, List.forall_mem_append.mpr ⟨zeros _, all⟩⟩
    · rw [← List.append_assoc, Nat.ofDigitChars_append, ← List.replicate_one,
        List.replicate_append_replicate, Nat.ofDigitChars_replicate_zero, Nat.mul_zero]
      exact fits
  next notBelow =>
    dsimp only
    split
    next short =>
      have allWhole := List.forall_mem_append.mpr
        ⟨all, zeros (power.toNat + 1 - (first :: more).length)⟩
      have allDigits := List.forall_mem_append.mpr ⟨allWhole, zeros 1⟩
      refine ⟨first, more ++ List.replicate (power.toNat + 1 - (first :: more).length) '0', ['0'],
        rfl, allDigits, leading _, by simp, ?_⟩
      refine (ofDigitChars_lt_pow allDigits).trans_le ?_
      have size : (first :: more ++ List.replicate (power.toNat + 1 - (first :: more).length) '0' ++
          List.replicate 1 '0').length ≤ 17 := by
        simp only [List.length_append, List.length_replicate]
        omega
      exact (Nat.pow_le_pow_right (by decide) size).trans (by decide)
    next long =>
      have split : first :: more.take power.toNat ++ more.drop power.toNat = first :: more := by
        rw [List.cons_append, List.take_append_drop]
      refine ⟨first, more.take power.toNat, more.drop power.toNat, rfl, split.symm ▸ all,
        leading _, ?_, split.symm ▸ fits⟩
      apply List.ne_nil_of_length_pos
      rw [List.length_drop]
      rw [List.length_cons] at long
      omega

/-- Placed digits are read as these digits and their power of ten, or else with a fraction. -/
theorem number_placeDigits (negative : Bool) {power : Int}
    (all : ∀ digit ∈ first :: more, digit.isDigit = true) (nonzero : first ≠ '0')
    (near : power.natAbs < 2 ^ 31) (fits : Nat.ofDigitChars 10 (first :: more) 0 < 2 ^ 64) :
    ∃ significand exponent, (∀ rest, IsEnded rest →
      number negative (placeDigits (first :: more) power ++ rest) =
        floatOf negative significand exponent rest) ∧ (exponent < 0 ∨
          significand = Nat.ofDigitChars 10 (first :: more) 0 ∧
            exponent = power - more.length) := by
  by_cases positional : -5 ≤ power ∧ power < 16
  · obtain ⟨front, whole, fraction, written, allDigits, leading, given, small⟩ :=
      placeDigits_positional positional all nonzero fits
    have positive : 0 < fraction.length := List.length_pos_iff.mpr given
    refine ⟨Nat.ofDigitChars 10 (front :: whole ++ fraction) 0, -fraction.length,
      fun rest ended => ?_, .inl (by omega)⟩
    rw [written, List.append_assoc]
    exact number_point allDigits leading given ended small
  · rw [placeDigits, if_neg positional]
    exact ⟨_, _, fun rest ended => number_scientific all near ended fits, .inr ⟨rfl, rfl⟩⟩

end

end Reader

/-!
## Written floats
-/

/-- The text of a float, after its sign. -/
def magnitudeText (number : Binary64) : List Char :=
  if number.rank = 0 then ['0', '.', '0']
  else placeDigits (trimZeros (digitsOf number.shortest.significand))
    (number.shortest.exponent + ((digitsOf number.shortest.significand).length - 1 : Nat))

namespace Reader

theorem exists_floatOf (negative : Bool) {significand : Nat} {exponent : Int}
    (finite : (Binary64.ofDecimal? significand exponent).isSome = true) :
    ∃ read : Binary64, ∀ rest,
      floatOf negative significand exponent rest = .ok (.number (.float read), rest) := by
  obtain ⟨magnitude, rounded⟩ := Option.isSome_iff_exists.mp finite
  refine ⟨if negative then magnitude.negate else magnitude, fun rest => ?_⟩
  rw [floatOf, rounded]

theorem number_zero (negative : Bool) :
    ∃ read : Binary64, ∀ rest, IsEnded rest →
      number negative (['0', '.', '0'] ++ rest) = .ok (.number (.float read), rest) := by
  have finite : (Binary64.ofDecimal? 0 (-1)).isSome = true :=
    Binary64.ofDecimal?_of_neg (by decide)
  obtain ⟨read, found⟩ := exists_floatOf negative finite
  have all : ∀ digit ∈ '0' :: [] ++ ['0'], digit.isDigit = true :=
    List.forall_mem_cons.mpr ⟨rfl, List.forall_mem_singleton.mpr rfl⟩
  refine ⟨read, fun rest ended => ?_⟩
  exact (number_point all (fun _ => rfl) (by decide) ended (Nat.two_pow_pos 64)).trans (found rest)

/-- The digits of a float are read as a finite number. -/
theorem number_magnitudeText (negative : Bool) (written : Binary64) :
    ∃ read : Binary64, ∀ rest, IsEnded rest →
      number negative (magnitudeText written ++ rest) = .ok (.number (.float read), rest) := by
  unfold magnitudeText
  by_cases zero : written.rank = 0
  · rw [if_pos zero]
    exact number_zero negative
  rw [if_neg zero]
  rcases Binary64.shortest_eq_or_pos written (Nat.pos_of_ne_zero zero) with none | positive
  · rw [none]
    exact number_zero negative
  obtain ⟨first, more, zeros, kept, nonzero, all, size, trimmed⟩ :=
    exists_trimZeros_digitsOf positive
  have short := Binary64.significand_shortest_le written
  obtain ⟨lower, upper⟩ := Binary64.exponent_shortest_bounds written
  have count : (digitsOf written.shortest.significand).length ≤ 18 :=
    (Nat.length_toDigits_le_iff (by decide) (by decide)).mpr (short.trans_lt (by decide))
  have digits : Nat.ofDigitChars 10 (first :: more) 0 ≤ written.shortest.significand := by
    rw [trimmed]
    exact Nat.le_mul_of_pos_right _ (Nat.pow_pos (by decide))
  have digitsPositive : 0 < Nat.ofDigitChars 10 (first :: more) 0 :=
    Nat.pos_of_mul_pos_right (trimmed ▸ positive)
  rw [kept]
  generalize powered : written.shortest.exponent +
    ((digitsOf written.shortest.significand).length - 1 : Nat) = power
  have near : power.natAbs < 2 ^ 31 := by omega
  obtain ⟨significand, exponent, reads, outcome⟩ := number_placeDigits negative all nonzero near
    ((digits.trans short).trans_lt (by decide))
  have finite : (Binary64.ofDecimal? significand exponent).isSome = true := by
    rcases outcome with below | ⟨rfl, placed⟩
    · exact Binary64.ofDecimal?_of_neg below
    · have moved : exponent = written.shortest.exponent + zeros := by
        rw [List.length_cons] at size
        omega
      rw [moved]
      exact Binary64.ofDecimal?_shortest digitsPositive trimmed
  obtain ⟨read, found⟩ := exists_floatOf negative finite
  exact ⟨read, fun rest ended => (reads rest ended).trans (found rest)⟩

end Reader

/-- The number that the text of a number is read as: an integer is read as it was. -/
def Number.reread : Number → Number
  | .integer value lower upper => .integer value lower upper
  | .float written =>
      match Reader.number written.negative (magnitudeText written) with
      | .ok (.number read, _) => read
      | _ => .float written

theorem Reader.number_reread (written : Binary64) {rest : List Char} (ended : IsEnded rest) :
    Reader.number written.negative (magnitudeText written ++ rest) =
      .ok (.number (Number.float written).reread, rest) := by
  obtain ⟨read, reads⟩ := number_magnitudeText written.negative written
  have alone := reads [] nofun
  rw [List.append_nil] at alone
  rw [reads rest ended, Number.reread, alone]

end WebToken.Json
