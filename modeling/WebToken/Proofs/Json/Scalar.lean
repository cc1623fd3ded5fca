import WebToken.Json.Printer
import WebToken.Json.Reader

/-!
# Reading back integers and strings

The decimal text of an integer and the literal of a string are read back as what
was written. An integer ends where the next character is neither a digit nor
the start of a fraction or an exponent; a string ends at its closing quote.
-/

set_option autoImplicit false

namespace WebToken.Json

/-!
## Integers
-/

/-- A text that does not continue the value in front of it: it is empty or starts
with a comma or a closing bracket. -/
def IsEnded (rest : List Char) : Prop :=
  ∀ next ∈ rest.head?, next = ',' ∨ next = ']' ∨ next = '\x7d'

/-- A text that does not go on with the digits in front of it. -/
def EndsDigits (text : List Char) : Prop :=
  ∀ next ∈ text.head?, next.isDigit = false

theorem endsDigits_cons {mark : Char} (other : mark.isDigit = false) (text : List Char) :
    EndsDigits (mark :: text) := by
  intro next head
  rwa [← Option.some.inj head]

theorem IsEnded.endsDigits {rest : List Char} (ended : IsEnded rest) : EndsDigits rest := by
  intro next first
  rcases ended next first with rfl | rfl | rfl <;> decide

theorem isDigit_of_mem_digitsOf {number : Nat} {digit : Char} (member : digit ∈ digitsOf number) :
    digit.isDigit = true :=
  Nat.isDigit_of_mem_toDigits (by decide) (by decide) member

/-- Only zero is written with a zero in front. -/
theorem head?_digitsOf_ne_zero {number : Nat} (positive : 0 < number) :
    (digitsOf number).head? ≠ some '0' := by
  unfold digitsOf
  induction number using Nat.base_induction 10 (by decide) with
  | single digit small =>
      have nonzero : ∀ digit < 10, 0 < digit → digit.digitChar ≠ '0' := by decide
      rw [Nat.toDigits_of_lt_base small]
      exact fun equal => nonzero digit small positive (Option.some.inj equal)
  | digit leading last small leadingPositive ih =>
      have front := ih leadingPositive
      rw [← Nat.toDigits_append_toDigits (by decide) leadingPositive small]
      cases written : Nat.toDigits 10 leading with
      | nil => exact absurd written Nat.toDigits_ne_nil
      | cons first digits =>
          rw [written] at front
          exact front

namespace Reader

theorem le_ofDigitChars (digits : List Char) (significand : Nat) :
    significand ≤ Nat.ofDigitChars 10 digits significand := by
  rw [Nat.ofDigitChars_eq_ofDigitChars_zero]
  exact Nat.le_add_right_of_le (Nat.le_mul_of_pos_left significand (Nat.pow_pos (by decide)))

theorem ofDigitChars_cons (digit : Char) (digits : List Char) (significand : Nat) :
    Nat.ofDigitChars 10 (digit :: digits) significand =
      Nat.ofDigitChars 10 digits (significand * 10 + digitValue digit) := by
  rw [Nat.ofDigitChars_cons, Nat.mul_comm]
  rfl

/-- Digits are appended up to the last one if the number that they denote fits. -/
theorem appendDigits_eq {digits : List Char} {significand : Nat}
    (fits : Nat.ofDigitChars 10 digits significand < 2 ^ 64) :
    appendDigits significand digits = (Nat.ofDigitChars 10 digits significand, digits.length) := by
  induction digits generalizing significand with
  | nil => rfl
  | cons digit digits ih =>
      rw [ofDigitChars_cons] at fits ⊢
      have next : significand * 10 + digitValue digit < 2 ^ 64 :=
        Nat.lt_of_le_of_lt (le_ofDigitChars digits _) fits
      simp only [appendDigits, next, ↓reduceIte, ih fits, List.length_cons]

theorem takeWhile_isDigit {digits text : List Char}
    (all : ∀ digit ∈ digits, digit.isDigit = true) (stopped : EndsDigits text) :
    (digits ++ text).takeWhile Char.isDigit = digits ∧
      (digits ++ text).dropWhile Char.isDigit = text := by
  rw [List.takeWhile_append_of_pos all, List.dropWhile_append_of_pos all]
  cases text with
  | nil => exact ⟨List.append_nil digits, rfl⟩
  | cons next text => simp [stopped next rfl]

/-- Digits that fit are read up to what follows them, be that a fraction, an exponent or
the end of an integer. Only a zero that stands alone may come first. -/
theorem number_whole (negative : Bool) {first : Char} {digits text : List Char}
    (all : ∀ digit ∈ first :: digits, digit.isDigit = true) (leading : first = '0' → digits = [])
    (stopped : EndsDigits text) (fits : Nat.ofDigitChars 10 (first :: digits) 0 < 2 ^ 64) :
    number negative (first :: digits ++ text) =
      match text with
      | '.' :: rest => fractionPart negative (Nat.ofDigitChars 10 (first :: digits) 0) 0 rest
      | 'e' :: rest => exponentPart negative (Nat.ofDigitChars 10 (first :: digits) 0) 0 rest
      | 'E' :: rest => exponentPart negative (Nat.ofDigitChars 10 (first :: digits) 0) 0 rest
      | rest => integerOf negative (Nat.ofDigitChars 10 (first :: digits) 0) rest := by
  obtain ⟨taken, dropped⟩ := takeWhile_isDigit all stopped
  have plain : ¬ (first = '0' ∧ ((digits ++ text).head?.any Char.isDigit) = true) := by
    rintro ⟨zero, followed⟩
    rw [leading zero, List.nil_append] at followed
    cases text with
    | nil => cases followed
    | cons next text => simp [stopped next rfl] at followed
  rw [List.cons_append] at taken dropped ⊢
  rw [number, if_neg plain, if_pos (all first List.mem_cons_self)]
  simp only [taken, dropped, appendDigits_eq fits, Nat.sub_self, ↓reduceIte]
  rfl

/-- The digits of a number that fits are read as an integer of that magnitude. -/
theorem number_digitsOf (negative : Bool) {magnitude : Nat} (fits : magnitude < 2 ^ 64)
    {rest : List Char} (ended : IsEnded rest) :
    number negative (digitsOf magnitude ++ rest) = integerOf negative magnitude rest := by
  have denoted : Nat.ofDigitChars 10 (digitsOf magnitude) 0 = magnitude :=
    Nat.ofDigitChars_ten_toDigits
  cases written : digitsOf magnitude with
  | nil => exact absurd written Nat.toDigits_ne_nil
  | cons first digits =>
      have leading : first = '0' → digits = [] := by
        rintro rfl
        rcases Nat.eq_zero_or_pos magnitude with rfl | positive
        · exact (List.tail_eq_of_cons_eq written).symm
        · exact absurd (by rw [written]; rfl) (head?_digitsOf_ne_zero positive)
      rw [written] at denoted
      rw [number_whole negative (fun digit member => isDigit_of_mem_digitsOf (written ▸ member))
        leading ended.endsDigits (denoted.symm ▸ fits), denoted]
      cases rest with
      | nil => rfl
      | cons next rest => rcases ended next rfl with rfl | rfl | rfl <;> rfl

theorem integerOf_false {magnitude : Nat} {rest : List Char} (lower : -2 ^ 63 ≤ (magnitude : Int))
    (upper : (magnitude : Int) < 2 ^ 64) :
    integerOf false magnitude rest = .ok (.number (.integer magnitude lower upper), rest) := by
  have range : magnitude < 2 ^ 64 := by omega
  rw [integerOf, if_neg Bool.false_ne_true, dif_pos range]

theorem integerOf_true {value : Int} (negative : value < 0) {rest : List Char}
    (lower : -2 ^ 63 ≤ value) (upper : value < 2 ^ 64) :
    integerOf true value.natAbs rest = .ok (.number (.integer value lower upper), rest) := by
  have range : 0 < value.natAbs ∧ value.natAbs ≤ 2 ^ 63 := by omega
  have same : -(value.natAbs : Int) = value := by omega
  simp only [integerOf, ↓reduceIte, dif_pos range, same]

end Reader

/-!
## Strings
-/

namespace Reader

theorem hexCode?_hexDigit :
    ∀ code < 32, hexCode? '0' '0' (hexDigit (code / 16)) (hexDigit (code % 16)) = some code := by
  decide

/-- A character that is written with a number is read back by it. -/
theorem string_numbered (read : List Char) {character : Char} (control : character.toNat < 32)
    (rest : List Char) :
    string read ('\\' :: 'u' :: '0' :: '0' :: hexDigit (character.toNat / 16) ::
        hexDigit (character.toNat % 16) :: rest) = string (character :: read) rest := by
  have trailing : isTrailing character.toNat = false := by
    simp only [isTrailing, Bool.and_eq_false_iff, decide_eq_false_iff_not]
    omega
  have leading : isLeading character.toNat = false := by
    simp only [isLeading, Bool.and_eq_false_iff, decide_eq_false_iff_not]
    omega
  rw [string]
  simp only [hexCode?_hexDigit _ control, trailing, leading, Bool.false_eq_true, ↓reduceIte,
    Char.ofNat_toNat]

theorem string_plain (read : List Char) {character : Char} (notQuote : character ≠ '"')
    (notEscape : character ≠ '\\') (printable : ¬ character.toNat < 32) (rest : List Char) :
    string read (character :: rest) = string (character :: read) rest := by
  rw [string, if_neg printable]
  all_goals
    intros
    contradiction

theorem string_escapeChar (read : List Char) (character : Char) (rest : List Char) :
    string read (escapeChar character ++ rest) = string (character :: read) rest := by
  have named : ∀ {code : Nat}, character.toNat = code → Char.ofNat code = character := by
    rintro code rfl
    exact Char.ofNat_toNat character
  fun_cases escapeChar character with
  | case1 quote =>
      subst quote
      rfl
  | case2 _ escape =>
      subst escape
      rfl
  | case3 _ _ code => exact named code ▸ rfl
  | case4 _ _ _ code => exact named code ▸ rfl
  | case5 _ _ _ _ code => exact named code ▸ rfl
  | case6 _ _ _ _ _ code => exact named code ▸ rfl
  | case7 _ _ _ _ _ _ code => exact named code ▸ rfl
  | case8 _ _ _ _ _ _ _ control => exact string_numbered read control rest
  | case9 notQuote notEscape _ _ _ _ _ printable =>
      exact string_plain read notQuote notEscape printable rest

theorem string_flatMap_escapeChar (read characters rest : List Char) :
    string read (characters.flatMap escapeChar ++ '"' :: rest) =
      .ok (String.ofList (read.reverse ++ characters), rest) := by
  induction characters generalizing read with
  | nil =>
      rw [List.append_nil]
      rfl
  | cons character characters ih =>
      rw [List.flatMap_cons, List.append_assoc, string_escapeChar, ih, List.reverse_cons,
        List.append_assoc, List.singleton_append]

theorem string_literal (text : String) (rest : List Char) :
    string [] (text.toList.flatMap escapeChar ++ ['"'] ++ rest) = .ok (text, rest) := by
  rw [List.append_assoc, List.singleton_append, string_flatMap_escapeChar, List.reverse_nil,
    List.nil_append, String.ofList_toList]

end Reader

end WebToken.Json
