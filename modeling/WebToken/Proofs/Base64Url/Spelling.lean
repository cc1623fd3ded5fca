import WebToken.Proofs.Base64Url

/-!
# Texts that spell octets

A text spells a byte string exactly if it is made of symbols, in groups of four but
for a last one of two or three, and sets none of the bits that are left over. No two
byte strings have one spelling.
-/

set_option autoImplicit false

namespace WebToken

namespace Base64Url

/-!
## The form of a spelling
-/

/-- The symbols in the order of their numbers. -/
def alphabet : List Char :=
  "ABCDEFGHIJKLMNOPQRSTUVWXYZabcdefghijklmnopqrstuvwxyz0123456789-_".toList

/-- A text in symbols, in groups of four but for a last group of two or three. The bits of
the last symbol that no octet takes are zero. -/
structure IsSpelling (text : String) : Prop where
  symbols : ∀ char ∈ text.toList, char ∈ alphabet
  group : text.length % 4 ≠ 1
  fourUnused : text.length % 4 = 2 →
    ∀ last, text.toList.getLast? = some last → alphabet.idxOf last % 16 = 0
  twoUnused : text.length % 4 = 3 →
    ∀ last, text.toList.getLast? = some last → alphabet.idxOf last % 4 = 0

/-!
## Numbers in groups
-/

/-- The form of a spelling, said of the numbers of its symbols. -/
structure AreSextets (numbers : List Nat) : Prop where
  small : ∀ number ∈ numbers, number < 64
  group : numbers.length % 4 ≠ 1
  fourUnused : numbers.length % 4 = 2 → ∀ last, numbers.getLast? = some last → last % 16 = 0
  twoUnused : numbers.length % 4 = 3 → ∀ last, numbers.getLast? = some last → last % 4 = 0

theorem areSextets_quadruple {first second third fourth : Nat} {rest : List Nat} :
    AreSextets (first :: second :: third :: fourth :: rest) ↔
      (first < 64 ∧ second < 64 ∧ third < 64 ∧ fourth < 64) ∧ AreSextets rest := by
  have length : (first :: second :: third :: fourth :: rest).length % 4 = rest.length % 4 := by
    simp only [List.length_cons]
    omega
  -- The last number is that of the rest, or there is no rest and nothing is asked of it.
  have last (count : Nat) (left : 0 < count) (ends : rest.length % 4 = count) :
      (first :: second :: third :: fourth :: rest).getLast? = rest.getLast? := by
    cases rest with
    | nil => exact absurd ends (Nat.ne_of_lt left)
    | cons next rest => simp only [List.getLast?_cons_cons]
  constructor
  · intro sextets
    obtain ⟨small, group, fourUnused, twoUnused⟩ := sextets
    rw [length] at group fourUnused twoUnused
    simp only [List.forall_mem_cons] at small
    obtain ⟨one, two, three, four, later⟩ := small
    refine ⟨⟨one, two, three, four⟩, later, group, fun ends => ?_, fun ends => ?_⟩
    · exact last 2 (by decide) ends ▸ fourUnused ends
    · exact last 3 (by decide) ends ▸ twoUnused ends
  · intro sextets
    obtain ⟨⟨one, two, three, four⟩, small, group, fourUnused, twoUnused⟩ := sextets
    refine ⟨?_, length ▸ group, fun ends => ?_, fun ends => ?_⟩
    · simp only [List.forall_mem_cons]
      exact ⟨one, two, three, four, small⟩
    · rw [length] at ends
      exact last 2 (by decide) ends ▸ fourUnused ends
    · rw [length] at ends
      exact last 3 (by decide) ends ▸ twoUnused ends

theorem areSextets_sextets (bytes : Bytes) : AreSextets (sextets bytes) := by
  have small := sextets_lt bytes
  induction bytes using sextets.induct with
  | case1 =>
      refine ⟨small, by decide, fun ends => ?_, fun ends => ?_⟩
      · cases ends
      · cases ends
  | case2 first =>
      refine ⟨small, show 2 % 4 ≠ 1 by decide, fun _ last ended => ?_, fun ends => ?_⟩
      · obtain rfl : first.toNat % 4 * 16 = last := Option.some.inj ended
        exact Nat.mul_mod_left _ 16
      · cases ends
  | case3 first second =>
      refine ⟨small, show 3 % 4 ≠ 1 by decide, fun ends => ?_, fun _ last ended => ?_⟩
      · cases ends
      · obtain rfl : second.toNat % 16 * 4 = last := Option.some.inj ended
        exact Nat.mul_mod_left _ 4
  | case4 first second third rest ih =>
      rw [sextets] at small ⊢
      simp only [List.forall_mem_cons] at small
      obtain ⟨one, two, three, four, later⟩ := small
      exact areSextets_quadruple.mpr ⟨⟨one, two, three, four⟩, ih later⟩

/-- Numbers in such groups are those of a byte string. -/
theorem exists_sextets_eq {numbers : List Nat} (grouped : AreSextets numbers) :
    ∃ bytes, sextets bytes = numbers := by
  match numbers with
  | [] => exact ⟨[], rfl⟩
  | [_] => exact absurd rfl grouped.group
  | [first, second] =>
      have small := grouped.small
      simp only [List.forall_mem_cons] at small
      exact ⟨_, sextets_pair ⟨small.1, small.2.1⟩ (grouped.fourUnused rfl second rfl)⟩
  | [first, second, third] =>
      have small := grouped.small
      simp only [List.forall_mem_cons] at small
      exact ⟨_, sextets_triple ⟨small.1, small.2.1, small.2.2.1⟩ (grouped.twoUnused rfl third rfl)⟩
  | first :: second :: third :: fourth :: rest =>
      obtain ⟨small, others⟩ := areSextets_quadruple.mp grouped
      obtain ⟨bytes, rfl⟩ := exists_sextets_eq others
      exact ⟨_, sextets_quadruple small bytes⟩

/-!
## Symbols and their numbers
-/

theorem alphabet_eq : alphabet = (List.range 64).map symbol := by
  decide +kernel

theorem idxOf_symbol : ∀ number < 64, alphabet.idxOf (symbol number) = number := by
  decide +kernel

theorem symbol_mem_alphabet {number : Nat} (small : number < 64) : symbol number ∈ alphabet := by
  rw [alphabet_eq]
  exact List.mem_map_of_mem (List.mem_range.mpr small)

theorem symbol_idxOf {char : Char} (member : char ∈ alphabet) :
    alphabet.idxOf char < 64 ∧ symbol (alphabet.idxOf char) = char := by
  rw [alphabet_eq] at member
  obtain ⟨number, listed, rfl⟩ := List.mem_map.mp member
  have small := List.mem_range.mp listed
  rw [idxOf_symbol number small]
  exact ⟨small, rfl⟩

theorem map_symbol_idxOf {chars : List Char} (symbols : ∀ char ∈ chars, char ∈ alphabet) :
    (chars.map alphabet.idxOf).map symbol = chars := by
  rw [List.map_map]
  exact (List.map_congr_left fun char member => (symbol_idxOf (symbols char member)).2).trans
    (List.map_id chars)

theorem map_idxOf_symbol {numbers : List Nat} (small : ∀ number ∈ numbers, number < 64) :
    (numbers.map symbol).map alphabet.idxOf = numbers := by
  rw [List.map_map]
  exact (List.map_congr_left fun number member => idxOf_symbol number (small number member)).trans
    (List.map_id numbers)

theorem forall_getLast?_map {chars : List Char} {unused : Nat} :
    (∀ last, (chars.map alphabet.idxOf).getLast? = some last → last % unused = 0) ↔
      ∀ last, chars.getLast? = some last → alphabet.idxOf last % unused = 0 := by
  rw [List.getLast?_map]
  constructor
  · intro numbered last ended
    exact numbered _ (Option.map_eq_some_iff.mpr ⟨last, ended, rfl⟩)
  · intro spelled number ended
    obtain ⟨last, found, rfl⟩ := Option.map_eq_some_iff.mp ended
    exact spelled last found

/-!
## Spellings
-/

theorem isSpelling_iff_sextets {text : String} :
    IsSpelling text ↔ (∀ char ∈ text.toList, char ∈ alphabet) ∧
      AreSextets (text.toList.map alphabet.idxOf) := by
  have length : (text.toList.map alphabet.idxOf).length = text.length := by
    rw [List.length_map, String.length_toList]
  constructor
  · intro spelling
    obtain ⟨symbols, group, fourUnused, twoUnused⟩ := spelling
    rw [← length] at group fourUnused twoUnused
    refine ⟨symbols, ?_, group, fun ends => ?_, fun ends => ?_⟩
    · intro number member
      obtain ⟨char, found, rfl⟩ := List.mem_map.mp member
      exact (symbol_idxOf (symbols char found)).1
    · exact forall_getLast?_map.mpr (fourUnused ends)
    · exact forall_getLast?_map.mpr (twoUnused ends)
  · intro grouped
    obtain ⟨symbols, -, group, fourUnused, twoUnused⟩ := grouped
    rw [length] at group fourUnused twoUnused
    refine ⟨symbols, group, fun ends => ?_, fun ends => ?_⟩
    · exact forall_getLast?_map.mp (fourUnused ends)
    · exact forall_getLast?_map.mp (twoUnused ends)

theorem isSpelling_iff {text : String} : IsSpelling text ↔ ∃ bytes, text = encode bytes := by
  rw [isSpelling_iff_sextets]
  constructor
  · intro grouped
    obtain ⟨symbols, numbers⟩ := grouped
    obtain ⟨bytes, spelled⟩ := exists_sextets_eq numbers
    refine ⟨bytes, ?_⟩
    rw [encode, symbols_eq_map, spelled, map_symbol_idxOf symbols, String.ofList_toList]
  · intro encoded
    obtain ⟨bytes, rfl⟩ := encoded
    have small := sextets_lt bytes
    rw [encode, String.toList_ofList, symbols_eq_map, map_idxOf_symbol small]
    refine ⟨fun char member => ?_, areSextets_sextets bytes⟩
    obtain ⟨number, found, rfl⟩ := List.mem_map.mp member
    exact symbol_mem_alphabet (small number found)

theorem encode_injective {left right : Bytes} (same : encode left = encode right) :
    left = right := by
  have decoded := decode_encode left
  rw [same, decode_encode] at decoded
  exact (Except.ok.inj decoded).symm

end Base64Url

end WebToken
