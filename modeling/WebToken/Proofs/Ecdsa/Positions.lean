import WebToken.Proofs.Ecdsa.LiberalForm

/-!
# Reading by position

A tagged signature is read here along a position that moves through its octets, into
memory that was asked for. Whatever is asked for outside of them stops the scan, and so do a
difference that would be negative and digits that would not fill the place that they are
put into. None of this happens, for any octets and any width: the scan ends where the reader
of the rest of the octets ends, with the same signature, the same fault or the same want of
memory.
-/

set_option autoImplicit false

namespace WebToken

namespace JoseSignature

abbrev Scan (α : Type) := Except Stop α

namespace Scan

def refuse {α : Type} (fault : Fault) : Scan α :=
  .error (.malformed fault)

/-!
## Steps that may leave the input
-/

def octetAt (bytes : Bytes) (position : Nat) : Scan UInt8 :=
  match bytes[position]? with
  | some octet => .ok octet
  | none => .error .outOfRange

/-- The octets from one position up to another, if both are inside. -/
def between? (bytes : Bytes) (start stop : Nat) : Option Bytes :=
  if start ≤ stop ∧ stop ≤ bytes.length then some ((bytes.drop start).take (stop - start))
  else none

def between (bytes : Bytes) (start stop : Nat) : Scan Bytes :=
  match between? bytes start stop with
  | some octets => .ok octets
  | none => .error .outOfRange

def difference (larger smaller : Nat) : Scan Nat :=
  if smaller ≤ larger then .ok (larger - smaller) else .error .outOfRange

/-- As many zeros as are asked for, if memory holds them. -/
def zeros (length : UInt64) : Scan Bytes :=
  if length.toNat > memoryLimit then .error .outOfMemory
  else .ok (Bytes.fill length.toNat 0)

/-- Puts digits into the place from a position up to the end, all of which they fill. -/
def overwrite (place : Bytes) (start : Nat) (digits : Bytes) : Scan Bytes := do
  let target ← between place start place.length
  if target.length = digits.length then return place.take start ++ digits
  else throw .outOfRange

theorem length_of_between {bytes octets : Bytes} {start stop : Nat}
    (taken : between bytes start stop = .ok octets) : octets.length + start = stop := by
  unfold between between? at taken
  split at taken
  next found =>
    obtain ⟨⟨forward, inside⟩, same⟩ := Option.ite_none_right_eq_some.mp found
    cases taken
    rw [← Option.some.inj same, List.length_take, List.length_drop]
    omega
  next => cases taken

/-!
## The scan
-/

/-- The length that the sequence states, and the position behind it. -/
def header (der : Bytes) : Scan (Nat × Nat) := do
  if der.length < 2 then refuse .missingSequence
  else
    let tag ← octetAt der 0
    if tag ≠ sequenceTag then refuse .missingSequence
    else
      let length ← octetAt der 1
      if length < 0x80 then return (length.toNat, 2)
      else if length = 0x81 ∧ 2 < der.length then
        let length ← octetAt der 2
        return (length.toNat, 3)
      else refuse .unsupportedSequenceLength

/-- The content of the number at a position, and the position behind it. -/
def integer (der : Bytes) (position : Nat) : Scan (Bytes × Nat) :=
  match between? der position (position + 2) with
  | none => refuse .truncatedInteger
  | some head => do
      let tag ← octetAt head 0
      if tag ≠ integerTag then refuse (.notInteger tag)
      else
        let length ← octetAt head 1
        if length = 0 ∨ 0x80 ≤ length then refuse (.unsupportedIntegerLength length.toNat)
        else
          let start := position + 2
          match between? der start (start + length.toNat) with
          | none => refuse .truncatedInteger
          | some content => return (content, start + length.toNat)

/-- Moves past zeros in front, as long as there are more octets than a field has. -/
def digits (fieldLength : Nat) (content : Bytes) : Scan Bytes :=
  if content.length > fieldLength then
    match octetAt content 0 with
    | .error stop => .error stop
    | .ok first =>
        if first = 0 then
          match _shorter : between content 1 content.length with
          | .error stop => .error stop
          | .ok rest => digits fieldLength rest
        else .ok content
  else .ok content
termination_by content.length
decreasing_by
  have size := length_of_between _shorter
  omega

/-- The content put in at the end of a place that is as long as a field. -/
def field (fieldLength : Nat) (place content : Bytes) : Scan Bytes := do
  let digits ← digits fieldLength content
  if digits.length > fieldLength then refuse (.integerTooLong digits.length fieldLength)
  else
    let start ← difference fieldLength digits.length
    overwrite place start digits

/-- Cuts fields off a place and puts the numbers from a position on into them: the place,
and the position behind the numbers. -/
def numbers (der : Bytes) (fieldLength : Nat) :
    (count : Nat) → (place : Bytes) → (position : Nat) → Scan (Bytes × Nat)
  | 0, place, position => return (place, position)
  | count + 1, place, position => do
      let half ← between place 0 fieldLength
      let behind ← between place fieldLength place.length
      let (content, position) ← integer der position
      let filled ← field fieldLength half content
      let (others, position) ← numbers der fieldLength count behind position
      return (filled ++ others, position)

/-- There are as many fields as the place has room for. -/
def signature (der : Bytes) (fieldLength : UInt64) : Scan Bytes := do
  if fieldLength = 0 then refuse .zeroFieldLength
  else
    let (stated, position) ← header der
    if position + stated ≠ der.length then
      let remaining ← difference der.length position
      refuse (.sequenceLength stated remaining)
    else
      let place ← zeros (2 * fieldLength)
      let count := place.length / fieldLength.toNat
      let (jose, position) ← numbers der fieldLength.toNat count place position
      if position ≠ der.length then refuse .trailingBytes
      else return jose

/-!
## Where the scan ends
-/

/-- What a scan gives that meets the same faults as a reader. -/
def ofReader {α : Type} (read : Except Fault α) : Scan α :=
  read.mapError .malformed

theorem between?_append (front bytes : Bytes) (count : Nat) :
    between? (front ++ bytes) front.length (front.length + count) =
      if count ≤ bytes.length then some (bytes.take count) else none := by
  simp [between?]

theorem ofReader_ok {α : Type} (result : α) : ofReader (.ok result) = .ok result := rfl

theorem ofReader_error {α : Type} (fault : Fault) :
    (ofReader (.error fault) : Scan α) = refuse fault := rfl

theorem header_eq (der : Bytes) :
    header der = ofReader ((readHeader der).map fun (stated, rest) =>
      (stated, der.length - rest.length)) := by
  match der with
  | [] => rfl
  | [tag] => rfl
  | tag :: length :: rest =>
      have whole : ¬ (tag :: length :: rest).length < 2 := by simp
      have first : octetAt (tag :: length :: rest) 0 = .ok tag := rfl
      have second : octetAt (tag :: length :: rest) 1 = .ok length := rfl
      simp only [header, whole, first, second, readHeader, bind, Except.bind]
      by_cases sequence : tag = sequenceTag
      · by_cases below : length < 0x80
        · simp [sequence, below, Except.map, ofReader_ok, pure, Except.pure]
          omega
        · by_cases marker : length = 0x81
          · cases rest with
            | nil => simp [sequence, marker, Except.map, ofReader_error]
            | cons third rest =>
                have last : octetAt (tag :: length :: third :: rest) 2 = .ok third := rfl
                rw [sequence, marker] at last
                simp [sequence, marker, last, Except.map, ofReader_ok, pure, Except.pure]
                omega
          · simp [sequence, below, marker, Except.map, ofReader_error]
      · simp [sequence, Except.map, ofReader_error]

theorem integer_eq (front bytes : Bytes) :
    integer (front ++ bytes) front.length = ofReader ((readInteger bytes).map
      fun (content, rest) => (content, (front ++ bytes).length - rest.length)) := by
  rw [integer, between?_append]
  match bytes with
  | [] => rfl
  | [tag] => rfl
  | tag :: length :: rest =>
      have whole : 2 ≤ (tag :: length :: rest).length := by simp
      have first : octetAt ((tag :: length :: rest).take 2) 0 = .ok tag := rfl
      have second : octetAt ((tag :: length :: rest).take 2) 1 = .ok length := rfl
      have content : between? (front ++ tag :: length :: rest) (front.length + 2)
          (front.length + 2 + length.toNat) =
            if length.toNat ≤ rest.length then some (rest.take length.toNat) else none := by
        have behind := between?_append (front ++ [tag, length]) rest length.toNat
        rwa [List.append_assoc, List.length_append] at behind
      simp only [whole, ↓reduceIte, first, second, content, readInteger, bind, Except.bind]
      by_cases integer : tag = integerTag
      · by_cases unsupported : length = 0 ∨ 0x80 ≤ length
        · simp [integer, unsupported, Except.map, ofReader_error]
        · by_cases inside : length.toNat ≤ rest.length
          · have reaches : ¬ rest.length < length.toNat := Nat.not_lt.mpr inside
            simp [integer, unsupported, inside, reaches, Except.map, ofReader_ok, pure, Except.pure]
            omega
          · have outside : rest.length < length.toNat := Nat.not_le.mp inside
            simp [integer, unsupported, inside, outside, Except.map, ofReader_error]
      · simp [integer, Except.map, ofReader_error]

theorem digits_eq (fieldLength : Nat) (content : Bytes) :
    digits fieldLength content = .ok (stripZeros fieldLength content) := by
  induction content with
  | nil =>
      have whole : ¬ ([] : Bytes).length > fieldLength := Nat.not_lt_zero fieldLength
      rw [digits, if_neg whole]
      rfl
  | cons first rest ih =>
      have shorter : between (first :: rest) 1 (first :: rest).length = .ok rest := by
        simp [between, between?]
      rw [digits, stripZeros]
      by_cases long : (first :: rest).length > fieldLength
      · rw [if_pos long]
        change (if first = 0 then _ else _) = _
        by_cases zero : first = 0
        · rw [if_pos zero, if_pos ⟨long, zero⟩]
          split
          next failed => cases shorter.symm.trans failed
          next taken =>
            cases shorter.symm.trans taken
            exact ih
        · rw [if_neg zero, if_neg fun both => zero both.2]
      · rw [if_neg long, if_neg fun both => long both.1]

theorem field_eq (fieldLength : Nat) (content : Bytes) :
    field fieldLength (Bytes.fill fieldLength 0) content =
      ofReader (fieldOf fieldLength content) := by
  simp only [field, digits_eq, bind, Except.bind, fieldOf]
  by_cases long : (stripZeros fieldLength content).length > fieldLength
  · simp only [if_pos long, ofReader_error]
  · have fits := Nat.not_lt.mp long
    have start : fieldLength - (fieldLength - (stripZeros fieldLength content).length) =
        (stripZeros fieldLength content).length := Nat.sub_sub_self fits
    simp [if_neg long, ofReader_ok, difference, fits, overwrite, between, between?, Bytes.fill,
      start, bind, Except.bind, pure, Except.pure]

theorem between_fill (fieldLength behind : Nat) :
    between (Bytes.fill (fieldLength + behind) 0) 0 fieldLength = .ok (Bytes.fill fieldLength 0) ∧
      between (Bytes.fill (fieldLength + behind) 0) fieldLength
        (Bytes.fill (fieldLength + behind) 0).length = .ok (Bytes.fill behind 0) := by
  simp [between, between?, Bytes.fill]

/-- The numbers fill their fields one after the other, and what is left of the place stays
as it was. -/
theorem numbers_eq (fieldLength count spare : Nat) (front bytes : Bytes) :
    numbers (front ++ bytes) fieldLength count (Bytes.fill (count * fieldLength + spare) 0)
        front.length =
      ofReader ((readFields fieldLength count bytes).map fun (fields, rest) =>
        (fields ++ Bytes.fill spare 0, (front ++ bytes).length - rest.length)) := by
  -- On the fields: each number that was read joins what is in front of the position.
  induction count generalizing front bytes with
  | zero => simp [numbers, readFields, Except.map, ofReader_ok, pure, Except.pure]
  | succ count ih =>
      have room : (count + 1) * fieldLength + spare =
          fieldLength + (count * fieldLength + spare) := by
        rw [Nat.succ_mul, Nat.add_comm _ fieldLength, Nat.add_assoc]
      obtain ⟨half, behind⟩ := between_fill fieldLength (count * fieldLength + spare)
      rw [numbers, readFields, room, half, behind, integer_eq]
      cases found : readInteger bytes with
      | error fault => rfl
      | ok read =>
          obtain ⟨content, rest⟩ := read
          obtain ⟨item, rfl, -⟩ := readInteger_eq_ok_iff.mp found
          have reached : (front ++ (item ++ rest)).length - rest.length =
              (front ++ item).length := by
            simp only [List.length_append]
            omega
          have later := ih (front ++ item) rest
          rw [List.append_assoc] at later
          simp only [bind, Except.bind, Except.map, ofReader_ok, field_eq, reached]
          cases fieldOf fieldLength content with
          | error fault => rfl
          | ok field =>
              simp only [ofReader_ok, later]
              cases readFields fieldLength count rest with
              | error fault => rfl
              | ok read =>
                  simp [ofReader_ok, Except.map, pure, Except.pure]

/-- All numbers, from the position behind what the sequence states. -/
theorem body_eq {front : Bytes} (given : front ≠ []) (items : Bytes) (fieldLength : UInt64) :
    ((zeros (2 * fieldLength)).bind fun place =>
      (numbers (front ++ items) fieldLength.toNat (place.length / fieldLength.toNat) place
        front.length).bind fun read =>
        if read.2 ≠ (front ++ items).length then refuse .trailingBytes else .ok read.1) =
      if joseLength fieldLength > memoryLimit then .error .outOfMemory
      else
        match readNumbers fieldLength.toNat (joseLength fieldLength / fieldLength.toNat) items with
        | .error fault => .error (.malformed fault)
        | .ok fields =>
            .ok (fields ++ Bytes.fill (joseLength fieldLength % fieldLength.toNat) 0) := by
  by_cases large : joseLength fieldLength > memoryLimit
  · have refused : zeros (2 * fieldLength) = .error .outOfMemory := if_pos large
    rw [if_pos large, refused]
    rfl
  have held : zeros (2 * fieldLength) = .ok (Bytes.fill (joseLength fieldLength) 0) :=
    if_neg large
  have size : (Bytes.fill (joseLength fieldLength) 0).length = joseLength fieldLength :=
    List.length_replicate
  have scanned := numbers_eq fieldLength.toNat (joseLength fieldLength / fieldLength.toNat)
    (joseLength fieldLength % fieldLength.toNat) front items
  rw [Nat.mul_comm _ fieldLength.toNat, Nat.div_add_mod] at scanned
  rw [if_neg large, held]
  simp only [Except.bind, size, scanned, readNumbers]
  cases readFields fieldLength.toNat (joseLength fieldLength / fieldLength.toNat) items with
  | error fault => rfl
  | ok read =>
      obtain ⟨fields, rest⟩ := read
      cases rest with
      | nil => simp [Except.map, bind, Except.bind, ofReader_ok, pure, Except.pure]
      | cons extra rest =>
          have inside : (front ++ items).length - (extra :: rest).length ≠
              (front ++ items).length := by
            have positive := List.length_pos_iff.mpr given
            simp only [List.length_append, List.length_cons]
            omega
          simp only [Except.map, ofReader_ok, bind, Except.bind, ne_eq, inside, not_false_eq_true,
            ↓reduceIte, reduceCtorEq]
          rfl

/-- The scan never leaves the octets, and ends as the reader does. -/
theorem signature_eq (der : Bytes) (fieldLength : UInt64) :
    signature der fieldLength = ofDer der fieldLength := by
  by_cases zero : fieldLength = 0
  · subst zero
    rfl
  rw [signature, if_neg zero, ofDer, if_neg zero, header_eq, readSequence]
  cases found : readHeader der with
  | error fault => rfl
  | ok read =>
      obtain ⟨stated, items⟩ := read
      obtain ⟨length, same, -⟩ := readHeader_eq_ok_iff.mp found
      -- The position stands behind what has been read, and the reader has the rest.
      obtain ⟨front, rfl, given⟩ : ∃ front, der = front ++ items ∧ front ≠ [] :=
        ⟨sequenceTag :: length, same, List.cons_ne_nil _ _⟩
      have position : (front ++ items).length - items.length = front.length := by simp
      simp only [Except.map, ofReader_ok, bind, Except.bind, position]
      by_cases matched : stated = items.length
      · have reached : front.length + stated = (front ++ items).length := by simp [matched]
        rw [if_neg (not_not_intro reached), if_neg (not_not_intro matched)]
        exact body_eq given items fieldLength
      · have apart : front.length + stated ≠ (front ++ items).length := by simp [matched]
        have remaining : difference (front ++ items).length front.length = .ok items.length := by
          simp [difference]
        simp only [apart, matched, ne_eq, not_false_eq_true, ↓reduceIte, remaining]
        rfl

end Scan

/-- What is read is a sequence of two numbers that fit, however liberally it is spelled,
with their fields as the result, as long as memory holds twice a field. Where twice the
length of a field wraps, the empty sequence is read as well, as zeros. Everything else is
malformed, but for sequences for which too much memory is asked. A scan by position ends in
the same way, so that it never leaves the octets. -/
theorem ofDer_of_spelled (der : Bytes) (fieldLength : UInt64) :
    (∀ jose, ofDer der fieldLength = .ok jose ↔
      (1 ≤ fieldLength.toNat ∧ 2 * fieldLength.toNat < 2 ^ 63 ∧
        ∃ first second, Spells der first second ∧
          Bytes.value first < 256 ^ fieldLength.toNat ∧
          Bytes.value second < 256 ^ fieldLength.toNat ∧
            jose = Bytes.ofValue fieldLength.toNat (Bytes.value first) ++
              Bytes.ofValue fieldLength.toNat (Bytes.value second)) ∨
      (2 ^ 64 ≤ 2 * fieldLength.toNat ∧ 2 * fieldLength.toNat % 2 ^ 64 < 2 ^ 63 ∧
        SpellsSequence der [] ∧ jose = Bytes.fill (2 * fieldLength.toNat % 2 ^ 64) 0)) ∧
    (ofDer der fieldLength = .error .outOfMemory ↔
      2 ^ 63 ≤ 2 * fieldLength.toNat % 2 ^ 64 ∧ ∃ items, SpellsSequence der items) ∧
    ((∃ jose, ofDer der fieldLength = .ok jose) ∨ ofDer der fieldLength = .error .outOfMemory ∨
      ∃ fault, ofDer der fieldLength = .error (.malformed fault)) ∧
    Scan.signature der fieldLength = ofDer der fieldLength := by
  refine ⟨fun jose => ?_, ofDer_eq_outOfMemory_iff, ?_, Scan.signature_eq der fieldLength⟩
  · by_cases wide : 2 ^ 63 ≤ fieldLength.toNat
    · rw [ofDer_eq_ok_iff_of_wide wide]
      refine ⟨fun read => .inr ⟨by omega, read⟩, fun read => ?_⟩
      rcases read with ⟨-, held, -⟩ | ⟨-, read⟩
      · omega
      · exact read
    · have word := Nat.not_le.mp wide
      rw [ofDer_eq_ok_iff_spells word]
      refine ⟨.inl, fun read => ?_⟩
      rcases read with read | ⟨wraps, -⟩
      · exact read
      · omega
  · cases ended : ofDer der fieldLength with
    | ok jose => exact .inl ⟨jose, rfl⟩
    | error stop =>
        cases stop with
        | malformed fault => exact .inr (.inr ⟨fault, rfl⟩)
        | outOfMemory => exact .inr (.inl rfl)
        | outOfRange => exact absurd ended (ofDer_ne_outOfRange der fieldLength)

/-- The empty sequence holds no number at all, and still a signature comes out of it, for a
field so long that twice its length wraps to nothing. -/
theorem not_ofDer_iff_spells :
    ¬ ∀ (der : Bytes) (fieldLength : UInt64) (jose : Bytes),
      ofDer der fieldLength = .ok jose ↔
        1 ≤ fieldLength.toNat ∧ ∃ first second, Spells der first second ∧
          Bytes.value first < 256 ^ fieldLength.toNat ∧
          Bytes.value second < 256 ^ fieldLength.toNat ∧
            jose = Bytes.ofValue fieldLength.toNat (Bytes.value first) ++
              Bytes.ofValue fieldLength.toNat (Bytes.value second) := by
  intro accepts
  have read : ofDer [0x30, 0x00] 0x8000000000000000 = .ok [] := by decide
  obtain ⟨-, first, second, spelled, -⟩ := (accepts [0x30, 0x00] 0x8000000000000000 []).mp read
  exact absurd spelled.length_ge (by decide)

/-- A marker that is not needed, a redundant zero and a high bit are all read. -/
example : ofDer [0x30, 0x81, 8, 2, 2, 0x00, 0x05, 2, 2, 0x80, 0x01] 2 =
    .ok [0x00, 0x05, 0x80, 0x01] := by
  decide

end JoseSignature

end WebToken
