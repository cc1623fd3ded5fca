import WebToken.Base64Url
import WebToken.Proofs.Chain
import WebToken.Proofs.Text.Utf8

/-!
# Reading back Base64URL

Every byte string is read back from its spelling, and no other text is read: it is
the only one, without padding and with all unused bits zero. A spelling has four
symbols for every three octets, and none of its symbols is a dot.
-/

set_option autoImplicit false

namespace WebToken

namespace Base64Url

/-!
## Symbols
-/

def octetOf (sextet : Nat) : UInt8 :=
  UInt8.ofNat (symbol sextet).toNat

theorem symbol_ascii : ∀ sextet < 64, (symbol sextet).toNat ≤ 127 ∧ symbol sextet ≠ '.' := by
  decide

theorem sextet?_octetOf : ∀ sextet < 64, sextet? (octetOf sextet) = some sextet := by
  decide

theorem octetOf_ne_paddingSign : ∀ sextet < 64, octetOf sextet ≠ paddingSign := by
  decide

/-- The numbers of the symbols of a byte string. -/
def sextets : Bytes → List Nat
  | [] => []
  | [first] => [first.toNat / 4, first.toNat % 4 * 16]
  | [first, second] =>
      [first.toNat / 4, first.toNat % 4 * 16 + second.toNat / 16, second.toNat % 16 * 4]
  | first :: second :: third :: rest =>
      first.toNat / 4 :: (first.toNat % 4 * 16 + second.toNat / 16) ::
        (second.toNat % 16 * 4 + third.toNat / 64) :: third.toNat % 64 :: sextets rest

theorem symbols_eq_map (bytes : Bytes) : symbols bytes = (sextets bytes).map symbol := by
  induction bytes using sextets.induct with
  | case1 => rfl
  | case2 first => rfl
  | case3 first second => rfl
  | case4 first second third rest ih => simp only [symbols, sextets, List.map_cons, ih]

theorem sextets_lt (bytes : Bytes) : ∀ sextet ∈ sextets bytes, sextet < 64 := by
  induction bytes using sextets.induct with
  | case1 => exact nofun
  | case2 first =>
      have small := first.toNat_lt
      simp only [sextets, List.forall_mem_cons]
      exact ⟨by omega, by omega, nofun⟩
  | case3 first second =>
      have small := first.toNat_lt
      have small' := second.toNat_lt
      simp only [sextets, List.forall_mem_cons]
      exact ⟨by omega, by omega, by omega, nofun⟩
  | case4 first second third rest ih =>
      have small := first.toNat_lt
      have small' := second.toNat_lt
      have small'' := third.toNat_lt
      simp only [sextets, List.forall_mem_cons]
      exact ⟨by omega, by omega, by omega, by omega, ih⟩

theorem length_sextets (bytes : Bytes) : (sextets bytes).length = (4 * bytes.length + 2) / 3 := by
  induction bytes using sextets.induct with
  | case1 => rfl
  | case2 first => simp [sextets]
  | case3 first second => simp [sextets]
  | case4 first second third rest ih =>
      simp only [sextets, List.length_cons, ih]
      omega

/-!
## The octets of a spelling
-/

theorem flatMap_utf8EncodeChar_symbol {group : List Nat} (small : ∀ sextet ∈ group, sextet < 64) :
    (group.map symbol).flatMap String.utf8EncodeChar = group.map octetOf := by
  induction group with
  | nil => rfl
  | cons sextet group ih =>
      obtain ⟨here, later⟩ := List.forall_mem_cons.mp small
      have ascii : String.utf8EncodeChar (symbol sextet) = [octetOf sextet] :=
        if_pos (symbol_ascii sextet here).1
      rw [List.map_cons, List.flatMap_cons, ih later, ascii, List.map_cons, List.singleton_append]

theorem ofText_encode (bytes : Bytes) :
    Bytes.ofText (encode bytes) = (sextets bytes).map octetOf := by
  rw [Bytes.ofText, encode, String.toList_ofList, symbols_eq_map,
    flatMap_utf8EncodeChar_symbol (sextets_lt bytes)]

theorem utf8ByteSize_encode (bytes : Bytes) :
    (encode bytes).utf8ByteSize = (4 * bytes.length + 2) / 3 := by
  rw [← Bytes.length_ofText, ofText_encode, List.length_map, length_sextets]

theorem dot_not_mem_encode (bytes : Bytes) : '.' ∉ (encode bytes).toList := by
  rw [encode, String.toList_ofList, symbols_eq_map]
  intro dot
  obtain ⟨sextet, member, equal⟩ := List.mem_map.mp dot
  exact (symbol_ascii sextet (sextets_lt bytes sextet member)).2 equal

/-!
## Reading back
-/

theorem lastSymbols_octetOf (start place : Nat) (read : List (UInt8 × Nat)) {group : List Nat}
    (small : ∀ sextet ∈ group, sextet < 64) :
    lastSymbols start place none read (group.map octetOf) =
      .ok (read.reverse ++ group.map fun sextet => (octetOf sextet, sextet), none) := by
  induction group generalizing place read with
  | nil => simp [lastSymbols]
  | cons sextet group ih =>
      obtain ⟨here, later⟩ := List.forall_mem_cons.mp small
      simp only [List.map_cons, lastSymbols, octetOf_ne_paddingSign sextet here,
        sextet?_octetOf sextet here, ↓reduceIte, ih _ _ later, List.reverse_cons,
        List.append_assoc, List.singleton_append]

theorem sextetAt_octetOf (offset : Nat) {sextet : Nat} (small : sextet < 64) :
    sextetAt offset (octetOf sextet) = .ok sextet := by
  rw [sextetAt, sextet?_octetOf sextet small]

variable (start : Nat) {first second third fourth : Nat}

theorem lastGroup_pair (small : first < 64 ∧ second < 64) (unused : second % 16 = 0) :
    lastGroup start [octetOf first, octetOf second] =
      .ok [UInt8.ofNat (first * 4 + second / 16)] := by
  have read := lastSymbols_octetOf start 0 []
    (show ∀ sextet ∈ [first, second], sextet < 64 by simpa using small)
  simp only [List.map_cons, List.map_nil] at read
  simp [lastGroup, read, unused]

theorem lastGroup_triple (small : first < 64 ∧ second < 64 ∧ third < 64)
    (unused : third % 4 = 0) :
    lastGroup start [octetOf first, octetOf second, octetOf third] =
      .ok [UInt8.ofNat (first * 4 + second / 16),
        UInt8.ofNat (second % 16 * 16 + third / 4)] := by
  have read := lastSymbols_octetOf start 0 []
    (show ∀ sextet ∈ [first, second, third], sextet < 64 by simpa using small)
  simp only [List.map_cons, List.map_nil] at read
  simp [lastGroup, read, unused]

/-- A full group is read the same way whether or not it is the last one. -/
theorem groups_quadruple (small : first < 64 ∧ second < 64 ∧ third < 64 ∧ fourth < 64)
    {rest : Bytes} {others : Bytes} (read : groups (start + 4) rest = .ok others) :
    groups start (octetOf first :: octetOf second :: octetOf third :: octetOf fourth :: rest) =
      .ok (UInt8.ofNat (first * 4 + second / 16) :: UInt8.ofNat (second % 16 * 16 + third / 4) ::
        UInt8.ofNat (third % 4 * 64 + fourth) :: others) := by
  obtain ⟨small₁, small₂, small₃, small₄⟩ := small
  cases rest with
  | nil =>
      cases read
      have group := lastSymbols_octetOf start 0 []
        (show ∀ sextet ∈ [first, second, third, fourth], sextet < 64 by
          simp [small₁, small₂, small₃, small₄])
      simp only [List.map_cons, List.map_nil] at group
      simp [groups, lastGroup, group]
  | cons next rest =>
      rw [groups, sextetAt_octetOf start small₁, sextetAt_octetOf (start + 1) small₂,
        sextetAt_octetOf (start + 2) small₃, sextetAt_octetOf (start + 3) small₄, read]
      rfl

theorem ofNat_eq_of_toNat_eq (byte : UInt8) {number : Nat} (equal : number = byte.toNat) :
    UInt8.ofNat number = byte := by
  rw [equal, UInt8.ofNat_toNat]

theorem groups_octetOf (bytes : Bytes) :
    groups start ((sextets bytes).map octetOf) = .ok bytes := by
  induction bytes using sextets.induct generalizing start with
  | case1 => rfl
  | case2 first =>
      have small := first.toNat_lt
      refine (lastGroup_pair start (by omega) (by omega)).trans ?_
      rw [ofNat_eq_of_toNat_eq first (by omega)]
  | case3 first second =>
      have small := first.toNat_lt
      have small' := second.toNat_lt
      refine (lastGroup_triple start (by omega) (by omega)).trans ?_
      rw [ofNat_eq_of_toNat_eq first (by omega),
        ofNat_eq_of_toNat_eq second (by omega)]
  | case4 first second third rest ih =>
      have small := first.toNat_lt
      have small' := second.toNat_lt
      have small'' := third.toNat_lt
      refine (groups_quadruple start (by omega) (ih (start + 4))).trans ?_
      rw [ofNat_eq_of_toNat_eq first (by omega),
        ofNat_eq_of_toNat_eq second (by omega),
        ofNat_eq_of_toNat_eq third (by omega)]

theorem decode_encode (bytes : Bytes) : decode (encode bytes) = .ok bytes := by
  have ended : strayEnd? ((sextets bytes).map octetOf) = none := by
    unfold strayEnd?
    cases last : ((sextets bytes).map octetOf).getLast? with
    | none => rfl
    | some byte =>
        obtain ⟨sextet, member, rfl⟩ := List.mem_map.mp (List.mem_of_getLast? last)
        simp [sextet?_octetOf sextet (sextets_lt bytes sextet member)]
  rw [decode, decodeBytes, ofText_encode, ended]
  exact groups_octetOf 0 bytes

/-!
## One spelling
-/

variable {start}

theorem octetOf_of_code : ∀ code < 256, ∀ sextet ∈ sextet? (UInt8.ofNat code),
    sextet < 64 ∧ octetOf sextet = UInt8.ofNat code := by
  decide +kernel

theorem octetOf_of_sextet? {byte : UInt8} {sextet : Nat} (symbol : sextet? byte = some sextet) :
    sextet < 64 ∧ octetOf sextet = byte := by
  have code := octetOf_of_code byte.toNat byte.toNat_lt sextet
  rw [UInt8.ofNat_toNat] at code
  exact code symbol

/-- Padding that was met is never forgotten. -/
theorem lastSymbols_padded {place offset : Nat} {read result : List (UInt8 × Nat)}
    {group : Bytes} {padded : Option Nat}
    (ended : lastSymbols start place (some offset) read group = .ok (result, padded)) :
    padded = some offset := by
  induction group generalizing place read with
  | nil =>
      rw [lastSymbols] at ended
      exact (Prod.mk.inj (Except.ok.inj ended)).2.symm
  | cons byte group ih =>
      rw [lastSymbols] at ended
      split at ended
      · split at ended
        · cases ended
        · exact ih ended
      · cases ended

/-- A group without padding is made of symbols only. -/
theorem exists_sextets_of_lastSymbols {place : Nat} {read result : List (UInt8 × Nat)}
    {group : Bytes} (ended : lastSymbols start place none read group = .ok (result, none)) :
    ∃ numbers : List Nat, (∀ sextet ∈ numbers, sextet < 64) ∧ group = numbers.map octetOf ∧
      result = read.reverse ++ numbers.map fun sextet => (octetOf sextet, sextet) := by
  induction group generalizing place read with
  | nil =>
      rw [lastSymbols] at ended
      obtain ⟨rfl, -⟩ := Prod.mk.inj (Except.ok.inj ended)
      exact ⟨[], nofun, rfl, by simp⟩
  | cons byte group ih =>
      rw [lastSymbols] at ended
      split at ended
      next padding =>
        split at ended
        · cases ended
        · cases lastSymbols_padded ended
      next =>
        cases symbol : sextet? byte with
        | none =>
            simp only [symbol] at ended
            cases ended
        | some sextet =>
            simp only [symbol] at ended
            obtain ⟨small, rfl⟩ := octetOf_of_sextet? symbol
            obtain ⟨numbers, later, rfl, rfl⟩ := ih ended
            refine ⟨sextet :: numbers, List.forall_mem_cons.mpr ⟨small, later⟩, rfl, ?_⟩
            rw [List.reverse_cons, List.append_assoc, List.singleton_append, List.map_cons]

theorem sextets_pair (small : first < 64 ∧ second < 64) (unused : second % 16 = 0) :
    sextets [UInt8.ofNat (first * 4 + second / 16)] = [first, second] := by
  have octet : (UInt8.ofNat (first * 4 + second / 16)).toNat = first * 4 + second / 16 :=
    Utf8.toNat_octet (by omega)
  have parts : (first * 4 + second / 16) / 4 = first ∧
      (first * 4 + second / 16) % 4 * 16 = second := by omega
  rw [sextets, octet, parts.1, parts.2]

theorem sextets_triple (small : first < 64 ∧ second < 64 ∧ third < 64) (unused : third % 4 = 0) :
    sextets [UInt8.ofNat (first * 4 + second / 16), UInt8.ofNat (second % 16 * 16 + third / 4)] =
      [first, second, third] := by
  have octet : (UInt8.ofNat (first * 4 + second / 16)).toNat = first * 4 + second / 16 :=
    Utf8.toNat_octet (by omega)
  have octet' : (UInt8.ofNat (second % 16 * 16 + third / 4)).toNat = second % 16 * 16 + third / 4 :=
    Utf8.toNat_octet (by omega)
  have parts : (first * 4 + second / 16) / 4 = first ∧
      (first * 4 + second / 16) % 4 * 16 + (second % 16 * 16 + third / 4) / 16 = second ∧
      (second % 16 * 16 + third / 4) % 16 * 4 = third := by omega
  rw [sextets, octet, octet', parts.1, parts.2.1, parts.2.2]

theorem sextets_quadruple (small : first < 64 ∧ second < 64 ∧ third < 64 ∧ fourth < 64)
    (rest : Bytes) :
    sextets (UInt8.ofNat (first * 4 + second / 16) :: UInt8.ofNat (second % 16 * 16 + third / 4) ::
        UInt8.ofNat (third % 4 * 64 + fourth) :: rest) =
      first :: second :: third :: fourth :: sextets rest := by
  have octet : (UInt8.ofNat (first * 4 + second / 16)).toNat = first * 4 + second / 16 :=
    Utf8.toNat_octet (by omega)
  have octet' : (UInt8.ofNat (second % 16 * 16 + third / 4)).toNat = second % 16 * 16 + third / 4 :=
    Utf8.toNat_octet (by omega)
  have octet'' : (UInt8.ofNat (third % 4 * 64 + fourth)).toNat = third % 4 * 64 + fourth :=
    Utf8.toNat_octet (by omega)
  have parts : (first * 4 + second / 16) / 4 = first ∧
      (first * 4 + second / 16) % 4 * 16 + (second % 16 * 16 + third / 4) / 16 = second ∧
      (second % 16 * 16 + third / 4) % 16 * 4 + (third % 4 * 64 + fourth) / 64 = third ∧
      (third % 4 * 64 + fourth) % 64 = fourth := by omega
  rw [sextets, octet, octet', octet'', parts.1, parts.2.1, parts.2.2.1, parts.2.2.2]

theorem map_octetOf_of_lastGroup {group bytes : Bytes}
    (narrow : group.length ≤ 4) (read : lastGroup start group = .ok bytes) :
    group = (sextets bytes).map octetOf := by
  unfold lastGroup at read
  split at read
  next => cases read
  next symbols padded ended =>
    split at read
    next => cases read
    next enough =>
      cases padded with
      | some offset => cases read
      | none =>
          obtain ⟨numbers, small, rfl, rfl⟩ := exists_sextets_of_lastSymbols ended
          match numbers with
          | [] => exact absurd Nat.two_pos enough
          | [only] => exact absurd Nat.one_lt_two enough
          | [first, second] =>
              change (if second % 16 = 0 then _ else _) = Except.ok bytes at read
              split at read
              next unused => rw [← Except.ok.inj read, sextets_pair (by simpa using small) unused]
              next => cases read
          | [first, second, third] =>
              change (if third % 4 = 0 then _ else _) = Except.ok bytes at read
              split at read
              next unused => rw [← Except.ok.inj read, sextets_triple (by simpa using small) unused]
              next => cases read
          | [first, second, third, fourth] =>
              change Except.ok _ = Except.ok bytes at read
              rw [← Except.ok.inj read, sextets_quadruple (by simpa using small), sextets]
          | _ :: _ :: _ :: _ :: _ :: _ => exact absurd narrow (by simp)

theorem sextetAt_eq_ok {offset sextet : Nat} {byte : UInt8}
    (read : sextetAt offset byte = .ok sextet) : sextet < 64 ∧ octetOf sextet = byte := by
  unfold sextetAt at read
  split at read
  next symbol =>
    cases read
    exact octetOf_of_sextet? symbol
  next => cases read

theorem map_octetOf_of_groups {text bytes : Bytes}
    (read : groups start text = .ok bytes) : text = (sextets bytes).map octetOf := by
  fun_induction groups start text generalizing bytes with
  | case1 =>
      cases read
      rfl
  | case2 offset first second third fourth rest last =>
      obtain rfl := List.isEmpty_iff.mp last
      exact map_octetOf_of_lastGroup (by simp) read
  | case3 offset first second third fourth rest others ih =>
      simp only [bind_eq_ok_iff] at read
      obtain ⟨high, firstRead, next, secondRead, middle, thirdRead, low, fourthRead, later,
        restRead, packed⟩ := read
      obtain ⟨one, rfl⟩ := sextetAt_eq_ok firstRead
      obtain ⟨two, rfl⟩ := sextetAt_eq_ok secondRead
      obtain ⟨three, rfl⟩ := sextetAt_eq_ok thirdRead
      obtain ⟨four, rfl⟩ := sextetAt_eq_ok fourthRead
      cases packed
      rw [sextets_quadruple ⟨one, two, three, four⟩, ih restRead]
      rfl
  | case4 offset group notEmpty notFull =>
      refine map_octetOf_of_lastGroup ?_ read
      match group with
      | [] => decide
      | [_] => simp
      | [_, _] => simp
      | [_, _, _] => simp
      | first :: second :: third :: fourth :: rest =>
          exact absurd rfl (notFull first second third fourth rest)

/-- A text is decoded if and only if it is the spelling of what is read. -/
theorem decode_eq_ok_iff {text : String} {bytes : Bytes} :
    decode text = .ok bytes ↔ text = encode bytes := by
  constructor
  · intro decoded
    unfold decode decodeBytes at decoded
    split at decoded
    next => cases decoded
    next =>
      refine Bytes.ofText_injective ?_
      rw [ofText_encode]
      exact map_octetOf_of_groups decoded
  · rintro rfl
    exact decode_encode bytes

end Base64Url

end WebToken
