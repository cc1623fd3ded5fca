import WebToken.Proofs.Json.Floats

/-!
# Reading back JSON values

A value is read from its text exactly if it nests no deeper than the reader opens
arrays and objects; deeper values are refused. A value without floats is read back
as it was, and any other with its floats as they are read from their digits. So no two
values without floats have one text.
-/

set_option autoImplicit false

namespace WebToken.Json

/-!
## Values without floats, and how deep they nest
-/

mutual

/-- Every number in the value is an integer. -/
def IntegersOnly : Json → Prop
  | .number (.float _) => False
  | .array items => IntegersOnlyItems items
  | .object members => IntegersOnlyMembers members
  | _ => True

def IntegersOnlyItems : List Json → Prop
  | [] => True
  | item :: rest => IntegersOnly item ∧ IntegersOnlyItems rest

def IntegersOnlyMembers : List (String × Json) → Prop
  | [] => True
  | (_, value) :: rest => IntegersOnly value ∧ IntegersOnlyMembers rest

end

/-- A value is plain if it has no floats and its objects are in order, as objects
always are. -/
def IsPlain (value : Json) : Prop :=
  value.IntegersOnly ∧ value.Ordered

mutual

/-- How many arrays and objects are open at once, where the value nests deepest. -/
def nesting : Json → Nat
  | .array items => nestingOfItems items + 1
  | .object members => nestingOfMembers members + 1
  | _ => 0

def nestingOfItems : List Json → Nat
  | [] => 0
  | item :: rest => max (nesting item) (nestingOfItems rest)

def nestingOfMembers : List (String × Json) → Nat
  | [] => 0
  | (_, value) :: rest => max (nesting value) (nestingOfMembers rest)

end

mutual

/-- What the text of a value is read as. Objects are read with their names in order. -/
def reread : Json → Json
  | .number written => .number written.reread
  | .array items => .array (rereadItems items)
  | .object members => .object (Members.ofList (rereadMembers members))
  | .null => .null
  | .bool value => .bool value
  | .string text => .string text

def rereadItems : List Json → List Json
  | [] => []
  | item :: rest => reread item :: rereadItems rest

def rereadMembers : List (String × Json) → List (String × Json)
  | [] => []
  | (name, value) :: rest => (name, reread value) :: rereadMembers rest

end

/-!
## Text inside brackets
-/

/-- The text of an array after its opening bracket. -/
def charsInArray : List Json → List Char
  | [] => [']']
  | item :: listed => chars item ++ charsOfItems listed

/-- The text of an object after its opening brace. -/
def charsInObject : List (String × Json) → List Char
  | [] => ['\x7d']
  | (name, held) :: listed => stringText name ++ ':' :: (chars held ++ charsOfMembers listed)

theorem chars_array (listed : List Json) : chars (.array listed) = '[' :: charsInArray listed := by
  cases listed <;> rfl

theorem chars_object (listed : List (String × Json)) :
    chars (.object listed) = '\x7b' :: charsInObject listed := by
  cases listed <;> rfl

/-!
## Members in order
-/

namespace Members

theorem insert_eq_append {name : String} {value : Json} {members : Members}
    (below : ∀ member ∈ members, member.1 < name) :
    insert name value members = members ++ [(name, value)] := by
  induction members with
  | nil => rfl
  | cons head rest ih =>
      obtain ⟨here, later⟩ := List.forall_mem_cons.mp below
      have different : name ≠ head.1 := by
        rintro rfl
        exact String.lt_irrefl _ here
      rw [insert, if_neg (String.lt_asymm here), if_neg different, ih later, List.cons_append]

theorem foldl_insert (members : Members) {rest : Members}
    (ordered : Members.Ordered (members ++ rest)) :
    rest.foldl (fun members member => insert member.1 member.2 members) members =
      members ++ rest := by
  induction rest generalizing members with
  | nil => simp
  | cons member rest ih =>
      have below : ∀ earlier ∈ members, earlier.1 < member.1 := fun earlier found =>
        (List.pairwise_append.mp ordered).2.2 earlier found member List.mem_cons_self
      rw [List.foldl_cons, insert_eq_append below, ih _ (by simpa using ordered)]
      simp

theorem ofList_eq_self {members : Members} (ordered : members.Ordered) :
    ofList members = members :=
  foldl_insert [] ordered

end Members

mutual

/-- A value without floats is what its text is read as. -/
theorem reread_eq_self (value : Json) (integers : IntegersOnly value) (ordered : Ordered value) :
    reread value = value := by
  match value with
  | .null => rfl
  | .bool _ => rfl
  | .string _ => rfl
  | .number (.integer _ _ _) => rfl
  | .array items => exact congrArg array (rereadItems_eq_self items integers ordered)
  | .object members =>
      obtain ⟨namesOrdered, membersOrdered⟩ := ordered
      rw [reread, rereadMembers_eq_self members integers membersOrdered,
        Members.ofList_eq_self namesOrdered]

theorem rereadItems_eq_self (items : List Json) (integers : IntegersOnlyItems items)
    (ordered : OrderedItems items) : rereadItems items = items := by
  match items with
  | [] => rfl
  | item :: rest =>
      rw [rereadItems, reread_eq_self item integers.1 ordered.1,
        rereadItems_eq_self rest integers.2 ordered.2]

theorem rereadMembers_eq_self (members : List (String × Json))
    (integers : IntegersOnlyMembers members) (ordered : OrderedMembers members) :
    rereadMembers members = members := by
  match members with
  | [] => rfl
  | (name, value) :: rest =>
      rw [rereadMembers, reread_eq_self value integers.1 ordered.1,
        rereadMembers_eq_self rest integers.2 ordered.2]

end

/-!
## Members that are read
-/

theorem rereadMembers_eq_map (members : List (String × Json)) :
    rereadMembers members = members.map fun member => (member.1, member.2.reread) := by
  induction members with
  | nil => rfl
  | cons member members ih => rw [rereadMembers, ih, List.map_cons]

/-- Members are read in the order that they were written in. -/
theorem ordered_rereadMembers {members : Members} (ordered : members.Ordered) :
    Members.Ordered (rereadMembers members) := by
  rw [rereadMembers_eq_map]
  exact List.pairwise_map.mpr ordered

theorem find?_rereadMembers (name : String) (members : Members) :
    Members.find? name (rereadMembers members) = (Members.find? name members).map reread := by
  induction members with
  | nil => rfl
  | cons member members ih =>
      rw [rereadMembers, Members.find?, Members.find?, ih]
      split <;> rfl

theorem string?_reread (value : Json) : value.reread.string? = value.string? := by
  cases value <;> rfl

namespace Reader

/-!
## Conditional reading
-/

/-- Goes on with what a step read, and passes on its refusal. -/
def Step.andThen {α β : Type} (step : Step α) (next : α → List Char → Step β) : Step β :=
  match step with
  | .error stop => .error stop
  | .ok (read, rest) => next read rest

/-- A step reads a result if a condition holds, and otherwise refuses. -/
structure ReadsIf {α : Type} (condition : Prop) (step : Step α) (result : α) (rest : List Char) :
    Prop where
  reads : condition → step = .ok (result, rest)
  refuses : ¬ condition → ∃ stop, step = .error stop

section Conditional

variable {α β : Type} {condition other : Prop} {step : Step α} {result : α} {last : β}
  {unread rest : List Char}

theorem ReadsIf.of_eq (holds : condition) (read : step = .ok (result, rest)) :
    ReadsIf condition step result rest :=
  ⟨fun _ => read, fun fails => absurd holds fails⟩

theorem ReadsIf.congr (reads : ReadsIf condition step result rest) (same : condition ↔ other) :
    ReadsIf other step result rest :=
  propext same ▸ reads

theorem ReadsIf.andThen {next : α → List Char → Step β}
    (first : ReadsIf condition step result unread)
    (second : ReadsIf other (next result unread) last rest) :
    ReadsIf (condition ∧ other) (step.andThen next) last rest := by
  unfold Step.andThen
  constructor
  · intro both
    obtain ⟨holds, also⟩ := both
    rw [first.reads holds]
    exact second.reads also
  · intro fails
    by_cases holds : condition
    · rw [first.reads holds]
      exact second.refuses fun also => fails ⟨holds, also⟩
    · obtain ⟨stop, refused⟩ := first.refuses holds
      rw [refused]
      exact ⟨stop, rfl⟩

theorem ReadsIf.map (first : ReadsIf condition step result rest) (pack : α → β) :
    ReadsIf condition (step.andThen fun read rest => .ok (pack read, rest)) (pack result) rest :=
  (first.andThen (.of_eq trivial rfl)).congr (iff_of_eq (and_true condition))

end Conditional

/-!
## Steps on written text
-/

theorem skipBlanks_cons {first : Char} (dark : isBlank first = false) (rest : List Char) :
    skipBlanks (first :: rest) = first :: rest := by
  simp [skipBlanks, dark]

variable {fuel depth : Nat} {first : Char} {text rest : List Char}

theorem isBlank_of_isDigit (digit : first.isDigit = true) : isBlank first = false := by
  cases blank : isBlank first with
  | false => rfl
  | true =>
      simp only [isBlank, Bool.or_eq_true, decide_eq_true_eq] at blank
      rcases blank with ((rfl | rfl) | rfl) | rfl <;> cases digit

/-- A number without a sign starts with a digit. -/
theorem exists_digit_of_number {negative : Bool} {result : Json × List Char}
    (read : number negative text = .ok result) :
    ∃ first more, text = first :: more ∧ first.isDigit = true := by
  cases text with
  | nil => cases read
  | cons first more =>
      refine ⟨first, more, rfl, ?_⟩
      by_contra other
      rw [number, if_neg other] at read
      split at read <;> cases read

theorem value_number {result : Json × List Char} (read : number false text = .ok result) :
    value (fuel + 1) depth text = .ok result := by
  obtain ⟨first, more, rfl, digit⟩ := exists_digit_of_number read
  rw [← read, value, skipBlanks_cons (isBlank_of_isDigit digit)]
  split <;> simp_all

theorem value_openArray :
    value (fuel + 1) (depth + 1) ('[' :: rest) =
      (items fuel depth rest).andThen fun read rest => .ok (.array read, rest) := by
  rw [value, skipBlanks_cons (by decide)]
  simp only [Step.andThen]
  rcases items fuel depth rest with stop | ⟨read, unread⟩ <;> rfl

theorem value_openObject :
    value (fuel + 1) (depth + 1) ('\x7b' :: rest) =
      (members fuel depth rest).andThen fun read rest =>
        .ok (.object (Members.ofList read), rest) := by
  rw [value, skipBlanks_cons (by decide)]
  simp only [Step.andThen]
  rcases members fuel depth rest with stop | ⟨read, unread⟩ <;> rfl

/-- An array that is not closed at once is read item by item. -/
theorem items_cons (dark : isBlank first = false) (opened : first ≠ ']') :
    items (fuel + 1) depth (first :: rest) =
      (value fuel depth (first :: rest)).andThen fun item rest =>
        moreItems fuel depth [item] rest := by
  rw [items, skipBlanks_cons dark]
  split
  next equal => cases equal
  next equal => exact absurd (List.cons.inj equal).1 opened
  next => rcases value fuel depth (first :: rest) with stop | ⟨item, unread⟩ <;> rfl

theorem moreItems_cons (dark : isBlank first = false) (opened : first ≠ ']') (read : List Json) :
    moreItems (fuel + 1) depth read (',' :: first :: rest) =
      (value fuel depth (first :: rest)).andThen fun item rest =>
        moreItems fuel depth (item :: read) rest := by
  rw [moreItems, skipBlanks_cons (by decide)]
  simp only [skipBlanks_cons dark]
  split
  next equal => cases equal
  next equal => exact absurd (List.cons.inj equal).1 opened
  next => rcases value fuel depth (first :: rest) with stop | ⟨item, unread⟩ <;> rfl

theorem members_cons (name : String) :
    members (fuel + 1) depth (stringText name ++ rest) =
      (member fuel depth (name.toList.flatMap escapeChar ++ ['"'] ++ rest)).andThen
        fun read rest => moreMembers fuel depth [read] rest := by
  rw [stringText, List.cons_append, members, skipBlanks_cons (by decide)]
  simp only [Step.andThen]
  rcases member fuel depth (name.toList.flatMap escapeChar ++ ['"'] ++ rest) with
    stop | ⟨read, unread⟩ <;> rfl

theorem moreMembers_cons (name : String) (read : List (String × Json)) :
    moreMembers (fuel + 1) depth read (',' :: (stringText name ++ rest)) =
      (member fuel depth (name.toList.flatMap escapeChar ++ ['"'] ++ rest)).andThen
        fun next rest => moreMembers fuel depth (next :: read) rest := by
  rw [stringText, List.cons_append, moreMembers, skipBlanks_cons (by decide)]
  simp only [skipBlanks_cons (show isBlank '"' = false by decide)]
  rcases member fuel depth (name.toList.flatMap escapeChar ++ ['"'] ++ rest) with
    stop | ⟨next, unread⟩ <;> rfl

theorem member_literal (name : String) :
    member (fuel + 1) depth (name.toList.flatMap escapeChar ++ ['"'] ++ (':' :: rest)) =
      (value fuel depth rest).andThen fun held rest => .ok ((name, held), rest) := by
  rw [member, string_literal]
  simp only [skipBlanks_cons (show isBlank ':' = false by decide)]
  rcases value fuel depth rest with stop | ⟨held, unread⟩ <;> rfl

/-!
## Written values
-/

theorem value_integer {integer : Int} (lower : -2 ^ 63 ≤ integer) (upper : integer < 2 ^ 64)
    (ended : IsEnded rest) :
    value (fuel + 1) depth (integerText integer ++ rest) =
      .ok (.number (.integer integer lower upper), rest) := by
  unfold integerText
  split
  next negative =>
      have small : integer.natAbs < 2 ^ 64 := by omega
      rw [List.cons_append, value, skipBlanks_cons (by decide)]
      exact (number_digitsOf true small ended).trans (integerOf_true negative lower upper)
  next notNegative =>
      obtain ⟨magnitude, rfl⟩ := Int.eq_ofNat_of_zero_le (Int.not_lt.mp notNegative)
      have small : magnitude < 2 ^ 64 := by omega
      exact value_number ((number_digitsOf false small ended).trans (integerOf_false lower upper))

theorem value_float (written : Binary64) (ended : IsEnded rest) :
    value (fuel + 1) depth (floatText written ++ rest) =
      .ok (.number (Number.float written).reread, rest) := by
  have read := number_reread written ended
  change value (fuel + 1) depth ((if written.negative = true then '-' :: magnitudeText written
    else magnitudeText written) ++ rest) = _
  by_cases negative : written.negative = true
  · rw [negative] at read
    rw [if_pos negative, List.cons_append, value, skipBlanks_cons (by decide)]
    exact read
  · rw [Bool.not_eq_true] at negative
    rw [negative] at read
    rw [if_neg (by simp [negative])]
    exact value_number read

/-- A value that is not an array or an object is read at every depth. -/
theorem value_scalar {written : Json} (ended : IsEnded rest) (scalar : written.nesting = 0) :
    value (fuel + 1) depth (written.chars ++ rest) = .ok (written.reread, rest) := by
  cases written with
  | null =>
      rw [value]
      rfl
  | bool truth =>
      rw [value]
      cases truth <;> rfl
  | number number =>
      cases number with
      | integer integer lower upper => exact value_integer lower upper ended
      | float written => exact value_float written ended
  | string text =>
      have opened : chars (.string text) ++ rest =
          '"' :: (text.toList.flatMap escapeChar ++ ['"'] ++ rest) := rfl
      rw [opened, value, skipBlanks_cons (by decide)]
      simp only [string_literal]
      rfl
  | array items => cases scalar
  | object members => cases scalar

/-- The text of a number starts with its sign or a digit. -/
theorem exists_first_text (number : Number) :
    ∃ first text, number.text = first :: text ∧ (first = '-' ∨ first.isDigit = true) := by
  cases number with
  | integer integer lower upper =>
      change ∃ first text, integerText integer = first :: text ∧ _
      unfold integerText
      split
      next => exact ⟨_, _, rfl, .inl rfl⟩
      next =>
        cases digits : digitsOf integer.natAbs with
        | nil => exact absurd digits Nat.toDigits_ne_nil
        | cons first text =>
            exact ⟨first, text, rfl, .inr (isDigit_of_mem_digitsOf (digits ▸ List.mem_cons_self))⟩
  | float written =>
      change ∃ first text, (if written.negative = true then '-' :: magnitudeText written
        else magnitudeText written) = first :: text ∧ _
      split
      next => exact ⟨_, _, rfl, .inl rfl⟩
      next =>
        have ended : IsEnded [] := nofun
        have read := number_reread written ended
        rw [List.append_nil] at read
        obtain ⟨first, text, start, digit⟩ := exists_digit_of_number read
        exact ⟨first, text, start, .inr digit⟩

theorem exists_first (written : Json) :
    ∃ first text, written.chars = first :: text ∧ isBlank first = false ∧ first ≠ ']' := by
  cases written with
  | null => exact ⟨_, _, rfl, by decide, by decide⟩
  | bool truth => cases truth <;> exact ⟨_, _, rfl, by decide, by decide⟩
  | number number =>
      obtain ⟨first, text, start, rfl | digit⟩ := exists_first_text number
      · exact ⟨_, text, start, by decide, by decide⟩
      · refine ⟨first, text, start, isBlank_of_isDigit digit, ?_⟩
        rintro rfl
        cases digit
  | string text => exact ⟨_, _, rfl, by decide, by decide⟩
  | array items => cases items <;> exact ⟨_, _, rfl, by decide, by decide⟩
  | object members => cases members <;> exact ⟨_, _, rfl, by decide, by decide⟩

theorem value_array {deepest : Nat} {listed : List Json}
    (inner : ∀ less, ReadsIf (deepest ≤ less) (items fuel less text) listed rest) :
    ReadsIf (deepest + 1 ≤ depth) (value (fuel + 1) depth ('[' :: text)) (.array listed) rest := by
  cases depth with
  | zero =>
      rw [value, skipBlanks_cons (by decide)]
      exact ⟨fun fits => absurd fits (Nat.not_succ_le_zero _), fun _ => ⟨_, rfl⟩⟩
  | succ less =>
      rw [value_openArray]
      exact ((inner less).map Json.array).congr Nat.succ_le_succ_iff.symm

theorem value_object {deepest : Nat} {listed : List (String × Json)}
    (inner : ∀ less, ReadsIf (deepest ≤ less) (members fuel less text) listed rest) :
    ReadsIf (deepest + 1 ≤ depth) (value (fuel + 1) depth ('\x7b' :: text))
      (.object (Members.ofList listed)) rest := by
  cases depth with
  | zero =>
      rw [value, skipBlanks_cons (by decide)]
      exact ⟨fun fits => absurd fits (Nat.not_succ_le_zero _), fun _ => ⟨_, rfl⟩⟩
  | succ less =>
      rw [value_openObject]
      exact ((inner less).map fun read => Json.object (Members.ofList read)).congr
        Nat.succ_le_succ_iff.symm

theorem member_held {condition : Prop} {held : Json} (name : String)
    (inner : ReadsIf condition (value fuel depth text) held rest) :
    ReadsIf condition
      (member (fuel + 1) depth (name.toList.flatMap escapeChar ++ ['"'] ++ (':' :: text)))
      (name, held) rest := by
  rw [member_literal]
  exact inner.map fun held => (name, held)

theorem isEnded_charsOfItems (listed : List Json) (rest : List Char) :
    IsEnded (charsOfItems listed ++ rest) := by
  cases listed with
  | nil => exact fun next equal => .inr (.inl (Option.some.inj equal).symm)
  | cons item listed => exact fun next equal => .inl (Option.some.inj equal).symm

theorem isEnded_charsOfMembers (listed : List (String × Json)) (rest : List Char) :
    IsEnded (charsOfMembers listed ++ rest) := by
  cases listed with
  | nil => exact fun next equal => .inr (.inr (Option.some.inj equal).symm)
  | cons item listed => exact fun next equal => .inl (Option.some.inj equal).symm

-- Each of the five functions that call each other on a written text has its theorem,
-- by recursion on what was written. Fuel of three for each character is kept by
-- every call, since a call comes with at least one character read.
mutual

/-- A written value is read exactly if it nests no deeper than may be opened. -/
theorem value_chars (written : Json) (fuel depth : Nat) (rest : List Char)
    (ended : IsEnded rest) (enough : 3 * written.chars.length ≤ fuel) :
    ReadsIf (written.nesting ≤ depth) (value fuel depth (written.chars ++ rest)) written.reread
      rest := by
  -- No text is empty, so there is fuel for the first step.
  obtain ⟨first, text, start, -⟩ := exists_first written
  obtain ⟨fuel, rfl⟩ : ∃ less, fuel = less + 1 := by
    rw [start, List.length_cons] at enough
    exact ⟨fuel - 1, by omega⟩
  match written with
  | .null => exact .of_eq (Nat.zero_le depth) (value_scalar ended rfl)
  | .bool _ => exact .of_eq (Nat.zero_le depth) (value_scalar ended rfl)
  | .number _ => exact .of_eq (Nat.zero_le depth) (value_scalar ended rfl)
  | .string _ => exact .of_eq (Nat.zero_le depth) (value_scalar ended rfl)
  | .array listed =>
      rw [chars_array, List.length_cons] at enough
      rw [chars_array, List.cons_append]
      exact value_array fun less => items_chars listed fuel less rest (by omega)
  | .object listed =>
      rw [chars_object, List.length_cons] at enough
      rw [chars_object, List.cons_append]
      exact value_object fun less => members_chars listed fuel less rest (by omega)

theorem items_chars (listed : List Json) (fuel depth : Nat) (rest : List Char)
    (enough : 3 * (charsInArray listed).length + 2 ≤ fuel) :
    ReadsIf (nestingOfItems listed ≤ depth)
      (items fuel depth (charsInArray listed ++ rest)) (rereadItems listed) rest := by
  match listed with
  | [] =>
      obtain ⟨fuel, rfl⟩ : ∃ less, fuel = less + 1 := by
        rw [charsInArray, List.length_singleton] at enough
        exact ⟨fuel - 1, by omega⟩
      refine .of_eq (Nat.zero_le depth) ?_
      rw [items]
      rfl
  | item :: listed =>
      rw [charsInArray, List.length_append] at enough
      obtain ⟨fuel, rfl⟩ : ∃ less, fuel = less + 1 := ⟨fuel - 1, by omega⟩
      obtain ⟨first, text, start, dark, opened⟩ := exists_first item
      have one := value_chars item fuel depth (charsOfItems listed ++ rest)
        (isEnded_charsOfItems listed rest) (by omega)
      have others := moreItems_chars listed fuel depth [item.reread] rest (by omega)
      rw [charsInArray, List.append_assoc, start, List.cons_append, items_cons dark opened,
        ← List.cons_append, ← start]
      exact (one.andThen others).congr Nat.max_le.symm

theorem moreItems_chars (listed : List Json) (fuel depth : Nat) (read : List Json)
    (rest : List Char) (enough : 3 * (charsOfItems listed).length ≤ fuel) :
    ReadsIf (nestingOfItems listed ≤ depth)
      (moreItems fuel depth read (charsOfItems listed ++ rest))
      (read.reverse ++ rereadItems listed) rest := by
  match listed with
  | [] =>
      obtain ⟨fuel, rfl⟩ : ∃ less, fuel = less + 1 := by
        rw [charsOfItems, List.length_singleton] at enough
        exact ⟨fuel - 1, by omega⟩
      refine .of_eq (Nat.zero_le depth) ?_
      rw [moreItems, rereadItems, List.append_nil]
      rfl
  | item :: listed =>
      rw [charsOfItems, List.length_cons, List.length_append] at enough
      obtain ⟨fuel, rfl⟩ : ∃ less, fuel = less + 1 := ⟨fuel - 1, by omega⟩
      obtain ⟨first, text, start, dark, opened⟩ := exists_first item
      have one := value_chars item fuel depth (charsOfItems listed ++ rest)
        (isEnded_charsOfItems listed rest) (by omega)
      have others := moreItems_chars listed fuel depth (item.reread :: read) rest (by omega)
      rw [charsOfItems, List.cons_append, List.append_assoc, start, List.cons_append,
        moreItems_cons dark opened, ← List.cons_append, ← start]
      rw [List.reverse_cons, List.append_assoc] at others
      exact (one.andThen others).congr Nat.max_le.symm

theorem members_chars (listed : List (String × Json)) (fuel depth : Nat) (rest : List Char)
    (enough : 3 * (charsInObject listed).length + 2 ≤ fuel) :
    ReadsIf (nestingOfMembers listed ≤ depth)
      (members fuel depth (charsInObject listed ++ rest)) (rereadMembers listed) rest := by
  match listed with
  | [] =>
      obtain ⟨fuel, rfl⟩ : ∃ less, fuel = less + 1 := by
        rw [charsInObject, List.length_singleton] at enough
        exact ⟨fuel - 1, by omega⟩
      refine .of_eq (Nat.zero_le depth) ?_
      rw [members]
      rfl
  | (name, held) :: listed =>
      rw [charsInObject, List.length_append, List.length_cons, List.length_append] at enough
      obtain ⟨fuel, rfl⟩ : ∃ less, fuel = less + 2 := ⟨fuel - 2, by omega⟩
      have one := member_held name (value_chars held fuel depth (charsOfMembers listed ++ rest)
        (isEnded_charsOfMembers listed rest) (by omega))
      have others := moreMembers_chars listed (fuel + 1) depth [(name, held.reread)] rest
        (by omega)
      rw [charsInObject, List.append_assoc, members_cons, List.cons_append,
        List.append_assoc held.chars]
      exact (one.andThen others).congr Nat.max_le.symm

theorem moreMembers_chars (listed : List (String × Json)) (fuel depth : Nat)
    (read : List (String × Json)) (rest : List Char)
    (enough : 3 * (charsOfMembers listed).length ≤ fuel) :
    ReadsIf (nestingOfMembers listed ≤ depth)
      (moreMembers fuel depth read (charsOfMembers listed ++ rest))
      (read.reverse ++ rereadMembers listed) rest := by
  match listed with
  | [] =>
      obtain ⟨fuel, rfl⟩ : ∃ less, fuel = less + 1 := by
        rw [charsOfMembers, List.length_singleton] at enough
        exact ⟨fuel - 1, by omega⟩
      refine .of_eq (Nat.zero_le depth) ?_
      rw [moreMembers, rereadMembers, List.append_nil]
      rfl
  | (name, held) :: listed =>
      rw [charsOfMembers, List.length_cons, List.length_append, List.length_cons,
        List.length_append] at enough
      obtain ⟨fuel, rfl⟩ : ∃ less, fuel = less + 2 := ⟨fuel - 2, by omega⟩
      have one := member_held name (value_chars held fuel depth (charsOfMembers listed ++ rest)
        (isEnded_charsOfMembers listed rest) (by omega))
      have others := moreMembers_chars listed (fuel + 1) depth ((name, held.reread) :: read) rest
        (by omega)
      rw [charsOfMembers, List.cons_append, List.append_assoc, moreMembers_cons, List.cons_append,
        List.append_assoc held.chars]
      rw [List.reverse_cons, List.append_assoc] at others
      exact (one.andThen others).congr Nat.max_le.symm

end

theorem objectDocument_chars (listed : Members) :
    ReadsIf ((object listed).nesting ≤ maxDepth)
      (members (fuelFor (charsInObject listed)) (maxDepth - 1) (charsInObject listed))
      (rereadMembers listed) [] := by
  have inside := members_chars listed (fuelFor (charsInObject listed)) (maxDepth - 1) []
    (by unfold fuelFor; omega)
  rw [List.append_nil] at inside
  refine inside.congr ?_
  rw [nesting, maxDepth]
  omega

end Reader

/-- The members of an object are read if it nests no deeper than the reader opens arrays
and objects. -/
theorem readMembers_chars {listed : Members}
    (shallow : (object listed).nesting ≤ Reader.maxDepth) :
    readMembers (chars (.object listed)) = .ok (rereadMembers listed) := by
  have read := (Reader.objectDocument_chars listed).reads shallow
  rw [chars_object, readMembers, Reader.objectDocument, read]
  rfl

theorem readMembers_chars_of_deep {listed : Members}
    (deep : ¬ (object listed).nesting ≤ Reader.maxDepth) :
    ∃ fault, readMembers (chars (.object listed)) = .error fault := by
  obtain ⟨stop, refused⟩ := (Reader.objectDocument_chars listed).refuses deep
  rw [chars_object, readMembers, Reader.objectDocument, refused]
  exact ⟨_, rfl⟩

/-- Two values without floats that have one text are one value, however deep they nest. -/
theorem eq_of_chars_eq {left right : Json} (leftPlain : left.IsPlain) (rightPlain : right.IsPlain)
    (same : left.chars = right.chars) : left = right := by
  have ended : IsEnded [] := nofun
  have one := Reader.value_chars left _ (max left.nesting right.nesting) [] ended le_rfl
  have other := Reader.value_chars right _ (max left.nesting right.nesting) [] ended le_rfl
  have read := one.reads (le_max_left _ _)
  rw [same, other.reads (le_max_right _ _), reread_eq_self left leftPlain.1 leftPlain.2,
    reread_eq_self right rightPlain.1 rightPlain.2] at read
  exact (Prod.mk.inj (Except.ok.inj read)).1.symm

end WebToken.Json
