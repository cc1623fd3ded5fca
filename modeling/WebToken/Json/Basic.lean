import WebToken.Json.Number

/-!
# JSON values

Objects are lists of named members in increasing order of name, each name once.
`Json.Ordered` says so at every depth. Names are compared by code point, which
is also the order of their UTF-8 octets.
-/

set_option autoImplicit false

namespace WebToken

inductive Json where
  | null
  | bool (value : Bool)
  | number (value : Json.Number)
  | string (value : String)
  | array (items : List Json)
  | object (members : List (String × Json))
deriving Repr

namespace Json

abbrev Members := List (String × Json)

/-!
## Members
-/

namespace Members

/-- Sets a member, at the place that keeps the names in order. An existing
member of that name is replaced. -/
def insert (name : String) (value : Json) : Members → Members
  | [] => [(name, value)]
  | (key, held) :: rest =>
      if name < key then (name, value) :: (key, held) :: rest
      else if name = key then (name, value) :: rest
      else (key, held) :: insert name value rest

def erase (name : String) : Members → Members
  | [] => []
  | (key, held) :: rest => if name = key then rest else (key, held) :: erase name rest

def find? (name : String) : Members → Option Json
  | [] => none
  | (key, held) :: rest => if name = key then some held else find? name rest

/-- Members collected in writing order: of equal names the last one counts. -/
def ofList (written : List (String × Json)) : Members :=
  written.foldl (fun members member => insert member.1 member.2 members) []

/-- The names increase strictly. -/
def Ordered (members : Members) : Prop :=
  members.Pairwise fun earlier later => earlier.1 < later.1

/-- Inserting adds no name but the inserted one. -/
theorem mem_insert {name : String} {value : Json} {members : Members} {member : String × Json}
    (found : member ∈ insert name value members) : member.1 = name ∨ member ∈ members := by
  induction members with
  | nil => simp_all [insert]
  | cons head rest ih => grind [insert]

theorem mem_of_mem_erase {name : String} {members : Members} {member : String × Json}
    (found : member ∈ erase name members) : member ∈ members := by
  induction members with
  | nil => simp_all [erase]
  | cons head rest ih => grind [erase]

theorem insert_ordered {name : String} {value : Json} {members : Members}
    (ordered : members.Ordered) : (insert name value members).Ordered := by
  unfold Ordered at ordered ⊢
  induction members with
  | nil => simp [insert]
  | cons head rest ih =>
      obtain ⟨key, held⟩ := head
      obtain ⟨above, tail⟩ := List.pairwise_cons.mp ordered
      simp only [insert]
      split
      next before =>
        refine List.pairwise_cons.mpr ⟨fun later found => ?_, ordered⟩
        rcases List.mem_cons.mp found with rfl | found
        · exact before
        · exact String.lt_trans before (above later found)
      next notBefore =>
        split
        next equal => exact List.pairwise_cons.mpr ⟨equal ▸ above, tail⟩
        next different =>
          refine List.pairwise_cons.mpr ⟨fun later found => ?_, ih tail⟩
          rcases mem_insert found with equal | found
          · have := Std.lt_trichotomy name key
            grind
          · exact above later found

theorem erase_ordered {name : String} {members : Members}
    (ordered : members.Ordered) : (erase name members).Ordered := by
  unfold Ordered at ordered ⊢
  induction members with
  | nil => simp [erase]
  | cons head rest ih =>
      obtain ⟨key, held⟩ := head
      obtain ⟨above, tail⟩ := List.pairwise_cons.mp ordered
      simp only [erase]
      split
      · exact tail
      · exact List.pairwise_cons.mpr ⟨fun later found => above later (mem_of_mem_erase found), ih tail⟩

theorem ofList_ordered (written : List (String × Json)) : (ofList written).Ordered := by
  have step : ∀ (rest : List (String × Json)) (members : Members), members.Ordered →
      (rest.foldl (fun members member => insert member.1 member.2 members) members).Ordered := by
    intro rest
    induction rest with
    | nil => exact fun _ ordered => ordered
    | cons _ _ ih => exact fun _ ordered => ih _ (insert_ordered ordered)
  exact step written [] List.Pairwise.nil

theorem find?_insert_self (name : String) (value : Json) (members : Members) :
    find? name (insert name value members) = some value := by
  induction members with
  | nil => simp [insert, find?]
  | cons head rest ih =>
      simp only [insert]
      split
      · simp [find?]
      · split
        · simp [find?]
        next different => simp [find?, different, ih]

theorem find?_insert_of_ne {name other : String} (different : other ≠ name) (value : Json)
    (members : Members) : find? other (insert name value members) = find? other members := by
  induction members with
  | nil => simp [insert, find?, different]
  | cons head rest ih =>
      simp only [insert]
      split
      · simp [find?, different]
      · split
        next equal => simp [find?, ← equal, different]
        next => simp only [find?, ih]

theorem find?_erase_of_ne {name other : String} (different : other ≠ name)
    (members : Members) : find? other (erase name members) = find? other members := by
  induction members with
  | nil => rfl
  | cons head rest ih =>
      simp only [erase]
      split
      next equal => simp [find?, ← equal, different]
      next => simp only [find?, ih]

theorem find?_eq_none {name : String} {members : Members}
    (absent : ∀ member ∈ members, name ≠ member.1) : find? name members = none := by
  induction members with
  | nil => rfl
  | cons head rest ih =>
      simp only [find?, if_neg (absent head List.mem_cons_self)]
      exact ih fun member found => absent member (List.mem_cons_of_mem head found)

/-- Erasing leaves no value behind: in an ordered object each name is there once. -/
theorem find?_erase_self {name : String} {members : Members} (ordered : members.Ordered) :
    find? name (erase name members) = none := by
  induction members with
  | nil => rfl
  | cons head rest ih =>
      obtain ⟨above, tail⟩ := List.pairwise_cons.mp ordered
      simp only [erase]
      split
      next equal =>
        refine find?_eq_none fun member found same => ?_
        have later := above member found
        rw [← equal, ← same] at later
        exact String.lt_irrefl name later
      next different => simp only [find?, if_neg different, ih tail]

end Members

/-!
## Order at every depth
-/

mutual

/-- Every object in the value has its names in increasing order. -/
def Ordered : Json → Prop
  | .array items => OrderedItems items
  | .object members => Members.Ordered members ∧ OrderedMembers members
  | _ => True

def OrderedItems : List Json → Prop
  | [] => True
  | item :: rest => Ordered item ∧ OrderedItems rest

def OrderedMembers : List (String × Json) → Prop
  | [] => True
  | (_, value) :: rest => Ordered value ∧ OrderedMembers rest

end

/-!
## Comparison
-/

mutual

/-- Sameness of structure, with numbers compared by `Number.same`. -/
def same : Json → Json → Bool
  | .null, .null => true
  | .bool left, .bool right => left == right
  | .number left, .number right => left.same right
  | .string left, .string right => left == right
  | .array left, .array right => sameItems left right
  | .object left, .object right => sameMembers left right
  | _, _ => false

def sameItems : List Json → List Json → Bool
  | [], [] => true
  | left :: lefts, right :: rights => same left right && sameItems lefts rights
  | _, _ => false

def sameMembers : List (String × Json) → List (String × Json) → Bool
  | [], [] => true
  | (leftName, left) :: lefts, (rightName, right) :: rights =>
      leftName == rightName && same left right && sameMembers lefts rights
  | _, _ => false

end

mutual

/-- The comparison of an expected value with a claim: numbers by value, arrays
item by item. Anything else, objects included, has to be the same. -/
def agrees : Json → Json → Bool
  | .number left, .number right => left.agrees right
  | .array left, .array right => agreesItems left right
  | left, right => left.same right

def agreesItems : List Json → List Json → Bool
  | [], [] => true
  | left :: lefts, right :: rights => agrees left right && agreesItems lefts rights
  | _, _ => false

end

/-!
## Views by type
-/

def bool? : Json → Option Bool
  | .bool value => some value
  | _ => none

def string? : Json → Option String
  | .string value => some value
  | _ => none

def number? : Json → Option Number
  | .number value => some value
  | _ => none

def array? : Json → Option (List Json)
  | .array items => some items
  | _ => none

def object? : Json → Option Members
  | .object members => some members
  | _ => none

/-- A number truncated toward zero to a signed 64-bit word. -/
def truncate? (node : Json) : Option Int64 :=
  node.number?.bind Number.truncate?

/-- A string as a list of one, or the items of an array of strings. -/
def stringList? : Json → Option (List String)
  | .string value => some [value]
  | .array items => items.mapM string?
  | _ => none

def ofInt64 (value : Int64) : Json :=
  .number (.ofInt64 value)

end Json

end WebToken
