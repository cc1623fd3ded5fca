import Mathlib.Data.List.Forall2
import WebToken.Claims.Basic
import WebToken.Proofs.Json.NumberAgreement

/-!
# What agreement means inside of a value

Arrays agree item by item. Objects agree only if they are the same: they have the same
names with the same values, where an integer is never the same as a float. Objects that
agree therefore agree under each name, and the converse holds as long as the values
compared under a name have numbers of one kind.
-/

set_option autoImplicit false

namespace WebToken

namespace Json

/-!
## Numbers
-/

namespace Number

def IsFloat : Number → Prop
  | .integer _ _ _ => False
  | .float _ => True

/-- The same numbers are of one kind and have the same value. -/
theorem same_iff {left right : Number} :
    left.same right = true ↔ (left.IsFloat ↔ right.IsFloat) ∧ left.value = right.value := by
  cases left with
  | integer whole lower upper =>
      cases right with
      | integer other least greatest => simp [same, IsFloat, value]
      | float rounded => simp [same, IsFloat]
  | float rounded =>
      cases right with
      | integer other least greatest => simp [same, IsFloat]
      | float approximate => simp [same, IsFloat, value, Binary64.sameValue_iff]

theorem agrees_of_same {left right : Number} (alike : left.same right = true) :
    left.agrees right = true :=
  agrees_iff.mpr (.inl (same_iff.mp alike).2)

theorem IsSigned.not_isFloat {number : Number} (signed : number.IsSigned) : ¬ number.IsFloat := by
  cases number with
  | integer whole lower upper => exact id
  | float rounded => cases signed

theorem agrees_eq_same_of_signed {left right : Number} (signedLeft : left.IsSigned)
    (signedRight : right.IsSigned) : left.agrees right = left.same right := by
  have kinds : left.IsFloat ↔ right.IsFloat :=
    iff_of_false signedLeft.not_isFloat signedRight.not_isFloat
  rw [Bool.eq_iff_iff, agrees_iff_of_signed signedLeft signedRight, same_iff]
  exact ⟨fun equal => ⟨kinds, equal⟩, And.right⟩

theorem agrees_eq_same_of_float {left right : Number} (floatLeft : left.IsFloat)
    (floatRight : right.IsFloat) : left.agrees right = left.same right := by
  cases left with
  | integer whole lower upper => cases floatLeft
  | float rounded =>
      cases right with
      | integer other least greatest => cases floatRight
      | float approximate => rfl

end Number

/-!
## Arrays
-/

theorem agreesItems_iff {lefts rights : List Json} :
    agreesItems lefts rights = true ↔
      List.Forall₂ (fun left right => left.agrees right = true) lefts rights := by
  induction lefts generalizing rights with
  | nil =>
      cases rights with
      | nil => simp [agreesItems]
      | cons right rights => simp [agreesItems]
  | cons left lefts ih =>
      cases rights with
      | nil => simp [agreesItems]
      | cons right rights => rw [agreesItems, Bool.and_eq_true, ih, List.forall₂_cons]

mutual

theorem agrees_of_same {left right : Json} (alike : left.same right = true) :
    left.agrees right = true := by
  cases left with
  | number number =>
      cases right with
      | number other =>
          rw [same] at alike
          rw [agrees]
          exact Number.agrees_of_same alike
      | _ => cases alike
  | array items =>
      cases right with
      | array others =>
          rw [same] at alike
          rw [agrees]
          exact agreesItems_of_same alike
      | _ => cases alike
  | _ => exact alike

theorem agreesItems_of_same {lefts rights : List Json} (alike : sameItems lefts rights = true) :
    agreesItems lefts rights = true := by
  cases lefts with
  | nil =>
      cases rights with
      | nil => rfl
      | cons right rights => cases alike
  | cons left lefts =>
      cases rights with
      | nil => cases alike
      | cons right rights =>
          rw [sameItems, Bool.and_eq_true] at alike
          rw [agreesItems, agrees_of_same alike.1, agreesItems_of_same alike.2]
          rfl

end

/-!
## Values with numbers of one kind
-/

mutual

/-- Every number outside of objects is of a kind. -/
def HasNumbers (kind : Number → Prop) : Json → Prop
  | .number value => kind value
  | .array items => HasNumbersItems kind items
  | _ => True

def HasNumbersItems (kind : Number → Prop) : List Json → Prop
  | [] => True
  | item :: rest => HasNumbers kind item ∧ HasNumbersItems kind rest

end

/-- The numbers that two values have outside of objects are all signed integers, or they
are all floats. -/
def OfOneKind (left right : Json) : Prop :=
  left.HasNumbers Number.IsSigned ∧ right.HasNumbers Number.IsSigned ∨
    left.HasNumbers Number.IsFloat ∧ right.HasNumbers Number.IsFloat

/-- Numbers of a kind agree only if they are the same. -/
def Number.IsStrict (kind : Number → Prop) : Prop :=
  ∀ left right, kind left → kind right → left.agrees right = left.same right

mutual

theorem agrees_eq_same {kind : Number → Prop} (strict : Number.IsStrict kind) {left right : Json}
    (leftHas : left.HasNumbers kind) (rightHas : right.HasNumbers kind) :
    left.agrees right = left.same right := by
  cases left with
  | number number =>
      cases right with
      | number other =>
          rw [agrees, same]
          exact strict number other leftHas rightHas
      | _ => rfl
  | array items =>
      cases right with
      | array others =>
          rw [agrees, same]
          exact agreesItems_eq_same strict leftHas rightHas
      | _ => rfl
  | _ => rfl

theorem agreesItems_eq_same {kind : Number → Prop} (strict : Number.IsStrict kind)
    {lefts rights : List Json} (leftHave : HasNumbersItems kind lefts)
    (rightHave : HasNumbersItems kind rights) :
    agreesItems lefts rights = sameItems lefts rights := by
  cases lefts with
  | nil => cases rights <;> rfl
  | cons left lefts =>
      cases rights with
      | nil => rfl
      | cons right rights =>
          rw [agreesItems, sameItems, agrees_eq_same strict leftHave.1 rightHave.1,
            agreesItems_eq_same strict leftHave.2 rightHave.2]

end

theorem OfOneKind.agrees_eq_same {left right : Json} (kinds : OfOneKind left right) :
    left.agrees right = left.same right := by
  cases kinds with
  | inl signed =>
      exact Json.agrees_eq_same (fun _ _ => Number.agrees_eq_same_of_signed) signed.1 signed.2
  | inr float =>
      exact Json.agrees_eq_same (fun _ _ => Number.agrees_eq_same_of_float) float.1 float.2

/-!
## Objects
-/

namespace Members

theorem find?_eq_none_of_lt {name : String} {members : Members}
    (before : ∀ member ∈ members, name < member.1) : find? name members = none := by
  refine find?_eq_none ?_
  intro member found same
  have after := before member found
  rw [same] at after
  exact String.lt_irrefl _ after

/-- The values that two lists of members have under a name are the same, or the name is
in neither list. -/
def SameUnder (left right : Members) (name : String) : Prop :=
  Option.Rel (fun left right : Json => left.same right = true) (find? name left) (find? name right)

theorem SameUnder.of_tail {name : String} {leftValue rightValue : Json} {left right : Members}
    (under : ∀ other, SameUnder ((name, leftValue) :: left) ((name, rightValue) :: right) other)
    (aboveLeft : ∀ member ∈ left, name < member.1)
    (aboveRight : ∀ member ∈ right, name < member.1) (other : String) :
    SameUnder left right other := by
  by_cases equal : other = name
  · unfold SameUnder
    rw [equal, find?_eq_none_of_lt aboveLeft, find?_eq_none_of_lt aboveRight]
    exact .none
  · have rest := under other
    simp only [SameUnder, find?, if_neg equal] at rest
    exact rest

/-- The least names of two objects that are the same under each name are equal. -/
theorem SameUnder.head_eq {leftName rightName : String} {leftValue rightValue : Json}
    {left right : Members}
    (under : ∀ name,
      SameUnder ((leftName, leftValue) :: left) ((rightName, rightValue) :: right) name)
    (aboveLeft : ∀ member ∈ left, leftName < member.1)
    (aboveRight : ∀ member ∈ right, rightName < member.1) : leftName = rightName := by
  rcases Std.lt_trichotomy leftName rightName with before | equal | after
  · have different : leftName ≠ rightName := fun same => String.lt_irrefl _ (same ▸ before)
    have absent : find? leftName right = none :=
      find?_eq_none_of_lt fun member found => String.lt_trans before (aboveRight member found)
    have pair := under leftName
    simp only [SameUnder, find?, ↓reduceIte, if_neg different, absent, Option.not_rel_some_none]
      at pair
  · exact equal
  · have different : rightName ≠ leftName := fun same => String.lt_irrefl _ (same ▸ after)
    have absent : find? rightName left = none :=
      find?_eq_none_of_lt fun member found => String.lt_trans after (aboveLeft member found)
    have pair := under rightName
    simp only [SameUnder, find?, ↓reduceIte, if_neg different, absent, Option.not_rel_none_some]
      at pair

/-- Members in order are the same in writing if and only if they are the same under each
name. -/
theorem sameMembers_iff {left right : Members} (leftOrdered : left.Ordered)
    (rightOrdered : right.Ordered) :
    sameMembers left right = true ↔ ∀ name, SameUnder left right name := by
  induction left generalizing right with
  | nil =>
      cases right with
      | nil => exact ⟨fun _ _ => .none, fun _ => rfl⟩
      | cons head rest =>
          constructor
          · intro written
            cases written
          · intro under
            have pair := under head.1
            simp only [SameUnder, find?, ↓reduceIte, Option.not_rel_none_some] at pair
  | cons head rest ih =>
      obtain ⟨name, value⟩ := head
      obtain ⟨aboveLeft, tail⟩ := List.pairwise_cons.mp leftOrdered
      cases right with
      | nil =>
          constructor
          · intro written
            cases written
          · intro under
            have pair := under name
            simp only [SameUnder, find?, ↓reduceIte, Option.not_rel_some_none] at pair
      | cons other others =>
          obtain ⟨otherName, otherValue⟩ := other
          obtain ⟨aboveRight, otherTail⟩ := List.pairwise_cons.mp rightOrdered
          rw [sameMembers, Bool.and_eq_true, Bool.and_eq_true, beq_iff_eq, ih tail otherTail]
          constructor
          · intro written
            obtain ⟨⟨rfl, alike⟩, under⟩ := written
            intro asked
            by_cases equal : asked = name
            · simp only [SameUnder, find?, if_pos equal, Option.rel_some_some]
              exact alike
            · simp only [SameUnder, find?, if_neg equal]
              exact under asked
          · intro under
            obtain rfl := SameUnder.head_eq under aboveLeft aboveRight
            have pair := under name
            simp only [SameUnder, find?, ↓reduceIte, Option.rel_some_some] at pair
            exact ⟨⟨rfl, pair⟩, SameUnder.of_tail under aboveLeft aboveRight⟩

end Members

end Json

namespace Claims

/-- The same names are there, and the values under each of them compare. -/
def Alike (compare : Json → Json → Bool) (left right : Claims) : Prop :=
  ∀ name, Option.Rel (fun value other => compare value other = true) (left.find? name)
    (right.find? name)

theorem agrees_iff_same {left right : Claims} :
    left.toJson.agrees right.toJson = true ↔ Alike Json.same left right := by
  have written : left.toJson.agrees right.toJson = Json.sameMembers left.members right.members :=
    rfl
  rw [written, Json.Members.sameMembers_iff left.ordered right.ordered]
  exact Iff.rfl

theorem Alike.mono {compare coarser : Json → Json → Bool} {left right : Claims}
    (alike : Alike compare left right)
    (coarsens : ∀ name value other, left.find? name = some value → right.find? name = some other →
      compare value other = true → coarser value other = true) :
    Alike coarser left right := by
  intro name
  have pair := alike name
  cases held : left.find? name with
  | none =>
      rw [held] at pair
      cases against : right.find? name with
      | none => exact .none
      | some other =>
          rw [against] at pair
          cases pair
  | some value =>
      rw [held] at pair
      cases against : right.find? name with
      | none =>
          rw [against] at pair
          cases pair
      | some other =>
          rw [against, Option.rel_some_some] at pair
          exact .some (coarsens name value other held against pair)

/-- Arrays agree item by item. Objects agree if and only if they have the same names with
the same values under each, which are numbers of one kind where they are numbers. Then
they agree under each name, and this is enough if the values under each name have
numbers of one kind. -/
theorem agrees_by_structure (lefts rights : List Json) (left right : Claims) :
    ((Json.array lefts).agrees (.array rights) = true ↔
      List.Forall₂ (fun value other => value.agrees other = true) lefts rights) ∧
    (left.toJson.agrees right.toJson = true ↔ Alike Json.same left right) ∧
    (∀ number other : Json.Number, (Json.number number).same (.number other) = true ↔
      (number.IsFloat ↔ other.IsFloat) ∧ number.value = other.value) ∧
    (left.toJson.agrees right.toJson = true → Alike Json.agrees left right) ∧
    ((∀ name value other, left.find? name = some value → right.find? name = some other →
        Json.OfOneKind value other) →
      (left.toJson.agrees right.toJson = true ↔ Alike Json.agrees left right)) := by
  have agreed : left.toJson.agrees right.toJson = true → Alike Json.agrees left right := by
    intro whole
    refine (agrees_iff_same.mp whole).mono ?_
    intro _ _ _ _ _ alike
    exact Json.agrees_of_same alike
  refine ⟨?_, agrees_iff_same, ?_, agreed, ?_⟩
  · rw [Json.agrees]
    exact Json.agreesItems_iff
  · intro number other
    rw [Json.same]
    exact Json.Number.same_iff
  · intro kinds
    refine ⟨agreed, ?_⟩
    intro alike
    refine agrees_iff_same.mpr (alike.mono ?_)
    intro name value other held against agreement
    rw [← (kinds name value other held against).agrees_eq_same]
    exact agreement

/-- An object with an integer does not agree with one that has the float of that value. -/
theorem not_agrees_iff_alike :
    ¬ ∀ left right : Claims,
      left.toJson.agrees right.toJson = true ↔ Alike Json.agrees left right := by
  intro structural
  let whole : Json := .number (.integer 1 (by decide) (by decide))
  let float : Json := .number (.float (Binary64.ofInt 1))
  have equal : whole.agrees float = true := by decide +kernel
  have alike : Alike Json.agrees (empty.insert "n" whole) (empty.insert "n" float) := by
    intro name
    rw [find?_insert, find?_insert]
    by_cases asked : name = "n"
    · rw [if_pos asked, if_pos asked]
      exact .some equal
    · rw [if_neg asked, if_neg asked]
      exact .none
  have agreed := (structural _ _).mpr alike
  exact absurd agreed (by decide +kernel)

end Claims

end WebToken
