import Mathlib.Data.List.Induction
import Mathlib.Data.List.Nodup
import WebToken.Policy.Verifier

/-!
# What a run of edits leaves in force

A policy is edited in place: a requirement is replaced where it stands, dropped,
or added at the end. Here the requirements that any run of edits leaves are
characterized by the run alone. There is one for each claim whose last edit asks
something, it holds what that edit asks, and it stands in the order of the edits
that brought the claims in and were not undone.
-/

set_option autoImplicit false

namespace WebToken

/-!
## Requirements in a list
-/

namespace Requirement

/-- The claim that a requirement is about. -/
def about (requirement : Requirement) : Part × String :=
  (requirement.part, requirement.name)

theorem isAbout_iff {part : Part} {name : String} {requirement : Requirement} :
    requirement.isAbout part name = true ↔ requirement.about = (part, name) := by
  simp [isAbout, about]

/-- Setting an expectation adds its claim at the end unless it is there. -/
theorem map_about_set (part : Part) (name : String) (expected : Expectation)
    (requirements : List Requirement) :
    (set part name expected requirements).map about =
      if (part, name) ∈ requirements.map about then requirements.map about
      else requirements.map about ++ [(part, name)] := by
  induction requirements with
  | nil => rfl
  | cons first rest ih =>
      by_cases same : first.about = (part, name)
      · simp only [set, isAbout_iff.mpr same, ↓reduceIte, List.map_cons, ← same,
          List.mem_cons, true_or]
        rfl
      · have different : first.isAbout part name = false := by
          simpa using mt isAbout_iff.mp same
        simp only [set, different, Bool.false_eq_true, ↓reduceIte, List.map_cons, ih,
          List.mem_cons, Ne.symm same, false_or]
        split <;> rfl

/-- Where claims are distinct, setting an expectation replaces the one requirement
about its claim. -/
theorem mem_set {part : Part} {name : String} {expected : Expectation}
    {requirements : List Requirement} (distinct : (requirements.map about).Nodup)
    {requirement : Requirement} :
    requirement ∈ set part name expected requirements ↔
      requirement = ⟨part, name, expected⟩ ∨
        requirement ∈ requirements ∧ requirement.about ≠ (part, name) := by
  induction requirements with
  | nil => simp [set]
  | cons first rest ih =>
      obtain ⟨apart, distinctRest⟩ := List.nodup_cons.mp distinct
      by_cases same : first.about = (part, name)
      · have replaced : { first with expected } = (⟨part, name, expected⟩ : Requirement) := by
          obtain ⟨samePart, sameName⟩ := Prod.mk.inj same
          rw [← samePart, ← sameName]
        have elsewhere : ∀ other ∈ rest, other.about ≠ (part, name) :=
          fun other member equal => apart (same ▸ equal ▸ List.mem_map_of_mem member)
        simp only [set, isAbout_iff.mpr same, ↓reduceIte, replaced, List.mem_cons]
        constructor
        · intro found
          rcases found with equal | member
          · exact .inl equal
          · exact .inr ⟨.inr member, elsewhere _ member⟩
        · intro found
          rcases found with equal | ⟨equal | member, different⟩
          · exact .inl equal
          · exact absurd (equal ▸ same) different
          · exact .inr member
      · have different : first.isAbout part name = false := by
          simpa using mt isAbout_iff.mp same
        simp only [set, different, Bool.false_eq_true, ↓reduceIte, List.mem_cons, ih distinctRest]
        constructor
        · intro found
          rcases found with equal | equal | ⟨member, apart⟩
          · exact .inr ⟨.inl equal, equal ▸ same⟩
          · exact .inl equal
          · exact .inr ⟨.inr member, apart⟩
        · intro found
          rcases found with equal | ⟨equal | member, apart⟩
          · exact .inr (.inl equal)
          · exact .inl equal
          · exact .inr (.inr ⟨member, apart⟩)

/-- Where claims are distinct, a removal takes away the one requirement about its
claim. -/
theorem remove_eq_filter {part : Part} {name : String} {requirements : List Requirement}
    (distinct : (requirements.map about).Nodup) :
    remove part name requirements =
      requirements.filter fun requirement => requirement.about ≠ (part, name) := by
  unfold remove
  induction requirements with
  | nil => rfl
  | cons first rest ih =>
      obtain ⟨apart, distinctRest⟩ := List.nodup_cons.mp distinct
      by_cases same : first.about = (part, name)
      · have elsewhere : ∀ other ∈ rest, other.about ≠ (part, name) :=
          fun other member equal => apart (same ▸ equal ▸ List.mem_map_of_mem member)
        rw [List.eraseP_cons_of_pos (isAbout_iff.mpr same),
          List.filter_cons_of_neg (by simpa using same)]
        exact (List.filter_eq_self.mpr (by simpa using elsewhere)).symm
      · rw [List.eraseP_cons_of_neg (mt isAbout_iff.mp same),
          List.filter_cons_of_pos (by simpa using same), ih distinctRest]

end Requirement

namespace Policy

/-!
## Edits of claims
-/

/-- The claim that an edit is about, and what is expected of it from then on.
Edits of the time windows are about no claim. -/
def Edit.assignment? : Edit → Option (Part × String × Option Expectation)
  | .issuer value => some (.payload, Registered.issuer, some (.value (.string value)))
  | .subject value => some (.payload, Registered.subject, some (.value (.string value)))
  | .audience values => some (.payload, Registered.audience, some (.strings values))
  | .expiresAt instant => some (.payload, Registered.expiresAt, some (.date instant.unixSeconds))
  | .notBefore instant => some (.payload, Registered.notBefore, some (.date instant.unixSeconds))
  | .issuedAt instant => some (.payload, Registered.issuedAt, some (.date instant.unixSeconds))
  | .tokenId value => some (.payload, Registered.tokenId, some (.value (.string value)))
  | .keyId value => some (.header, HeaderName.keyId, some (.value (.string value)))
  | .claim name .null => some (.payload, name, none)
  | .claim name value => some (.payload, name, some (.value value))
  | .dateClaim name instant => some (.payload, name, some (.date instant.unixSeconds))
  | .predicate name accepts => some (.payload, name, some (.predicate accepts))
  | .waiveClaim name => some (.payload, name, none)
  | .allowLeeway _ => none
  | .allowExpiryLeeway _ => none
  | .allowNotBeforeLeeway _ => none
  | .allowIssuedAtLeeway _ => none
  | .waiveIssuedAt => none

/-- What an edit says of one claim: nothing, that nothing is expected of it any
more, or what is expected of it. -/
def Edit.saysOf (part : Part) (name : String) (change : Edit) : Option (Option Expectation) :=
  change.assignment?.bind fun assignment =>
    if assignment.1 = part ∧ assignment.2.1 = name then some assignment.2.2 else none

/-- What is expected of a claim after a run of edits: what the last edit that
says something of it says. -/
def expectedAfter (edits : List Edit) (part : Part) (name : String) : Option Expectation :=
  (edits.reverse.findSome? (Edit.saysOf part name)).join

/-- At a place of a run the requirement about a claim comes in for good: the edit
there asks something of the claim, nothing was expected of it before, and no
later edit drops it. -/
structure IntroducedAt (edits : List Edit) (part : Part) (name : String) (place : Nat) : Prop where
  asks : ∃ change expected, edits[place]? = some change ∧
    change.saysOf part name = some (some expected)
  fresh : expectedAfter (edits.take place) part name = none
  kept : ∀ change ∈ edits.drop (place + 1), change.saysOf part name ≠ some none

/-- One claim came in for good at an earlier place than another. -/
def Precedes (edits : List Edit) (earlier later : Part × String) : Prop :=
  ∃ place next, IntroducedAt edits earlier.1 earlier.2 place ∧
    IntroducedAt edits later.1 later.2 next ∧ place < next

/-- The requirements that a run of edits leaves in force, in the order of the
places where their claims came in for good. -/
structure InForce (edits : List Edit) (requirements : List Requirement) : Prop where
  members : ∀ requirement, requirement ∈ requirements ↔
    expectedAfter edits requirement.part requirement.name = some requirement.expected
  order : (requirements.map Requirement.about).Pairwise (Precedes edits)

/-!
## One more edit
-/

theorem requirements_edit (policy : Policy) (change : Edit) :
    (policy.edit change).requirements =
      match change.assignment? with
      | none => policy.requirements
      | some (part, name, expected) => (policy.assign part name expected).requirements := by
  cases change with
  | claim name value => cases value <;> rfl
  | _ => rfl

/-- An edit that is about a claim does nothing else. -/
theorem edit_eq_assign {change : Edit} {part : Part} {name : String}
    {expected : Option Expectation} (assigned : change.assignment? = some (part, name, expected))
    (policy : Policy) : policy.edit change = policy.assign part name expected := by
  cases change with
  | claim other value => cases value <;> cases assigned <;> rfl
  | _ => cases assigned <;> rfl

theorem expectedAfter_concat (edits : List Edit) (change : Edit) (part : Part) (name : String) :
    expectedAfter (edits ++ [change]) part name =
      (change.saysOf part name).getD (expectedAfter edits part name) := by
  unfold expectedAfter
  rw [List.reverse_append, List.reverse_singleton, List.singleton_append, List.findSome?_cons]
  cases change.saysOf part name with
  | none => rfl
  | some expected => rfl

/-- What was asked of a claim stays asked while no edit drops it. -/
theorem expectedAfter_isSome (before : List Edit) {after : List Edit} {change : Edit}
    {part : Part} {name : String} {expected : Expectation}
    (asks : change.saysOf part name = some (some expected))
    (kept : ∀ later ∈ after, later.saysOf part name ≠ some none) :
    (expectedAfter (before ++ change :: after) part name).isSome := by
  induction after using List.reverseRecOn with
  | nil => simp [expectedAfter_concat, asks]
  | append_singleton after later ih =>
      have earlier := ih fun other member => kept other (List.mem_append_left _ member)
      have notDropped := kept later (by simp)
      rw [← List.cons_append, ← List.append_assoc, expectedAfter_concat]
      cases said : later.saysOf part name with
      | none => simpa using earlier
      | some asked =>
          cases asked with
          | none => exact absurd said notDropped
          | some _ => rfl

/-!
## Places in a run
-/

theorem IntroducedAt.lt_length {edits : List Edit} {part : Part} {name : String} {place : Nat}
    (introduced : IntroducedAt edits part name place) : place < edits.length := by
  obtain ⟨change, _, found, _⟩ := introduced.asks
  exact (List.getElem?_eq_some_iff.mp found).1

theorem IntroducedAt.concat {edits : List Edit} {part : Part} {name : String} {place : Nat}
    (introduced : IntroducedAt edits part name place) {change : Edit}
    (notDropped : change.saysOf part name ≠ some none) :
    IntroducedAt (edits ++ [change]) part name place := by
  have bound := introduced.lt_length
  obtain ⟨asking, expected, found, asks⟩ := introduced.asks
  refine ⟨⟨asking, expected, ?_, asks⟩, ?_, ?_⟩
  · rw [List.getElem?_append_left bound, found]
  · rw [List.take_append_of_le_length (Nat.le_of_lt bound)]
    exact introduced.fresh
  · intro later member
    rw [List.drop_append_of_le_length bound] at member
    rcases List.mem_append.mp member with earlier | last
    · exact introduced.kept later earlier
    · rw [List.mem_singleton.mp last]
      exact notDropped

/-- An edit that asks something of a claim of which nothing was expected brings
it in at the end of the run. -/
theorem introducedAt_length {edits : List Edit} {part : Part} {name : String} {change : Edit}
    {expected : Expectation} (asks : change.saysOf part name = some (some expected))
    (fresh : expectedAfter edits part name = none) :
    IntroducedAt (edits ++ [change]) part name edits.length := by
  refine ⟨⟨change, expected, by simp, asks⟩, ?_, by simp⟩
  rw [List.take_left]
  exact fresh

/-- A claim does not come in again while it is in force. -/
theorem IntroducedAt.not_lt {edits : List Edit} {part : Part} {name : String} {place next : Nat}
    (introduced : IntroducedAt edits part name place)
    (again : IntroducedAt edits part name next) : ¬ place < next := by
  intro before
  obtain ⟨change, expected, found, asks⟩ := introduced.asks
  have placed : (edits.take next)[place]? = some change := by
    rw [List.getElem?_take_of_lt before, found]
  obtain ⟨inside, here⟩ := List.getElem?_eq_some_iff.mp placed
  have split : edits.take next =
      (edits.take next).take place ++ change :: (edits.take next).drop (place + 1) := by
    rw [← here, ← List.drop_eq_getElem_cons inside, List.take_append_drop]
  have kept : ∀ later ∈ (edits.take next).drop (place + 1),
      later.saysOf part name ≠ some none := by
    intro later member
    rw [List.drop_take] at member
    exact introduced.kept later (List.mem_of_mem_take member)
  have present := expectedAfter_isSome ((edits.take next).take place) asks kept
  rw [← split, again.fresh] at present
  cases present

theorem IntroducedAt.unique {edits : List Edit} {part : Part} {name : String} {place next : Nat}
    (introduced : IntroducedAt edits part name place)
    (again : IntroducedAt edits part name next) : place = next :=
  Nat.le_antisymm (Nat.le_of_not_lt (again.not_lt introduced))
    (Nat.le_of_not_lt (introduced.not_lt again))

theorem exists_introducedAt {edits : List Edit} {part : Part} {name : String}
    {expected : Expectation} (found : expectedAfter edits part name = some expected) :
    ∃ place, IntroducedAt edits part name place := by
  induction edits using List.reverseRecOn generalizing expected with
  | nil => cases found
  | append_singleton edits change ih =>
      rw [expectedAfter_concat] at found
      have notDropped : change.saysOf part name ≠ some none := by
        intro dropped
        rw [dropped] at found
        cases found
      cases before : expectedAfter edits part name with
      | some held =>
          obtain ⟨place, introduced⟩ := ih before
          exact ⟨place, introduced.concat notDropped⟩
      | none =>
          cases said : change.saysOf part name with
          | none =>
              rw [said, before] at found
              cases found
          | some asked =>
              rw [said, Option.getD_some] at found
              exact ⟨edits.length, introducedAt_length (said.trans (congrArg some found)) before⟩

/-!
## The requirements in force
-/

theorem Edit.saysOf_eq {change : Edit} {part : Part} {name : String}
    {expected : Option Expectation} (assigned : change.assignment? = some (part, name, expected))
    (requirement : Requirement) :
    change.saysOf requirement.part requirement.name =
      if requirement.about = (part, name) then some expected else none := by
  simp only [saysOf, assigned, Option.bind_some, Requirement.about, Prod.mk.injEq,
    eq_comm (a := part), eq_comm (a := name)]

theorem InForce.nodup {edits : List Edit} {requirements : List Requirement}
    (inForce : InForce edits requirements) : (requirements.map Requirement.about).Nodup := by
  refine inForce.order.imp ?_
  rintro earlier later ⟨place, next, introduced, again, before⟩ same
  exact introduced.not_lt (same ▸ again) before

theorem Precedes.concat {edits : List Edit} {earlier later : Part × String} {change : Edit}
    (precedes : Precedes edits earlier later)
    (keepsEarlier : change.saysOf earlier.1 earlier.2 ≠ some none)
    (keepsLater : change.saysOf later.1 later.2 ≠ some none) :
    Precedes (edits ++ [change]) earlier later := by
  obtain ⟨place, next, introduced, again, before⟩ := precedes
  exact ⟨place, next, introduced.concat keepsEarlier, again.concat keepsLater, before⟩

private theorem InForce.edit_nothing {edits : List Edit} {requirements : List Requirement}
    (inForce : InForce edits requirements) {change : Edit} (silent : change.assignment? = none) :
    InForce (edits ++ [change]) requirements := by
  have nothing : ∀ part name, change.saysOf part name = none := by
    intro part name
    rw [Edit.saysOf, silent, Option.bind_none]
  constructor
  · intro requirement
    rw [expectedAfter_concat, nothing, Option.getD_none]
    exact inForce.members requirement
  · exact inForce.order.imp fun precedes =>
      precedes.concat (by rw [nothing]; nofun) (by rw [nothing]; nofun)

private theorem InForce.edit_set {edits : List Edit} {requirements : List Requirement}
    (inForce : InForce edits requirements) {change : Edit} {part : Part} {name : String}
    {expected : Expectation} (assigned : change.assignment? = some (part, name, some expected)) :
    InForce (edits ++ [change]) (Requirement.set part name expected requirements) := by
  have dropsNone : ∀ part' name', change.saysOf part' name' ≠ some none := by
    intro part' name'
    rw [Edit.saysOf_eq assigned ⟨part', name', expected⟩]
    split <;> simp
  have kept : (requirements.map Requirement.about).Pairwise (Precedes (edits ++ [change])) :=
    inForce.order.imp fun precedes => precedes.concat (dropsNone _ _) (dropsNone _ _)
  constructor
  · intro requirement
    rw [Requirement.mem_set inForce.nodup, expectedAfter_concat, Edit.saysOf_eq assigned]
    by_cases same : requirement.about = (part, name)
    · obtain ⟨samePart, sameName⟩ := Prod.mk.inj same
      simp only [same, ne_eq, not_true_eq_false, and_false, or_false, ↓reduceIte,
        Option.getD_some, Option.some.injEq]
      constructor
      · rintro rfl
        rfl
      · intro equal
        rw [← samePart, ← sameName, equal]
    · have different : requirement ≠ ⟨part, name, expected⟩ := fun equal => same (equal ▸ rfl)
      simp only [same, different, ne_eq, not_false_eq_true, and_true, false_or, ↓reduceIte,
        Option.getD_none]
      exact inForce.members requirement
  · rw [Requirement.map_about_set]
    -- Replaced in place nothing moves; a claim that is new comes in after all the others.
    split
    · exact kept
    next absent =>
      refine List.pairwise_append.mpr ⟨kept, List.pairwise_singleton _ _, ?_⟩
      have fresh : expectedAfter edits part name = none := by
        cases found : expectedAfter edits part name with
        | none => rfl
        | some asked =>
            have member := (inForce.members ⟨part, name, asked⟩).mpr found
            exact absurd (List.mem_map_of_mem member) absent
      have asks : change.saysOf part name = some (some expected) := by
        rw [Edit.saysOf_eq assigned ⟨part, name, expected⟩]
        exact if_pos rfl
      intro earlier member later last
      obtain ⟨first, held, rfl⟩ := List.mem_map.mp member
      obtain ⟨place, introduced⟩ := exists_introducedAt ((inForce.members first).mp held)
      rw [List.mem_singleton.mp last]
      exact ⟨place, edits.length, introduced.concat (dropsNone _ _), introducedAt_length asks fresh,
        introduced.lt_length⟩

private theorem InForce.edit_remove {edits : List Edit} {requirements : List Requirement}
    (inForce : InForce edits requirements) {change : Edit} {part : Part} {name : String}
    (assigned : change.assignment? = some (part, name, none)) :
    InForce (edits ++ [change]) (Requirement.remove part name requirements) := by
  rw [Requirement.remove_eq_filter inForce.nodup]
  constructor
  · intro requirement
    rw [expectedAfter_concat, Edit.saysOf_eq assigned]
    by_cases same : requirement.about = (part, name)
    · simp [same]
    · simp only [List.mem_filter, same, ne_eq, not_false_eq_true, decide_true, and_true,
        ↓reduceIte, Option.getD_none]
      exact inForce.members requirement
  · rw [List.pairwise_map]
    have ordered := (List.pairwise_map.mp inForce.order).filter
      (fun requirement => decide (requirement.about ≠ (part, name)))
    refine ordered.imp_of_mem fun memberEarlier memberLater precedes => ?_
    have apart : ∀ requirement ∈ requirements.filter
          (fun requirement => decide (requirement.about ≠ (part, name))),
        change.saysOf requirement.part requirement.name ≠ some none := by
      intro requirement member
      have different := of_decide_eq_true (List.mem_filter.mp member).2
      rw [Edit.saysOf_eq assigned, if_neg different]
      nofun
    exact precedes.concat (apart _ memberEarlier) (apart _ memberLater)

/-- One edit keeps the list of a policy the requirements in force. -/
theorem InForce.edit {edits : List Edit} {policy : Policy}
    (inForce : InForce edits policy.requirements) (change : Edit) :
    InForce (edits ++ [change]) (policy.edit change).requirements := by
  rw [requirements_edit]
  match assigned : change.assignment? with
  | none => exact inForce.edit_nothing assigned
  | some (part, name, some expected) => exact inForce.edit_set assigned
  | some (part, name, none) => exact inForce.edit_remove assigned

theorem inForce_editAll (algorithm : Algorithm) (edits : List Edit) :
    InForce edits ((new algorithm).editAll edits).requirements := by
  induction edits using List.reverseRecOn with
  | nil => exact ⟨fun _ => ⟨nofun, nofun⟩, List.Pairwise.nil⟩
  | append_singleton edits change ih =>
      rw [editAll_append]
      exact ih.edit change

/-- A run of edits leaves one list of requirements only: the members are fixed,
and so is the place of each. -/
theorem InForce.unique {edits : List Edit} {requirements others : List Requirement}
    (inForce : InForce edits requirements) (inForceToo : InForce edits others) :
    requirements = others := by
  have same : requirements.Perm others :=
    (List.perm_ext_iff_of_nodup (List.Nodup.of_map _ inForce.nodup)
      (List.Nodup.of_map _ inForceToo.nodup)).mpr fun requirement =>
        (inForce.members requirement).trans (inForceToo.members requirement).symm
  refine List.Perm.eq_of_pairwise ?_ (List.pairwise_map.mp inForce.order)
    (List.pairwise_map.mp inForceToo.order) same
  rintro earlier later _ _ ⟨place, next, introduced, again, before⟩
    ⟨place', next', introduced', again', before'⟩
  have := introduced.unique again'
  have := again.unique introduced'
  omega

end Policy

end WebToken
