import Mathlib.Data.List.Forall2
import WebToken.Proofs.Chain
import WebToken.Proofs.Policy.Window

/-!
# Time and leeway

A verdict depends on the current time through the windows alone. Expiry sets a latest
time, the other two date claims an earliest one, so that the times at which a token is
accepted have no gap. A larger leeway moves both bounds outward. Both facts are one: what
is accepted at two times is accepted between them, also by a policy with wider windows.
-/

set_option autoImplicit false

namespace WebToken

/-- The milliseconds never run backward, although they are cut off towards the epoch. -/
theorem Instant.unixMillis_mono {earlier later : Instant} (before : earlier ≤ later) :
    earlier.unixMillis ≤ later.unixMillis :=
  Int.tdiv_le_tdiv (by decide) before

/-!
## One check
-/

namespace Requirement

theorem saturate_mono {smaller larger : Int} (le : smaller ≤ larger) :
    saturate smaller ≤ saturate larger := by
  unfold saturate
  omega

/-- Another requirement asks the same, or both are windows about one claim and it has at
least the leeway. -/
inductive Widened : Requirement → Requirement → Prop where
  | same (requirement : Requirement) : Widened requirement requirement
  | window {part : Part} {name : String} {leeway more : UInt64} :
      leeway ≤ more → Widened ⟨part, name, .window leeway⟩ ⟨part, name, .window more⟩

variable {requirement wider : Requirement}

theorem Widened.isAbout_eq (widened : Widened requirement wider) (part : Part) (name : String) :
    wider.isAbout part name = requirement.isAbout part name := by
  cases widened with
  | same => rfl
  | window => rfl

theorem check_eq_of_not_window (unwindowed : ∀ leeway, requirement.expected ≠ .window leeway)
    (token : Token) (nowMillis moment : Int) :
    requirement.check token nowMillis = requirement.check token moment := by
  unfold check
  cases expected : requirement.expected with
  | window leeway => exact absurd expected (unwindowed leeway)
  | _ => rfl

/-- A window that lets a claim pass at two times lets it pass between them, and so does
one with more leeway. -/
theorem checkWindow_between {claim : Lookup} {earlier now later : Int} {leeway more : UInt64}
    (after : earlier ≤ now) (before : now ≤ later) (le : leeway ≤ more)
    (passesEarlier : checkWindow claim earlier leeway = .ok ())
    (passesLater : checkWindow claim later leeway = .ok ()) :
    checkWindow claim now more = .ok () := by
  rw [checkWindow_eq_ok_iff_bounds] at passesEarlier passesLater ⊢
  have more_le := UInt64.le_iff_toNat_le.mp le
  intro second date
  constructor
  · intro expiry
    have intime := (passesLater second date).1 expiry
    exact Int.le_trans (saturate_mono (by omega)) intime
  · intro starting
    have begun := (passesEarlier second date).2 starting
    exact Int.le_trans begun (saturate_mono (by omega))

theorem Widened.check_between (widened : Widened requirement wider) {token : Token}
    {earlier now later : Int} (after : earlier ≤ now) (before : now ≤ later)
    (passesEarlier : requirement.check token earlier = .ok ())
    (passesLater : requirement.check token later = .ok ()) :
    wider.check token now = .ok () := by
  cases widened with
  | window le => exact checkWindow_between after before le passesEarlier passesLater
  | same =>
      -- Only a window looks at the time; every other check passes at one time as at another.
      by_cases windowed : ∃ leeway, requirement.expected = .window leeway
      · obtain ⟨leeway, expected⟩ := windowed
        simp only [check, expected] at passesEarlier passesLater ⊢
        exact checkWindow_between after before (UInt64.le_refl leeway) passesEarlier passesLater
      · rw [check_eq_of_not_window (not_exists.mp windowed) token now earlier]
        exact passesEarlier

end Requirement

/-!
## Wider policies
-/

namespace Policy

inductive Edit.Widened : Edit → Edit → Prop where
  | same (change : Edit) : Widened change change
  | leeway {seconds more : UInt64} :
      seconds ≤ more → Widened (.allowLeeway seconds) (.allowLeeway more)
  | expiry {seconds more : UInt64} :
      seconds ≤ more → Widened (.allowExpiryLeeway seconds) (.allowExpiryLeeway more)
  | notBefore {seconds more : UInt64} :
      seconds ≤ more → Widened (.allowNotBeforeLeeway seconds) (.allowNotBeforeLeeway more)
  | issuedAt {seconds more : UInt64} :
      seconds ≤ more → Widened (.allowIssuedAtLeeway seconds) (.allowIssuedAtLeeway more)

/-- Two policies that differ in their leeways only, the second of which has at least those
of the first. Leeways of their own are set for the same date claims. -/
structure Widened (policy wider : Policy) : Prop where
  algorithm : wider.algorithm = policy.algorithm
  requirements : wider.requirements = policy.requirements
  defaultLeeway : policy.defaultLeeway ≤ wider.defaultLeeway
  expiryLeeway : Option.Rel (· ≤ ·) policy.expiryLeeway wider.expiryLeeway
  notBeforeLeeway : Option.Rel (· ≤ ·) policy.notBeforeLeeway wider.notBeforeLeeway
  issuedAtLeeway : Option.Rel (· ≤ ·) policy.issuedAtLeeway wider.issuedAtLeeway
  waivesIssuedAt : wider.waivesIssuedAt = policy.waivesIssuedAt

theorem leeway_rel_self (leeway : Option UInt64) : Option.Rel (· ≤ ·) leeway leeway := by
  cases leeway with
  | none => exact .none
  | some seconds => exact .some (UInt64.le_refl seconds)

theorem Widened.self (policy : Policy) : Widened policy policy where
  algorithm := rfl
  requirements := rfl
  defaultLeeway := UInt64.le_refl _
  expiryLeeway := leeway_rel_self _
  notBeforeLeeway := leeway_rel_self _
  issuedAtLeeway := leeway_rel_self _
  waivesIssuedAt := rfl

variable {policy wider : Policy}

theorem Widened.assign (widened : Widened policy wider) (part : Part) (name : String)
    (expected : Option Expectation) :
    Widened (policy.assign part name expected) (wider.assign part name expected) :=
  { widened with
    requirements := by
      unfold Policy.assign
      rw [widened.requirements] }

theorem Widened.edit_same (widened : Widened policy wider) (change : Edit) :
    Widened (policy.edit change) (wider.edit change) := by
  cases assigned : change.assignment? with
  | some assignment =>
      rw [edit_eq_assign assigned, edit_eq_assign assigned]
      exact widened.assign ..
  | none =>
      cases change with
      | claim name value => cases value <;> cases assigned
      | allowLeeway seconds => exact { widened with defaultLeeway := UInt64.le_refl seconds }
      | allowExpiryLeeway seconds => exact { widened with expiryLeeway := leeway_rel_self _ }
      | allowNotBeforeLeeway seconds => exact { widened with notBeforeLeeway := leeway_rel_self _ }
      | allowIssuedAtLeeway seconds => exact { widened with issuedAtLeeway := leeway_rel_self _ }
      | waiveIssuedAt => exact { widened with waivesIssuedAt := rfl }
      | _ => cases assigned

theorem Widened.edit (widened : Widened policy wider) {change other : Edit}
    (larger : change.Widened other) : Widened (policy.edit change) (wider.edit other) := by
  cases larger with
  | same => exact widened.edit_same change
  | leeway le => exact { widened with defaultLeeway := le }
  | expiry le => exact { widened with expiryLeeway := .some le }
  | notBefore le => exact { widened with notBeforeLeeway := .some le }
  | issuedAt le => exact { widened with issuedAtLeeway := .some le }

theorem Widened.editAll (widened : Widened policy wider) {edits others : List Edit}
    (larger : List.Forall₂ Edit.Widened edits others) :
    Widened (policy.editAll edits) (wider.editAll others) := by
  induction larger generalizing policy wider with
  | nil => exact widened
  | cons first _ ih => exact ih (widened.edit first)

/-!
## Wider windows
-/

theorem any_isAbout_of_widened {requirements others : List Requirement}
    (widened : List.Forall₂ Requirement.Widened requirements others) (part : Part)
    (name : String) :
    others.any (Requirement.isAbout part name) =
      requirements.any (Requirement.isAbout part name) := by
  induction widened with
  | nil => rfl
  | cons first _ ih => rw [List.any_cons, List.any_cons, first.isAbout_eq, ih]

theorem addMissing_widened {requirements others : List Requirement}
    (widened : List.Forall₂ Requirement.Widened requirements others) (name : String)
    {leeway more : UInt64} (le : leeway ≤ more) :
    List.Forall₂ Requirement.Widened
      (Requirement.addMissing .payload name (.window leeway) requirements)
      (Requirement.addMissing .payload name (.window more) others) := by
  unfold Requirement.addMissing
  rw [any_isAbout_of_widened widened]
  split
  · exact widened
  · exact List.rel_append widened (.cons (.window le) .nil)

theorem getD_le {own more : Option UInt64} {leeway other : UInt64}
    (ownLe : Option.Rel (· ≤ ·) own more) (le : leeway ≤ other) :
    own.getD leeway ≤ more.getD other := by
  cases ownLe with
  | some ownLe => exact ownLe
  | none => exact le

theorem Widened.windowedRequirements (widened : Widened policy wider) :
    List.Forall₂ Requirement.Widened policy.windowedRequirements
      wider.windowedRequirements := by
  have same : List.Forall₂ Requirement.Widened policy.requirements wider.requirements := by
    rw [widened.requirements]
    exact List.forall₂_same.mpr fun requirement _ => .same requirement
  have expiring := addMissing_widened same Registered.expiresAt
    (getD_le widened.expiryLeeway widened.defaultLeeway)
  have starting := addMissing_widened expiring Registered.notBefore
    (getD_le widened.notBeforeLeeway widened.defaultLeeway)
  unfold Policy.windowedRequirements
  rw [widened.waivesIssuedAt]
  split
  · exact starting
  · exact addMissing_widened starting Registered.issuedAt
      (getD_le widened.issuedAtLeeway widened.defaultLeeway)

end Policy

/-!
## Verdicts
-/

theorem Requirement.forall_check_between {requirements others : List Requirement}
    (widened : List.Forall₂ Widened requirements others) {token : Token}
    {earlier now later : Int} (after : earlier ≤ now) (before : now ≤ later)
    (passEarlier : ∀ requirement ∈ requirements, requirement.check token earlier = .ok ())
    (passLater : ∀ requirement ∈ requirements, requirement.check token later = .ok ()) :
    ∀ requirement ∈ others, requirement.check token now = .ok () := by
  induction widened with
  | nil => exact nofun
  | cons first _ ih =>
      obtain ⟨firstEarlier, restEarlier⟩ := List.forall_mem_cons.mp passEarlier
      obtain ⟨firstLater, restLater⟩ := List.forall_mem_cons.mp passLater
      exact List.forall_mem_cons.mpr ⟨first.check_between after before firstEarlier firstLater,
        ih restEarlier restLater⟩

namespace Policy

section

variable {policy wider : Policy} {earlier now later : Instant}

/-- A token taken apart that a policy accepts at two times is accepted between them by
every wider policy. -/
theorem Widened.verifyToken_between (widened : Widened policy wider) (after : earlier ≤ now)
    (before : now ≤ later) {token : Token}
    (acceptedEarlier : (policy.verifier.verifyToken earlier token).outcome = .ok ())
    (acceptedLater : (policy.verifier.verifyToken later token).outcome = .ok ()) :
    (wider.verifier.verifyToken now token).outcome = .ok () := by
  obtain ⟨named, verified, passEarlier⟩ := Verifier.verifyToken_eq_ok_iff.mp acceptedEarlier
  obtain ⟨-, -, passLater⟩ := Verifier.verifyToken_eq_ok_iff.mp acceptedLater
  have algorithm : wider.verifier.algorithm = policy.verifier.algorithm := widened.algorithm
  rw [← algorithm] at named verified
  exact Verifier.verifyToken_eq_ok_iff.mpr ⟨named, verified,
    Requirement.forall_check_between widened.windowedRequirements
      (Instant.unixMillis_mono after) (Instant.unixMillis_mono before) passEarlier passLater⟩

theorem Widened.verify_between (widened : Widened policy wider) (after : earlier ≤ now)
    (before : now ≤ later) {text : String} {token other : Token}
    (acceptedEarlier : (policy.verifier.verify earlier text).outcome = .ok token)
    (acceptedLater : (policy.verifier.verify later text).outcome = .ok other) :
    (wider.verifier.verify now text).outcome = .ok token := by
  obtain ⟨decoded, passesEarlier⟩ := Verifier.verify_eq_ok_iff_verifyToken.mp acceptedEarlier
  obtain ⟨decodedToo, passesLater⟩ := Verifier.verify_eq_ok_iff_verifyToken.mp acceptedLater
  obtain rfl : token = other := Except.ok.inj (decoded.symm.trans decodedToo)
  exact Verifier.verify_eq_ok_iff_verifyToken.mpr
    ⟨decoded, widened.verifyToken_between after before passesEarlier passesLater⟩

end

/-- What is accepted at two times is accepted at every time between them, and what is
accepted at a time is still accepted then if leeways are made larger. Both hold of texts
and of tokens that were taken apart. -/
theorem verify_between_and_widened (algorithm : Algorithm) (edits : List Edit) :
    (∀ earlier now later : Instant, earlier ≤ now → now ≤ later →
      (∀ token,
        (((new algorithm).editAll edits).verifier.verifyToken earlier token).outcome = .ok () →
        (((new algorithm).editAll edits).verifier.verifyToken later token).outcome = .ok () →
        (((new algorithm).editAll edits).verifier.verifyToken now token).outcome = .ok ()) ∧
      ∀ text token other,
        (((new algorithm).editAll edits).verifier.verify earlier text).outcome = .ok token →
        (((new algorithm).editAll edits).verifier.verify later text).outcome = .ok other →
        (((new algorithm).editAll edits).verifier.verify now text).outcome = .ok token) ∧
    ∀ others, List.Forall₂ Edit.Widened edits others → ∀ now : Instant,
      (∀ token,
        (((new algorithm).editAll edits).verifier.verifyToken now token).outcome = .ok () →
        (((new algorithm).editAll others).verifier.verifyToken now token).outcome = .ok ()) ∧
      ∀ text token,
        (((new algorithm).editAll edits).verifier.verify now text).outcome = .ok token →
        (((new algorithm).editAll others).verifier.verify now text).outcome = .ok token := by
  constructor
  · intro earlier now later after before
    have same := Widened.self ((new algorithm).editAll edits)
    exact ⟨fun token => same.verifyToken_between after before,
      fun text token other => same.verify_between after before⟩
  · intro others larger now
    have widened := (Widened.self (new algorithm)).editAll larger
    have atOnce : now ≤ now := Int.le_refl now.nanoseconds
    exact ⟨fun token accepted => widened.verifyToken_between atOnce atOnce accepted accepted,
      fun text token accepted => widened.verify_between atOnce atOnce accepted accepted⟩

/-- The interval crosses the epoch, and the larger leeway replaces the one for all date
claims while expiry keeps its own. -/
theorem verify_between_and_widened_of_expiry :
    ∃ token,
      (((new .none).editAll [.allowLeeway 0, .allowExpiryLeeway 1]).verifier.verify
        ⟨0, 5, by decide⟩ "eyJhbGciOiJub25lIn0.eyJleHAiOjEuNX0.").outcome = .ok token ∧
      (((new .none).editAll [.allowLeeway 7, .allowExpiryLeeway 1]).verifier.verify
        ⟨2, 999999, by decide⟩ "eyJhbGciOiJub25lIn0.eyJleHAiOjEuNX0.").outcome = .ok token := by
  obtain ⟨token, acceptedEarlier⟩ := exists_eq_ok_of_isOk (show
    (((new .none).editAll [.allowLeeway 0, .allowExpiryLeeway 1]).verifier.verify
      ⟨-9, 1, by decide⟩ "eyJhbGciOiJub25lIn0.eyJleHAiOjEuNX0.").outcome.isOk = true by
        decide +kernel)
  obtain ⟨other, acceptedLater⟩ := exists_eq_ok_of_isOk (show
    (((new .none).editAll [.allowLeeway 0, .allowExpiryLeeway 1]).verifier.verify
      ⟨2, 999999, by decide⟩ "eyJhbGciOiJub25lIn0.eyJleHAiOjEuNX0.").outcome.isOk = true by
        decide +kernel)
  obtain ⟨between, wider⟩ :=
    verify_between_and_widened .none [.allowLeeway 0, .allowExpiryLeeway 1]
  have accepted := (between ⟨-9, 1, by decide⟩ ⟨2, 999999, by decide⟩ ⟨2, 999999, by decide⟩
    (by decide) (by decide)).2 _ _ _ acceptedEarlier acceptedLater
  have larger : List.Forall₂ Edit.Widened [.allowLeeway 0, .allowExpiryLeeway 1]
      [.allowLeeway 7, .allowExpiryLeeway 1] :=
    .cons (.leeway (by decide)) (.cons (.same _) .nil)
  exact ⟨token, (between _ ⟨0, 5, by decide⟩ _ (by decide) (by decide)).2 _ _ _ acceptedEarlier
    acceptedLater, (wider _ larger _).2 _ _ accepted⟩

end Policy

end WebToken
