import Mathlib.Tactic.SplitIfs
import WebToken.Proofs.Policy.Failure
import WebToken.Proofs.Policy.InForce

/-!
# The verdict of a policy

The verdict on a text follows from the edits that made the policy. A token is
taken apart, its header names the algorithm, its signature verifies, and then
the first check that fails decides. The checks are the requirements in force and
after them one window for each date claim that nothing is expected of.
-/

set_option autoImplicit false

namespace WebToken

namespace Policy

/-!
## Settings of the time windows
-/

def Edit.leeway? : Edit → Option UInt64
  | .allowLeeway seconds => some seconds
  | _ => none

def Edit.leewayOf? (name : String) : Edit → Option UInt64
  | .allowExpiryLeeway seconds => if name = Registered.expiresAt then some seconds else none
  | .allowNotBeforeLeeway seconds => if name = Registered.notBefore then some seconds else none
  | .allowIssuedAtLeeway seconds => if name = Registered.issuedAt then some seconds else none
  | _ => none

def Edit.isWaiver : Edit → Bool
  | .waiveIssuedAt => true
  | _ => false

/-- The clock difference that a run of edits allows for a date claim: the last one
allowed for it alone, otherwise the last one allowed for all, otherwise none. -/
def leewayAfter (edits : List Edit) (name : String) : UInt64 :=
  (edits.reverse.findSome? (Edit.leewayOf? name)).getD
    ((edits.reverse.findSome? Edit.leeway?).getD 0)

/-- Whether a run of edits leaves a date claim to its window. -/
def isWindowed (edits : List Edit) (name : String) : Bool :=
  (expectedAfter edits .payload name).isNone &&
    !(name == Registered.issuedAt && edits.any Edit.isWaiver)

/-- The windows that a run of edits leaves, in the order of the date claims. -/
def windowsAfter (edits : List Edit) : List Requirement :=
  (Registered.dates.filter (isWindowed edits)).map fun name =>
    ⟨.payload, name, .window (leewayAfter edits name)⟩

def ownLeeway (policy : Policy) (name : String) : Option UInt64 :=
  if name = Registered.expiresAt then policy.expiryLeeway
  else if name = Registered.notBefore then policy.notBeforeLeeway
  else if name = Registered.issuedAt then policy.issuedAtLeeway
  else none

theorem ownLeeway_edit (name : String) (policy : Policy) (change : Edit) :
    (policy.edit change).ownLeeway name = (change.leewayOf? name).or (policy.ownLeeway name) := by
  cases change with
  | claim other value => cases value <;> rfl
  | allowExpiryLeeway seconds =>
      by_cases same : name = Registered.expiresAt <;>
        simp [ownLeeway, Edit.leewayOf?, edit, allowExpiryLeeway, same]
  | allowNotBeforeLeeway seconds =>
      have apart : Registered.notBefore ≠ Registered.expiresAt := by decide
      by_cases same : name = Registered.notBefore
      · subst same
        simp [ownLeeway, Edit.leewayOf?, edit, allowNotBeforeLeeway, apart]
      · simp [ownLeeway, Edit.leewayOf?, edit, allowNotBeforeLeeway, same]
  | allowIssuedAtLeeway seconds =>
      have apart : Registered.issuedAt ≠ Registered.expiresAt ∧
          Registered.issuedAt ≠ Registered.notBefore := by decide
      by_cases same : name = Registered.issuedAt
      · subst same
        simp [ownLeeway, Edit.leewayOf?, edit, allowIssuedAtLeeway, apart]
      · simp [ownLeeway, Edit.leewayOf?, edit, allowIssuedAtLeeway, same]
  | _ => rfl

theorem defaultLeeway_edit (policy : Policy) (change : Edit) :
    some (policy.edit change).defaultLeeway = change.leeway?.or (some policy.defaultLeeway) := by
  cases change with
  | claim name value => cases value <;> rfl
  | _ => rfl

theorem waivesIssuedAt_edit (policy : Policy) (change : Edit) :
    (policy.edit change).waivesIssuedAt = (policy.waivesIssuedAt || change.isWaiver) := by
  cases change with
  | claim name value => cases value <;> exact (Bool.or_false _).symm
  | waiveIssuedAt => exact (Bool.or_true _).symm
  | _ => exact (Bool.or_false _).symm

/-- A setting that each edit overwrites or leaves alone is what the last edit that
overwrites it makes it. -/
theorem setting_editAll {α : Type} (setting : Policy → Option α) (pick : Edit → Option α)
    (step : ∀ policy change, setting (policy.edit change) = (pick change).or (setting policy))
    (policy : Policy) (edits : List Edit) :
    setting (policy.editAll edits) = (edits.reverse.findSome? pick).or (setting policy) := by
  induction edits using List.reverseRecOn with
  | nil => rfl
  | append_singleton edits change ih =>
      rw [editAll_append, List.reverse_append, List.reverse_singleton, List.singleton_append,
        List.findSome?_cons]
      refine (step _ change).trans ?_
      cases pick change with
      | none => exact ih
      | some _ => rfl

theorem ownLeeway_editAll (algorithm : Algorithm) (edits : List Edit) (name : String) :
    ((new algorithm).editAll edits).ownLeeway name =
      edits.reverse.findSome? (Edit.leewayOf? name) := by
  have unset : (new algorithm).ownLeeway name = none := by
    unfold ownLeeway
    split_ifs <;> rfl
  rw [setting_editAll (ownLeeway · name) (Edit.leewayOf? name) (ownLeeway_edit name), unset,
    Option.or_none]

theorem defaultLeeway_editAll (algorithm : Algorithm) (edits : List Edit) :
    ((new algorithm).editAll edits).defaultLeeway =
      (edits.reverse.findSome? Edit.leeway?).getD 0 := by
  have last := setting_editAll (some ·.defaultLeeway) Edit.leeway? defaultLeeway_edit
    (new algorithm) edits
  cases found : edits.reverse.findSome? Edit.leeway? with
  | none =>
      rw [found] at last
      exact Option.some.inj last
  | some seconds =>
      rw [found] at last
      exact Option.some.inj last

theorem waivesIssuedAt_editAll (algorithm : Algorithm) (edits : List Edit) :
    ((new algorithm).editAll edits).waivesIssuedAt = edits.any Edit.isWaiver := by
  induction edits using List.reverseRecOn with
  | nil => rfl
  | append_singleton edits change ih =>
      rw [editAll_append, List.any_append, List.any_cons, List.any_nil, Bool.or_false, ← ih]
      exact waivesIssuedAt_edit _ change

/-!
## The windows
-/

/-- Whether something is required of a payload claim is whether something is
expected of it after the edits. -/
theorem InForce.any_isAbout {edits : List Edit} {requirements : List Requirement}
    (inForce : InForce edits requirements) (name : String) :
    requirements.any (Requirement.isAbout .payload name) =
      (expectedAfter edits .payload name).isSome := by
  rw [Bool.eq_iff_iff, List.any_eq_true, Option.isSome_iff_exists]
  constructor
  · intro asked
    obtain ⟨requirement, member, isAbout⟩ := asked
    have expected := (inForce.members requirement).mp member
    obtain ⟨samePart, sameName⟩ := Prod.mk.inj (Requirement.isAbout_iff.mp isAbout)
    rw [samePart, sameName] at expected
    exact ⟨_, expected⟩
  · intro asked
    obtain ⟨expected, found⟩ := asked
    refine ⟨⟨.payload, name, expected⟩, (inForce.members _).mpr found, ?_⟩
    exact Requirement.isAbout_iff.mpr rfl

theorem addMissing_eq (name : String) (expected : Expectation) (requirements : List Requirement) :
    Requirement.addMissing .payload name expected requirements =
      requirements ++ if requirements.any (Requirement.isAbout .payload name) then []
        else [⟨.payload, name, expected⟩] := by
  unfold Requirement.addMissing
  split
  · exact (List.append_nil _).symm
  · rfl

theorem any_isAbout_window {name other : String} (different : other ≠ name) (present : Bool)
    (expected : Expectation) :
    (if present then [] else [(⟨.payload, other, expected⟩ : Requirement)]).any
      (Requirement.isAbout .payload name) = false := by
  cases present with
  | true => rfl
  | false => simp [Requirement.isAbout, different]

def windowFor (edits : List Edit) (name : String) : List Requirement :=
  if (expectedAfter edits .payload name).isSome then []
  else [⟨.payload, name, .window (leewayAfter edits name)⟩]

theorem windowsAfter_eq (edits : List Edit) :
    windowsAfter edits = windowFor edits Registered.expiresAt ++
      (windowFor edits Registered.notBefore ++
        if edits.any Edit.isWaiver then [] else windowFor edits Registered.issuedAt) := by
  have expiring : (Registered.expiresAt == Registered.issuedAt) = false := by decide
  have starting : (Registered.notBefore == Registered.issuedAt) = false := by decide
  unfold windowsAfter windowFor isWindowed Registered.dates
  simp only [List.filter_cons, List.filter_nil, expiring, starting, ← Option.not_isSome]
  cases (expectedAfter edits .payload Registered.expiresAt).isSome <;>
    cases (expectedAfter edits .payload Registered.notBefore).isSome <;>
      cases (expectedAfter edits .payload Registered.issuedAt).isSome <;>
        cases edits.any Edit.isWaiver <;> simp

/-- The checks of a policy are the requirements in force, then the windows. -/
theorem windowedRequirements_editAll (algorithm : Algorithm) (edits : List Edit) :
    ((new algorithm).editAll edits).windowedRequirements =
      ((new algorithm).editAll edits).requirements ++ windowsAfter edits := by
  have present := (inForce_editAll algorithm edits).any_isAbout
  have leeway : ∀ name, (((new algorithm).editAll edits).ownLeeway name).getD
      ((new algorithm).editAll edits).defaultLeeway = leewayAfter edits name := by
    intro name
    rw [ownLeeway_editAll, defaultLeeway_editAll, leewayAfter]
  unfold windowedRequirements
  simp only [addMissing_eq, List.any_append, present, Bool.or_false,
    any_isAbout_window (show Registered.expiresAt ≠ Registered.notBefore by decide),
    any_isAbout_window (show Registered.expiresAt ≠ Registered.issuedAt by decide),
    any_isAbout_window (show Registered.notBefore ≠ Registered.issuedAt by decide),
    waivesIssuedAt_editAll, windowsAfter_eq, windowFor, ← leeway]
  split
  · rw [List.append_nil, List.append_assoc]
    rfl
  · rw [List.append_assoc, List.append_assoc]
    rfl

end Policy

/-!
## The verdict
-/

namespace Verifier

theorem outcome_verify (verifier : Verifier) (now : Instant) (text : String) :
    (verifier.verify now text).outcome =
      match Token.decode text with
      | .error error => .error (.decode error)
      | .ok token =>
          if token.header.algorithm ≠ some verifier.algorithm.name then
            .error (.claim (.algorithmMismatch verifier.algorithm.name token.header.algorithm))
          else
            match (verifier.algorithm.verify (Bytes.ofText token.signingInput)
                token.signature).outcome with
            | .error error => .error (.signature error)
            | .ok () =>
                match verifier.requirements.findSome?
                    (Requirement.failure? token now.unixMillis) with
                | some error => .error (.claim error)
                | none => .ok token := by
  unfold verify
  cases Token.decode text with
  | error error => rfl
  | ok token =>
      simp only [verifyToken, Requirement.checkAll_eq_findSome?]
      by_cases named : token.header.algorithm = some verifier.algorithm.name
      · simp only [named, ↓reduceIte, ne_eq, not_true_eq_false]
        cases (verifier.algorithm.verify (Bytes.ofText token.signingInput)
            token.signature).outcome with
        | error error => rfl
        | ok passed =>
            cases verifier.requirements.findSome?
                (Requirement.failure? token now.unixMillis) with
            | some error => rfl
            | none => rfl
      · simp only [named, ↓reduceIte, ne_eq, not_false_eq_true]
        rfl

/-- What a token taken apart has to pass to be accepted. -/
theorem verifyToken_eq_ok_iff {verifier : Verifier} {now : Instant} {token : Token} :
    (verifier.verifyToken now token).outcome = .ok () ↔
      token.header.algorithm = some verifier.algorithm.name ∧
        (verifier.algorithm.verify (Bytes.ofText token.signingInput)
          token.signature).outcome = .ok () ∧
        ∀ requirement ∈ verifier.requirements, requirement.check token now.unixMillis = .ok () := by
  rw [← Requirement.checkAll_eq_ok_iff]
  unfold verifyToken
  by_cases named : token.header.algorithm = some verifier.algorithm.name
  · simp only [named, ↓reduceIte, true_and]
    cases (verifier.algorithm.verify (Bytes.ofText token.signingInput) token.signature).outcome with
    | error error => exact ⟨nofun, fun passes => nomatch passes.1⟩
    | ok verified =>
        cases Requirement.checkAll token now.unixMillis verifier.requirements with
        | error error => exact ⟨nofun, fun passes => nomatch passes.2⟩
        | ok passed => exact ⟨fun _ => ⟨rfl, rfl⟩, fun _ => rfl⟩
  · simp only [named, ↓reduceIte, false_and, iff_false]
    exact nofun

theorem verify_eq_ok_iff_verifyToken {verifier : Verifier} {now : Instant} {text : String}
    {token : Token} :
    (verifier.verify now text).outcome = .ok token ↔
      Token.decode text = .ok token ∧ (verifier.verifyToken now token).outcome = .ok () := by
  unfold verify
  cases Token.decode text with
  | error error => exact ⟨nofun, fun passes => nomatch passes.1⟩
  | ok decoded =>
      rw [Except.ok.injEq]
      change ((verifier.verifyToken now decoded).outcome.map fun _ => decoded) = .ok token ↔ _
      constructor
      · intro accepted
        cases checked : (verifier.verifyToken now decoded).outcome with
        | error error =>
            rw [checked] at accepted
            cases accepted
        | ok passed =>
            rw [checked] at accepted
            cases accepted
            exact ⟨rfl, checked⟩
      · rintro ⟨rfl, passes⟩
        rw [passes]
        rfl

/-- What a text has to pass to be accepted. -/
theorem verify_eq_ok_iff {verifier : Verifier} {now : Instant} {text : String} {token : Token} :
    (verifier.verify now text).outcome = .ok token ↔
      Token.decode text = .ok token ∧ token.header.algorithm = some verifier.algorithm.name ∧
        (verifier.algorithm.verify (Bytes.ofText token.signingInput)
          token.signature).outcome = .ok () ∧
        ∀ requirement ∈ verifier.requirements, requirement.check token now.unixMillis = .ok () := by
  rw [verify_eq_ok_iff_verifyToken, verifyToken_eq_ok_iff]

end Verifier

namespace Policy

theorem algorithm_editAll (policy : Policy) (edits : List Edit) :
    (policy.editAll edits).algorithm = policy.algorithm := by
  induction edits generalizing policy with
  | nil => rfl
  | cons change edits ih => exact (ih (policy.edit change)).trans (algorithm_edit policy change)

/-- The verdict on a text, for every run of edits. The requirements in force are
the only list that `InForce` describes, and the windows are checked after them. The
failure of a requirement is what `Fails` says for its kind. -/
theorem verify_editAll (algorithm : Algorithm) (edits : List Edit) (now : Instant)
    (text : String) :
    ∃ requirements, (∀ others, InForce edits others ↔ others = requirements) ∧
      (((new algorithm).editAll edits).verifier.verify now text).outcome =
        (match Token.decode text with
        | .error error => .error (.decode error)
        | .ok token =>
            if token.header.algorithm ≠ some algorithm.name then
              .error (.claim (.algorithmMismatch algorithm.name token.header.algorithm))
            else
              match (algorithm.verify (Bytes.ofText token.signingInput) token.signature).outcome with
              | .error error => .error (.signature error)
              | .ok () =>
                  match (requirements ++ windowsAfter edits).findSome?
                      (Requirement.failure? token now.unixMillis) with
                  | some error => .error (.claim error)
                  | none => .ok token) ∧
      ∀ (token : Token) (requirement : Requirement) (error : ClaimError),
        requirement.failure? token now.unixMillis = some error ↔
          requirement.Fails token now error := by
  have inForce := inForce_editAll algorithm edits
  refine ⟨_, fun others => ⟨fun other => other.unique inForce, fun equal => equal ▸ inForce⟩, ?_,
    fun token requirement error => Requirement.failure?_eq_some_iff⟩
  have sameAlgorithm : ((new algorithm).editAll edits).algorithm = algorithm :=
    algorithm_editAll (new algorithm) edits
  rw [Verifier.outcome_verify]
  simp only [verifier, sameAlgorithm, windowedRequirements_editAll]

end Policy

end WebToken
