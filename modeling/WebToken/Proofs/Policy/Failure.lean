import WebToken.Policy.Requirement

/-!
# How a requirement fails

What is asked of a claim by value fails if the claim is missing, null or another value. A
window fails for a date that is over or still to come, and a predicate if it refuses the
claim. Each of them has an error of its own, and of several requirements the first failure
is the one that is reported.
-/

set_option autoImplicit false

namespace WebToken

namespace Instant

/-!
## Milliseconds
-/

theorem unixMillis_of_nonneg {instant : Instant} (after : 0 ≤ instant.nanoseconds) :
    instant.unixMillis = instant.nanoseconds / 1000000 :=
  Int.tdiv_eq_ediv_of_nonneg after

theorem unixMillis_of_neg {instant : Instant} (before : instant.nanoseconds < 0) :
    instant.unixMillis = -(-instant.nanoseconds / 1000000) := by
  rw [unixMillis, ← Int.tdiv_eq_ediv_of_nonneg (by omega), Int.neg_tdiv, Int.neg_neg]

theorem unixMillis_bounds (instant : Instant) :
    -2 ^ 74 ≤ instant.unixMillis ∧ instant.unixMillis < 2 ^ 74 := by
  have lower := Int64.le_toInt instant.seconds
  have upper := Int64.toInt_lt instant.seconds
  have nanos := instant.nanos_lt
  have nanoseconds : instant.nanoseconds = instant.seconds.toInt * 1000000000 + instant.nanos := rfl
  rcases Int.lt_or_le instant.nanoseconds 0 with before | after
  · rw [unixMillis_of_neg before]
    omega
  · rw [unixMillis_of_nonneg after]
    omega

end Instant

/-!
## Expectations of a value
-/

namespace Expectation

/-- A value that is not null meets an expectation, whatever the time is. -/
def MetBy : Expectation → Json → Prop
  | .value expected, node => node.agrees expected = true
  | .strings expected, node => node.stringList? = some expected
  | .date expected, node => node.truncate? = some expected
  | .window _, _ => False
  | .predicate _, _ => False

/-- Whether an expectation is one of a value, which then has to be there. -/
def IsValued : Expectation → Prop
  | .value _ => True
  | .strings _ => True
  | .date _ => True
  | .window _ => False
  | .predicate _ => False

end Expectation

theorem Lookup.name_ofNode (name : String) (node : Option Json) :
    (ofNode name node).name = name := by
  unfold ofNode
  split <;> rfl

namespace Requirement

/-- How a requirement fails at an instant, and with which error. -/
inductive Fails (token : Token) (now : Instant) (requirement : Requirement) : ClaimError → Prop
  | missing (valued : requirement.expected.IsValued)
      (found : requirement.claim token = .missing requirement.name) :
      Fails token now requirement (.missing requirement.name)
  | null (valued : requirement.expected.IsValued)
      (found : requirement.claim token = .null requirement.name) :
      Fails token now requirement (.invalid requirement.name "null")
  | unmet {node : Json} (valued : requirement.expected.IsValued)
      (found : requirement.claim token = .present requirement.name node)
      (unmet : ¬requirement.expected.MetBy node) :
      Fails token now requirement (.invalid requirement.name node.render)
  | expired {leeway : UInt64} {node : Json} {second : Int64}
      (windowed : requirement.expected = .window leeway)
      (expiry : requirement.name = Registered.expiresAt)
      (found : requirement.claim token = .present requirement.name node)
      (date : node.truncate? = some second)
      (late : (second.toInt + leeway.toNat) * 1000 < now.unixMillis) :
      Fails token now requirement (.expired requirement.name second)
  | notYetValid {leeway : UInt64} {node : Json} {second : Int64}
      (windowed : requirement.expected = .window leeway)
      (starting : requirement.name = Registered.notBefore ∨
        requirement.name = Registered.issuedAt)
      (found : requirement.claim token = .present requirement.name node)
      (date : node.truncate? = some second)
      (early : now.unixMillis < (second.toInt - leeway.toNat) * 1000) :
      Fails token now requirement (.notYetValid requirement.name second)
  | refused {accepts : ClaimPredicate} (judged : requirement.expected = .predicate accepts)
      (refuses : accepts (requirement.claim token) token = false) :
      Fails token now requirement (.invalid requirement.name (requirement.claim token).render)

theorem name_claim (requirement : Requirement) (token : Token) :
    (requirement.claim token).name = requirement.name := by
  unfold claim
  split <;> exact Lookup.name_ofNode ..

theorem saturate_eq_self {value : Int} (lower : -2 ^ 127 ≤ value) (upper : value < 2 ^ 127) :
    saturate value = value := by
  unfold saturate
  omega

/-- No leeway takes the time out of the range of signed 128-bit words. -/
theorem saturate_leeway (now : Instant) (leeway : UInt64) :
    saturate (now.unixMillis - (leeway.toNat : Int) * 1000) =
        now.unixMillis - (leeway.toNat : Int) * 1000 ∧
      saturate (now.unixMillis + (leeway.toNat : Int) * 1000) =
        now.unixMillis + (leeway.toNat : Int) * 1000 := by
  obtain ⟨lower, upper⟩ := now.unixMillis_bounds
  have bound := leeway.toNat_lt
  constructor
  · exact saturate_eq_self (by omega) (by omega)
  · exact saturate_eq_self (by omega) (by omega)

theorem expiresAt_apart : ¬(Registered.expiresAt = Registered.notBefore ∨
    Registered.expiresAt = Registered.issuedAt) := by
  decide

/-!
## Failures by kind of expectation
-/

section

variable {token : Token} {now : Instant} {requirement : Requirement} {error : ClaimError}

theorem checkValue_eq_error_iff {isMatch : Json → Bool}
    (valued : requirement.expected.IsValued)
    (decides : ∀ node, isMatch node = true ↔ requirement.expected.MetBy node) :
    checkValue (requirement.claim token) isMatch = .error error ↔
      requirement.Fails token now error := by
  constructor
  · have named := name_claim requirement token
    cases found : requirement.claim token with
    | missing name =>
        intro failed
        obtain rfl : name = requirement.name := (congrArg Lookup.name found).symm.trans named
        cases Except.error.inj failed
        exact .missing valued found
    | null name =>
        intro failed
        obtain rfl : name = requirement.name := (congrArg Lookup.name found).symm.trans named
        cases Except.error.inj failed
        exact .null valued found
    | present name node =>
        intro failed
        obtain rfl : name = requirement.name := (congrArg Lookup.name found).symm.trans named
        rw [checkValue] at failed
        split at failed
        next matched => cases failed
        next differs =>
          cases Except.error.inj failed
          exact .unmet valued found (mt (decides node).mpr differs)
  · intro fails
    cases fails with
    | missing _ found => rw [found, checkValue]
    | null _ found =>
        rw [found]
        rfl
    | unmet _ found unmet =>
        rw [found]
        exact if_neg (mt (decides _).mp unmet)
    | expired windowed => exact absurd valued (windowed ▸ id)
    | notYetValid windowed => exact absurd valued (windowed ▸ id)
    | refused judged => exact absurd valued (judged ▸ id)

theorem checkWindow_eq_error_iff {leeway : UInt64}
    (windowed : requirement.expected = .window leeway) :
    checkWindow (requirement.claim token) now.unixMillis leeway = .error error ↔
      requirement.Fails token now error := by
  obtain ⟨difference, sum⟩ := saturate_leeway now leeway
  have named := name_claim requirement token
  unfold checkWindow
  simp only [difference, sum, named]
  constructor
  · cases found : requirement.claim token with
    | missing name => exact nofun
    | null name => exact nofun
    | present name node =>
        obtain rfl : name = requirement.name := (congrArg Lookup.name found).symm.trans named
        cases date : node.truncate? with
        | none =>
            simp only [Lookup.node?, Option.bind_some, date]
            exact nofun
        | some second =>
            simp only [Lookup.node?, Option.bind_some, date]
            intro failed
            split at failed
            next expiry =>
              split at failed
              next late =>
                cases Except.error.inj failed
                exact .expired windowed expiry found date (by omega)
              next => cases failed
            next other =>
              split at failed
              next starting =>
                split at failed
                next early =>
                  cases Except.error.inj failed
                  exact .notYetValid windowed starting found date (by omega)
                next => cases failed
              next => cases failed
  · intro fails
    cases fails with
    | missing valued => exact absurd valued (windowed ▸ id)
    | null valued => exact absurd valued (windowed ▸ id)
    | unmet valued => exact absurd valued (windowed ▸ id)
    | expired asked expiry found date late =>
        obtain rfl := Expectation.window.inj (windowed.symm.trans asked)
        simp only [found, Lookup.node?, Option.bind_some, date, if_pos expiry]
        exact if_pos (by omega)
    | notYetValid asked starting found date early =>
        obtain rfl := Expectation.window.inj (windowed.symm.trans asked)
        have other : requirement.name ≠ Registered.expiresAt :=
          fun expiry => expiresAt_apart (expiry ▸ starting)
        simp only [found, Lookup.node?, Option.bind_some, date, if_neg other, if_pos starting]
        exact if_pos (by omega)
    | refused judged => cases windowed.symm.trans judged

theorem checkPredicate_eq_error_iff {accepts : ClaimPredicate}
    (judged : requirement.expected = .predicate accepts) :
    (if accepts (requirement.claim token) token then (.ok () : Except ClaimError Unit)
        else .error (requirement.claim token).refusal) = .error error ↔
      requirement.Fails token now error := by
  have named := name_claim requirement token
  constructor
  · intro failed
    split at failed
    next accepted => cases failed
    next refuses =>
      cases Except.error.inj failed
      rw [Lookup.refusal, named]
      exact .refused judged (Bool.not_eq_true _ ▸ refuses)
  · intro fails
    cases fails with
    | missing valued => exact absurd valued (judged ▸ id)
    | null valued => exact absurd valued (judged ▸ id)
    | unmet valued => exact absurd valued (judged ▸ id)
    | expired windowed => cases judged.symm.trans windowed
    | notYetValid windowed => cases judged.symm.trans windowed
    | refused asked refuses =>
        cases judged.symm.trans asked
        rw [refuses, Lookup.refusal, named]
        rfl

/-- Checking a requirement gives the error of how it fails. -/
theorem check_eq_error_iff :
    requirement.check token now.unixMillis = .error error ↔
      requirement.Fails token now error := by
  unfold check
  cases expects : requirement.expected with
  | value expected =>
      exact checkValue_eq_error_iff (expects ▸ trivial) fun node => by rw [expects]; rfl
  | strings expected =>
      exact checkValue_eq_error_iff (expects ▸ trivial) fun node => by
        rw [expects]
        exact beq_iff_eq
  | date expected =>
      exact checkValue_eq_error_iff (expects ▸ trivial) fun node => by
        rw [expects]
        exact beq_iff_eq
  | window leeway => exact checkWindow_eq_error_iff expects
  | predicate accepts => exact checkPredicate_eq_error_iff expects

end

/-!
## The first failure
-/

def failure? (token : Token) (nowMillis : Int) (requirement : Requirement) : Option ClaimError :=
  match requirement.check token nowMillis with
  | .error error => some error
  | .ok () => none

theorem failure?_eq_some_iff {token : Token} {now : Instant} {requirement : Requirement}
    {error : ClaimError} :
    requirement.failure? token now.unixMillis = some error ↔
      requirement.Fails token now error := by
  rw [← check_eq_error_iff]
  unfold failure?
  cases requirement.check token now.unixMillis with
  | error error => simp
  | ok passed => simp

theorem failure?_eq_none_iff {token : Token} {nowMillis : Int} {requirement : Requirement} :
    requirement.failure? token nowMillis = none ↔ requirement.check token nowMillis = .ok () := by
  unfold failure?
  cases requirement.check token nowMillis with
  | error error => simp
  | ok passed => simp

/-- Checking in order reports the first failure. -/
theorem checkAll_eq_findSome? (token : Token) (nowMillis : Int)
    (requirements : List Requirement) :
    checkAll token nowMillis requirements =
      match requirements.findSome? (failure? token nowMillis) with
      | some error => .error error
      | none => .ok () := by
  induction requirements with
  | nil => rfl
  | cons first rest ih =>
      rw [checkAll, List.findSome?_cons, failure?]
      cases first.check token nowMillis with
      | error error => rfl
      | ok passed => exact ih

theorem checkAll_eq_ok_iff {token : Token} {nowMillis : Int} {requirements : List Requirement} :
    checkAll token nowMillis requirements = .ok () ↔
      ∀ requirement ∈ requirements, requirement.check token nowMillis = .ok () := by
  rw [checkAll_eq_findSome?]
  simp only [← failure?_eq_none_iff, ← List.findSome?_eq_none_iff]
  cases requirements.findSome? (failure? token nowMillis) with
  | some error => exact ⟨nofun, nofun⟩
  | none => exact ⟨fun _ => rfl, fun _ => rfl⟩

end Requirement

end WebToken
