import Mathlib.Data.List.Forall2
import WebToken.Policy.Verifier
import WebToken.Proofs.Algorithm.PublicHalf
import WebToken.Proofs.Algorithm.TaggedForm
import WebToken.Proofs.Policy.Failure
import WebToken.Token.Draft

/-!
# The trail of a run of calls

Texts are verified, tokens that were taken apart are checked, and drafts are signed, one
call after the other, and what they report is kept in one log. The log is a block for
each call. The block of a check ends with its verdict, which shows the stage and the text of
the error that was returned, and a signature that has no tagged form is reported before.
-/

set_option autoImplicit false

namespace WebToken

/-!
## Stages of errors
-/

/-- The stage at which a check stops with an error, and how the log names it. Errors of
making signatures and of arguments stop no check. -/
def Error.stage? : Error → Option (Stage × String)
  | .decode _ => some (.decode, "decode")
  | .claim (.algorithmMismatch _ _) => some (.algorithm, "algorithm")
  | .signature (.verification _) => some (.signature, "signature")
  | .claim (.missing _) => some (.claims, "claims")
  | .claim (.invalid _ _) => some (.claims, "claims")
  | .claim (.expired _ _) => some (.claims, "claims")
  | .claim (.notYetValid _ _) => some (.claims, "claims")
  | .signature (.generation _ _) => none
  | .signature (.malformed _) => none
  | .invalidArgument _ => none

namespace Requirement

theorem Fails.stage?_eq {token : Token} {now : Instant} {requirement : Requirement}
    {error : ClaimError} (fails : requirement.Fails token now error) :
    (Error.claim error).stage? = some (.claims, "claims") := by
  cases fails with
  | missing => rfl
  | null => rfl
  | unmet => rfl
  | expired => rfl
  | notYetValid => rfl
  | refused => rfl

theorem stage?_of_checkAll {token : Token} {now : Instant} {requirements : List Requirement}
    {error : ClaimError} (failed : checkAll token now.unixMillis requirements = .error error) :
    (Error.claim error).stage? = some (.claims, "claims") := by
  rw [checkAll_eq_findSome?] at failed
  cases first : requirements.findSome? (failure? token now.unixMillis) with
  | none =>
      rw [first] at failed
      cases failed
  | some found =>
      rw [first] at failed
      cases failed
      obtain ⟨requirement, -, fails⟩ := List.exists_of_findSome?_eq_some first
      exact (failure?_eq_some_iff.mp fails).stage?_eq

end Requirement

/-!
## What an algorithm reports
-/

/-- What an event shows in the log. -/
structure Event.Shows (event : Event) (level message : String) (fields : List (String × String)) :
    Prop where
  level : event.level = level
  message : event.message = message
  fields : event.fields = fields

namespace Algorithm

/-- A signature on a curve that has neither the fixed width nor the tag of a sequence. -/
def HasNoTaggedForm (algorithm : Algorithm) (signature : Bytes) : Prop :=
  ∃ scheme, algorithm = .ecdsa scheme ∧
    signature.length ≠ 2 * scheme.curve.fieldLength.toNat ∧ signature.head? ≠ some 0x30

/-- The report of a signature on a curve that has not the fixed width. -/
inductive Report (algorithm : Algorithm) (signature : Bytes) : Event → Prop where
  | notJose {scheme : EcdsaScheme} (onCurve : algorithm = .ecdsa scheme)
      {fault : JoseSignature.Fault}
      (shown : (Event.signatureNotJose algorithm.name fault).Shows "DEBUG"
        "signature is not valid JOSE"
        [("algorithm", algorithm.name),
          ("error", "Malformed signature encoding: " ++
            s!"expected {2 * scheme.curve.fieldLength.toNat} bytes, got {signature.length}")]) :
      Report algorithm signature (.signatureNotJose algorithm.name fault)

inductive Verified (algorithm : Algorithm) (signature : Bytes) :
    Audited (Except SignatureError Unit) → Prop where
  | accepted (tagged : ¬ algorithm.HasNoTaggedForm signature) :
      Verified algorithm signature ⟨.ok (), []⟩
  | refused (tagged : ¬ algorithm.HasNoTaggedForm signature) :
      Verified algorithm signature ⟨.error (.verification algorithm.describe), []⟩
  | reported (untagged : algorithm.HasNoTaggedForm signature) {report : Event}
      (reports : algorithm.Report signature report) :
      Verified algorithm signature ⟨.error (.verification algorithm.describe), [report]⟩

theorem Verified.silent (algorithm : Algorithm) {signature : Bytes}
    (tagged : ¬ algorithm.HasNoTaggedForm signature) (accepts : Prop) [Decidable accepts] :
    Verified algorithm signature
      (.silent (if accepts then .ok () else .error (.verification algorithm.describe))) := by
  by_cases holds : accepts
  · rw [if_pos holds]
    exact .accepted tagged
  · rw [if_neg holds]
    exact .refused tagged

theorem not_hasNoTaggedForm {algorithm : Algorithm} {signature : Bytes}
    (fits : ∀ scheme, algorithm = .ecdsa scheme →
      signature.length = 2 * scheme.curve.fieldLength.toNat ∨ signature.head? = some 0x30) :
    ¬ algorithm.HasNoTaggedForm signature := by
  intro untagged
  obtain ⟨scheme, same, misfit, other⟩ := untagged
  cases fits scheme same with
  | inl width => exact misfit width
  | inr sequence => exact other sequence

/-- Verification is silent, or it reports that there is no tagged form and refuses the
signature. -/
theorem verified_verify (algorithm : Algorithm) (input signature : Bytes) :
    Verified algorithm signature (algorithm.verify input signature) := by
  cases algorithm with
  | none =>
      refine Verified.silent .none (not_hasNoTaggedForm ?_) (signature = [])
      intro scheme same
      cases same
  | hmac keyed =>
      refine Verified.silent (.hmac keyed) (not_hasNoTaggedForm ?_) (keyed.sign input = signature)
      intro scheme same
      cases same
  | rsa signer =>
      have verified : (rsa signer).verify input signature = _ := signer.verify_eq input signature
      rw [verified]
      refine Verified.silent (.rsa signer) (not_hasNoTaggedForm ?_)
        (Rsa.verify signer.digest signer.publicKey input signature = true)
      intro scheme same
      cases same
  | ecdsa scheme =>
      have verified : (ecdsa scheme).verify input signature = _ :=
        EcdsaScheme.verifyWith_eq
          (Ecdsa.verifyWritten scheme.curve.parameters scheme.curve.digest) scheme input signature
      rw [verified]
      by_cases width : signature.length = 2 * scheme.curve.fieldLength.toNat
      · rw [EcdsaScheme.asked?_of_width width]
        refine Verified.silent (.ecdsa scheme) (not_hasNoTaggedForm ?_) _
        intro other same
        cases same
        exact .inl width
      · by_cases sequence : signature.head? = some JoseSignature.sequenceTag
        · rw [EcdsaScheme.asked?_of_sequence width sequence]
          refine Verified.silent (.ecdsa scheme) (not_hasNoTaggedForm ?_) _
          intro other same
          exact .inr sequence
        · rw [EcdsaScheme.asked?_of_neither width sequence]
          have untagged : (ecdsa scheme).HasNoTaggedForm signature := ⟨scheme, rfl, width, sequence⟩
          exact .reported untagged (.notJose rfl ⟨rfl, rfl, rfl⟩)

/-- No algorithm ever reports that it has no public half to verify with. -/
theorem noPublicKey_not_mem_verify (algorithm : Algorithm) (input signature : Bytes)
    (name : String) : Event.noPublicKey name ∉ (algorithm.verify input signature).events := by
  have verified := algorithm.verified_verify input signature
  generalize algorithm.verify input signature = result at verified ⊢
  intro member
  cases verified with
  | accepted => cases member
  | refused => cases member
  | reported untagged reports =>
      have same := List.mem_singleton.mp member
      subst same
      cases reports

end Algorithm

/-!
## The block of a check
-/

/-- The event that ends a check with an outcome. -/
inductive Verdict (algorithm : Algorithm) : Except Error Unit → Event → Prop where
  | verified (shown : (Event.tokenVerified algorithm.name).Shows "TRACE" "token verified"
      [("algorithm", algorithm.name)]) :
      Verdict algorithm (.ok ()) (.tokenVerified algorithm.name)
  | rejected {error : Error} {stage : Stage} {name : String}
      (stopped : error.stage? = some (stage, name))
      (shown : (Event.tokenRejected stage error).Shows "DEBUG" "token rejected"
        [("stage", name), ("error", error.message)]) :
      Verdict algorithm (.error error) (.tokenRejected stage error)

/-- What a check under an algorithm leaves in the log. The token is the one that was
checked, unless the text could not be taken apart. -/
structure CheckBlock (algorithm : Algorithm) (taken : Option Token)
    (outcome : Except Error Unit) (block : List Event) : Prop where
  shape : ∃ reports verdict, block = reports ++ [verdict] ∧ Verdict algorithm outcome verdict ∧
    (reports = [] ∨ ∃ token report, taken = some token ∧ reports = [report] ∧
      algorithm.Report token.signature report)
  reports : (∃ name fault, Event.signatureNotJose name fault ∈ block) ↔
    ∃ token, taken = some token ∧ token.header.algorithm = some algorithm.name ∧
      algorithm.HasNoTaggedForm token.signature

section

variable {algorithm : Algorithm} {outcome : Except Error Unit} {verdict : Event}

/-- Every error that stops a check is shown with its text and the name of its stage. -/
theorem Verdict.of_stage {error : Error} {stage : Stage}
    (stopped : error.stage? = some (stage, stage.name)) :
    Verdict algorithm (.error error) (.tokenRejected stage error) :=
  .rejected stopped ⟨rfl, rfl, rfl⟩

theorem Verdict.ne_report (ends : Verdict algorithm outcome verdict) (name : String)
    (fault : JoseSignature.Fault) : Event.signatureNotJose name fault ≠ verdict := by
  intro same
  cases ends with
  | verified => cases same
  | rejected stopped => cases same

theorem CheckBlock.of_verdict {taken : Option Token} (ends : Verdict algorithm outcome verdict)
    (tagged : ∀ token, taken = some token → token.header.algorithm = some algorithm.name →
      ¬ algorithm.HasNoTaggedForm token.signature) :
    CheckBlock algorithm taken outcome [verdict] := by
  refine ⟨⟨[], verdict, rfl, ends, .inl rfl⟩, ?_⟩
  constructor
  · intro reported
    obtain ⟨name, fault, member⟩ := reported
    exact absurd (List.mem_singleton.mp member) (ends.ne_report name fault)
  · intro untagged
    obtain ⟨token, same, named, formless⟩ := untagged
    exact absurd formless (tagged token same named)

theorem CheckBlock.of_tagged {token : Token} (ends : Verdict algorithm outcome verdict)
    (tagged : ¬ algorithm.HasNoTaggedForm token.signature) :
    CheckBlock algorithm (some token) outcome [verdict] := by
  refine .of_verdict ends ?_
  intro other same _
  cases same
  exact tagged

theorem CheckBlock.of_report {token : Token} {report : Event}
    (ends : Verdict algorithm outcome verdict)
    (named : token.header.algorithm = some algorithm.name)
    (untagged : algorithm.HasNoTaggedForm token.signature)
    (reports : algorithm.Report token.signature report) :
    CheckBlock algorithm (some token) outcome [report, verdict] := by
  refine ⟨⟨[report], verdict, rfl, ends, .inr ⟨token, report, rfl, rfl, reports⟩⟩, ?_⟩
  constructor
  · intro _
    exact ⟨token, rfl, named, untagged⟩
  · intro _
    cases reports with
    | notJose => exact ⟨_, _, List.mem_cons_self⟩

theorem CheckBlock.noPublicKey_not_mem {taken : Option Token} {block : List Event}
    (checked : CheckBlock algorithm taken outcome block) (name : String) :
    Event.noPublicKey name ∉ block := by
  obtain ⟨reports, verdict, rfl, ends, plain⟩ := checked.shape
  intro member
  cases List.mem_append.mp member with
  | inl reported =>
      rcases plain with rfl | ⟨token, report, -, rfl, described⟩
      · cases reported
      · have same := List.mem_singleton.mp reported
        subst same
        cases described
  | inr last =>
      have same := List.mem_singleton.mp last
      subst same
      cases ends

end

namespace Verifier

theorem checkBlock_verifyToken (verifier : Verifier) (now : Instant) (token : Token) :
    CheckBlock verifier.algorithm (some token) (verifier.verifyToken now token).outcome
      (verifier.verifyToken now token).events := by
  unfold verifyToken
  by_cases named : token.header.algorithm = some verifier.algorithm.name
  · simp only [named, ↓reduceIte]
    have verified := verifier.algorithm.verified_verify (Bytes.ofText token.signingInput)
      token.signature
    generalize verifier.algorithm.verify (Bytes.ofText token.signingInput) token.signature =
      result at verified ⊢
    cases verified with
    | accepted tagged =>
        cases checked : Requirement.checkAll token now.unixMillis verifier.requirements with
        | error error =>
            exact .of_tagged (.of_stage (Requirement.stage?_of_checkAll checked)) tagged
        | ok passed => exact .of_tagged (.verified ⟨rfl, rfl, rfl⟩) tagged
    | refused tagged => exact .of_tagged (.of_stage rfl) tagged
    | reported untagged reports => exact .of_report (.of_stage rfl) named untagged reports
  · simp only [named, ↓reduceIte]
    refine .of_verdict (.of_stage rfl) ?_
    intro other same namedToo
    cases same
    exact absurd namedToo named

theorem checkBlock_verify (verifier : Verifier) (now : Instant) (text : String) :
    CheckBlock verifier.algorithm (Token.decode text).toOption
      ((verifier.verify now text).outcome.map fun _ => ()) (verifier.verify now text).events := by
  unfold verify
  cases decoded : Token.decode text with
  | error error =>
      refine .of_verdict (.of_stage rfl) ?_
      intro token same _
      cases same
  | ok token =>
      have block := verifier.checkBlock_verifyToken now token
      change CheckBlock verifier.algorithm (some token)
        (((verifier.verifyToken now token).outcome.map fun _ => token).map fun _ => ())
        (verifier.verifyToken now token).events
      generalize verifier.verifyToken now token = checked at block ⊢
      obtain ⟨outcome, events⟩ := checked
      cases outcome with
      | error error => exact block
      | ok passed => exact block

/-- Only a text that could not be taken apart is rejected for how it is written. -/
theorem verifyToken_ne_decode (verifier : Verifier) (now : Instant) (token : Token)
    (error : DecodeError) : (verifier.verifyToken now token).outcome ≠ .error (.decode error) := by
  unfold verifyToken
  by_cases named : token.header.algorithm = some verifier.algorithm.name
  · simp only [named, ↓reduceIte]
    cases (verifier.algorithm.verify (Bytes.ofText token.signingInput) token.signature).outcome with
    | error error => exact nofun
    | ok verified =>
        cases Requirement.checkAll token now.unixMillis verifier.requirements with
        | error error => exact nofun
        | ok passed => exact nofun
  · simp only [named, ↓reduceIte]
    exact nofun

end Verifier

/-!
## Runs of calls
-/

/-- Something that leaves events. -/
inductive Call where
  | verify (verifier : Verifier) (now : Instant) (text : String)
  | verifyToken (verifier : Verifier) (now : Instant) (token : Token)
  | sign (provider : SigningProvider) (draft : Draft) (algorithm : Algorithm)

namespace Call

def result : Call → Audited (Except Error Unit)
  | .verify verifier now text =>
      ⟨(verifier.verify now text).outcome.map fun _ => (), (verifier.verify now text).events⟩
  | .verifyToken verifier now token => verifier.verifyToken now token
  | .sign provider draft algorithm =>
      ⟨(draft.signWith provider algorithm).outcome.map fun _ => (),
        (draft.signWith provider algorithm).events⟩

/-- The log after a call. -/
def record (log : List Event) (call : Call) : List Event :=
  log ++ call.result.events

/-- What a call with its outcome leaves in the log. -/
def Leaves : Call → List Event → Prop
  | .verify verifier now text, block =>
      CheckBlock verifier.algorithm (Token.decode text).toOption
        (verify verifier now text).result.outcome block
  | .verifyToken verifier now token, block =>
      CheckBlock verifier.algorithm (some token) (verifyToken verifier now token).result.outcome
        block ∧
      ∀ error, (verifyToken verifier now token).result.outcome ≠ .error (.decode error)
  | .sign provider draft algorithm, block =>
      ((sign provider draft algorithm).result.outcome = .ok () ∧
          block = [.tokenSigned algorithm.name] ∧
          (Event.tokenSigned algorithm.name).Shows "TRACE" "token signed"
            [("algorithm", algorithm.name)]) ∨
        ∃ error, (sign provider draft algorithm).result.outcome = .error error ∧ block = []

theorem leaves_events (call : Call) : call.Leaves call.result.events := by
  cases call with
  | verify verifier now text => exact verifier.checkBlock_verify now text
  | verifyToken verifier now token =>
      exact ⟨verifier.checkBlock_verifyToken now token, verifier.verifyToken_ne_decode now token⟩
  | sign provider draft algorithm =>
      unfold Leaves result Draft.signWith
      simp only
      cases algorithm.signWith provider (Bytes.ofText (draft.signingInput algorithm)) with
      | error error => exact .inr ⟨_, rfl, rfl⟩
      | ok signature => exact .inl ⟨rfl, rfl, rfl, rfl, rfl⟩

theorem Leaves.noPublicKey_not_mem {call : Call} {block : List Event} (left : call.Leaves block)
    (name : String) : Event.noPublicKey name ∉ block := by
  cases call with
  | verify verifier now text => exact CheckBlock.noPublicKey_not_mem left name
  | verifyToken verifier now token => exact left.1.noPublicKey_not_mem name
  | sign provider draft algorithm =>
      intro member
      cases left with
      | inl signed =>
          obtain ⟨-, rfl, -⟩ := signed
          cases List.mem_singleton.mp member
      | inr refused =>
          obtain ⟨error, -, rfl⟩ := refused
          cases member

theorem foldl_record (log : List Event) (calls : List Call) :
    calls.foldl record log = log ++ (calls.map fun call => call.result.events).flatten := by
  induction calls generalizing log with
  | nil => simp
  | cons call calls ih =>
      rw [List.foldl_cons, ih, record, List.map_cons, List.flatten_cons, List.append_assoc]

/-- A run of calls leaves a block for each call in the log, in the order of the calls,
whatever signatures a provider gives. No block reports that there is no public half to verify
with: an algorithm that was made of key material always holds one of it. -/
theorem log_eq_blocks (log : List Event) (calls : List Call) :
    (∃ blocks : List (List Event), calls.foldl record log = log ++ blocks.flatten ∧
      List.Forall₂ Leaves calls blocks ∧
      ∀ block ∈ blocks, ∀ event ∈ block, event.message ≠ "no public key to verify with") ∧
    ∀ pair algorithm, Algorithm.MadeOf pair algorithm →
      algorithm.publicHalf?.isSome = true ∧
        algorithm.publicHalf? = pair.publicHalf.or algorithm.derivedHalf? ∧
        ∀ input signature name,
          Event.noPublicKey name ∉ (algorithm.verify input signature).events := by
  refine ⟨⟨calls.map fun call => call.result.events, foldl_record log calls, ?_, ?_⟩, ?_⟩
  · induction calls with
    | nil => exact .nil
    | cons call calls ih => exact .cons call.leaves_events ih
  · intro block member event recorded
    obtain ⟨call, -, rfl⟩ := List.mem_map.mp member
    intro message
    cases event with
    | noPublicKey name => exact call.leaves_events.noPublicKey_not_mem name recorded
    | _ => simp [Event.message] at message
  · intro pair algorithm made
    obtain ⟨held, found⟩ := made.publicHalf?_eq
    exact ⟨held, found, algorithm.noPublicKey_not_mem_verify⟩

end Call

end WebToken
