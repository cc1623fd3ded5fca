import WebToken.Policy.Inspect
import WebToken.Proofs.Chain
import WebToken.Proofs.Policy.Verdict

/-!
# What a verifier keeps to itself

Two runs are compared that differ in what should not show. What is asked of the claims,
and at which time, does not show in the rejection of a text that is not authenticated.
The secret of a keyed digest shows in the verdict on signatures and nowhere else. Runs
are compared with all their events, and failures by their causes, so that the texts that
are made from these are the same as well.
-/

set_option autoImplicit false

namespace WebToken

/-!
## Texts that are not authenticated
-/

/-- A text that an algorithm does not vouch for: it is no token, or a token that names
another algorithm, or its signature does not verify. -/
inductive Algorithm.Unauthenticated (algorithm : Algorithm) (text : String) : Prop where
  | undecodable {error : DecodeError} (malformed : Token.decode text = .error error)
  | misnamed {token : Token} (decoded : Token.decode text = .ok token)
      (unnamed : token.header.algorithm ≠ some algorithm.name)
  | unverified {token : Token} {error : SignatureError} (decoded : Token.decode text = .ok token)
      (refused : (algorithm.verify (Bytes.ofText token.signingInput) token.signature).outcome =
        .error error)

namespace Verifier

variable {verifier : Verifier} {now : Instant} {algorithm : Algorithm} {text : String}
  {token : Token}

theorem verify_of_undecodable {error : DecodeError} (malformed : Token.decode text = .error error) :
    verifier.verify now text = rejected [] .decode (.decode error) := by
  unfold verify
  rw [malformed]

theorem verify_of_verifyToken {before : List Event} {stage : Stage} {error : Error}
    (decoded : Token.decode text = .ok token)
    (checked : verifier.verifyToken now token = rejected before stage error) :
    verifier.verify now text = rejected before stage error := by
  unfold verify
  rw [decoded]
  simp only [checked]
  rfl

theorem verify_of_misnamed (own : verifier.algorithm = algorithm)
    (decoded : Token.decode text = .ok token)
    (unnamed : token.header.algorithm ≠ some algorithm.name) :
    verifier.verify now text =
      rejected [] .algorithm (.claim (.algorithmMismatch algorithm.name token.header.algorithm)) := by
  subst own
  exact verify_of_verifyToken decoded (if_neg unnamed)

theorem verify_of_unverified {error : SignatureError} (own : verifier.algorithm = algorithm)
    (decoded : Token.decode text = .ok token)
    (named : token.header.algorithm = some algorithm.name)
    (refused : (algorithm.verify (Bytes.ofText token.signingInput) token.signature).outcome =
      .error error) :
    verifier.verify now text =
      rejected (algorithm.verify (Bytes.ofText token.signingInput) token.signature).events
        .signature (.signature error) := by
  subst own
  refine verify_of_verifyToken decoded ?_
  unfold verifyToken
  simp only [named, ↓reduceIte, refused]

/-- The algorithm alone decides how a text is rejected that it does not vouch for. -/
theorem exists_rejected (unauthenticated : algorithm.Unauthenticated text) :
    ∃ before stage error, ∀ (verifier : Verifier) (now : Instant),
      verifier.algorithm = algorithm → verifier.verify now text = rejected before stage error := by
  cases unauthenticated with
  | undecodable malformed => exact ⟨_, _, _, fun _ _ _ => verify_of_undecodable malformed⟩
  | misnamed decoded unnamed =>
      exact ⟨_, _, _, fun _ _ own => verify_of_misnamed own decoded unnamed⟩
  | @unverified token _ decoded refused =>
      -- The name is compared first: under another name the signature is not even looked at.
      by_cases named : token.header.algorithm = some algorithm.name
      · exact ⟨_, _, _, fun _ _ own => verify_of_unverified own decoded named refused⟩
      · exact ⟨_, _, _, fun _ _ own => verify_of_misnamed own decoded named⟩

end Verifier

namespace Policy

/-- The rejection of a text that is not authenticated, and the events of it, are the same
for every policy of the algorithm and at every time. -/
theorem verify_unauthenticated {algorithm : Algorithm} {text : String}
    (unauthenticated : algorithm.Unauthenticated text) :
    ∃ error events, ∀ (edits : List Edit) (now : Instant),
      ((new algorithm).editAll edits).verifier.verify now text = ⟨.error error, events⟩ := by
  obtain ⟨before, stage, error, rejection⟩ := Verifier.exists_rejected unauthenticated
  refine ⟨error, before ++ [.tokenRejected stage error], fun edits now => ?_⟩
  exact rejection _ now (algorithm_editAll (new algorithm) edits)

/-- One policy asks for the issuer that the token states, the other one refuses every
issuer; the token was signed with another secret. -/
theorem verify_unauthenticated_of_other_secret :
    ∃ error events,
      ((new (.hmac ⟨.sha256, Bytes.ofText "other", by decide⟩)).editAll
          [.issuer "auth0"]).verifier.verify ⟨0, 0, by decide⟩
        ("eyJhbGciOiJIUzI1NiIsImN0eSI6IkpXVCJ9.eyJpc3MiOiJhdXRoMCJ9." ++
          "mZ0m_N1J4PgeqWmi903JuUoDRZDBPB7HwkS4nVyWH1M") = ⟨.error error, events⟩ ∧
      ((new (.hmac ⟨.sha256, Bytes.ofText "other", by decide⟩)).editAll
          [.predicate "iss" fun _ _ => false, .allowLeeway 60]).verifier.verify
            ⟨-5, 700, by decide⟩
        ("eyJhbGciOiJIUzI1NiIsImN0eSI6IkpXVCJ9.eyJpc3MiOiJhdXRoMCJ9." ++
          "mZ0m_N1J4PgeqWmi903JuUoDRZDBPB7HwkS4nVyWH1M") = ⟨.error error, events⟩ := by
  obtain ⟨token, decoded⟩ := exists_eq_ok_of_isOk (show
    (Token.decode ("eyJhbGciOiJIUzI1NiIsImN0eSI6IkpXVCJ9.eyJpc3MiOiJhdXRoMCJ9." ++
      "mZ0m_N1J4PgeqWmi903JuUoDRZDBPB7HwkS4nVyWH1M")).isOk = true by decide +kernel)
  have refused : (Token.decode ("eyJhbGciOiJIUzI1NiIsImN0eSI6IkpXVCJ9.eyJpc3MiOiJhdXRoMCJ9." ++
      "mZ0m_N1J4PgeqWmi903JuUoDRZDBPB7HwkS4nVyWH1M")).map (fun token =>
        ((Algorithm.hmac ⟨.sha256, Bytes.ofText "other", by decide⟩).verify
          (Bytes.ofText token.signingInput) token.signature).outcome) =
      .ok (.error (.verification "HmacSHA256")) := by
    decide +kernel
  rw [decoded] at refused
  obtain ⟨error, events, same⟩ :=
    verify_unauthenticated (.unverified decoded (Except.ok.inj refused))
  exact ⟨error, events, same _ _, same _ _⟩

end Policy

/-!
## The secret of a keyed digest
-/

/-- Both algorithms accept the signature of a token, or both reject it. -/
def Algorithm.SameVerdict (algorithm other : Algorithm) (token : Token) : Prop :=
  (algorithm.verify (Bytes.ofText token.signingInput) token.signature).outcome = .ok () ↔
    (other.verify (Bytes.ofText token.signingInput) token.signature).outcome = .ok ()

namespace KeyedDigest

variable {keyed rekeyed : KeyedDigest}

theorem name_eq_of_digest (sameDigest : rekeyed.digest = keyed.digest) :
    rekeyed.name = keyed.name := by
  unfold name
  rw [sameDigest]

theorem inspect_eq_of_digest (sameDigest : rekeyed.digest = keyed.digest) :
    rekeyed.inspect = keyed.inspect := by
  unfold inspect
  rw [sameDigest]

/-- There is one failure for each digest, which does not depend on the secret. -/
theorem verify_eq_of_digest (sameDigest : rekeyed.digest = keyed.digest) {input signature : Bytes}
    (sameVerdict : keyed.verify input signature = .ok () ↔ rekeyed.verify input signature = .ok ()) :
    rekeyed.verify input signature = keyed.verify input signature := by
  have describe : rekeyed.describe = keyed.describe := by
    unfold KeyedDigest.describe
    rw [sameDigest]
  by_cases accepted : keyed.verify input signature = .ok ()
  · rw [accepted, sameVerdict.mp accepted]
  · have refused := mt sameVerdict.mpr accepted
    unfold verify at accepted refused ⊢
    rw [if_neg fun signed => accepted (if_pos signed), if_neg fun signed => refused (if_pos signed),
      describe]

end KeyedDigest

namespace Policy

def withAlgorithm (policy : Policy) (algorithm : Algorithm) : Policy :=
  { policy with algorithm }

theorem edit_withAlgorithm (policy : Policy) (algorithm : Algorithm) (change : Edit) :
    (policy.withAlgorithm algorithm).edit change =
      (policy.edit change).withAlgorithm algorithm := by
  cases change with
  | claim name value => cases value <;> rfl
  | _ => rfl

theorem editAll_withAlgorithm (policy : Policy) (algorithm : Algorithm) (edits : List Edit) :
    (policy.withAlgorithm algorithm).editAll edits =
      (policy.editAll edits).withAlgorithm algorithm := by
  induction edits generalizing policy with
  | nil => rfl
  | cons change edits ih =>
      refine (congrArg (editAll · edits) (edit_withAlgorithm policy algorithm change)).trans ?_
      exact ih (policy.edit change)

end Policy

namespace Verifier

variable {verifier other : Verifier} {now : Instant}

/-- Of its algorithm a verifier asks for the name and for one verdict. -/
theorem verifyToken_congr (requirements : other.requirements = verifier.requirements)
    (name : other.algorithm.name = verifier.algorithm.name) {token : Token}
    (verdict : other.algorithm.verify (Bytes.ofText token.signingInput) token.signature =
      verifier.algorithm.verify (Bytes.ofText token.signingInput) token.signature) :
    other.verifyToken now token = verifier.verifyToken now token := by
  unfold verifyToken
  rw [requirements, name, verdict]

theorem verify_congr {text : String}
    (same : ∀ token, Token.decode text = .ok token →
      other.verifyToken now token = verifier.verifyToken now token) :
    other.verify now text = verifier.verify now text := by
  unfold verify
  cases decoded : Token.decode text with
  | error error => rfl
  | ok token => simp only [same token decoded]

end Verifier

namespace Policy

section

variable {algorithm other : Algorithm}

theorem editAll_new (algorithm other : Algorithm) (edits : List Edit) :
    (new other).editAll edits = ((new algorithm).editAll edits).withAlgorithm other :=
  editAll_withAlgorithm (new algorithm) other edits

theorem verifyToken_other_algorithm (name : other.name = algorithm.name) {token : Token}
    (verdict : other.verify (Bytes.ofText token.signingInput) token.signature =
      algorithm.verify (Bytes.ofText token.signingInput) token.signature)
    (edits : List Edit) (now : Instant) :
    ((new other).editAll edits).verifier.verifyToken now token =
      ((new algorithm).editAll edits).verifier.verifyToken now token := by
  have own : ((new algorithm).editAll edits).verifier.algorithm = algorithm :=
    algorithm_editAll (new algorithm) edits
  rw [editAll_new algorithm other]
  refine Verifier.verifyToken_congr ?_ ?_ ?_
  · rfl
  · rw [own]
    exact name
  · rw [own]
    exact verdict

theorem inspect_other_algorithm (rendered : other.inspect = algorithm.inspect)
    (edits : List Edit) :
    ((new other).editAll edits).inspect = ((new algorithm).editAll edits).inspect := by
  have own : ((new algorithm).editAll edits).algorithm = algorithm :=
    algorithm_editAll (new algorithm) edits
  rw [editAll_new algorithm other]
  unfold inspect withAlgorithm
  rw [own]
  simp only [rendered]

theorem inspect_verifier_other_algorithm (rendered : other.inspect = algorithm.inspect)
    (edits : List Edit) :
    ((new other).editAll edits).verifier.inspect =
      ((new algorithm).editAll edits).verifier.inspect := by
  have own : ((new algorithm).editAll edits).algorithm = algorithm :=
    algorithm_editAll (new algorithm) edits
  rw [editAll_new algorithm other]
  unfold Verifier.inspect verifier
  rw [own]
  exact congrArg
    (fun shown => "TokenVerifier \x7b algorithm: " ++ shown ++ ", assertions: " ++
      Requirement.inspectAll ((new algorithm).editAll edits).windowedRequirements ++ ", .. \x7d")
    rendered

end

/-- Another secret for the same digest changes nothing but the verdict on signatures.
Where that stays the same a token has the same result and the same events, and the
algorithm, the policy and the verifier are always rendered the same. -/
theorem verify_other_secret {keyed rekeyed : KeyedDigest}
    (sameDigest : rekeyed.digest = keyed.digest) (edits : List Edit) :
    (∀ (now : Instant) (token : Token), (Algorithm.hmac keyed).SameVerdict (.hmac rekeyed) token →
      ((new (.hmac rekeyed)).editAll edits).verifier.verifyToken now token =
        ((new (.hmac keyed)).editAll edits).verifier.verifyToken now token) ∧
    (∀ (now : Instant) (text : String),
      (∀ token, Token.decode text = .ok token →
        (Algorithm.hmac keyed).SameVerdict (.hmac rekeyed) token) →
      ((new (.hmac rekeyed)).editAll edits).verifier.verify now text =
        ((new (.hmac keyed)).editAll edits).verifier.verify now text) ∧
    (Algorithm.hmac rekeyed).inspect = (Algorithm.hmac keyed).inspect ∧
    ((new (.hmac rekeyed)).editAll edits).inspect = ((new (.hmac keyed)).editAll edits).inspect ∧
    ((new (.hmac rekeyed)).editAll edits).verifier.inspect =
      ((new (.hmac keyed)).editAll edits).verifier.inspect := by
  have named : (Algorithm.hmac rekeyed).name = (Algorithm.hmac keyed).name :=
    KeyedDigest.name_eq_of_digest sameDigest
  have rendered : (Algorithm.hmac rekeyed).inspect = (Algorithm.hmac keyed).inspect :=
    congrArg (fun shown => s!"Hmac({shown})") (KeyedDigest.inspect_eq_of_digest sameDigest)
  have checked : ∀ (now : Instant) (token : Token),
      (Algorithm.hmac keyed).SameVerdict (.hmac rekeyed) token →
      ((new (.hmac rekeyed)).editAll edits).verifier.verifyToken now token =
        ((new (.hmac keyed)).editAll edits).verifier.verifyToken now token := by
    intro now token sameVerdict
    have verdict := KeyedDigest.verify_eq_of_digest sameDigest sameVerdict
    exact verifyToken_other_algorithm named (congrArg Audited.silent verdict) edits now
  refine ⟨checked, ?_, rendered, inspect_other_algorithm rendered edits,
    inspect_verifier_other_algorithm rendered edits⟩
  intro now text sameVerdict
  exact Verifier.verify_congr fun token decoded => checked now token (sameVerdict token decoded)

/-- Secrets are filled with zeros, so that both verify the signature. -/
theorem verify_other_secret_of_trailing_zero :
    ((new (.hmac ⟨.sha256, Bytes.ofText "secret" ++ [0], by decide⟩)).editAll
        [.issuer "auth0"]).verifier.verify ⟨0, 0, by decide⟩
      ("eyJhbGciOiJIUzI1NiIsImN0eSI6IkpXVCJ9.eyJpc3MiOiJhdXRoMCJ9." ++
        "mZ0m_N1J4PgeqWmi903JuUoDRZDBPB7HwkS4nVyWH1M") =
      ((new (.hmac ⟨.sha256, Bytes.ofText "secret", by decide⟩)).editAll
          [.issuer "auth0"]).verifier.verify ⟨0, 0, by decide⟩
        ("eyJhbGciOiJIUzI1NiIsImN0eSI6IkpXVCJ9.eyJpc3MiOiJhdXRoMCJ9." ++
          "mZ0m_N1J4PgeqWmi903JuUoDRZDBPB7HwkS4nVyWH1M") := by
  have sameKey : Digest.sha256.blockKey (Bytes.ofText "secret" ++ [0]) =
      Digest.sha256.blockKey (Bytes.ofText "secret") := by
    decide +kernel
  have sameSignature : ∀ input, Digest.sha256.hmac (Bytes.ofText "secret" ++ [0]) input =
      Digest.sha256.hmac (Bytes.ofText "secret") input := by
    intro input
    unfold Digest.hmac
    rw [sameKey]
  obtain ⟨-, sameVerdict, -⟩ := verify_other_secret
    (show (⟨.sha256, Bytes.ofText "secret" ++ [0], by decide⟩ : KeyedDigest).digest =
      (⟨.sha256, Bytes.ofText "secret", by decide⟩ : KeyedDigest).digest from rfl)
    [.issuer "auth0"]
  refine sameVerdict _ _ fun token _ => ?_
  unfold Algorithm.SameVerdict Algorithm.verify KeyedDigest.verify KeyedDigest.sign
  simp only [sameSignature]
  rfl

end Policy

end WebToken
