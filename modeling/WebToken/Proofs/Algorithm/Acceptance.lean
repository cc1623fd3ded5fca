import WebToken.Algorithm.Basic
import WebToken.Proofs.Algorithm.TaggedForm
import WebToken.Proofs.Hash.Digest

/-!
# Signatures that an algorithm accepts

Without a key pair exactly one signature of an input verifies, the one that is
made of it. An empty signature verifies for unsigned tokens alone: a keyed digest
is never empty, a signature on a curve has a fixed size unless it is tagged, and
one of RSA is as long as the modulus.
-/

set_option autoImplicit false

namespace WebToken

theorem KeyedDigest.sign_ne_nil (keyed : KeyedDigest) (input : Bytes) : keyed.sign input ≠ [] := by
  intro empty
  have size : (keyed.sign input).length = keyed.digest.size := Digest.length_hmac ..
  rw [empty] at size
  cases digest : keyed.digest <;> rw [digest] at size <;> cases size

/-- Whatever the provider accepts, an empty signature has no tagged form to show it. -/
theorem EcdsaScheme.verifyWith_nil (accepts : Bytes → Bytes → Bytes → Bool) (scheme : EcdsaScheme)
    (input : Bytes) :
    (scheme.verifyWith accepts input []).outcome = .error (.verification scheme.describe) := by
  obtain ⟨positive, -⟩ := fieldLength_bounds scheme.curve
  have misfit : ([] : Bytes).length ≠ 2 * scheme.curve.fieldLength.toNat :=
    Nat.ne_of_lt (Nat.mul_pos (by decide)
      (Nat.pos_of_ne_zero (JoseSignature.toNat_ne_zero positive)))
  rw [verifyWith_eq, asked?_of_neither misfit nofun]

theorem Rsa.verify_nil (digest : Digest) (publicKey message : Bytes) :
    Rsa.verify digest publicKey message [] = false := by
  unfold verify
  cases VerificationKey.read? publicKey with
  | none => rfl
  | some verifier =>
      by_cases accepted : isAcceptedSize verifier.key.modulus = true
      · have large : 2048 ≤ modulusBits verifier.key.modulus := by
          simp only [isAcceptedSize, Bool.and_eq_true, decide_eq_true_eq] at accepted
          exact accepted.1
        have long : ¬ 0 = modulusSize verifier.key.modulus := by
          unfold modulusSize
          omega
        simp only [verifyWith, recover?, List.length_nil, long, false_and, ↓reduceIte,
          Bool.and_false]
      · simp only [accepted, Bool.false_and]

namespace Algorithm

variable {algorithm : Algorithm} {input signature : Bytes}

/-- Without a key pair a signature verifies only if it is the one that is made. -/
theorem verify_eq_ok_iff_sign
    (unpaired : algorithm = .none ∨ ∃ keyed, algorithm = .hmac keyed) :
    (algorithm.verify input signature).outcome = .ok () ↔ algorithm.sign input = .ok signature := by
  rcases unpaired with rfl | ⟨keyed, rfl⟩
  · by_cases empty : signature = []
    · simp [verify, sign, signWith, Audited.silent, empty]
    · simp [verify, sign, signWith, Audited.silent, empty, Ne.symm empty]
  · by_cases equal : keyed.sign input = signature
    · simp [verify, sign, signWith, Audited.silent, KeyedDigest.verify, equal]
    · simp [verify, sign, signWith, Audited.silent, KeyedDigest.verify, equal]

/-- The empty signature verifies for unsigned tokens only. -/
theorem verify_nil_eq_ok_iff : (algorithm.verify input []).outcome = .ok () ↔ algorithm = .none := by
  cases algorithm with
  | none => exact ⟨fun _ => rfl, fun _ => rfl⟩
  | hmac keyed =>
      refine ⟨fun accepted => ?_, nofun⟩
      have made := (verify_eq_ok_iff_sign (.inr ⟨keyed, rfl⟩)).mp accepted
      exact absurd (Except.ok.inj made) (keyed.sign_ne_nil input)
  | rsa scheme =>
      refine ⟨fun accepted => ?_, nofun⟩
      have refused : (scheme.verify input []).outcome = .error (.verification scheme.describe) := by
        rw [RsaScheme.verify_eq, Rsa.verify_nil]
        rfl
      cases refused.symm.trans accepted
  | ecdsa scheme =>
      refine ⟨fun accepted => ?_, nofun⟩
      cases (scheme.verifyWith_nil _ input).symm.trans accepted

theorem eq_nil_of_verify_none (accepted : (none.verify input signature).outcome = .ok ()) :
    signature = [] := by
  have made := (verify_eq_ok_iff_sign (.inl rfl)).mp accepted
  exact (Except.ok.inj made).symm

end Algorithm

end WebToken
