import WebToken.Proofs.Algorithm.Acceptance
import WebToken.Proofs.Policy.Verdict
import WebToken.Proofs.Token.Decoding

/-!
# One text for each accepted token

Where the signature is a function of the signing input, as it is without a key
pair, a text that is accepted is the only one with its header and payload. Its
last segment has to spell that signature, and a byte string has one spelling.
-/

set_option autoImplicit false

namespace WebToken

namespace Token

/-- What a text holds before its second dot, or all of it if there is none. -/
def beforeSecondDot (text : String) : String :=
  ".".intercalate ((parts text).take 2)

theorem beforeSecondDot_signingInput {token : Token} {text : String}
    (decoded : decode text = .ok token) (rest : String) :
    beforeSecondDot (token.signingInput ++ "." ++ rest) = token.signingInput := by
  obtain ⟨-, -, headerWhole, payloadWhole⟩ := parts_of_decode decoded
  rw [signingInput_eq, beforeSecondDot, parts_append headerWhole payloadWhole]
  rfl

end Token

namespace Verifier

variable {verifier : Verifier} {now : Instant} {text : String} {token : Token}

theorem eq_signed_of_verify
    (unpaired : verifier.algorithm = .none ∨ ∃ keyed, verifier.algorithm = .hmac keyed)
    (accepted : (verifier.verify now text).outcome = .ok token) :
    verifier.algorithm.sign (Bytes.ofText token.signingInput) = .ok token.signature ∧
      text = token.signingInput ++ "." ++ Base64Url.encode token.signature := by
  obtain ⟨decoded, -, verified, -⟩ := verify_eq_ok_iff.mp accepted
  obtain ⟨-, spelled, -, -⟩ := Token.parts_of_decode decoded
  refine ⟨(Algorithm.verify_eq_ok_iff_sign unpaired).mp verified, ?_⟩
  rw [← spelled]
  exact (Token.eq_text_of_decode decoded).trans token.text_eq_signed

theorem eq_of_verify {other : Verifier} (same : other.algorithm = verifier.algorithm)
    (unpaired : verifier.algorithm = .none ∨ ∃ keyed, verifier.algorithm = .hmac keyed)
    (accepted : (verifier.verify now text).outcome = .ok token)
    {moment : Instant} {again : String} {found : Token}
    (acceptedToo : (other.verify moment again).outcome = .ok found)
    (front : Token.beforeSecondDot again = Token.beforeSecondDot text) : again = text := by
  obtain ⟨signature, whole⟩ := eq_signed_of_verify unpaired accepted
  obtain ⟨signatureToo, wholeToo⟩ := eq_signed_of_verify (same.symm ▸ unpaired) acceptedToo
  have decoded := (verify_eq_ok_iff.mp accepted).1
  have decodedToo := (verify_eq_ok_iff.mp acceptedToo).1
  rw [wholeToo, whole, Token.beforeSecondDot_signingInput decodedToo,
    Token.beforeSecondDot_signingInput decoded] at front
  rw [front, same, signature] at signatureToo
  rw [wholeToo, whole, front, Except.ok.inj signatureToo]

/-- A text that is accepted without a key pair is its signing input, a dot, and the
spelling of the signature that the algorithm makes of it. No other text with the
same front is accepted under the algorithm, whatever is required of its claims. -/
theorem verify_rigid
    (unpaired : verifier.algorithm = .none ∨ ∃ keyed, verifier.algorithm = .hmac keyed)
    (accepted : (verifier.verify now text).outcome = .ok token) :
    (∃ signature, verifier.algorithm.sign (Bytes.ofText token.signingInput) = .ok signature ∧
        token.signature = signature ∧
        text = token.signingInput ++ "." ++ Base64Url.encode signature) ∧
      (∀ (other : Verifier) (moment : Instant) (again : String) (found : Token),
        other.algorithm = verifier.algorithm →
          (other.verify moment again).outcome = .ok found →
          Token.beforeSecondDot again = Token.beforeSecondDot text → again = text) ∧
      ∀ (other : Verifier) (moment : Instant) (segment : String),
        other.algorithm = verifier.algorithm → segment ≠ token.signatureSegment →
          ∃ error,
            (other.verify moment (token.signingInput ++ "." ++ segment)).outcome = .error error := by
  have decoded := (verify_eq_ok_iff.mp accepted).1
  obtain ⟨signature, whole⟩ := eq_signed_of_verify unpaired accepted
  refine ⟨⟨token.signature, signature, rfl, whole⟩, ?_, ?_⟩
  · intro other moment again found same acceptedToo front
    exact eq_of_verify same unpaired accepted acceptedToo front
  · intro other moment segment same changed
    cases verdict : (other.verify moment (token.signingInput ++ "." ++ segment)).outcome with
    | error error => exact ⟨error, rfl⟩
    | ok found =>
        have front : Token.beforeSecondDot (token.signingInput ++ "." ++ segment) =
            Token.beforeSecondDot text := by
          rw [Token.beforeSecondDot_signingInput decoded, whole,
            Token.beforeSecondDot_signingInput decoded]
        have equal := eq_of_verify same unpaired accepted verdict front
        rw [Token.eq_text_of_decode decoded, Token.text_eq_signed, String.append_right_inj] at equal
        exact absurd equal changed

/-- The secret is that of a token which is signed by a digest of 256 bits. -/
theorem verify_rigid_of_digest :
    ∃ token, ((Policy.new (.hmac ⟨.sha256, Bytes.ofText "secret", by decide⟩)).verifier.verify
        ⟨0, 0, by decide⟩ ("eyJhbGciOiJIUzI1NiIsImN0eSI6IkpXVCJ9.eyJpc3MiOiJhdXRoMCJ9." ++
          "mZ0m_N1J4PgeqWmi903JuUoDRZDBPB7HwkS4nVyWH1M")).outcome = .ok token ∧
      ∀ (moment : Instant) (segment : String), segment ≠ token.signatureSegment →
        ∃ error,
          ((Policy.new (.hmac ⟨.sha256, Bytes.ofText "secret", by decide⟩)).verifier.verify moment
            (token.signingInput ++ "." ++ segment)).outcome = .error error := by
  obtain ⟨token, accepted⟩ := exists_eq_ok_of_isOk (show
    ((Policy.new (.hmac ⟨.sha256, Bytes.ofText "secret", by decide⟩)).verifier.verify
      ⟨0, 0, by decide⟩ ("eyJhbGciOiJIUzI1NiIsImN0eSI6IkpXVCJ9.eyJpc3MiOiJhdXRoMCJ9." ++
        "mZ0m_N1J4PgeqWmi903JuUoDRZDBPB7HwkS4nVyWH1M")).outcome.isOk = true by decide +kernel)
  have rigid := verify_rigid (.inr ⟨_, rfl⟩) accepted
  exact ⟨token, accepted, fun moment segment changed => rigid.2.2 _ moment segment rfl changed⟩

end Verifier

end WebToken
