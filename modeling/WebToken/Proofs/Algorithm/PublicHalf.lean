import WebToken.Algorithm.Basic

/-!
# The public half of an algorithm

Key material may come without a public half, and then the half that belongs to its
private key is taken. Verification as such reports it if there is neither. An algorithm
that was made of key material never comes to that: making it is refused if both halves
are absent, so that one of the two is always held.
-/

set_option autoImplicit false

namespace WebToken

theorem RsaScheme.publicHalf_of_make {digest : Digest} {pair : KeyPair} {scheme : RsaScheme}
    (made : make digest pair = .ok scheme) :
    scheme.publicHalf =
      pair.publicHalf.or (scheme.privateKey.map fun key => key.publicKey.write) := by
  unfold make at made
  cases privateHalf : pair.privateHalf with
  | none =>
      cases publicHalf : pair.publicHalf with
      | none =>
          rw [privateHalf, publicHalf] at made
          cases made
      | some publicKey =>
          rw [privateHalf, publicHalf] at made
          cases made
          rfl
  | some written =>
      simp only [privateHalf] at made
      cases found : PrivateKey.readRsa written with
      | error rejection =>
          rw [found] at made
          cases made
      | ok key =>
          rw [found] at made
          cases made
          cases publicHalf : pair.publicHalf with
          | none => rfl
          | some publicKey => rfl

theorem EcdsaScheme.publicHalf_of_make {curve : SigningCurve} {pair : KeyPair}
    {scheme : EcdsaScheme} (made : make curve pair = .ok scheme) :
    scheme.publicHalf = pair.publicHalf.or (scheme.privateKey.map fun key =>
      scheme.curve.parameters.writePoint key.point) := by
  unfold make at made
  cases privateHalf : pair.privateHalf with
  | none =>
      cases publicHalf : pair.publicHalf with
      | none =>
          rw [privateHalf, publicHalf] at made
          cases made
      | some publicKey =>
          rw [privateHalf, publicHalf] at made
          cases made
          rfl
  | some written =>
      simp only [privateHalf] at made
      cases found : PrivateKey.readOnCurve curve.parameters written with
      | error rejection =>
          rw [found] at made
          cases made
      | ok key =>
          rw [found] at made
          cases made
          cases publicHalf : pair.publicHalf with
          | none => rfl
          | some publicKey => rfl

namespace Algorithm

inductive MadeOf (pair : KeyPair) : Algorithm → Prop where
  | rsa {digest : Digest} {algorithm : Algorithm} (made : ofRsaKeys digest pair = .ok algorithm) :
      MadeOf pair algorithm
  | ecdsa {curve : SigningCurve} {algorithm : Algorithm}
      (made : ofCurveKeys curve pair = .ok algorithm) : MadeOf pair algorithm

def publicHalf? : Algorithm → Option Bytes
  | .rsa scheme => scheme.publicHalf
  | .ecdsa scheme => scheme.publicHalf
  | _ => .none

/-- The public half that belongs to the private key. -/
def derivedHalf? : Algorithm → Option Bytes
  | .rsa scheme => scheme.privateKey.map fun key => key.publicKey.write
  | .ecdsa scheme => scheme.privateKey.map fun key => scheme.curve.parameters.writePoint key.point
  | _ => .none

/-- An algorithm that was made of key material holds a public half: the one in the
material, or else the one that belongs to the private key. -/
theorem MadeOf.publicHalf?_eq {pair : KeyPair} {algorithm : Algorithm}
    (made : algorithm.MadeOf pair) :
    algorithm.publicHalf?.isSome = true ∧
      algorithm.publicHalf? = pair.publicHalf.or algorithm.derivedHalf? := by
  cases made with
  | @rsa digest _ made =>
      unfold ofRsaKeys at made
      cases found : RsaScheme.make digest pair with
      | error error =>
          rw [found] at made
          cases made
      | ok scheme =>
          rw [found] at made
          cases made
          exact ⟨scheme.canVerify, RsaScheme.publicHalf_of_make found⟩
  | @ecdsa curve _ made =>
      unfold ofCurveKeys at made
      cases found : EcdsaScheme.make curve pair with
      | error error =>
          rw [found] at made
          cases made
      | ok scheme =>
          rw [found] at made
          cases made
          exact ⟨scheme.canVerify, EcdsaScheme.publicHalf_of_make found⟩

end Algorithm

end WebToken
