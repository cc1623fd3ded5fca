import WebToken.Algorithm.EcdsaScheme
import WebToken.Proofs.Algorithm.TaggedForm
import WebToken.Proofs.Ecdsa.StrictEncoding

/-!
# Signing, then verifying

A signature loses its tags when it is signed and gets them back when it is verified. What
the provider is then asked about are the octets that it gave: it gives strict encodings,
and there is only one of the same two numbers. So a provider that accepts what it signed
does so across both conversions.
-/

set_option autoImplicit false

namespace WebToken

open JoseSignature

/-- A strict encoding of two numbers from one up that fit the fields of a curve. -/
def SigningCurve.Encoded (curve : SigningCurve) (der : Bytes) : Prop :=
  ∃ r s, 0 < r ∧ r < 256 ^ curve.fieldLength.toNat ∧
    0 < s ∧ s < 256 ^ curve.fieldLength.toNat ∧ StrictSignature der ⟨r, s⟩

/-- A public half belongs to a private key if it is how the point of the key is written, or
if it reads as that point. -/
def Ecdsa.PrivateKey.MatchedBy (key : Ecdsa.PrivateKey) (publicHalf : Bytes) : Prop :=
  publicHalf = key.curve.writePoint key.point ∨
    Ecdsa.readPublicKey? key.curve publicHalf = some key.point

theorem PrivateKey.curve_of_readOnCurve {curve : Curve} {written : Bytes} {key : Ecdsa.PrivateKey}
    (read : readOnCurve curve written = .ok key) : key.curve = curve := by
  unfold readOnCurve at read
  split at read
  next => cases read
  next found =>
    split at read
    next same =>
      cases read
      exact same
    next => cases read
  next => cases read

/-!
## What signing gives
-/

namespace JoseSignature

theorem strictSignature_write {fieldLength : UInt64} {r s : Nat} (positive : fieldLength ≠ 0)
    (narrow : fieldLength.toNat ≤ 124) (rFits : r < 256 ^ fieldLength.toNat)
    (sFits : s < 256 ^ fieldLength.toNat) :
    StrictSignature (Ecdsa.Signature.write ⟨r, s⟩) ⟨r, s⟩ := by
  have width : (Bytes.ofValue fieldLength.toNat r ++ Bytes.ofValue fieldLength.toNat s).length =
      2 * fieldLength.toNat := by
    rw [List.length_append, Bytes.length_ofValue, Bytes.length_ofValue, Nat.two_mul]
  have strict := strictSignature_of_toDer (toDer_eq_write positive narrow width)
    (narrow.trans (by decide))
  rwa [numbers_ofValue rFits sFits] at strict

end JoseSignature

theorem SigningCurve.order_bounds (curve : SigningCurve) :
    0 < curve.parameters.order ∧ curve.parameters.order < 256 ^ curve.fieldLength.toNat := by
  cases curve <;> decide

section

variable {curve : SigningCurve} {key : Ecdsa.PrivateKey} {digest : Digest} {message : Bytes}
  {signature : Ecdsa.Signature}

theorem SigningCurve.encoded_write (positive : 0 < signature.r ∧ 0 < signature.s)
    (below : signature.r < curve.parameters.order ∧ signature.s < curve.parameters.order) :
    curve.Encoded signature.write := by
  obtain ⟨nonzero, narrow⟩ := EcdsaScheme.fieldLength_bounds curve
  obtain ⟨-, fits⟩ := curve.order_bounds
  have rFits := below.1.trans fits
  have sFits := below.2.trans fits
  exact ⟨signature.r, signature.s, positive.1, rFits, positive.2, sFits,
    strictSignature_write nonzero narrow rFits sFits⟩

theorem Ecdsa.encoded_of_signWithNonce? {nonce : Nat} (onCurve : key.curve = curve.parameters)
    (signed : Ecdsa.signWithNonce? key digest message nonce = some signature) :
    curve.Encoded signature.write := by
  obtain ⟨positive, -⟩ := curve.order_bounds
  rw [← onCurve] at positive
  unfold Ecdsa.signWithNonce? at signed
  split at signed
  next => cases signed
  next point found =>
    obtain ⟨nonzero, same⟩ := Option.ite_none_left_eq_some.mp signed
    obtain ⟨rNonzero, sNonzero⟩ := not_or.mp nonzero
    obtain rfl := Option.some.inj same
    apply SigningCurve.encoded_write
    · exact ⟨Nat.pos_of_ne_zero rNonzero, Nat.pos_of_ne_zero sNonzero⟩
    · rw [← onCurve]
      exact ⟨Nat.mod_lt _ positive, Nat.mod_lt _ positive⟩

theorem Ecdsa.exists_nonce_of_trySign {attempts : Nat} {state : Ecdsa.NonceState}
    (signed : Ecdsa.trySign key digest message attempts state = some signature) :
    ∃ nonce, Ecdsa.signWithNonce? key digest message nonce = some signature := by
  induction attempts generalizing state with
  | zero => cases signed
  | succ attempts ih =>
      simp only [Ecdsa.trySign] at signed
      split at signed
      next found =>
        cases signed
        obtain ⟨-, given⟩ := Option.ite_none_right_eq_some.mp found
        exact ⟨_, given⟩
      next => exact ih signed

/-- The arithmetic of this library gives what a provider is relied on to give. -/
theorem Ecdsa.encoded_of_signWritten? {der : Bytes} (onCurve : key.curve = curve.parameters)
    (signed : Ecdsa.signWritten? key digest message = some der) : curve.Encoded der := by
  obtain ⟨signature, tried, rfl⟩ := Option.map_eq_some_iff.mp signed
  obtain ⟨nonce, given⟩ := Ecdsa.exists_nonce_of_trySign tried
  exact Ecdsa.encoded_of_signWithNonce? onCurve given

end

/-!
## Across both conversions
-/

namespace EcdsaScheme

section

variable {scheme : EcdsaScheme} {message der : Bytes}

/-- What was encoded loses its tags and gets the same ones back. -/
theorem exists_jose_of_encoded {curve : SigningCurve} (encoded : curve.Encoded der) :
    ∃ jose, ofDer der curve.fieldLength = .ok jose ∧ jose.length = 2 * curve.fieldLength.toNat ∧
      toDer jose curve.fieldLength = .ok der := by
  obtain ⟨r, s, -, rFits, -, sFits, strict⟩ := encoded
  obtain ⟨positive, narrow⟩ := fieldLength_bounds curve
  have width : (Bytes.ofValue curve.fieldLength.toNat r ++
      Bytes.ofValue curve.fieldLength.toNat s).length = 2 * curve.fieldLength.toNat := by
    rw [List.length_append, Bytes.length_ofValue, Bytes.length_ofValue, Nat.two_mul]
  have written := toDer_eq_write positive narrow width
  rw [numbers_ofValue rFits sFits, ← strict.eq_write] at written
  exact ⟨_, ofDer_of_narrow written (narrow.trans (by decide)), width, written⟩

theorem isDer_of_width {octets : Bytes} {curve : SigningCurve}
    (width : octets.length = 2 * curve.fieldLength.toNat) :
    isDer octets curve.fieldLength = false := by
  simp [isDer, width, joseLength_fieldLength]

theorem verifyWith_of_toDer {accepts : Bytes → Bytes → Bytes → Bool} {jose : Bytes}
    (written : toDer jose scheme.curve.fieldLength = .ok der)
    (accepted : accepts scheme.publicKey message der = true) :
    scheme.verifyWith accepts message jose = .silent (.ok ()) := by
  obtain ⟨-, -, width, -, -⟩ := toDer_eq_ok_iff.mp written
  have tagged : scheme.taggedForm jose = .ok der := by
    rw [taggedForm, isDer_of_width width]
    exact settled_of_ok _ written
  simp only [verifyWith, publicHalf_eq, tagged, accepted, ↓reduceIte]

end

/-- Whatever a private key signs has the fixed width and is verified, by the algorithm of
the private key and by that of a public half that belongs to it. All that the provider has
to do is to give a strict encoding and to accept it. -/
theorem verifyWith_signWith {curve : SigningCurve} {privateHalf publicHalf message : Bytes}
    {key : Ecdsa.PrivateKey} {provider : Ecdsa.PrivateKey → Bytes → Option Bytes}
    {accepts : Bytes → Bytes → Bytes → Bool}
    (read : PrivateKey.readOnCurve curve.parameters privateHalf = .ok key)
    (belongs : key.MatchedBy publicHalf)
    (signs : ∃ der, provider key message = some der ∧ curve.Encoded der ∧
      ∀ written, key.MatchedBy written → accepts written message der = true) :
    ∃ signer verifier jose der,
      make curve ⟨none, some privateHalf⟩ = .ok signer ∧
      make curve ⟨some publicHalf, none⟩ = .ok verifier ∧
      signer.signWith provider message = .ok jose ∧
      jose.length = 2 * curve.fieldLength.toNat ∧
      (∀ first, isDer (first :: jose.tail) curve.fieldLength = false) ∧
      provider key message = some der ∧ toDer jose curve.fieldLength = .ok der ∧
      signer.verifyWith accepts message jose = .silent (.ok ()) ∧
      verifier.verifyWith accepts message jose = .silent (.ok ()) := by
  obtain ⟨der, signed, encoded, accepted⟩ := signs
  obtain ⟨jose, untagged, width, written⟩ := exists_jose_of_encoded encoded
  have onCurve := PrivateKey.curve_of_readOnCurve read
  let signer : EcdsaScheme := ⟨curve, some (curve.parameters.writePoint key.point), some key, rfl⟩
  let verifier : EcdsaScheme := ⟨curve, some publicHalf, none, rfl⟩
  have made : make curve ⟨none, some privateHalf⟩ = .ok signer := by
    simp only [make, read, Option.getD_none, signer]
  have signs : signer.signWith provider message = .ok jose := by
    have settled : signer.untagged der = .ok jose := settled_of_ok _ untagged
    simp only [signWith, signer, signed] at settled ⊢
    rw [settled]
  have own : accepts signer.publicKey message der = true := by
    apply accepted
    left
    rw [onCurve]
    rfl
  have other : accepts verifier.publicKey message der = true := accepted publicHalf belongs
  refine ⟨signer, verifier, jose, der, made, rfl, signs, width, ?_, signed, written,
    verifyWith_of_toDer written own, verifyWith_of_toDer written other⟩
  intro first
  apply isDer_of_width
  obtain ⟨positive, -⟩ := fieldLength_bounds curve
  cases jose with
  | nil => exact absurd width.symm (Nat.mul_ne_zero (by decide) (toNat_ne_zero positive))
  | cons head rest => exact width

def seven : Ecdsa.PrivateKey :=
  ⟨Curve.p256, 7,
    0x8E533B6FA0BF7B4625BB30667C01FB607EF9F8B8A80FEF5B300628703187B2A3,
    0x73EB1DBDE03318366D069F83A6F5900053C73633CB041B21C55E1A86C1F400B4⟩

def sevenEnvelope : Bytes :=
  [0x30, 65, 2, 1, 0x00, 0x30, 19, 6, 7] ++ Ecdsa.identifier ++ [6, 8] ++ Curve.p256.identifier ++
    [4, 39, 0x30, 37, 2, 1, 0x01, 4, 32] ++ Bytes.ofValue 32 7

def sevenSignature : Ecdsa.Signature :=
  ⟨0x6671201707CEACDA7E13200CC7B6377C8BF847288FCD0B8FCE7F4FA9C1F46F7B,
    0xC56F6945CA28013CAEE9796379DE1CEFD93548F242BD2249B3B20A122E05ACBD⟩

/-- The key is the number seven, the public half is its point with one coordinate, and the
signature is the one that the arithmetic of this library makes. Its second number has its
high bit set. -/
theorem verifyWith_signWith_of_seven :
    ∃ signer verifier jose,
      make .p256 ⟨none, some sevenEnvelope⟩ = .ok signer ∧
      make .p256 ⟨some (2 :: Bytes.ofValue 32 seven.point.x), none⟩ = .ok verifier ∧
      signer.signWith (SigningProvider.own .p256) [0x64] = .ok jose ∧
      signer.verifyWith (Ecdsa.verifyWritten Curve.p256 .sha256) [0x64] jose = .silent (.ok ()) ∧
      verifier.verifyWith (Ecdsa.verifyWritten Curve.p256 .sha256) [0x64] jose =
        .silent (.ok ()) := by
  have found :
      (PrivateKey.readOnCurve SigningCurve.p256.parameters sevenEnvelope).toOption =
        some seven := by
    decide +kernel
  have read : PrivateKey.readOnCurve SigningCurve.p256.parameters sevenEnvelope = .ok seven := by
    cases result : PrivateKey.readOnCurve SigningCurve.p256.parameters sevenEnvelope with
    | error rejection => simp [result, Except.toOption] at found
    | ok key => simpa [result, Except.toOption] using found
  have tried : Ecdsa.trySign seven SigningCurve.p256.digest [0x64] 128
      (Ecdsa.NonceState.start seven SigningCurve.p256.digest [0x64]) = some sevenSignature := by
    decide +kernel
  have signed : SigningProvider.own .p256 seven [0x64] = some sevenSignature.write := by
    rw [SigningProvider.own, Ecdsa.signWritten?, tried, Option.map_some]
  have encoded : SigningCurve.p256.Encoded sevenSignature.write :=
    Ecdsa.encoded_of_signWritten? rfl signed
  have verified :
      Ecdsa.verifyPoint Curve.p256 .sha256 seven.point [0x64] sevenSignature = true := by
    decide +kernel
  have reread : Ecdsa.Signature.read? sevenSignature.write = some sevenSignature := by
    decide +kernel
  have wrote : Ecdsa.readPublicKey? Curve.p256 (Curve.p256.writePoint seven.point) =
      some seven.point := by
    decide +kernel
  have compressed : Ecdsa.readPublicKey? Curve.p256 (2 :: Bytes.ofValue 32 seven.point.x) =
      some seven.point := by
    decide +kernel
  have accepted : ∀ written, seven.MatchedBy written →
      Ecdsa.verifyWritten Curve.p256 .sha256 written [0x64] sevenSignature.write = true := by
    intro written matched
    have point : Ecdsa.readPublicKey? Curve.p256 written = some seven.point := by
      rcases matched with rfl | point
      · exact wrote
      · exact point
    simp only [Ecdsa.verifyWritten, point, reread, verified]
  obtain ⟨signer, verifier, jose, -, held, alone, signs, -, -, -, -, own, other⟩ :=
    verifyWith_signWith read (.inr compressed) ⟨_, signed, encoded, accepted⟩
  exact ⟨signer, verifier, jose, held, alone, signs, own, other⟩

end EcdsaScheme

end WebToken
