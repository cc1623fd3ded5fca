import WebToken.Algorithm.EcdsaScheme
import WebToken.Proofs.Ecdsa.StrictForm

/-!
# What the provider is asked

An elliptic curve signature is verified by a provider that takes the tagged form.
Whatever the provider accepts, it is asked about one tagged signature at most: the strict
encoding of the two numbers if the signature has the fixed width, and otherwise the
signature itself if it starts like a sequence. Its answer is the verdict.
-/

set_option autoImplicit false

namespace WebToken.EcdsaScheme

theorem fieldLength_bounds (curve : SigningCurve) :
    curve.fieldLength ≠ 0 ∧ curve.fieldLength.toNat ≤ 124 := by
  cases curve <;> decide

theorem joseLength_fieldLength (curve : SigningCurve) :
    JoseSignature.joseLength curve.fieldLength = 2 * curve.fieldLength.toNat :=
  JoseSignature.joseLength_eq (Nat.lt_of_le_of_lt curve.fieldLength_le (by decide))

/-- The tagged signature that the provider is asked about, if it is asked at all. The
fixed width goes before the first octet. -/
def asked? (scheme : EcdsaScheme) (signature : Bytes) : Option Bytes :=
  let fieldLength := scheme.curve.fieldLength
  if signature.length = 2 * fieldLength.toNat then
    some (JoseSignature.numbers signature fieldLength).write
  else if signature.head? = some JoseSignature.sequenceTag then some signature
  else none

section

variable {scheme : EcdsaScheme} {signature : Bytes}

theorem asked?_of_width (width : signature.length = 2 * scheme.curve.fieldLength.toNat) :
    scheme.asked? signature =
      some (JoseSignature.numbers signature scheme.curve.fieldLength).write :=
  if_pos width

theorem asked?_of_sequence (misfit : signature.length ≠ 2 * scheme.curve.fieldLength.toNat)
    (sequence : signature.head? = some JoseSignature.sequenceTag) :
    scheme.asked? signature = some signature :=
  (if_neg misfit).trans (if_pos sequence)

theorem asked?_of_neither (misfit : signature.length ≠ 2 * scheme.curve.fieldLength.toNat)
    (other : signature.head? ≠ some JoseSignature.sequenceTag) :
    scheme.asked? signature = none :=
  (if_neg misfit).trans (if_neg other)

end

theorem taggedForm_eq (scheme : EcdsaScheme) (signature : Bytes) :
    scheme.taggedForm signature =
      match scheme.asked? signature with
      | some der => .ok der
      | none => .error (.wrongLength (2 * scheme.curve.fieldLength.toNat) signature.length) := by
  obtain ⟨positive, narrow⟩ := fieldLength_bounds scheme.curve
  unfold taggedForm
  by_cases width : signature.length = 2 * scheme.curve.fieldLength.toNat
  · have fixed : JoseSignature.isDer signature scheme.curve.fieldLength = false := by
      simp [JoseSignature.isDer, width, joseLength_fieldLength]
    simp only [fixed, Bool.false_eq_true, ↓reduceIte, asked?_of_width width]
    exact JoseSignature.settled_of_ok _ (JoseSignature.toDer_eq_write positive narrow width)
  · by_cases sequence : signature.head? = some JoseSignature.sequenceTag
    · have tagged : JoseSignature.isDer signature scheme.curve.fieldLength = true := by
        simp [JoseSignature.isDer, width, sequence, joseLength_fieldLength]
      simp only [tagged, ↓reduceIte, asked?_of_sequence width sequence]
    · have untagged : JoseSignature.isDer signature scheme.curve.fieldLength = false := by
        simp [JoseSignature.isDer, sequence]
      simp only [untagged, Bool.false_eq_true, ↓reduceIte, asked?_of_neither width sequence]
      have refused : JoseSignature.toDer signature scheme.curve.fieldLength = .error (.malformed
          (.wrongLength (2 * scheme.curve.fieldLength.toNat) signature.length)) := by
        rw [← joseLength_fieldLength] at width ⊢
        exact if_pos (.inr width)
      exact JoseSignature.settled_of_malformed _ refused

theorem verifyWith_eq (accepts : Bytes → Bytes → Bytes → Bool) (scheme : EcdsaScheme)
    (message signature : Bytes) :
    scheme.verifyWith accepts message signature =
      match scheme.asked? signature with
      | some der =>
          .silent (if accepts scheme.publicKey message der then .ok ()
            else .error (.verification scheme.describe))
      | none =>
          ⟨.error (.verification scheme.describe), [.signatureNotJose scheme.name
            (.wrongLength (2 * scheme.curve.fieldLength.toNat) signature.length)]⟩ := by
  unfold verifyWith
  rw [publicHalf_eq, taggedForm_eq]
  cases scheme.asked? signature <;> rfl

/-- A tagged signature that was written from one of fixed width raises the same question,
as long as it does not have the fixed width itself. -/
theorem asked?_of_toDer {scheme : EcdsaScheme} {jose der : Bytes}
    (written : JoseSignature.toDer jose scheme.curve.fieldLength = .ok der)
    (misfit : der.length ≠ 2 * scheme.curve.fieldLength.toNat) :
    scheme.asked? der = scheme.asked? jose := by
  obtain ⟨-, narrow⟩ := fieldLength_bounds scheme.curve
  obtain ⟨-, -, width, -⟩ := JoseSignature.toDer_eq_ok_iff.mp written
  have strict := JoseSignature.eq_write_of_toDer written (Nat.le_trans narrow (by decide))
  have sequence : der.head? = some JoseSignature.sequenceTag := by
    rw [strict]
    rfl
  rw [asked?_of_sequence misfit sequence, asked?_of_width width, strict]

/-- The verdict on a signature is the provider's answer to one question, or a rejection
without asking. Providers that agree on the question agree on everything, and both forms
of a signature get one verdict unless the tagged one is as long as the other. -/
theorem verifyWith_asks_once (scheme : EcdsaScheme) (message : Bytes) :
    (∀ accepts signature,
      (scheme.verifyWith accepts message signature).outcome =
        match scheme.asked? signature with
        | some der =>
            if accepts scheme.publicKey message der then .ok ()
            else .error (.verification scheme.describe)
        | none => .error (.verification scheme.describe)) ∧
      (∀ accepts others signature,
        (∀ der, scheme.asked? signature = some der →
          accepts scheme.publicKey message der = others scheme.publicKey message der) →
        scheme.verifyWith accepts message signature =
          scheme.verifyWith others message signature) ∧
      ∀ jose, jose.length = 2 * scheme.curve.fieldLength.toNat →
        ∃ der, JoseSignature.toDer jose scheme.curve.fieldLength = .ok der ∧
          (der.length ≠ 2 * scheme.curve.fieldLength.toNat → ∀ accepts,
            scheme.verifyWith accepts message der = scheme.verifyWith accepts message jose) := by
  refine ⟨?_, ?_, ?_⟩
  · intro accepts signature
    rw [verifyWith_eq]
    cases scheme.asked? signature <;> rfl
  · intro accepts others signature agree
    rw [verifyWith_eq, verifyWith_eq]
    cases asked : scheme.asked? signature with
    | none => rfl
    | some der => simp only [agree der asked]
  · intro jose width
    obtain ⟨positive, narrow⟩ := fieldLength_bounds scheme.curve
    have written := JoseSignature.toDer_eq_write positive narrow width
    refine ⟨_, written, fun misfit accepts => ?_⟩
    rw [verifyWith_eq, verifyWith_eq, asked?_of_toDer written misfit, asked?_of_width width]

/-- The signature starts like a sequence, and its second number needs a zero in front. -/
theorem verifyWith_asks_once_of_sequence_tag :
    ∃ der, JoseSignature.toDer (0x30 :: Bytes.fill 31 0x00 ++ Bytes.fill 32 0xFF) 32 = .ok der ∧
      ∀ accepts : Bytes → Bytes → Bytes → Bool,
        (verifyWith accepts ⟨.p256, some [0x04], none, rfl⟩ [0x61] der).outcome =
          (verifyWith accepts ⟨.p256, some [0x04], none, rfl⟩ [0x61]
            (0x30 :: Bytes.fill 31 0x00 ++ Bytes.fill 32 0xFF)).outcome := by
  obtain ⟨der, written, same⟩ := (verifyWith_asks_once ⟨.p256, some [0x04], none, rfl⟩ [0x61]).2.2
    (0x30 :: Bytes.fill 31 0x00 ++ Bytes.fill 32 0xFF) rfl
  have shape : [0x30, 69, 2, 32, 0x30] ++ Bytes.fill 31 0x00 ++ [2, 33, 0x00] ++
      Bytes.fill 32 0xFF = der :=
    Except.ok.inj written
  have misfit : der.length ≠ 2 * 32 := by
    rw [← shape]
    decide
  exact ⟨der, written, fun accepts => congrArg Audited.outcome (same misfit accepts)⟩

end WebToken.EcdsaScheme
