import WebToken.Proofs.Algorithm.Acceptance
import WebToken.Proofs.Policy.Verdict
import WebToken.Proofs.Token.RoundTrip

/-!
# No other algorithm is accepted

A verifier accepts tokens of its own algorithm only: the header has to name it, and
an empty signature passes for unsigned tokens alone. For tokens that were signed
under another name this needs that the name is read back from among whatever other
claims the header was drafted with.
-/

set_option autoImplicit false

namespace WebToken

/-!
## What a signed header names
-/

/-- A token that was signed and can be read names the algorithm of its signer,
whatever the claims of its header are. -/
theorem Draft.algorithm_of_decode {provider : SigningProvider} {draft : Draft}
    {signer : Algorithm} {text : String}
    (signed : (draft.signWith provider signer).outcome = .ok text) {token : Token}
    (decoded : Token.decode text = .ok token) : token.header.algorithm = some signer.name := by
  obtain ⟨signature, -, written⟩ := signWith_eq_ok_iff.mp signed
  obtain ⟨-, header, -⟩ := (decode_eq_ok_iff_reread signer written token).mp decoded
  have named : (draft.headerFor signer).find? HeaderName.algorithm =
      some (.string signer.name) := by
    rw [find?_headerFor]
    rfl
  rw [Header.algorithm, header, Claims.string?_reread, Claims.string?, named]
  rfl

/-!
## Accepted tokens
-/

theorem Claims.string?_eq_some_iff {claims : Claims} {name text : String} :
    claims.string? name = some text ↔ claims.find? name = some (.string text) := by
  unfold string?
  cases claims.find? name with
  | none => exact ⟨nofun, nofun⟩
  | some value => cases value <;> simp [Json.string?]

namespace Policy

/-- A token is accepted only if its header names the algorithm of the verifier, as a
string, and without a signature only if that is the algorithm of unsigned tokens,
which takes no other. So no token is accepted that was signed under another name,
whatever its header was drafted to say and whatever provider signed it. -/
theorem verify_own_algorithm (algorithm : Algorithm) (edits : List Edit) (now : Instant) :
    (∀ text token, (((new algorithm).editAll edits).verifier.verify now text).outcome = .ok token →
        token.header.claims.find? "alg" = some (.string algorithm.name) ∧
          (token.signatureSegment = "" ↔ algorithm = .none)) ∧
      ∀ (provider : SigningProvider) (draft : Draft) (signer : Algorithm) (text : String),
        (draft.signWith provider signer).outcome = .ok text → signer.name ≠ algorithm.name →
          ∃ error,
            (((new algorithm).editAll edits).verifier.verify now text).outcome = .error error := by
  have own : ((new algorithm).editAll edits).verifier.algorithm = algorithm :=
    algorithm_editAll (new algorithm) edits
  constructor
  · intro text token accepted
    obtain ⟨decoded, named, verified, -⟩ := Verifier.verify_eq_ok_iff.mp accepted
    rw [own] at named verified
    obtain ⟨-, spelled, -, -⟩ := Token.parts_of_decode decoded
    refine ⟨Claims.string?_eq_some_iff.mp named, ?_⟩
    constructor
    · intro unsigned
      have empty : token.signature = [] := by
        by_contra given
        exact Token.encode_ne_empty given (spelled.symm.trans unsigned)
      rw [empty] at verified
      exact Algorithm.verify_nil_eq_ok_iff.mp verified
    · rintro rfl
      rw [spelled, Algorithm.eq_nil_of_verify_none verified]
      rfl
  · intro provider draft signer text signed foreign
    cases verdict : (((new algorithm).editAll edits).verifier.verify now text).outcome with
    | error error => exact ⟨error, rfl⟩
    | ok token =>
        obtain ⟨decoded, named, -⟩ := Verifier.verify_eq_ok_iff.mp verdict
        rw [own, Draft.algorithm_of_decode signed decoded] at named
        exact absurd (Option.some.inj named) foreign

end Policy

end WebToken
