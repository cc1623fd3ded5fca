import WebToken.Hash.Digest

/-!
# Sizes of digests

A digest has its size whatever the message is, and so has a keyed one whatever
the key is.
-/

set_option autoImplicit false

namespace WebToken

theorem Sha2.State.length_toBytes {Word : Type} (family : Sha2.Family Word)
    (state : Sha2.State Word) : (state.toBytes family).length = 8 * family.wordBytes := by
  simp only [toBytes, List.length_flatMap, Bytes.length_ofValue, List.map_cons, List.map_nil,
    List.sum_cons, List.sum_nil]
  omega

namespace Digest

theorem length_hash (digest : Digest) (message : Bytes) :
    (digest.hash message).length = digest.size := by
  cases digest with
  | sha256 => exact Sha2.State.length_toBytes Sha2.family32 _
  | sha384 =>
      refine (List.length_take ..).trans ?_
      rw [Sha2.State.length_toBytes]
      rfl
  | sha512 => exact Sha2.State.length_toBytes Sha2.family64 _

theorem length_hmac (digest : Digest) (key message : Bytes) :
    (digest.hmac key message).length = digest.size :=
  length_hash digest _

end Digest

end WebToken
