import WebToken.Modular
import WebToken.Rsa.PaddingParameters

/-!
# RSA signatures with random padding

The signed number has one bit less than the modulus. Written in octets it is a
masked block, a digest and a trailer octet. Under its mask the block is zeros, a
one and the salt, and the digest is that of the message's digest with the salt
after it. The mask comes from the digest, so that a signature is verified by
taking the mask off and computing the digest anew.
-/

set_option autoImplicit false

namespace WebToken.Rsa.RandomPadding

/-- Octets drawn from a seed: digests of the seed with a counter after it. -/
def mask (digest : PaddingDigest) (seed : Bytes) (length : Nat) : Bytes :=
  let count := (length + digest.size - 1) / digest.size
  ((List.range count).flatMap fun counter => digest.hash (seed ++ Bytes.ofValue 4 counter)).take
    length

/-- The salt in a block: what follows the zeros and a one. -/
def saltOf? (block : Bytes) : Option Bytes :=
  match block.dropWhile (· == 0) with
  | first :: salt => if first = 1 then some salt else none
  | [] => none

/-- The digest under a signature: that of eight zeros, the digest of the message
and the salt. -/
def saltedDigest (digest : PaddingDigest) (message salt : Bytes) : Bytes :=
  digest.hash (Bytes.fill 8 0 ++ digest.hash message ++ salt)

/-- Whether a number of at most `bits` bits is a padding of a message with a salt
that is admitted. -/
def isPadding (digest maskDigest : PaddingDigest) (admitsSalt : Bytes → Bool) (message : Bytes)
    (bits number : Nat) : Bool :=
  let size := (bits + 7) / 8
  let octets := Bytes.ofValue size number
  let blockSize := size - digest.size - 1
  let masked := octets.take blockSize
  let found := (octets.drop blockSize).take digest.size
  let unmasked := List.zipWith (· ^^^ ·) masked (mask maskDigest found blockSize)
  let block := Bytes.ofValue blockSize (Bytes.value unmasked % 2 ^ (bits - 8 * (digest.size + 1)))
  number < 2 ^ bits && digest.size + 2 ≤ size && octets.getLast? == some 0xBC &&
    match saltOf? block with
    | none => false
    | some salt => admitsSalt salt && saltedDigest digest message salt == found

/-- Whether a number is a padding of a message under what a key fixes. A key that
fixes nothing admits any salt and makes the mask with the digest; otherwise
digest and salt length have to be those of the key, and its trailer the usual
one. -/
def accepts (parameters : Option PaddingParameters) (digest : Digest) (message : Bytes)
    (bits number : Nat) : Bool :=
  match parameters with
  | none => isPadding (.signing digest) (.signing digest) (fun _ => true) message bits number
  | some parameters =>
      parameters.digest == .signing digest && parameters.trailer == 1 &&
        isPadding parameters.digest parameters.maskDigest (·.length == parameters.saltLength)
          message bits number

end WebToken.Rsa.RandomPadding
