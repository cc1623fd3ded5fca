import WebToken.Hash.Sha2

/-!
# Message digests and keyed digests

The three digests that signature algorithms use, and HMAC over each of them.
-/

set_option autoImplicit false

namespace WebToken

/-- A message digest, named by its size in bits. -/
inductive Digest where
  | sha256
  | sha384
  | sha512
deriving DecidableEq, Repr

namespace Digest

def bits : Digest → Nat
  | .sha256 => 256
  | .sha384 => 384
  | .sha512 => 512

def size (digest : Digest) : Nat :=
  digest.bits / 8

def blockSize : Digest → Nat
  | .sha256 => 64
  | .sha384 => 128
  | .sha512 => 128

def hash : Digest → Bytes → Bytes
  | .sha256 => Sha2.sha256
  | .sha384 => Sha2.sha384
  | .sha512 => Sha2.sha512

def inspect : Digest → String
  | .sha256 => "Sha256"
  | .sha384 => "Sha384"
  | .sha512 => "Sha512"

/-- A key of one block: longer keys are replaced by their digest, and zeros
fill the rest. -/
def blockKey (digest : Digest) (key : Bytes) : Bytes :=
  let short := if key.length > digest.blockSize then digest.hash key else key
  short ++ Bytes.fill (digest.blockSize - short.length) 0

def hmac (digest : Digest) (key message : Bytes) : Bytes :=
  let key := digest.blockKey key
  let inner := digest.hash (key.map (· ^^^ 0x36) ++ message)
  digest.hash (key.map (· ^^^ 0x5C) ++ inner)

end Digest

end WebToken
