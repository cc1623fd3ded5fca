import WebToken.Der
import WebToken.Hash.Digest
import WebToken.Hash.Sha1

/-!
# Parameters of RSA keys for signatures with random padding

A key for random padding may fix the digest, the digest of the mask, the length
of the salt and the trailer of its signatures. Each has a place of its own; a
place that is left out stands for an old default. A key without parameters fixes
nothing.
-/

set_option autoImplicit false

namespace WebToken.Rsa

/-- The digests that random padding may be made with: those that sign tokens, and
two more. -/
inductive PaddingDigest where
  | sha1
  | sha224
  | signing (digest : Digest)
deriving DecidableEq, Repr

namespace PaddingDigest

def hash : PaddingDigest → Bytes → Bytes
  | .sha1 => Sha1.sha1
  | .sha224 => Sha2.sha224
  | .signing digest => digest.hash

def size : PaddingDigest → Nat
  | .sha1 => 20
  | .sha224 => 28
  | .signing digest => digest.size

/-- The digests under the contents of their object identifiers. -/
def registered : List (Bytes × PaddingDigest) :=
  [([0x2B, 0x0E, 0x03, 0x02, 0x1A], .sha1),
    ([0x60, 0x86, 0x48, 0x01, 0x65, 0x03, 0x04, 0x02, 0x04], .sha224),
    ([0x60, 0x86, 0x48, 0x01, 0x65, 0x03, 0x04, 0x02, 0x01], .signing .sha256),
    ([0x60, 0x86, 0x48, 0x01, 0x65, 0x03, 0x04, 0x02, 0x02], .signing .sha384),
    ([0x60, 0x86, 0x48, 0x01, 0x65, 0x03, 0x04, 0x02, 0x03], .signing .sha512)]

/-- Reads the name of a digest, with a null item after it or nothing. -/
def read? (written : Bytes) : Option PaddingDigest := do
  let content ← Der.only? .sequence written
  let (name, rest) ← Der.item? .objectIdentifier content
  if rest = [] ∨ rest = Der.item .null [] then registered.lookup name else none

end PaddingDigest

/-- What a key fixes of the padding of its signatures. -/
structure PaddingParameters where
  digest : PaddingDigest
  maskDigest : PaddingDigest
  saltLength : Nat
  trailer : Nat
deriving DecidableEq, Repr

namespace PaddingParameters

/-- The content of the object identifier of keys for random padding. -/
def identifier : Bytes :=
  [0x2A, 0x86, 0x48, 0x86, 0xF7, 0x0D, 0x01, 0x01, 0x0A]

/-- The content of the object identifier of the mask. -/
def maskIdentifier : Bytes :=
  [0x2A, 0x86, 0x48, 0x86, 0xF7, 0x0D, 0x01, 0x01, 0x08]

/-- Reads the name of the mask, with the digest that it is made with. -/
def readMask? (written : Bytes) : Option PaddingDigest := do
  let content ← Der.only? .sequence written
  let (name, digest) ← Der.item? .objectIdentifier content
  if name = maskIdentifier then PaddingDigest.read? digest else none

/-- Reads a non-negative number, and nothing after it. -/
def readNumber? (written : Bytes) : Option Nat :=
  match Der.natural? written with
  | some (number, []) => some number
  | _ => none

/-- Reads a place that may be left out: its value or the default, and what
follows it. -/
def readPlace? {Value : Type} (place : Fin 31) (read : Bytes → Option Value) (default : Value)
    (bytes : Bytes) : Option (Value × Bytes) :=
  match Der.optional? (.constructed place) bytes with
  | none => none
  | some (none, rest) => some (default, rest)
  | some (some written, rest) => (read written).map fun value => (value, rest)

def ofContent? (content : Bytes) : Option PaddingParameters := do
  let (digest, rest) ← readPlace? 0 PaddingDigest.read? .sha1 content
  let (maskDigest, rest) ← readPlace? 1 readMask? .sha1 rest
  let (saltLength, rest) ← readPlace? 2 readNumber? 20 rest
  let (trailer, rest) ← readPlace? 3 readNumber? 1 rest
  if rest = [] then some ⟨digest, maskDigest, saltLength, trailer⟩ else none

/-- Reads parameters that may be absent as a whole. -/
def read? (written : Bytes) : Option (Option PaddingParameters) :=
  if written = [] then some none
  else ((Der.only? .sequence written).bind ofContent?).map some

end PaddingParameters

end WebToken.Rsa
