import WebToken.Ecdsa.Key
import WebToken.Hash.Digest

/-!
# Elliptic curve signatures

A signature is a pair of numbers, written as a sequence of two items. Signing
draws its nonce from the key and the message, so that it needs no source of
randomness and never uses a nonce for two messages.
-/

set_option autoImplicit false

namespace WebToken.Ecdsa

/-- The two numbers of a signature. -/
structure Signature where
  r : Nat
  s : Nat
deriving DecidableEq, Repr

def Signature.write (signature : Signature) : Bytes :=
  Der.item .sequence (Der.natural signature.r ++ Der.natural signature.s)

/-- Reads the sequence of both numbers, and nothing after it. -/
def Signature.read? (bytes : Bytes) : Option Signature := do
  let content ← Der.only? .sequence bytes
  let (r, rest) ← Der.natural? content
  let (s, rest) ← Der.natural? rest
  if rest = [] then some ⟨r, s⟩ else none

/-- The size of the order of a curve in bits. -/
def orderBits (curve : Curve) : Nat :=
  curve.order.log2 + 1

/-- The leftmost bits of an octet string, as many as the order has. -/
def leftmostBits (curve : Curve) (bytes : Bytes) : Nat :=
  Bytes.value bytes / 2 ^ (8 * bytes.length - orderBits curve)

/-- The number that stands for a message. -/
def messageNumber (curve : Curve) (digest : Digest) (message : Bytes) : Nat :=
  leftmostBits curve (digest.hash message)

/-- Whether a signature is one of a message under a public point. -/
def verifyPoint (curve : Curve) (digest : Digest) (point : Curve.Point) (message : Bytes)
    (signature : Signature) : Bool :=
  let order := curve.order
  if 1 ≤ signature.r ∧ signature.r < order ∧ 1 ≤ signature.s ∧ signature.s < order then
    let inverse := Modular.inverse order signature.s
    let baseFactor := messageNumber curve digest message * inverse % order
    let pointFactor := signature.r * inverse % order
    let sum := curve.add (curve.multiply baseFactor curve.base) (curve.multiply pointFactor point)
    match curve.toPoint? sum with
    | none => false
    | some found => found.x % order == signature.r
  else false

/-- Whether a written signature is one of a message under written public key
material. Material that is no public key on the curve verifies nothing. -/
def verifyWritten (curve : Curve) (digest : Digest) (publicKey message signature : Bytes) : Bool :=
  match readPublicKey? curve publicKey, Signature.read? signature with
  | some point, some signature => verifyPoint curve digest point message signature
  | _, _ => false

/-!
## Signing
-/

/-- The signature that a nonce gives, unless one of its numbers is zero. -/
def signWithNonce? (key : PrivateKey) (digest : Digest) (message : Bytes) (nonce : Nat) :
    Option Signature :=
  let order := key.curve.order
  match key.curve.toPoint? (key.curve.multiply nonce key.curve.base) with
  | none => none
  | some point =>
      let r := point.x % order
      let sum := (messageNumber key.curve digest message + r * key.scalar) % order
      let s := Modular.inverse order nonce * sum % order
      if r = 0 ∨ s = 0 then none else some ⟨r, s⟩

/-- The state of the nonce generator: the key and the value of a keyed digest. -/
structure NonceState where
  key : Bytes
  value : Bytes

/-- Mixes a separator octet and a seed into the state. -/
def NonceState.mix (digest : Digest) (state : NonceState) (separator : UInt8) (seed : Bytes) :
    NonceState :=
  let key := digest.hmac state.key (state.value ++ separator :: seed)
  ⟨key, digest.hmac key state.value⟩

/-- The state for a key and a message. -/
def NonceState.start (key : PrivateKey) (digest : Digest) (message : Bytes) : NonceState :=
  let width := (orderBits key.curve + 7) / 8
  let seed := Bytes.ofValue width key.scalar ++
    Bytes.ofValue width (messageNumber key.curve digest message % key.curve.order)
  let blank : NonceState := ⟨Bytes.fill digest.size 0, Bytes.fill digest.size 1⟩
  (blank.mix digest 0 seed).mix digest 1 seed

/-- A number of successive values, one after the other. -/
def NonceState.draw (digest : Digest) : (count : Nat) → NonceState → Bytes × NonceState
  | 0, state => ([], state)
  | count + 1, state =>
      let value := digest.hmac state.key state.value
      let (later, state) := draw digest count ⟨state.key, value⟩
      (value ++ later, state)

/-- How many digests it takes to have as many bits as the order. -/
def drawCount (curve : Curve) (digest : Digest) : Nat :=
  (orderBits curve + digest.bits - 1) / digest.bits

/-- Tries nonces until one gives a signature, at most `attempts` times. -/
def trySign (key : PrivateKey) (digest : Digest) (message : Bytes) :
    (attempts : Nat) → NonceState → Option Signature
  | 0, _ => none
  | attempts + 1, state =>
      let (octets, state) := NonceState.draw digest (drawCount key.curve digest) state
      let nonce := leftmostBits key.curve octets
      let signature :=
        if 1 ≤ nonce ∧ nonce < key.curve.order then signWithNonce? key digest message nonce
        else none
      match signature with
      | some signature => some signature
      | none => trySign key digest message attempts (state.mix digest 0 [])

/-- The written signature of a message. -/
def signWritten? (key : PrivateKey) (digest : Digest) (message : Bytes) : Option Bytes :=
  (trySign key digest message 128 (NonceState.start key digest message)).map Signature.write

end WebToken.Ecdsa
