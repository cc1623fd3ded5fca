import WebToken.Bytes

/-!
# The SHA-2 functions

One compression loop serves both word sizes. Each round takes the next word of
a window of sixteen, which then drops its first word and gains the word that
the schedule defines; so the schedule is never stored as a whole.
-/

set_option autoImplicit false

namespace WebToken.Sha2

/-- The eight words that the function carries from block to block. -/
structure State (Word : Type) where
  a : Word
  b : Word
  c : Word
  d : Word
  e : Word
  f : Word
  g : Word
  h : Word
deriving DecidableEq, Repr

/-- What distinguishes the functions of one word size. Words are read and
written most significant octet first. -/
structure Family (Word : Type) where
  add : Word → Word → Word
  xor : Word → Word → Word
  and : Word → Word → Word
  not : Word → Word
  bigSigma0 : Word → Word
  bigSigma1 : Word → Word
  smallSigma0 : Word → Word
  smallSigma1 : Word → Word
  ofNat : Nat → Word
  toNat : Word → Nat
  wordBytes : Nat
  constants : List Word

/-- One round, with the sum of the round constant and the schedule's word. -/
@[specialize]
def round {Word : Type} (family : Family Word) (state : State Word) (input : Word) :
    State Word :=
  let choice := family.xor (family.and state.e state.f)
    (family.and (family.not state.e) state.g)
  let majority := family.xor (family.and state.a state.b)
    (family.xor (family.and state.a state.c) (family.and state.b state.c))
  let first := family.add (family.add state.h (family.bigSigma1 state.e))
    (family.add choice input)
  let second := family.add (family.bigSigma0 state.a) majority
  ⟨family.add first second, state.a, state.b, state.c,
    family.add state.d first, state.e, state.f, state.g⟩

/-- The word that follows a window of sixteen in the schedule. -/
@[specialize]
def nextWord {Word : Type} (family : Family Word) (window : List Word) : Word :=
  let word (index : Nat) : Word := window.getD index (family.ofNat 0)
  family.add (family.add (family.smallSigma1 (word 14)) (word 9))
    (family.add (family.smallSigma0 (word 1)) (word 0))

/-- The rounds of one block, one for each remaining constant. -/
@[specialize]
def rounds {Word : Type} (family : Family Word) :
    List Word → List Word → State Word → State Word
  | [], _, state => state
  | constant :: constants, window, state =>
      let word := window.getD 0 (family.ofNat 0)
      rounds family constants (window.drop 1 ++ [nextWord family window])
        (round family state (family.add constant word))

def State.add {Word : Type} (family : Family Word) (left right : State Word) : State Word :=
  ⟨family.add left.a right.a, family.add left.b right.b, family.add left.c right.c,
    family.add left.d right.d, family.add left.e right.e, family.add left.f right.f,
    family.add left.g right.g, family.add left.h right.h⟩

/-- The state after one more block. -/
@[specialize]
def compress {Word : Type} (family : Family Word) (state : State Word) (block : List Word) :
    State Word :=
  (rounds family family.constants block state).add family state

/-- Cuts a byte string into words, first word first. `count` bounds how many. -/
def wordsOf {Word : Type} (family : Family Word) : (count : Nat) → Bytes → List Word
  | 0, _ => []
  | count + 1, bytes =>
      family.ofNat (Bytes.value (bytes.take family.wordBytes)) ::
        wordsOf family count (bytes.drop family.wordBytes)

/-- Runs over the blocks of a padded message. `count` is how many there are. -/
def blocks {Word : Type} (family : Family Word) : (count : Nat) → Bytes → State Word → State Word
  | 0, _, state => state
  | count + 1, bytes, state =>
      let size := 16 * family.wordBytes
      blocks family count (bytes.drop size)
        (compress family state (wordsOf family 16 (bytes.take size)))

/-- How many blocks a message fills: after it come an octet 0x80, zeros, and the
length in bits over two words. -/
def blockCount (wordBytes length : Nat) : Nat :=
  (length + 1 + 2 * wordBytes + (16 * wordBytes - 1)) / (16 * wordBytes)

def pad (wordBytes : Nat) (message : Bytes) : Bytes :=
  let zeros := blockCount wordBytes message.length * (16 * wordBytes) -
    (message.length + 1 + 2 * wordBytes)
  message ++ 0x80 :: (Bytes.fill zeros 0 ++ Bytes.ofValue (2 * wordBytes) (8 * message.length))

def run {Word : Type} (family : Family Word) (initial : State Word) (message : Bytes) :
    State Word :=
  blocks family (blockCount family.wordBytes message.length) (pad family.wordBytes message) initial

/-- The octets of the state, first word first. -/
def State.toBytes {Word : Type} (family : Family Word) (state : State Word) : Bytes :=
  [state.a, state.b, state.c, state.d, state.e, state.f, state.g, state.h].flatMap
    fun word => Bytes.ofValue family.wordBytes (family.toNat word)

/-!
## Words of 32 bits
-/

def rotate32 (word : UInt32) (count : UInt32) : UInt32 :=
  (word >>> count) ||| (word <<< (32 - count))

def family32 : Family UInt32 where
  add := (· + ·)
  xor := (· ^^^ ·)
  and := (· &&& ·)
  not := (~~~ ·)
  bigSigma0 := fun word => rotate32 word 2 ^^^ rotate32 word 13 ^^^ rotate32 word 22
  bigSigma1 := fun word => rotate32 word 6 ^^^ rotate32 word 11 ^^^ rotate32 word 25
  smallSigma0 := fun word => rotate32 word 7 ^^^ rotate32 word 18 ^^^ (word >>> 3)
  smallSigma1 := fun word => rotate32 word 17 ^^^ rotate32 word 19 ^^^ (word >>> 10)
  ofNat := UInt32.ofNat
  toNat := UInt32.toNat
  wordBytes := 4
  constants := [
    0x428a2f98, 0x71374491, 0xb5c0fbcf, 0xe9b5dba5, 0x3956c25b, 0x59f111f1,
    0x923f82a4, 0xab1c5ed5, 0xd807aa98, 0x12835b01, 0x243185be, 0x550c7dc3,
    0x72be5d74, 0x80deb1fe, 0x9bdc06a7, 0xc19bf174, 0xe49b69c1, 0xefbe4786,
    0x0fc19dc6, 0x240ca1cc, 0x2de92c6f, 0x4a7484aa, 0x5cb0a9dc, 0x76f988da,
    0x983e5152, 0xa831c66d, 0xb00327c8, 0xbf597fc7, 0xc6e00bf3, 0xd5a79147,
    0x06ca6351, 0x14292967, 0x27b70a85, 0x2e1b2138, 0x4d2c6dfc, 0x53380d13,
    0x650a7354, 0x766a0abb, 0x81c2c92e, 0x92722c85, 0xa2bfe8a1, 0xa81a664b,
    0xc24b8b70, 0xc76c51a3, 0xd192e819, 0xd6990624, 0xf40e3585, 0x106aa070,
    0x19a4c116, 0x1e376c08, 0x2748774c, 0x34b0bcb5, 0x391c0cb3, 0x4ed8aa4a,
    0x5b9cca4f, 0x682e6ff3, 0x748f82ee, 0x78a5636f, 0x84c87814, 0x8cc70208,
    0x90befffa, 0xa4506ceb, 0xbef9a3f7, 0xc67178f2]

def sha256 (message : Bytes) : Bytes :=
  (run family32
    ⟨0x6a09e667, 0xbb67ae85, 0x3c6ef372, 0xa54ff53a,
      0x510e527f, 0x9b05688c, 0x1f83d9ab, 0x5be0cd19⟩ message).toBytes family32

/-- SHA-224: the function over 32-bit words from another start, cut short. -/
def sha224 (message : Bytes) : Bytes :=
  ((run family32
    ⟨0xc1059ed8, 0x367cd507, 0x3070dd17, 0xf70e5939,
      0xffc00b31, 0x68581511, 0x64f98fa7, 0xbefa4fa4⟩ message).toBytes family32).take 28

/-!
## Words of 64 bits
-/

def rotate64 (word : UInt64) (count : UInt64) : UInt64 :=
  (word >>> count) ||| (word <<< (64 - count))

def family64 : Family UInt64 where
  add := (· + ·)
  xor := (· ^^^ ·)
  and := (· &&& ·)
  not := (~~~ ·)
  bigSigma0 := fun word => rotate64 word 28 ^^^ rotate64 word 34 ^^^ rotate64 word 39
  bigSigma1 := fun word => rotate64 word 14 ^^^ rotate64 word 18 ^^^ rotate64 word 41
  smallSigma0 := fun word => rotate64 word 1 ^^^ rotate64 word 8 ^^^ (word >>> 7)
  smallSigma1 := fun word => rotate64 word 19 ^^^ rotate64 word 61 ^^^ (word >>> 6)
  ofNat := UInt64.ofNat
  toNat := UInt64.toNat
  wordBytes := 8
  constants := [
    0x428a2f98d728ae22, 0x7137449123ef65cd, 0xb5c0fbcfec4d3b2f, 0xe9b5dba58189dbbc,
    0x3956c25bf348b538, 0x59f111f1b605d019, 0x923f82a4af194f9b, 0xab1c5ed5da6d8118,
    0xd807aa98a3030242, 0x12835b0145706fbe, 0x243185be4ee4b28c, 0x550c7dc3d5ffb4e2,
    0x72be5d74f27b896f, 0x80deb1fe3b1696b1, 0x9bdc06a725c71235, 0xc19bf174cf692694,
    0xe49b69c19ef14ad2, 0xefbe4786384f25e3, 0x0fc19dc68b8cd5b5, 0x240ca1cc77ac9c65,
    0x2de92c6f592b0275, 0x4a7484aa6ea6e483, 0x5cb0a9dcbd41fbd4, 0x76f988da831153b5,
    0x983e5152ee66dfab, 0xa831c66d2db43210, 0xb00327c898fb213f, 0xbf597fc7beef0ee4,
    0xc6e00bf33da88fc2, 0xd5a79147930aa725, 0x06ca6351e003826f, 0x142929670a0e6e70,
    0x27b70a8546d22ffc, 0x2e1b21385c26c926, 0x4d2c6dfc5ac42aed, 0x53380d139d95b3df,
    0x650a73548baf63de, 0x766a0abb3c77b2a8, 0x81c2c92e47edaee6, 0x92722c851482353b,
    0xa2bfe8a14cf10364, 0xa81a664bbc423001, 0xc24b8b70d0f89791, 0xc76c51a30654be30,
    0xd192e819d6ef5218, 0xd69906245565a910, 0xf40e35855771202a, 0x106aa07032bbd1b8,
    0x19a4c116b8d2d0c8, 0x1e376c085141ab53, 0x2748774cdf8eeb99, 0x34b0bcb5e19b48a8,
    0x391c0cb3c5c95a63, 0x4ed8aa4ae3418acb, 0x5b9cca4f7763e373, 0x682e6ff3d6b2b8a3,
    0x748f82ee5defb2fc, 0x78a5636f43172f60, 0x84c87814a1f0ab72, 0x8cc702081a6439ec,
    0x90befffa23631e28, 0xa4506cebde82bde9, 0xbef9a3f7b2c67915, 0xc67178f2e372532b,
    0xca273eceea26619c, 0xd186b8c721c0c207, 0xeada7dd6cde0eb1e, 0xf57d4f7fee6ed178,
    0x06f067aa72176fba, 0x0a637dc5a2c898a6, 0x113f9804bef90dae, 0x1b710b35131c471b,
    0x28db77f523047d84, 0x32caab7b40c72493, 0x3c9ebe0a15c9bebc, 0x431d67c49c100d4c,
    0x4cc5d4becb3e42b6, 0x597f299cfc657e2a, 0x5fcb6fab3ad6faec, 0x6c44198c4a475817]

def sha512 (message : Bytes) : Bytes :=
  (run family64
    ⟨0x6a09e667f3bcc908, 0xbb67ae8584caa73b, 0x3c6ef372fe94f82b,
      0xa54ff53a5f1d36f1, 0x510e527fade682d1, 0x9b05688c2b3e6c1f,
      0x1f83d9abfb41bd6b, 0x5be0cd19137e2179⟩ message).toBytes family64

/-- SHA-384: the function over 64-bit words from another start, cut short. -/
def sha384 (message : Bytes) : Bytes :=
  ((run family64
    ⟨0xcbbb9d5dc1059ed8, 0x629a292a367cd507, 0x9159015a3070dd17,
      0x152fecd8f70e5939, 0x67332667ffc00b31, 0x8eb44a8768581511,
      0xdb0c2e0d64f98fa7, 0x47b5481dbefa4fa4⟩ message).toBytes family64).take 48

end WebToken.Sha2
