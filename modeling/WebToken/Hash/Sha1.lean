import WebToken.Hash.Sha2

/-!
# The SHA-1 function

Five words are carried from block to block. A round takes the next word of a
window of sixteen, which then drops its first word and gains the word that the
schedule defines. Messages are padded and cut into words as for the functions of
the later family over the same words.
-/

set_option autoImplicit false

namespace WebToken.Sha1

/-- The five words that the function carries from block to block. -/
structure State where
  a : UInt32
  b : UInt32
  c : UInt32
  d : UInt32
  e : UInt32
deriving DecidableEq, Repr

def rotate (word : UInt32) (count : UInt32) : UInt32 :=
  (word <<< count) ||| (word >>> (32 - count))

/-- The mix of three words, and the constant, of the rounds of one stage. Each
stage has twenty rounds. -/
def stage (round : Nat) (b c d : UInt32) : UInt32 × UInt32 :=
  if round < 20 then ((b &&& c) ^^^ (~~~b &&& d), 0x5a827999)
  else if round < 40 then (b ^^^ c ^^^ d, 0x6ed9eba1)
  else if round < 60 then ((b &&& c) ^^^ (b &&& d) ^^^ (c &&& d), 0x8f1bbcdc)
  else (b ^^^ c ^^^ d, 0xca62c1d6)

/-- One round with a word of the schedule. -/
def step (round : Nat) (state : State) (word : UInt32) : State :=
  let (mix, constant) := stage round state.b state.c state.d
  ⟨rotate state.a 5 + mix + state.e + constant + word, state.a, rotate state.b 30, state.c,
    state.d⟩

/-- The word that follows a window of sixteen in the schedule. -/
def nextWord (window : List UInt32) : UInt32 :=
  let word (index : Nat) : UInt32 := window.getD index 0
  rotate (word 13 ^^^ word 8 ^^^ word 2 ^^^ word 0) 1

/-- The last `count` of the eighty rounds of a block. -/
def rounds : (count : Nat) → List UInt32 → State → State
  | 0, _, state => state
  | count + 1, window, state =>
      rounds count (window.drop 1 ++ [nextWord window])
        (step (79 - count) state (window.getD 0 0))

/-- The state after one more block. -/
def compress (state : State) (block : List UInt32) : State :=
  let mixed := rounds 80 block state
  ⟨state.a + mixed.a, state.b + mixed.b, state.c + mixed.c, state.d + mixed.d,
    state.e + mixed.e⟩

/-- Runs over the blocks of a padded message. `count` is how many there are. -/
def blocks : (count : Nat) → Bytes → State → State
  | 0, _, state => state
  | count + 1, bytes, state =>
      blocks count (bytes.drop 64)
        (compress state (Sha2.wordsOf Sha2.family32 16 (bytes.take 64)))

def sha1 (message : Bytes) : Bytes :=
  let start : State := ⟨0x67452301, 0xefcdab89, 0x98badcfe, 0x10325476, 0xc3d2e1f0⟩
  let state := blocks (Sha2.blockCount 4 message.length) (Sha2.pad 4 message) start
  [state.a, state.b, state.c, state.d, state.e].flatMap fun word =>
    Bytes.ofValue 4 word.toNat

end WebToken.Sha1
