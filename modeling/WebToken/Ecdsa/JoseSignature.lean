import WebToken.Bytes

/-!
# Two forms of an elliptic curve signature

Tokens carry the two numbers of a signature one after the other, each as wide
as the curve's order. Providers take them as a sequence of two tagged numbers.
Here one form is converted into the other, octet by octet: the numbers are not
checked against any curve, and the tagged form is read more liberally than it is
written.

The length of a field is a machine word. Twice that length is computed in words
too, so that it wraps for the upper half of them.
-/

set_option autoImplicit false

namespace WebToken.JoseSignature

/-- Why a signature cannot be converted. -/
inductive Fault where
  | wrongLength (expected actual : Nat)
  | contentTooLong (length : Nat)
  | zeroFieldLength
  | missingSequence
  | unsupportedSequenceLength
  | sequenceLength (stated remaining : Nat)
  | truncatedInteger
  | notInteger (tag : UInt8)
  | unsupportedIntegerLength (length : Nat)
  | integerTooLong (length fieldLength : Nat)
  | trailingBytes
deriving DecidableEq, Repr

/-- An octet as two hexadecimal digits. -/
def octetText (byte : UInt8) : String :=
  String.ofList ['0', 'x', (byte.toNat / 16).digitChar, (byte.toNat % 16).digitChar]

def Fault.message : Fault → String
  | .wrongLength expected actual => s!"expected {expected} bytes, got {actual}"
  | .contentTooLong length => s!"content length {length} doesn't fit a single length byte"
  | .zeroFieldLength => "field length must be positive"
  | .missingSequence => "missing SEQUENCE tag"
  | .unsupportedSequenceLength => "unsupported SEQUENCE length encoding"
  | .sequenceLength stated remaining =>
      s!"SEQUENCE length {stated} doesn't match {remaining} remaining bytes"
  | .truncatedInteger => "truncated INTEGER"
  | .notInteger tag => s!"expected INTEGER tag, found {octetText tag}"
  | .unsupportedIntegerLength length => s!"unsupported INTEGER length {length}"
  | .integerTooLong length fieldLength =>
      s!"INTEGER of {length} bytes exceeds field length {fieldLength}"
  | .trailingBytes => "trailing bytes after S"

/-- How a conversion ends without a result. Besides refusing a malformed signature
it may stop at a place outside of the octets that it has, or for want of memory. -/
inductive Stop where
  | malformed (fault : Fault)
  | outOfRange
  | outOfMemory
deriving DecidableEq, Repr

/-- The most octets that are ever given at once: the largest signed word. -/
def memoryLimit : Nat := 2 ^ 63 - 1

/-- The length of a signature of two fields, as far as a word holds it. -/
def joseLength (fieldLength : UInt64) : Nat :=
  (2 * fieldLength).toNat

def sequenceTag : UInt8 := 0x30

def integerTag : UInt8 := 0x02

/-- Whether a signature is taken to be in the tagged form: it starts like a
sequence and does not have the length of the other form. -/
def isDer (signature : Bytes) (fieldLength : UInt64) : Bool :=
  signature.head? == some sequenceTag && signature.length != joseLength fieldLength

/-!
## From fixed width to tags
-/

/-- The content of the number that a field denotes: its digits without leading
zeros, after one zero octet if the number would read as negative otherwise. -/
def integerContent (field : Bytes) : Bytes :=
  match field.dropWhile (· == 0) with
  | [] => [0]
  | first :: rest => if 0x80 ≤ first then 0 :: first :: rest else first :: rest

/-- A number with its tag and its length in one octet. -/
def taggedInteger (content : Bytes) : Bytes :=
  integerTag :: UInt8.ofNat content.length :: content

/-- Gives a signature its tags. The length of the content takes one octet,
after a marker from 128 on; a content longer than 255 octets is refused. -/
def toDer (jose : Bytes) (fieldLength : UInt64) : Except Stop Bytes :=
  if fieldLength = 0 ∨ jose.length ≠ joseLength fieldLength then
    .error (.malformed (.wrongLength (joseLength fieldLength) jose.length))
  else if jose.length < fieldLength.toNat then .error .outOfRange
  else
    let content := taggedInteger (integerContent (jose.take fieldLength.toNat)) ++
      taggedInteger (integerContent (jose.drop fieldLength.toNat))
    if content.length > 255 then .error (.malformed (.contentTooLong content.length))
    else if content.length > 127 then
      .ok (sequenceTag :: 0x81 :: UInt8.ofNat content.length :: content)
    else .ok (sequenceTag :: UInt8.ofNat content.length :: content)

/-!
## From tags to fixed width
-/

/-- Reads the tag and length of the sequence: the stated length and the rest. -/
def readHeader : Bytes → Except Fault (Nat × Bytes)
  | tag :: length :: rest =>
      if tag ≠ sequenceTag then .error .missingSequence
      else if length < 0x80 then .ok (length.toNat, rest)
      else if length = 0x81 then
        match rest with
        | length :: rest => .ok (length.toNat, rest)
        | [] => .error .unsupportedSequenceLength
      else .error .unsupportedSequenceLength
  | _ => .error .missingSequence

/-- Reads a number of 1 to 127 octets: its content and the rest. -/
def readInteger : Bytes → Except Fault (Bytes × Bytes)
  | tag :: length :: rest =>
      if tag ≠ integerTag then .error (.notInteger tag)
      else if length = 0 ∨ 0x80 ≤ length then .error (.unsupportedIntegerLength length.toNat)
      else if rest.length < length.toNat then .error .truncatedInteger
      else .ok (rest.take length.toNat, rest.drop length.toNat)
  | _ => .error .truncatedInteger

/-- Drops leading zeros of a content that is longer than a field. -/
def stripZeros (fieldLength : Nat) : Bytes → Bytes
  | [] => []
  | first :: rest =>
      if rest.length + 1 > fieldLength ∧ first = 0 then stripZeros fieldLength rest
      else first :: rest

/-- A content as a field, with zeros in front. -/
def fieldOf (fieldLength : Nat) (content : Bytes) : Except Fault Bytes :=
  let digits := stripZeros fieldLength content
  if digits.length > fieldLength then .error (.integerTooLong digits.length fieldLength)
  else .ok (Bytes.fill (fieldLength - digits.length) 0 ++ digits)

/-- Reads the tag and length of the sequence, which has to reach to the end: what
stands in it. -/
def readSequence (der : Bytes) : Except Fault Bytes := do
  let (stated, content) ← readHeader der
  if stated ≠ content.length then throw (.sequenceLength stated content.length)
  return content

/-- Reads a number of numbers one after the other: their fields and the rest. -/
def readFields (fieldLength : Nat) : (count : Nat) → Bytes → Except Fault (Bytes × Bytes)
  | 0, bytes => .ok ([], bytes)
  | count + 1, bytes => do
      let (content, rest) ← readInteger bytes
      let field ← fieldOf fieldLength content
      let (fields, rest) ← readFields fieldLength count rest
      return (field ++ fields, rest)

/-- The fields of a number of numbers, and nothing after them. -/
def readNumbers (fieldLength count : Nat) (bytes : Bytes) : Except Fault Bytes := do
  let (fields, rest) ← readFields fieldLength count bytes
  if rest ≠ [] then throw .trailingBytes
  return fields

/-- Takes the tags off a signature, each number as wide as a field. As many numbers
are read as there are whole fields in the memory that is asked for. -/
def ofDer (der : Bytes) (fieldLength : UInt64) : Except Stop Bytes :=
  if fieldLength = 0 then .error (.malformed .zeroFieldLength)
  else
    match readSequence der with
    | .error fault => .error (.malformed fault)
    | .ok content =>
        let length := joseLength fieldLength
        if length > memoryLimit then .error .outOfMemory
        else
          match readNumbers fieldLength.toNat (length / fieldLength.toNat) content with
          | .error fault => .error (.malformed fault)
          | .ok fields => .ok (fields ++ Bytes.fill (length % fieldLength.toNat) 0)

/-!
## Fields of usual length
-/

theorem joseLength_eq_mod (fieldLength : UInt64) :
    joseLength fieldLength = 2 * fieldLength.toNat % 2 ^ 64 :=
  UInt64.toNat_mul 2 fieldLength

theorem joseLength_eq {fieldLength : UInt64} (word : fieldLength.toNat < 2 ^ 63) :
    joseLength fieldLength = 2 * fieldLength.toNat := by
  rw [joseLength_eq_mod, Nat.mod_eq_of_lt (by omega)]

/-- A conversion that gives a signature, or refuses one, but does not stop otherwise. -/
def Settles {α : Type} (run : Except Stop α) : Prop :=
  run ≠ .error .outOfRange ∧ run ≠ .error .outOfMemory

def settled {α : Type} : (run : Except Stop α) → Settles run → Except Fault α
  | .ok result, _ => .ok result
  | .error (.malformed fault), _ => .error fault
  | .error .outOfRange, settles => absurd rfl settles.1
  | .error .outOfMemory, settles => absurd rfl settles.2

theorem settled_of_ok {α : Type} {run : Except Stop α} {result : α} (settles : Settles run)
    (given : run = .ok result) : settled run settles = .ok result := by
  subst given
  rfl

theorem settled_of_malformed {α : Type} {run : Except Stop α} {fault : Fault}
    (settles : Settles run) (refused : run = .error (.malformed fault)) :
    settled run settles = .error fault := by
  subst refused
  rfl

theorem toDer_settles {fieldLength : UInt64} (word : fieldLength.toNat < 2 ^ 63) (jose : Bytes) :
    Settles (toDer jose fieldLength) := by
  unfold toDer
  split
  next => exact ⟨nofun, nofun⟩
  next fits =>
    have width : jose.length = joseLength fieldLength := Decidable.not_not.mp (not_or.mp fits).2
    have inside : ¬ jose.length < fieldLength.toNat := by
      rw [width, joseLength_eq word]
      omega
    rw [if_neg inside]
    dsimp only
    split
    · exact ⟨nofun, nofun⟩
    · split <;> exact ⟨nofun, nofun⟩

theorem ofDer_ne_outOfRange (der : Bytes) (fieldLength : UInt64) :
    ofDer der fieldLength ≠ .error .outOfRange := by
  unfold ofDer
  split
  next => exact nofun
  next =>
    split
    next => exact nofun
    next content _ =>
      dsimp only
      split
      next => exact nofun
      next => split <;> exact nofun

theorem ofDer_settles {fieldLength : UInt64} (narrow : fieldLength.toNat < 2 ^ 62) (der : Bytes) :
    Settles (ofDer der fieldLength) := by
  refine ⟨ofDer_ne_outOfRange der fieldLength, ?_⟩
  have held : ¬ joseLength fieldLength > memoryLimit := by
    rw [joseLength_eq (Nat.lt_trans narrow (by decide)), memoryLimit]
    omega
  unfold ofDer
  split
  next => exact nofun
  next =>
    split
    next => exact nofun
    next content _ =>
      simp only [if_neg held]
      split <;> exact nofun

end WebToken.JoseSignature
