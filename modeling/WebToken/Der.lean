import WebToken.Bytes

/-!
# Distinguished encoding of tagged items

An item is a tag octet, a length, and that many octets of content. Writing
uses the shortest length form. Reading accepts only what writing produces:
the shortest length form, and numbers without redundant leading octets.
-/

set_option autoImplicit false

namespace WebToken.Der

/-- The number of a tag is written as a literal. -/
instance tagNumber (number : Nat) : OfNat (Fin 31) number :=
  ⟨number % 31, Nat.mod_lt number (by decide)⟩

/-- The tags of the items that keys and signatures are made of. -/
inductive Tag where
  | integer
  | bitString
  | octetString
  | null
  | objectIdentifier
  | sequence
  /-- A primitive item whose meaning its position gives. -/
  | primitive (number : Fin 31)
  /-- A constructed item whose meaning its position gives. -/
  | constructed (number : Fin 31)
deriving DecidableEq, Repr

def Tag.octet : Tag → UInt8
  | .integer => 0x02
  | .bitString => 0x03
  | .octetString => 0x04
  | .null => 0x05
  | .objectIdentifier => 0x06
  | .sequence => 0x30
  | .primitive number => UInt8.ofNat (0x80 + number.val)
  | .constructed number => UInt8.ofNat (0xA0 + number.val)

/-!
## Writing
-/

/-- The shortest form of a length. -/
def lengthOctets (length : Nat) : Bytes :=
  if length < 128 then [UInt8.ofNat length]
  else
    let width := Bytes.widthOf length
    UInt8.ofNat (128 + width) :: Bytes.ofValue width length

/-- An item with a content. -/
def item (tag : Tag) (content : Bytes) : Bytes :=
  tag.octet :: (lengthOctets content.length ++ content)

/-- The content of a non-negative number: its digits, after a zero octet if the
first digit has its high bit set. -/
def naturalContent (number : Nat) : Bytes :=
  let digits := Bytes.ofValue (Bytes.widthOf number) number
  if digits.head?.any (128 ≤ ·) then 0 :: digits else digits

def natural (number : Nat) : Bytes :=
  item .integer (naturalContent number)

/-!
## Reading
-/

/-- Reads a length in its shortest form, in at most four octets after the first. -/
def length? : Bytes → Option (Nat × Bytes)
  | [] => none
  | first :: rest =>
      if first < 128 then some (first.toNat, rest)
      else
        let width := first.toNat - 128
        let length := Bytes.value (rest.take width)
        if 1 ≤ width ∧ width ≤ 4 ∧ width ≤ rest.length ∧ 128 ≤ length ∧
            Bytes.widthOf length = width then
          some (length, rest.drop width)
        else none

/-- Reads an item of a tag: its content, and what follows it. -/
def item? (tag : Tag) : Bytes → Option (Bytes × Bytes)
  | [] => none
  | first :: rest =>
      if first = tag.octet then
        match length? rest with
        | none => none
        | some (length, rest) =>
            if length ≤ rest.length then some (rest.take length, rest.drop length) else none
      else none

/-- Reads an item that makes up the whole input. -/
def only? (tag : Tag) (bytes : Bytes) : Option Bytes :=
  match item? tag bytes with
  | some (content, []) => some content
  | _ => none

/-- Reads an item that may be absent, which its tag shows. -/
def optional? (tag : Tag) (bytes : Bytes) : Option (Option Bytes × Bytes) :=
  if bytes.head? = some tag.octet then
    (item? tag bytes).map fun (content, rest) => (some content, rest)
  else some (none, bytes)

/-- Whether a content is that of a non-negative number: not empty, not
negative, and without a redundant zero octet. -/
def isNaturalContent : Bytes → Bool
  | [] => false
  | [only] => only < 128
  | first :: second :: _ => first < 128 && (first ≠ 0 || 128 ≤ second)

def natural? (bytes : Bytes) : Option (Nat × Bytes) :=
  match item? .integer bytes with
  | none => none
  | some (content, rest) =>
      if isNaturalContent content then some (Bytes.value content, rest) else none

/-- The octets of a bit string that has no unused bits. -/
def bitOctets? : Bytes → Option Bytes
  | 0 :: octets => some octets
  | _ => none

end WebToken.Der
