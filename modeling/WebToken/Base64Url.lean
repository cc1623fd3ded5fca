import WebToken.Bytes

/-!
# Unpadded Base64URL

Three octets are written as four symbols, a last one or two octets as two or
three. The alphabet is letters, digits, hyphen and underscore. Reading refuses
padding and non-zero unused bits, so every byte string has one spelling.
-/

set_option autoImplicit false

namespace WebToken.Base64Url

/-- The symbol of a six-bit number. Numbers above 63 share the last symbol. -/
def symbol (sextet : Nat) : Char :=
  if sextet < 26 then Char.ofNat (65 + sextet)
  else if sextet < 52 then Char.ofNat (71 + sextet)
  else if sextet < 62 then Char.ofNat (sextet - 4)
  else if sextet = 62 then '-'
  else '_'

/-- The six-bit number that an octet of text stands for, if it is a symbol. -/
def sextet? (byte : UInt8) : Option Nat :=
  let code := byte.toNat
  if 65 ≤ code ∧ code ≤ 90 then some (code - 65)
  else if 97 ≤ code ∧ code ≤ 122 then some (code - 71)
  else if 48 ≤ code ∧ code ≤ 57 then some (code + 4)
  else if code = 45 then some 62
  else if code = 95 then some 63
  else none

/-- The symbols of a byte string, in groups of three octets. -/
def symbols : Bytes → List Char
  | [] => []
  | [first] =>
      [symbol (first.toNat / 4), symbol (first.toNat % 4 * 16)]
  | [first, second] =>
      [symbol (first.toNat / 4), symbol (first.toNat % 4 * 16 + second.toNat / 16),
        symbol (second.toNat % 16 * 4)]
  | first :: second :: third :: rest =>
      symbol (first.toNat / 4) :: symbol (first.toNat % 4 * 16 + second.toNat / 16) ::
        symbol (second.toNat % 16 * 4 + third.toNat / 64) :: symbol (third.toNat % 64) ::
        symbols rest

/-- The one accepted spelling of a byte string. -/
def encode (bytes : Bytes) : String :=
  String.ofList (symbols bytes)

/-- Why a text is not the spelling of a byte string. Offsets count octets. -/
inductive Fault where
  | symbol (byte : UInt8) (offset : Nat)
  | length (count : Nat)
  | padding
  | lastSymbol (byte : UInt8) (offset : Nat)
deriving DecidableEq, Repr

def Fault.message : Fault → String
  | .symbol byte offset => s!"Invalid symbol {byte.toNat}, offset {offset}."
  | .length count => s!"Invalid input length: {count}"
  | .padding => "Invalid padding"
  | .lastSymbol byte offset => s!"Invalid last symbol {byte.toNat}, offset {offset}."

/-- The octet of the equals sign, which padded spellings end with. -/
def paddingSign : UInt8 := 61

/-- The number of the symbol at an offset, or the refusal of that octet. -/
def sextetAt (offset : Nat) (byte : UInt8) : Except Fault Nat :=
  match sextet? byte with
  | some sextet => .ok sextet
  | none => .error (.symbol byte offset)

/-- Reads the last group from left to right. `read` holds the symbols so far
with their octets in reverse, `padded` the offset of the first equals sign.
An equals sign before the third place, or one that is followed by anything
else, is itself the invalid symbol. -/
def lastSymbols (start : Nat) (place : Nat) (padded : Option Nat) (read : List (UInt8 × Nat)) :
    Bytes → Except Fault (List (UInt8 × Nat) × Option Nat)
  | [] => .ok (read.reverse, padded)
  | byte :: rest =>
      if byte = paddingSign then
        if place < 2 then .error (.symbol paddingSign (start + place))
        else lastSymbols start (place + 1) (padded <|> some (start + place)) read rest
      else
        match padded with
        | some offset => .error (.symbol paddingSign offset)
        | none =>
            match sextet? byte with
            | none => .error (.symbol byte (start + place))
            | some sextet => lastSymbols start (place + 1) none ((byte, sextet) :: read) rest

/-- The octets of the last one to four symbols, which start at an offset.
Too few symbols are reported first, then padding, then unused bits. -/
def lastGroup (start : Nat) (group : Bytes) : Except Fault Bytes :=
  match lastSymbols start 0 none [] group with
  | .error fault => .error fault
  | .ok (read, padded) =>
      if read.length < 2 then .error (.length (start + read.length))
      else if padded.isSome then .error .padding
      else
        match read with
        | [(_, first), (byte, second)] =>
            if second % 16 = 0 then .ok [UInt8.ofNat (first * 4 + second / 16)]
            else .error (.lastSymbol byte (start + 1))
        | [(_, first), (_, second), (byte, third)] =>
            if third % 4 = 0 then
              .ok [UInt8.ofNat (first * 4 + second / 16),
                UInt8.ofNat (second % 16 * 16 + third / 4)]
            else .error (.lastSymbol byte (start + 2))
        | [(_, first), (_, second), (_, third), (_, fourth)] =>
            .ok [UInt8.ofNat (first * 4 + second / 16),
              UInt8.ofNat (second % 16 * 16 + third / 4),
              UInt8.ofNat (third % 4 * 64 + fourth)]
        | _ => .ok []

/-- Reads groups of four symbols. A group that ends the text is the last one,
even when it is full. -/
def groups (offset : Nat) : Bytes → Except Fault Bytes
  | [] => .ok []
  | first :: second :: third :: fourth :: rest =>
      if rest.isEmpty then lastGroup offset [first, second, third, fourth]
      else do
        let high ← sextetAt offset first
        let next ← sextetAt (offset + 1) second
        let middle ← sextetAt (offset + 2) third
        let low ← sextetAt (offset + 3) fourth
        let others ← groups (offset + 4) rest
        return UInt8.ofNat (high * 4 + next / 16) :: UInt8.ofNat (next % 16 * 16 + middle / 4) ::
          UInt8.ofNat (middle % 4 * 64 + low) :: others
  | group => lastGroup offset group

/-- A single octet after the full groups that is neither a symbol nor an equals
sign is reported before anything else. -/
def strayEnd? (text : Bytes) : Option Fault :=
  match text.getLast? with
  | none => none
  | some byte =>
      if text.length % 4 = 1 ∧ byte ≠ paddingSign ∧ sextet? byte = none then
        some (.symbol byte (text.length - 1))
      else none

def decodeBytes (text : Bytes) : Except Fault Bytes :=
  match strayEnd? text with
  | some fault => .error fault
  | none => groups 0 text

/-- The byte string that a text spells, or why there is none. -/
def decode (text : String) : Except Fault Bytes :=
  decodeBytes (Bytes.ofText text)

end WebToken.Base64Url
