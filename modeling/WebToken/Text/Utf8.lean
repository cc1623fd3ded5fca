import WebToken.Bytes

/-!
# Reading UTF-8

A well-formed character is one octet below 0x80, or a lead octet followed by
one to three continuation octets. The second octet of a longer form is further
restricted, which excludes overlong spellings, surrogates, and numbers above
0x10FFFF. A text that is not well formed is refused at the end of its longest
well-formed beginning.
-/

set_option autoImplicit false

namespace WebToken.Utf8

/-- Why the octets after the well-formed beginning are no character. -/
inductive Defect where
  /-- The first `length` octets start a character that the next octet cannot continue. -/
  | malformed (length : Nat)
  /-- The input ends inside a character that was well formed so far. -/
  | incomplete
deriving DecidableEq, Repr

/-- A refused byte string: how many octets are well formed, and what follows. -/
structure Fault where
  validLength : Nat
  defect : Defect
deriving DecidableEq, Repr

def Fault.message (fault : Fault) : String :=
  match fault.defect with
  | .malformed length =>
      s!"invalid utf-8 sequence of {length} bytes from index {fault.validLength}"
  | .incomplete => s!"incomplete utf-8 byte sequence from index {fault.validLength}"

/-- Octets that may stand after the second place of a longer form. -/
def isContinuation (byte : UInt8) : Bool :=
  0x80 ≤ byte && byte ≤ 0xBF

/-- Octets that may follow the lead octet of a form of three or four octets. -/
def isSecond (lead second : UInt8) : Bool :=
  if lead = 0xE0 then 0xA0 ≤ second && second ≤ 0xBF
  else if lead = 0xED then 0x80 ≤ second && second ≤ 0x9F
  else if lead = 0xF0 then 0x90 ≤ second && second ≤ 0xBF
  else if lead = 0xF4 then 0x80 ≤ second && second ≤ 0x8F
  else isContinuation second

/-- The six payload bits of a continuation octet. -/
def tailBits (byte : UInt8) : Nat :=
  byte.toNat % 64

/-- Decodes from an offset on; characters read so far are kept in reverse. -/
def decodeFrom (offset : Nat) (seen : List Char) : Bytes → Except Fault (List Char)
  | [] => .ok seen.reverse
  | lead :: rest =>
      if lead < 0x80 then
        decodeFrom (offset + 1) (Char.ofNat lead.toNat :: seen) rest
      else if 0xC2 ≤ lead ∧ lead ≤ 0xDF then
        match rest with
        | [] => .error ⟨offset, .incomplete⟩
        | second :: rest =>
            if isContinuation second then
              let code := lead.toNat % 32 * 64 + tailBits second
              decodeFrom (offset + 2) (Char.ofNat code :: seen) rest
            else .error ⟨offset, .malformed 1⟩
      else if 0xE0 ≤ lead ∧ lead ≤ 0xEF then
        match rest with
        | [] => .error ⟨offset, .incomplete⟩
        | second :: rest =>
            if isSecond lead second then
              match rest with
              | [] => .error ⟨offset, .incomplete⟩
              | third :: rest =>
                  if isContinuation third then
                    let code := (lead.toNat % 16 * 64 + tailBits second) * 64 + tailBits third
                    decodeFrom (offset + 3) (Char.ofNat code :: seen) rest
                  else .error ⟨offset, .malformed 2⟩
            else .error ⟨offset, .malformed 1⟩
      else if 0xF0 ≤ lead ∧ lead ≤ 0xF4 then
        match rest with
        | [] => .error ⟨offset, .incomplete⟩
        | second :: rest =>
            if isSecond lead second then
              match rest with
              | [] => .error ⟨offset, .incomplete⟩
              | third :: rest =>
                  if isContinuation third then
                    match rest with
                    | [] => .error ⟨offset, .incomplete⟩
                    | fourth :: rest =>
                        if isContinuation fourth then
                          let code := ((lead.toNat % 8 * 64 + tailBits second) * 64 +
                            tailBits third) * 64 + tailBits fourth
                          decodeFrom (offset + 4) (Char.ofNat code :: seen) rest
                        else .error ⟨offset, .malformed 3⟩
                  else .error ⟨offset, .malformed 2⟩
            else .error ⟨offset, .malformed 1⟩
      else .error ⟨offset, .malformed 1⟩

/-- The characters of a well-formed byte string, or where it stops being one. -/
def decode (bytes : Bytes) : Except Fault (List Char) :=
  decodeFrom 0 [] bytes

end WebToken.Utf8
