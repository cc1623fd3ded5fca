import WebToken.Json.Basic
import WebToken.Json.Fault

/-!
# Reading JSON text

The reader works on the characters still unread. It takes the standard
grammar, at most 127 arrays and objects open at once, and the last member of
several with one name. A number without fraction and exponent is an integer if
it fits 64 bits; every other number is read by `Binary64.ofDecimal?`.
-/

set_option autoImplicit false

namespace WebToken.Json.Reader

/-- A refusal while reading: what is unread, and how many octets of that the
reader had looked at. -/
structure Stop where
  cause : Cause
  unread : List Char
  reach : Nat

/-- A reading step: what was read and what is left. -/
abbrev Step (α : Type) := Except Stop (α × List Char)

/-- A refusal with all octets before the unread text consumed. -/
def stopAfter {α : Type} (cause : Cause) (unread : List Char) : Except Stop α :=
  .error ⟨cause, unread, 0⟩

/-- A refusal because of the next octet, which counts as read. -/
def stopAt {α : Type} (cause : Cause) (unread : List Char) : Except Stop α :=
  .error ⟨cause, unread, 1⟩

/-- Blank characters between tokens. -/
def isBlank (char : Char) : Bool :=
  char = ' ' || char = '\t' || char = '\n' || char = '\r'

def skipBlanks (text : List Char) : List Char :=
  text.dropWhile isBlank

/-!
## Words and numbers
-/

/-- Reads the rest of a word whose first character has been read. -/
def word (value : Json) : (letters : List Char) → List Char → Step Json
  | [], text => .ok (value, text)
  | _ :: _, [] => stopAfter .endInValue []
  | letter :: letters, char :: rest =>
      if char = letter then word value letters rest else stopAt .misspelledWord (char :: rest)

def digitValue (char : Char) : Nat :=
  char.toNat - 48

/-- Appends decimal digits to a significand as long as it stays below `2 ^ 64`.
The second result is how many digits were appended. -/
def appendDigits (significand : Nat) : List Char → Nat × Nat
  | [] => (significand, 0)
  | digit :: rest =>
      let next := significand * 10 + digitValue digit
      if next < 2 ^ 64 then
        let (result, count) := appendDigits next rest
        (result, count + 1)
      else (significand, 0)

/-- Reads the digits of an exponent. An exponent that does not fit a signed
32-bit word is `none`, and reading stops after the digit that shows it. -/
def exponentDigits (exponent : Nat) : List Char → Option Nat × List Char
  | [] => (some exponent, [])
  | digit :: rest =>
      if digit.isDigit then
        let next := exponent * 10 + digitValue digit
        if next < 2 ^ 31 then exponentDigits next rest else (none, rest)
      else (some exponent, digit :: rest)

/-- A significand and decimal exponent with a sign, as a float. -/
def floatOf (negative : Bool) (significand : Nat) (exponent : Int) (rest : List Char) :
    Step Json :=
  match Binary64.ofDecimal? significand exponent with
  | none => stopAfter .numberOutOfRange rest
  | some magnitude =>
      .ok (.number (.float (if negative then magnitude.negate else magnitude)), rest)

/-- Reads an exponent after its letter. Past the 32-bit range it makes the
number zero, or refuses a number that would be too large. -/
def exponentPart (negative : Bool) (significand : Nat) (exponent : Int) (text : List Char) :
    Step Json :=
  let (below, digits) := match text with
    | '+' :: rest => (false, rest)
    | '-' :: rest => (true, rest)
    | rest => (false, rest)
  match digits with
  | [] => stopAfter .endInValue []
  | first :: rest =>
      if first.isDigit then
        match exponentDigits (digitValue first) rest with
        | (some written, rest) =>
            floatOf negative significand (if below then exponent - written else exponent + written)
              rest
        | (none, rest) =>
            if significand ≠ 0 ∧ below = false then stopAfter .numberOutOfRange rest
            else .ok (.number (.float (.zero negative)), rest.dropWhile Char.isDigit)
      else stopAt .invalidNumber (first :: rest)

/-- Reads what follows the integer digits: a fraction, an exponent, or neither.
Fraction digits that no longer fit the significand are ignored. -/
def fractionPart (negative : Bool) (significand : Nat) (exponent : Int) (text : List Char) :
    Step Json :=
  match text with
  | [] => stopAfter .endInValue []
  | first :: _ =>
      if first.isDigit then
        let digits := text.takeWhile Char.isDigit
        let (significand, count) := appendDigits significand digits
        let exponent := exponent - count
        match text.dropWhile Char.isDigit with
        | 'e' :: rest => exponentPart negative significand exponent rest
        | 'E' :: rest => exponentPart negative significand exponent rest
        | rest => floatOf negative significand exponent rest
      else stopAt .invalidNumber text

/-- An integer in the 64-bit range of its sign. Negative zero is a float, and
so are integers out of range. -/
def integerOf (negative : Bool) (magnitude : Nat) (rest : List Char) : Step Json :=
  if negative then
    if range : 0 < magnitude ∧ magnitude ≤ 2 ^ 63 then
      .ok (.number (.integer (-magnitude) (by omega) (by omega)), rest)
    else floatOf true magnitude 0 rest
  else if range : magnitude < 2 ^ 64 then
    .ok (.number (.integer magnitude (by omega) (by omega)), rest)
  else floatOf false magnitude 0 rest

/-- Reads a number after its sign. A zero is not followed by a digit. Integer
digits that do not fit the significand count as factors of ten. -/
def number (negative : Bool) (text : List Char) : Step Json :=
  match text with
  | [] => stopAfter .endInValue []
  | first :: rest =>
      if first = '0' ∧ (rest.head?.any Char.isDigit) then stopAt .invalidNumber rest
      else if first.isDigit then
        let digits := text.takeWhile Char.isDigit
        let (significand, count) := appendDigits 0 digits
        let exponent : Int := (digits.length - count : Nat)
        match text.dropWhile Char.isDigit with
        | '.' :: rest => fractionPart negative significand exponent rest
        | 'e' :: rest => exponentPart negative significand exponent rest
        | 'E' :: rest => exponentPart negative significand exponent rest
        | rest =>
            if count = digits.length then integerOf negative significand rest
            else floatOf negative significand exponent rest
      else stopAt .invalidNumber text

/-!
## Strings
-/

def hexValue? (char : Char) : Option Nat :=
  let code := char.toNat
  if 48 ≤ code ∧ code ≤ 57 then some (code - 48)
  else if 97 ≤ code ∧ code ≤ 102 then some (code - 87)
  else if 65 ≤ code ∧ code ≤ 70 then some (code - 55)
  else none

/-- The number that four hexadecimal digits denote. -/
def hexCode? (first second third fourth : Char) : Option Nat := do
  let first ← hexValue? first
  let second ← hexValue? second
  let third ← hexValue? third
  let fourth ← hexValue? fourth
  return ((first * 16 + second) * 16 + third) * 16 + fourth

/-- The refusal of an escape that does not have four hexadecimal digits. With
fewer than four octets left the text ended inside the string. -/
def badHex {α : Type} (text : List Char) : Except Stop α :=
  if (text.flatMap String.utf8EncodeChar).length < 4 then stopAfter .endInString []
  else .error ⟨.invalidEscape, text, 4⟩

/-- The character of an escape by one letter. -/
def namedEscape? (letter : Char) : Option Char :=
  if letter = '"' then some '"'
  else if letter = '\\' then some '\\'
  else if letter = '/' then some '/'
  else if letter = 'b' then some (Char.ofNat 8)
  else if letter = 'f' then some (Char.ofNat 12)
  else if letter = 'n' then some '\n'
  else if letter = 'r' then some '\r'
  else if letter = 't' then some '\t'
  else none

/-- The number of a leading surrogate. -/
def isLeading (code : Nat) : Bool :=
  0xD800 ≤ code && code ≤ 0xDBFF

/-- The number of a trailing surrogate. -/
def isTrailing (code : Nat) : Bool :=
  0xDC00 ≤ code && code ≤ 0xDFFF

/-- The character that a pair of surrogates denotes. -/
def pairChar (leading trailing : Nat) : Char :=
  Char.ofNat ((leading - 0xD800) * 0x400 + (trailing - 0xDC00) + 0x10000)

/-- Reads a string after its opening quote. Characters read so far are kept in
reverse. An escaped leading surrogate has to be followed by an escaped trailing
one, and the two denote one character. -/
def string (read : List Char) : List Char → Step String
  | [] => stopAfter .endInString []
  | '"' :: rest => .ok (String.ofList read.reverse, rest)
  | '\\' :: 'u' :: first :: second :: third :: fourth :: rest =>
      match hexCode? first second third fourth with
      | none => badHex (first :: second :: third :: fourth :: rest)
      | some code =>
          if isTrailing code then stopAfter .unpairedSurrogate rest
          else if isLeading code then
            match rest with
            | '\\' :: 'u' :: first :: second :: third :: fourth :: rest =>
                match hexCode? first second third fourth with
                | none => badHex (first :: second :: third :: fourth :: rest)
                | some next =>
                    if isTrailing next then string (pairChar code next :: read) rest
                    else stopAfter .unpairedSurrogate rest
            | '\\' :: 'u' :: rest => badHex rest
            | '\\' :: char :: rest => stopAt .cutSurrogatePair (char :: rest)
            | ['\\'] => stopAfter .endInString []
            | [] => stopAfter .endInString []
            | char :: rest => stopAt .cutSurrogatePair (char :: rest)
          else string (Char.ofNat code :: read) rest
  | '\\' :: 'u' :: rest => badHex rest
  | '\\' :: letter :: rest =>
      match namedEscape? letter with
      | some char => string (char :: read) rest
      | none => stopAt .invalidEscape (letter :: rest)
  | ['\\'] => stopAfter .endInString []
  | char :: rest =>
      if char.toNat < 32 then stopAt .controlCharacter (char :: rest)
      else string (char :: read) rest

/-!
## Values
-/

/-- How many arrays and objects may be open at once. -/
def maxDepth : Nat := 127

mutual

/-- Reads a value. `fuel` bounds the number of nested steps and `depth` the
containers that may still be opened. -/
def value : (fuel : Nat) → (depth : Nat) → List Char → Step Json
  | 0, _, text => stopAfter .endInValue text
  | fuel + 1, depth, text =>
      match skipBlanks text with
      | [] => stopAfter .endInValue []
      | 'n' :: rest => word .null ['u', 'l', 'l'] rest
      | 't' :: rest => word (.bool true) ['r', 'u', 'e'] rest
      | 'f' :: rest => word (.bool false) ['a', 'l', 's', 'e'] rest
      | '-' :: rest => number true rest
      | '"' :: rest =>
          match string [] rest with
          | .error stop => .error stop
          | .ok (text, rest) => .ok (.string text, rest)
      | '[' :: rest =>
          match depth with
          | 0 => stopAt .tooDeep ('[' :: rest)
          | depth + 1 =>
              match items fuel depth rest with
              | .error stop => .error stop
              | .ok (read, rest) => .ok (.array read, rest)
      | '\x7b' :: rest =>
          match depth with
          | 0 => stopAt .tooDeep ('\x7b' :: rest)
          | depth + 1 =>
              match members fuel depth rest with
              | .error stop => .error stop
              | .ok (read, rest) => .ok (.object (Members.ofList read), rest)
      | char :: rest =>
          if char.isDigit then number false (char :: rest)
          else stopAt .missingValue (char :: rest)

/-- Reads the items of an array after its opening bracket. -/
def items : (fuel : Nat) → (depth : Nat) → List Char → Step (List Json)
  | 0, _, text => stopAfter .endInList text
  | fuel + 1, depth, text =>
      match skipBlanks text with
      | [] => stopAfter .endInList []
      | ']' :: rest => .ok ([], rest)
      | text =>
          match value fuel depth text with
          | .error stop => .error stop
          | .ok (item, rest) => moreItems fuel depth [item] rest

/-- Reads the items after the first one; those read so far are in reverse. -/
def moreItems : (fuel : Nat) → (depth : Nat) → List Json → List Char → Step (List Json)
  | 0, _, _, text => stopAfter .endInList text
  | fuel + 1, depth, read, text =>
      match skipBlanks text with
      | [] => stopAfter .endInList []
      | ']' :: rest => .ok (read.reverse, rest)
      | ',' :: rest =>
          match skipBlanks rest with
          | [] => stopAfter .endInValue []
          | ']' :: rest => stopAt .trailingComma (']' :: rest)
          | text =>
              match value fuel depth text with
              | .error stop => .error stop
              | .ok (item, rest) => moreItems fuel depth (item :: read) rest
      | text => stopAt .missingListComma text

/-- Reads the members of an object after its opening brace, in writing order. -/
def members : (fuel : Nat) → (depth : Nat) → List Char → Step (List (String × Json))
  | 0, _, text => stopAfter .endInObject text
  | fuel + 1, depth, text =>
      match skipBlanks text with
      | [] => stopAfter .endInObject []
      | '\x7d' :: rest => .ok ([], rest)
      | '"' :: rest =>
          match member fuel depth rest with
          | .error stop => .error stop
          | .ok (read, rest) => moreMembers fuel depth [read] rest
      | text => stopAt .keyNotString text

/-- Reads the members after the first one; those read so far are in reverse. -/
def moreMembers : (fuel : Nat) → (depth : Nat) → List (String × Json) → List Char →
    Step (List (String × Json))
  | 0, _, _, text => stopAfter .endInObject text
  | fuel + 1, depth, read, text =>
      match skipBlanks text with
      | [] => stopAfter .endInObject []
      | '\x7d' :: rest => .ok (read.reverse, rest)
      | ',' :: rest =>
          match skipBlanks rest with
          | [] => stopAfter .endInValue []
          | '\x7d' :: rest => stopAt .trailingComma ('\x7d' :: rest)
          | '"' :: rest =>
              match member fuel depth rest with
              | .error stop => .error stop
              | .ok (next, rest) => moreMembers fuel depth (next :: read) rest
          | text => stopAt .keyNotString text
      | text => stopAt .missingObjectComma text

/-- Reads one member after the opening quote of its name. -/
def member : (fuel : Nat) → (depth : Nat) → List Char → Step (String × Json)
  | 0, _, text => stopAfter .endInObject text
  | fuel + 1, depth, text =>
      match string [] text with
      | .error stop => .error stop
      | .ok (name, rest) =>
          match skipBlanks rest with
          | [] => stopAfter .endInObject []
          | ':' :: rest =>
              match value fuel depth rest with
              | .error stop => .error stop
              | .ok (held, rest) => .ok ((name, held), rest)
          | text => stopAt .missingColon text

end

/-- Enough fuel for a text: no more than three nested steps per character. -/
def fuelFor (text : List Char) : Nat :=
  3 * text.length + 3

/-- Reads one value and the blanks around it, up to the end of the text. -/
def document (text : List Char) : Except Stop Json :=
  match value (fuelFor text) maxDepth text with
  | .error stop => .error stop
  | .ok (read, rest) =>
      match skipBlanks rest with
      | [] => .ok read
      | rest => stopAt .trailingText rest

/-- Reads one object without blanks before it, up to the end of the text. The
members are in writing order, and may have equal names. -/
def objectDocument : List Char → Except Stop (List (String × Json))
  | '\x7b' :: rest =>
      match members (fuelFor rest) (maxDepth - 1) rest with
      | .error stop => .error stop
      | .ok (read, rest) =>
          match skipBlanks rest with
          | [] => .ok read
          | rest => stopAt .trailingText rest
  | text => stopAt .missingValue text

/-- The position that a refusal has in the whole text. -/
def Stop.toFault (stop : Stop) (text : List Char) : Fault :=
  let octets := text.flatMap String.utf8EncodeChar
  let unread := (stop.unread.flatMap String.utf8EncodeChar).length
  .at stop.cause octets (min octets.length (octets.length - unread + stop.reach))

end WebToken.Json.Reader

namespace WebToken.Json

def read (text : List Char) : Except Fault Json :=
  match Reader.document text with
  | .ok value => .ok value
  | .error stop => .error (stop.toFault text)

/-- Reads a text that holds one object, as its members in writing order. -/
def readMembers (text : List Char) : Except Fault (List (String × Json)) :=
  match Reader.objectDocument text with
  | .ok members => .ok members
  | .error stop => .error (stop.toFault text)

end WebToken.Json
