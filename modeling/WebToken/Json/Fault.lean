import WebToken.Bytes

/-!
# Refusals of a JSON text

A refusal names its cause and how far the text was read, in octets. Its
wording gives that position as a line and a column; a line feed starts a line,
and columns count octets.
-/

set_option autoImplicit false

namespace WebToken.Json

/-- Why a text is no JSON value. -/
inductive Cause where
  | endInObject
  | endInList
  | endInValue
  | endInString
  | keyNotString
  | missingColon
  | missingObjectComma
  | missingListComma
  | trailingComma
  | missingValue
  | misspelledWord
  | invalidNumber
  | numberOutOfRange
  | controlCharacter
  | invalidEscape
  | unpairedSurrogate
  | cutSurrogatePair
  | tooDeep
  | trailingText
deriving DecidableEq, Repr

def Cause.message : Cause → String
  | .endInObject => "EOF while parsing an object"
  | .endInList => "EOF while parsing a list"
  | .endInValue => "EOF while parsing a value"
  | .endInString => "EOF while parsing a string"
  | .keyNotString => "key must be a string"
  | .missingColon => "expected `:`"
  | .missingObjectComma => "expected `,` or `\x7d`"
  | .missingListComma => "expected `,` or `]`"
  | .trailingComma => "trailing comma"
  | .missingValue => "expected value"
  | .misspelledWord => "expected ident"
  | .invalidNumber => "invalid number"
  | .numberOutOfRange => "number out of range"
  | .controlCharacter => "control character (\\u0000-\\u001F) found while parsing a string"
  | .invalidEscape => "invalid escape"
  | .unpairedSurrogate => "lone leading surrogate in hex escape"
  | .cutSurrogatePair => "unexpected end of hex escape"
  | .tooDeep => "recursion limit exceeded"
  | .trailingText => "trailing characters"

/-- A refused text: the cause, and the line and column of the last octet read. -/
structure Fault where
  cause : Cause
  line : Nat
  column : Nat
deriving DecidableEq, Repr

def Fault.message (fault : Fault) : String :=
  s!"{fault.cause.message} at line {fault.line} column {fault.column}"

/-- The octets from the start of the current line, newest first. -/
def currentLine (read : Bytes) : Bytes :=
  read.reverse.takeWhile (· != 10)

/-- A refusal after the first `index` octets of a text. -/
def Fault.at (cause : Cause) (text : Bytes) (index : Nat) : Fault :=
  let read := text.take index
  ⟨cause, read.count 10 + 1, (currentLine read).length⟩

end WebToken.Json
