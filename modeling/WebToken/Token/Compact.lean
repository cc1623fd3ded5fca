import WebToken.Json.Reader
import WebToken.Token.Limits
import WebToken.Token.Payload

/-!
# Compact tokens

A token is three segments between dots: the header, the payload and the
signature, each in Base64URL. Decoding keeps the text as it was written and where
its dots are, since the signature covers the text itself. It checks no signature.
-/

set_option autoImplicit false

namespace WebToken

namespace Text

/-- The characters before an offset, which counts octets. -/
def before : (offset : Nat) → List Char → List Char
  | _, [] => []
  | offset, first :: rest =>
      if first.utf8Size ≤ offset then first :: before (offset - first.utf8Size) rest else []

/-- The characters from an offset on. -/
def after : (offset : Nat) → List Char → List Char
  | _, [] => []
  | offset, first :: rest =>
      if first.utf8Size ≤ offset then after (offset - first.utf8Size) rest else first :: rest

/-- The slice of a text from one offset up to another. -/
def slice (text : String) (start stop : Nat) : String :=
  String.ofList (after start (before stop text.toList))

end Text

/-- Two dots of a text, by their offsets: one segment ends at the first of them, and the
next one at the second. -/
def Framed (text : String) (headerEnd payloadEnd : Nat) : Prop :=
  ∃ header payload signature : String, text = header ++ "." ++ payload ++ "." ++ signature ∧
    headerEnd = header.utf8ByteSize ∧ payloadEnd = headerEnd + 1 + payload.utf8ByteSize

@[ext]
structure Token where
  text : String
  headerEnd : Nat
  payloadEnd : Nat
  header : Header
  payload : Payload
  signature : Bytes
  framed : Framed text headerEnd payloadEnd

namespace Token

/-- The text that the signature covers. -/
def signingInput (token : Token) : String :=
  Text.slice token.text 0 token.payloadEnd

def headerSegment (token : Token) : String :=
  Text.slice token.text 0 token.headerEnd

def payloadSegment (token : Token) : String :=
  Text.slice token.text (token.headerEnd + 1) token.payloadEnd

def signatureSegment (token : Token) : String :=
  Text.slice token.text (token.payloadEnd + 1) token.text.utf8ByteSize

/-!
## Segments
-/

/-- The parts of a text between its dots. -/
def parts (text : String) : List String :=
  (text.toList.splitOn '.').map String.ofList

theorem eq_compact_of_parts {text header payload signature : String}
    (split : parts text = [header, payload, signature]) :
    text = header ++ "." ++ payload ++ "." ++ signature := by
  have joined : ['.'].intercalate (text.toList.splitOn '.') = text.toList :=
    List.intercalate_splitOn '.'
  have pieces : text.toList.splitOn '.' = [header.toList, payload.toList, signature.toList] := by
    have spelled := congrArg (List.map String.toList) split
    simpa only [parts, List.map_map, Function.comp_def, String.toList_ofList, List.map_id',
      List.map_cons, List.map_nil] using spelled
  rw [pieces] at joined
  rw [← String.toList_inj, ← joined]
  simp [List.intercalate]

/-- The octets that a segment spells, within a size. -/
def segmentBytes (segment : Segment) (maximum : Nat) (text : String) :
    Except DecodeError Bytes :=
  match Base64Url.decode text with
  | .error fault => .error (.invalidBase64 segment fault)
  | .ok bytes =>
      if bytes.length > maximum then .error (.tooLarge segment bytes.length maximum)
      else .ok bytes

/-- The text that a segment spells, within a size. -/
def segmentText (segment : Segment) (maximum : Nat) (text : String) :
    Except DecodeError (List Char) :=
  match segmentBytes segment maximum text with
  | .error error => .error error
  | .ok bytes =>
      match Utf8.decode bytes with
      | .error fault => .error (.invalidJson segment (.utf8 fault))
      | .ok chars => .ok chars

/-- Whether a text starts and ends with the braces of an object. -/
def isBraced (chars : List Char) : Bool :=
  chars.head? == some '\x7b' && chars.getLast? == some '\x7d'

/-- The claims of a JSON text. No other text than a braced one is read. -/
def parseClaims (segment : Segment) (chars : List Char) : Except DecodeError Claims :=
  if isBraced chars then
    match Json.readMembers chars with
    | .error fault => .error (.invalidJson segment (.json fault))
    | .ok members => .ok (Claims.ofList members)
  else .error (.notAnObject segment)

/-!
## Decoding
-/

/-- Takes three segments apart into the claims of the header, the payload and the
signature. Both texts are decoded before either is read as JSON, and the signature
comes last. -/
def decodeSegments (header payload signature : String) :
    Except DecodeError (Claims × Payload × Bytes) := do
  if header.isEmpty then throw (.emptySegment .header)
  if payload.isEmpty then throw (.emptySegment .payload)
  let headerText ← segmentText .header Limits.header header
  let payloadText ← segmentText .payload Limits.payload payload
  let headerClaims ← parseClaims .header headerText
  let payloadClaims ← parseClaims .payload payloadText
  let checked ← (Payload.ofClaims payloadClaims).mapError .registeredClaim
  let octets ← segmentBytes .signature Limits.signature signature
  return (headerClaims, checked, octets)

/-- A text with what its three parts were taken apart into. -/
def ofParts (text header payload signature : String)
    (split : parts text = [header, payload, signature]) :
    Claims × Payload × Bytes → Token
  | (headerClaims, checked, octets) =>
      { text
        headerEnd := header.utf8ByteSize
        payloadEnd := header.utf8ByteSize + 1 + payload.utf8ByteSize
        header := ⟨headerClaims⟩
        payload := checked
        signature := octets
        framed := ⟨header, payload, signature, eq_compact_of_parts split, rfl, rfl⟩ }

def decode (text : String) : Except DecodeError Token :=
  if text.utf8ByteSize > Limits.token then
    .error (.tokenTooLarge text.utf8ByteSize Limits.token)
  else
    match split : parts text with
    | [header, payload, signature] =>
        (decodeSegments header payload signature).map (ofParts text header payload signature split)
    | found => .error (.segmentCount found.length)

end Token

end WebToken
