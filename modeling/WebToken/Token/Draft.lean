import WebToken.Algorithm.Basic
import WebToken.Token.Payload

/-!
# Drafts of tokens

A draft collects the claims of a header and a payload. Registered claims have
setters of their own; other claims are set by name. When a token is signed the
header names the algorithm, whatever was set before, and states a type if none
was set. The written claims are in order of name, so that they do not show in
which order they were set.
-/

set_option autoImplicit false

namespace WebToken

/-- The claims of a token that is being drafted. -/
structure Draft where
  header : Claims
  payload : Claims

namespace Draft

def new : Draft :=
  ⟨.empty, .empty⟩

/-!
## Header claims
-/

def setHeaderClaim (draft : Draft) (name : String) (value : Json) : Draft :=
  { draft with header := draft.header.insert name value }

def setKeyId (draft : Draft) (keyId : String) : Draft :=
  draft.setHeaderClaim HeaderName.keyId (.string keyId)

/-!
## Registered claims
-/

def setPayloadClaim (draft : Draft) (name : String) (value : Json) : Draft :=
  { draft with payload := draft.payload.insert name value }

def setIssuer (draft : Draft) (issuer : String) : Draft :=
  draft.setPayloadClaim Registered.issuer (.string issuer)

def setSubject (draft : Draft) (subject : String) : Draft :=
  draft.setPayloadClaim Registered.subject (.string subject)

/-- Sets the audience: one text is written plainly, several as an array. No
text at all removes the claim. -/
def setAudience (draft : Draft) (audience : List String) : Draft :=
  match audience with
  | [] => { draft with payload := draft.payload.erase Registered.audience }
  | [single] => draft.setPayloadClaim Registered.audience (.string single)
  | several => draft.setPayloadClaim Registered.audience (.array (several.map .string))

def setExpiresAt (draft : Draft) (instant : Instant) : Draft :=
  draft.setPayloadClaim Registered.expiresAt (.ofInt64 instant.unixSeconds)

def setNotBefore (draft : Draft) (instant : Instant) : Draft :=
  draft.setPayloadClaim Registered.notBefore (.ofInt64 instant.unixSeconds)

def setIssuedAt (draft : Draft) (instant : Instant) : Draft :=
  draft.setPayloadClaim Registered.issuedAt (.ofInt64 instant.unixSeconds)

def setTokenId (draft : Draft) (tokenId : String) : Draft :=
  draft.setPayloadClaim Registered.tokenId (.string tokenId)

/-!
## Other claims
-/

/-- Why a name cannot be set by `setClaim`. -/
def nameError? (name : String) : Option ArgumentError :=
  if name = "" then some .emptyClaimName
  else if name ∈ Registered.names then some (.registeredClaimName name)
  else none

/-- Sets a claim that has no setter of its own. -/
def setClaim (draft : Draft) (name : String) (value : Json) :
    Except ArgumentError Draft :=
  match nameError? name with
  | some error => .error error
  | none => .ok (draft.setPayloadClaim name value)

/-- Sets such a claim to an instant in whole seconds. -/
def setDateClaim (draft : Draft) (name : String) (instant : Instant) :
    Except ArgumentError Draft :=
  draft.setClaim name (.ofInt64 instant.unixSeconds)

/-!
## Edits
-/

inductive Edit where
  | headerClaim (name : String) (value : Json)
  | keyId (keyId : String)
  | issuer (issuer : String)
  | subject (subject : String)
  | audience (audience : List String)
  | expiresAt (instant : Instant)
  | notBefore (instant : Instant)
  | issuedAt (instant : Instant)
  | tokenId (tokenId : String)
  | claim (name : String) (value : Json)
  | dateClaim (name : String) (instant : Instant)

/-- The draft after an edit, or why the edit is refused. -/
def apply (draft : Draft) : Edit → Except ArgumentError Draft
  | .headerClaim name value => .ok (draft.setHeaderClaim name value)
  | .keyId keyId => .ok (draft.setKeyId keyId)
  | .issuer issuer => .ok (draft.setIssuer issuer)
  | .subject subject => .ok (draft.setSubject subject)
  | .audience audience => .ok (draft.setAudience audience)
  | .expiresAt instant => .ok (draft.setExpiresAt instant)
  | .notBefore instant => .ok (draft.setNotBefore instant)
  | .issuedAt instant => .ok (draft.setIssuedAt instant)
  | .tokenId tokenId => .ok (draft.setTokenId tokenId)
  | .claim name value => draft.setClaim name value
  | .dateClaim name instant => draft.setDateClaim name instant

/-- The draft after an edit; a refused edit leaves it as it was. -/
def edit (draft : Draft) (change : Edit) : Draft :=
  match draft.apply change with
  | .ok changed => changed
  | .error _ => draft

def editAll (draft : Draft) (edits : List Edit) : Draft :=
  edits.foldl edit draft

theorem editAll_append (draft : Draft) (first second : List Edit) :
    draft.editAll (first ++ second) = (draft.editAll first).editAll second :=
  List.foldl_append

/-!
## Signing
-/

/-- The header that is written for an algorithm. -/
def headerFor (draft : Draft) (algorithm : Algorithm) : Claims :=
  let named := draft.header.insert HeaderName.algorithm (.string algorithm.name)
  if named.contains HeaderName.type then named
  else named.insert HeaderName.type (.string "JWT")

/-- The text that a signature of the token covers. -/
def signingInput (draft : Draft) (algorithm : Algorithm) : String :=
  Base64Url.encode (Bytes.ofText (draft.headerFor algorithm).render) ++ "." ++
    Base64Url.encode (Bytes.ofText draft.payload.render)

/-- Signs the token. Signatures on a curve come from a provider. -/
def signWith (provider : SigningProvider) (draft : Draft) (algorithm : Algorithm) :
    Audited (Except Error String) :=
  let input := draft.signingInput algorithm
  match algorithm.signWith provider (Bytes.ofText input) with
  | .error error => .silent (.error (.signature error))
  | .ok signature =>
      ⟨.ok (input ++ "." ++ Base64Url.encode signature), [.tokenSigned algorithm.name]⟩

def sign (draft : Draft) (algorithm : Algorithm) : Audited (Except Error String) :=
  draft.signWith SigningProvider.own algorithm

end Draft

end WebToken
