import WebToken.Base64Url
import WebToken.Claims.Lookup
import WebToken.Ecdsa.JoseSignature
import WebToken.Json.Fault
import WebToken.Key.PrivateKey
import WebToken.Text.Quoted
import WebToken.Text.Utf8

/-!
# What can go wrong

Failures fall into kinds that are kept apart: a text that is no token, a
signature that does not verify or cannot be made, a claim that is not as it
should be, and an argument that could never work. Each failure is a cause; the
wording is in one place.
-/

set_option autoImplicit false

namespace WebToken

/-- A part of a token between the dots. -/
inductive Segment where
  | header
  | payload
  | signature
deriving DecidableEq, Repr

def Segment.name : Segment → String
  | .header => "header"
  | .payload => "payload"
  | .signature => "signature"

/-- Why the octets of a segment are no JSON object. -/
inductive JsonDefect where
  | utf8 (fault : Utf8.Fault)
  | json (fault : Json.Fault)
deriving DecidableEq, Repr

/-- Why a registered claim does not have its form. -/
inductive RegisteredDefect where
  | notDate (claim : String) (found : String)
  | notAudience (claim : String) (found : String)
deriving DecidableEq, Repr

/-- Why a text is no token. -/
inductive DecodeError where
  | segmentCount (found : Nat)
  | tokenTooLarge (size maximum : Nat)
  | emptySegment (segment : Segment)
  | tooLarge (segment : Segment) (size maximum : Nat)
  | invalidBase64 (segment : Segment) (fault : Base64Url.Fault)
  | invalidJson (segment : Segment) (defect : JsonDefect)
  | notAnObject (segment : Segment)
  | registeredClaim (defect : RegisteredDefect)
deriving DecidableEq, Repr

/-- Why a signature was not made. -/
inductive SigningObstacle where
  | noPrivateKey
  | providerFailed
  | encoding (fault : JoseSignature.Fault)
deriving DecidableEq, Repr

/-- A signature that does not verify, cannot be made, or cannot be converted.
Algorithms are named by their description. -/
inductive SignatureError where
  | verification (algorithm : String)
  | generation (algorithm : String) (obstacle : SigningObstacle)
  | malformed (fault : JoseSignature.Fault)
deriving DecidableEq, Repr

/-- An argument that could never work. -/
inductive ArgumentError where
  | emptySecret
  | noKeys
  | rsaKey (rejection : KeyRejection)
  | curveKey (curve : String) (rejection : KeyRejection)
  | emptyClaimName
  | registeredClaimName (name : String)
deriving DecidableEq, Repr

inductive Error where
  | decode (error : DecodeError)
  | signature (error : SignatureError)
  | claim (error : ClaimError)
  | invalidArgument (error : ArgumentError)
deriving DecidableEq, Repr

/-!
## Wording
-/

def JsonDefect.message : JsonDefect → String
  | .utf8 fault => s!"Invalid UTF-8: {fault.message}"
  | .json fault => fault.message

def RegisteredDefect.claim : RegisteredDefect → String
  | .notDate claim _ => claim
  | .notAudience claim _ => claim

def RegisteredDefect.message : RegisteredDefect → String
  | .notDate _ found => s!"expected a NumericDate in seconds, found {found}"
  | .notAudience _ found => s!"expected a string or an array of strings, found {found}"

def DecodeError.message : DecodeError → String
  | .segmentCount found => s!"The token was expected to have 3 parts, but got {found}"
  | .tokenTooLarge size maximum =>
      s!"The token is too large: {size} bytes (maximum: {maximum} bytes)"
  | .emptySegment segment => s!"The {segment.name} segment of the token is empty"
  | .tooLarge segment size maximum =>
      s!"The {segment.name} segment is too large: {size} bytes (maximum: {maximum} bytes)"
  | .invalidBase64 segment fault =>
      s!"The {segment.name} segment doesn't have a valid Base64URL encoding: {fault.message}"
  | .invalidJson segment defect =>
      s!"The {segment.name} segment doesn't have a valid JSON format: {defect.message}"
  | .notAnObject segment => s!"The {segment.name} segment is not a JSON object"
  | .registeredClaim defect =>
      s!"The registered claim '{defect.claim}' is malformed: {defect.message}"

def SigningObstacle.message : SigningObstacle → String
  | .noPrivateKey => "the Private Key is null"
  | .providerFailed => "the provider failed to sign"
  | .encoding fault => s!"Malformed signature encoding: {fault.message}"

def SignatureError.message : SignatureError → String
  | .verification algorithm =>
      s!"The Token's Signature resulted invalid when verified using the Algorithm: {algorithm}"
  | .generation algorithm obstacle =>
      s!"The Token's Signature couldn't be generated when signing using the Algorithm: {algorithm} ({obstacle.message})"
  | .malformed fault => s!"Malformed signature encoding: {fault.message}"

def ClaimError.message : ClaimError → String
  | .missing claim => s!"The Claim '{claim}' is not present in the token"
  | .algorithmMismatch expected found =>
      let shown := Text.optional (found.map Text.quoted)
      s!"The provided Algorithm '{expected}' doesn't match the one defined in the JWT's Header: {shown}"
  | .invalid claim actual =>
      s!"The Claim '{claim}' value doesn't match the required one (actual: {actual})"
  | .expired claim second => s!"The Token has expired: '{claim}' was {second.toInt}"
  | .notYetValid claim second => s!"The Token can't be used before {second.toInt} ('{claim}')"

def ArgumentError.message : ArgumentError → String
  | .emptySecret => "The Secret cannot be empty"
  | .noKeys => "Both provided Keys cannot be null"
  | .rsaKey rejection => s!"Invalid RSA private key: {rejection.message}"
  | .curveKey curve rejection => s!"Invalid {curve} private key: {rejection.message}"
  | .emptyClaimName => "The Custom Claim's name can't be empty"
  | .registeredClaimName name => s!"The Claim '{name}' is registered and has its own setter"

def Error.message : Error → String
  | .decode error => error.message
  | .signature error => error.message
  | .claim error => error.message
  | .invalidArgument error => s!"Invalid argument: {error.message}"

end WebToken
