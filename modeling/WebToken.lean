import WebToken.Algorithm.Basic
import WebToken.Algorithm.EcdsaScheme
import WebToken.Algorithm.KeyedDigest
import WebToken.Algorithm.RsaScheme
import WebToken.Audit
import WebToken.Base64Url
import WebToken.Binary64.Basic
import WebToken.Binary64.Rounding
import WebToken.Binary64.Shortest
import WebToken.Bytes
import WebToken.Claims.Basic
import WebToken.Claims.Lookup
import WebToken.Curve.Basic
import WebToken.Curve.Domain
import WebToken.Curve.Edwards25519
import WebToken.Curve.Named
import WebToken.Der
import WebToken.Ecdsa.JoseSignature
import WebToken.Ecdsa.Key
import WebToken.Ecdsa.Signature
import WebToken.Error
import WebToken.Hash.Digest
import WebToken.Hash.Sha1
import WebToken.Hash.Sha2
import WebToken.Instant
import WebToken.Json.Basic
import WebToken.Json.Fault
import WebToken.Json.Number
import WebToken.Json.Printer
import WebToken.Json.Reader
import WebToken.Json.Typed
import WebToken.Key.Envelope
import WebToken.Key.Foreign
import WebToken.Key.PrivateKey
import WebToken.Modular
import WebToken.Policy.Basic
import WebToken.Policy.Inspect
import WebToken.Policy.Requirement
import WebToken.Policy.Verifier
import WebToken.Rsa.Key
import WebToken.Rsa.PaddingParameters
import WebToken.Rsa.RandomPadding
import WebToken.Rsa.Signature
import WebToken.Rsa.VerificationKey
import WebToken.Text.Quoted
import WebToken.Text.Unprintable
import WebToken.Text.Utf8
import WebToken.Token.Compact
import WebToken.Token.Draft
import WebToken.Token.Limits
import WebToken.Token.Payload
import WebToken.Proofs.Policy.InForce
import WebToken.Proofs.Policy.Verdict
import WebToken.Proofs.Json.NumberValue
import WebToken.Proofs.Policy.Window
import WebToken.Proofs.Base64Url
import WebToken.Proofs.Json.RoundTrip
import WebToken.Proofs.Token.Drafting
import WebToken.Proofs.Token.Decoding
import WebToken.Proofs.Token.RoundTrip
import WebToken.Proofs.Token.Issued
import WebToken.Proofs.Json.Agreement
import WebToken.Proofs.Policy.Mirror
import WebToken.Proofs.Chain
import WebToken.Proofs.Ecdsa.JoseSignature
import WebToken.Proofs.Ecdsa.LiberalForm
import WebToken.Proofs.Ecdsa.Positions
import WebToken.Proofs.Ecdsa.StrictEncoding
import WebToken.Proofs.Token.Grammar
import WebToken.Proofs.Policy.Malleability
import WebToken.Proofs.Hash.Digest
import WebToken.Proofs.Policy.Downgrade
import WebToken.Proofs.Algorithm.TaggedForm
import WebToken.Proofs.Policy.Tolerance
import WebToken.Proofs.Policy.Secrecy
import WebToken.Proofs.Algorithm.PublicHalf
import WebToken.Proofs.Algorithm.SignThenVerify
import WebToken.Proofs.Policy.Trail
import WebToken.Proofs.Json.NumberAgreement
import WebToken.Proofs.Binary64.Monotone
import WebToken.Proofs.Binary64.Decimal
import WebToken.Proofs.Binary64.Shortest
import WebToken.Proofs.Json.Structure
import WebToken.Proofs.Json.Floats
import WebToken.Proofs.Policy.Reading
import WebToken.Proofs.Base64Url.Spelling
import WebToken.Proofs.Token.Segments
import WebToken.Proofs.Token.SignedText
import WebToken.Proofs.Binary64.Sum
import WebToken.Proofs.Instant
import WebToken.Proofs.Claims.Numeric
