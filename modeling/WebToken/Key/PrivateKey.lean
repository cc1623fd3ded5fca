import WebToken.Ecdsa.Key
import WebToken.Key.Foreign
import WebToken.Rsa.Key

/-!
# Private keys of any kind

Reading a private key tells apart an envelope that does not hold a sound key, a
key for another algorithm or curve, a modulus of a size that is not accepted, and
a key without a public half.
-/

set_option autoImplicit false

namespace WebToken

/-- Why a private key is refused. -/
inductive KeyRejection where
  | invalidEncoding
  | wrongAlgorithm
  | tooSmall
  | tooLarge
  | unspecified
deriving DecidableEq, Repr

def KeyRejection.message : KeyRejection → String
  | .invalidEncoding => "InvalidEncoding"
  | .wrongAlgorithm => "WrongAlgorithm"
  | .tooSmall => "TooSmall"
  | .tooLarge => "TooLarge"
  | .unspecified => "Unspecified"

inductive PrivateKey where
  | rsa (key : Rsa.WrittenKey)
  | ellipticCurve (key : Ecdsa.PrivateKey)
  | foreign (algorithm : ForeignAlgorithm)
deriving DecidableEq, Repr

namespace PrivateKey

/-- Reads the RSA key in an envelope, which carries no public half. -/
def rsaOf? (envelope : KeyEnvelope) : Option Rsa.WrittenKey :=
  if envelope.parameters = Rsa.parameters ∧ envelope.publicHalf = none then
    Rsa.WrittenKey.read? envelope.key
  else none

/-- Reads the elliptic curve key in an envelope, which carries no public half. -/
def ellipticCurveOf? (envelope : KeyEnvelope) : Option Ecdsa.PrivateKey :=
  match envelope.publicHalf, Curve.ofParameters? envelope.parameters with
  | none, some curve => Ecdsa.PrivateKey.read? curve envelope.key
  | _, _ => none

/-- The algorithm of an envelope that holds a sound key of no use here. -/
def foreignOf? (envelope : KeyEnvelope) : Option ForeignAlgorithm :=
  (ForeignAlgorithm.named? envelope.algorithm).filter (·.accepts envelope)

def ofEnvelope? (envelope : KeyEnvelope) : Option PrivateKey :=
  if Rsa.identifiers.contains envelope.algorithm then (rsaOf? envelope).map .rsa
  else if envelope.algorithm = Ecdsa.identifier then
    (ellipticCurveOf? envelope).map .ellipticCurve
  else (foreignOf? envelope).map .foreign

def read? (bytes : Bytes) : Option PrivateKey :=
  (KeyEnvelope.read? bytes).bind ofEnvelope?

/-- The RSA key that is written, if its size is accepted and it has all parts. -/
def usableRsa (written : Rsa.WrittenKey) : Except KeyRejection Rsa.PrivateKey :=
  let bits := Rsa.modulusBits written.modulus
  if bits < 2048 then .error .tooSmall
  else if bits > 8192 then .error .tooLarge
  else
    match written with
    | .whole key => .ok key
    | .bare _ _ => .error .unspecified

def readRsa (bytes : Bytes) : Except KeyRejection Rsa.PrivateKey :=
  match read? bytes with
  | none => .error .invalidEncoding
  | some (.rsa written) => usableRsa written
  | some _ => .error .wrongAlgorithm

def readOnCurve (curve : Curve) (bytes : Bytes) : Except KeyRejection Ecdsa.PrivateKey :=
  match read? bytes with
  | none => .error .invalidEncoding
  | some (.ellipticCurve key) => if key.curve = curve then .ok key else .error .wrongAlgorithm
  | some _ => .error .wrongAlgorithm

end PrivateKey

/-- The key material of an asymmetric algorithm: either half, both or none. It
is held as it was handed over and read when an algorithm is made of it. -/
structure KeyPair where
  publicHalf : Option Bytes
  privateHalf : Option Bytes
deriving DecidableEq, Repr

namespace KeyPair

def isEmpty (pair : KeyPair) : Bool :=
  pair.publicHalf.isNone && pair.privateHalf.isNone

end KeyPair

end WebToken
