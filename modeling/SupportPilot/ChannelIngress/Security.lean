import SupportPilot.Library.Integers
import SupportPilot.Library.Utf8

/-!
# Verification of signed webhooks

The checks on the headers and the body of an inbound request, with the exceptions that they
raise: the typed ones of channel ingress, and those of Python that nothing catches.
-/

namespace SupportPilot.ChannelIngress

open Library

/-- The subclasses of `ChannelIngressError` that the boundary raises. -/
inductive ChannelIngressError
  | signatureMissing
  | signatureMalformed
  | signatureInvalid
  | signatureExpired
  | payloadInvalid
  | payloadTooLarge
  | unsupportedEvent
  deriving DecidableEq, Repr

inductive Raised
  | ingress (error : ChannelIngressError)
  | typeError
  | valueError
  | unicodeEncodeError
  | recursionError
  deriving DecidableEq, Repr

/-- The interpreter and the functions of its libraries. -/
structure Platform where
  hmacSha256 : Bytes → Bytes → List (Fin 16)
  /-- The decimal digits of all scripts. -/
  decimal : CodePoint → Option (Fin 10)
  maxDigits : Nat

structure SignatureSettings where
  maxPastSkewSeconds : Int := 300
  maxFutureSkewSeconds : Int := 60

def signatureVersion : String := "v1"

section Verification

variable (platform : Platform)

def computeSignature (secret : CodePoints) (timestamp : Int) (rawBody : Bytes) :
    Except Raised CodePoints :=
  match showInt platform.maxDigits timestamp with
  | none => .error .valueError
  | some timestampText =>
    let signedPayload := asciiBytes (timestampText ++ ['.']) ++ rawBody
    match encodeUtf8 secret with
    | none => .error .unicodeEncodeError
    | some key =>
      let digest := (platform.hmacSha256 key signedPayload).map Uuid.hexDigit
      .ok (codePoints signatureVersion ++ codePoints "=" ++ digest.map codePoint)

def isAscii (text : CodePoints) : Bool := text.all fun c => c.val < 0x80

/-- `hmac.compare_digest` on two strings. -/
def compareDigest (a b : CodePoints) : Except Raised Bool :=
  if isAscii a && isAscii b then .ok (a = b) else .error .typeError

def verifyInboundSignature (cfg : SignatureSettings) (secret : CodePoints) (rawBody : Bytes)
    (timestampHeader signatureHeader : Option CodePoints) (now : Int) : Except Raised Unit :=
  match signatureHeader, timestampHeader with
  | none, _ | some [], _ => .error (.ingress .signatureMissing)
  | _, none | _, some [] => .error (.ingress .signatureMissing)
  | some signature, some timestampText =>
    match parseInt platform.decimal platform.maxDigits timestampText with
    | none => .error (.ingress .signatureMalformed)
    | some timestamp =>
      if timestamp < now - cfg.maxPastSkewSeconds ∨ timestamp > now + cfg.maxFutureSkewSeconds
      then .error (.ingress .signatureExpired)
      else if !(codePoints signatureVersion ++ codePoints "=").isPrefixOf signature then
        .error (.ingress .signatureMalformed)
      else do
        let expected ← computeSignature platform secret timestamp rawBody
        let same ← compareDigest expected signature
        if same then .ok () else .error (.ingress .signatureInvalid)

end Verification

end SupportPilot.ChannelIngress
