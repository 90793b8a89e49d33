import SupportPilot.Library.Integers
import SupportPilot.Library.Utf8

/-!
# Signed requests

The body of an event is serialized once, and the signature covers the time stamp and these bytes.
The HMAC is a parameter, with its digest as hexadecimal digits; where the source raises, there is
no request.
-/

namespace SupportPilot.Webhooks

open Library

def signatureVersion : String := "v1"

def userAgent : String := "SupportPilot-Webhook/1"

structure SignedRequest where
  rawBody : Bytes
  headers : List (String × CodePoints)
  timestamp : Int
  signature : CodePoints

namespace SignedRequest

def header (request : SignedRequest) (name : String) : Option CodePoints :=
  request.headers.lookup name

end SignedRequest

def canonicalBody (envelope : JsonFields) : Bytes := asciiBytes (dumps (.object envelope))

section Signing

variable (hmacSha256 : Bytes → Bytes → List (Fin 16)) (maxDigits : Nat)

def sign (secret : CodePoints) (timestamp : Int) (rawBody : Bytes) : Option CodePoints := do
  let timestampText ← showInt maxDigits timestamp
  let signedPayload := asciiBytes (timestampText ++ ['.']) ++ rawBody
  let key ← encodeUtf8 secret
  let digest := (hmacSha256 key signedPayload).map Uuid.hexDigit
  some (codePoints signatureVersion ++ codePoints "=" ++ digest.map codePoint)

def buildSignedRequest (secret : CodePoints) (envelope : JsonFields)
    (eventId deliveryId : CodePoints) (now : Int) : Option SignedRequest := do
  let timestamp := now
  let rawBody := canonicalBody envelope
  let signature ← sign hmacSha256 maxDigits secret timestamp rawBody
  let timestampText ← showInt maxDigits timestamp
  some
    { rawBody := rawBody
      headers :=
        [("Content-Type", codePoints "application/json"),
          ("User-Agent", codePoints userAgent),
          ("X-SupportPilot-Event-Id", eventId),
          ("X-SupportPilot-Delivery-Id", deliveryId),
          ("X-SupportPilot-Timestamp", timestampText.map codePoint),
          ("X-SupportPilot-Signature", signature),
          ("Idempotency-Key", deliveryId)]
      timestamp := timestamp
      signature := signature }

end Signing

end SupportPilot.Webhooks
