import SupportPilot.Library.JsonEncoder
import SupportPilot.Library.Utf8

/-!
# Fingerprints of arguments

The canonical text of the arguments of a call and its SHA-256. The text is ASCII, so that each
character is one byte in UTF-8. The hash is a parameter, with its digest as hexadecimal digits.
-/

namespace SupportPilot.Idempotency

open Library

section Fingerprints

variable (sha256 : Bytes → String) (maxDigits depth : Nat)

/-- `sort_keys=True, separators=(",", ":"), default=str` -/
def canonicalOptions : EncoderOptions :=
  { EncoderOptions.canonical maxDigits with defaultStr := true }

def canonicalizeArguments (arguments : JsonFields) : Except EncodeError (List Char) :=
  encode (canonicalOptions maxDigits) depth (.object arguments)

def fingerprintArguments (arguments : JsonFields) : Except EncodeError String := do
  let canonical ← canonicalizeArguments maxDigits depth arguments
  .ok (sha256 (asciiBytes canonical))

end Fingerprints

end SupportPilot.Idempotency
