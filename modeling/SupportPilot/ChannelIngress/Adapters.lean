import SupportPilot.ChannelIngress.Security
import SupportPilot.Library.JsonReader

/-!
# The adapters of signed webhooks

The signed boundary of channel ingress: verification of the request, decoding of its body, and the
message that a decoded body becomes. Each step raises what the source raises there, the exceptions
that nothing catches included.
-/

namespace SupportPilot.ChannelIngress.Adapters

open Library

/-- What `parse_datetime` makes of a text: nothing, a `ValueError` for a date that does not exist,
or a moment, with the time zone or in that of the server. -/
inductive ParsedDatetime
  | malformed
  | invalid
  | aware (moment : Int)
  | naive (moment : Int)
  deriving DecidableEq, Repr

/-- The interpreter and the libraries, as far as the adapters use them. -/
structure AdapterPlatform extends Platform where
  /-- The containers that the JSON decoder can open at once. -/
  depth : Nat
  lower : CodePoints → CodePoints
  parseDatetime : CodePoints → ParsedDatetime
  makeAware : Int → Int

def AdapterPlatform.limits (platform : AdapterPlatform) : ReaderLimits where
  maxDigits := platform.maxDigits
  depth := platform.depth

structure AdapterSettings extends SignatureSettings where
  maxInboundBodyBytes : Nat := 256 * 1024
  maxMessageBodyLength : Nat := 20000

/-- The signing secret of an endpoint; those that can be decrypted are hexadecimal digits that the
server has drawn. -/
inductive StoredSecret
  | missing
  | undecryptable
  | generated (digits : List (Fin 16))
  deriving DecidableEq, Repr

structure InboundRequest where
  rawBody : Bytes
  timestampHeader : Option CodePoints
  signatureHeader : Option CodePoints
  /-- The time of the server in seconds. -/
  now : Int

inductive Adapter
  | genericSignedWebhook
  | emailInbound
  deriving DecidableEq, Repr

structure CanonicalInboundMessage where
  channel : String
  provider : String
  providerEventId : CodePoints
  providerThreadId : Option CodePoints
  providerMessageId : Option CodePoints
  externalIdentity : CodePoints
  subject : CodePoints
  body : CodePoints
  receivedAt : Int
  metadata : List (String × String) := []

/-! ## `verify_signature` -/

def enforceBodySize (cfg : AdapterSettings) (rawBody : Bytes) : Except Raised Unit :=
  if cfg.maxInboundBodyBytes < rawBody.length then .error (.ingress .payloadTooLarge) else .ok ()

def endpointSigningSecret : StoredSecret → Except Raised CodePoints
  | .missing | .undecryptable | .generated [] => .error (.ingress .unsupportedEvent)
  | .generated digits => .ok ((digits.map Uuid.hexDigit).map codePoint)

section Boundary

variable (platform : AdapterPlatform) (cfg : AdapterSettings)

def verifySignature (secret : StoredSecret) (request : InboundRequest) : Except Raised Unit := do
  enforceBodySize cfg request.rawBody
  let secret ← endpointSigningSecret secret
  verifyInboundSignature platform.toPlatform cfg.toSignatureSettings secret request.rawBody
    request.timestampHeader request.signatureHeader request.now

/-! ## `parse_event` -/

/-- `parsed.get(name)`, and `parsed[name]` for the names that are required. -/
def field (parsed : JsonFields) (name : String) : JsonValue :=
  (parsed.lookup (codePoints name)).getD .null

def Adapter.requiredFields : Adapter → List String
  | .genericSignedWebhook => ["event_id", "external_id", "body"]
  | .emailInbound => ["event_id", "from", "body"]

/-- A string with some character. -/
def isText : JsonValue → Bool
  | .string (_ :: _) => true
  | _ => false

def parseEvent (adapter : Adapter) (rawBody : Bytes) : Except Raised JsonFields :=
  match decodeUtf8 rawBody with
  | none => .error (.ingress .payloadInvalid)
  | some text =>
    match loads platform.limits text with
    | .error .malformed => .error (.ingress .payloadInvalid)
    | .error .tooManyDigits => .error .valueError
    | .error .tooDeep => .error .recursionError
    | .ok (.object parsed) =>
      if adapter.requiredFields.all fun name => isText (field parsed name) then .ok parsed
      else .error (.ingress .payloadInvalid)
    | .ok _ => .error (.ingress .payloadInvalid)

/-! ## `normalize` -/

def boundedStr (maxLength : Nat) : JsonValue → Except Raised CodePoints
  | .string value => .ok (value.take maxLength)
  | _ => .error (.ingress .payloadInvalid)

/-- An optional identifier; whatever is false counts as missing. -/
def optionalStr (value : JsonValue) : Except Raised (Option CodePoints) :=
  if value.truthy then (boundedStr 255 value).map some else .ok none

/-- `value or ""` -/
def orEmpty (value : JsonValue) : JsonValue := if value.truthy then value else .string []

def receivedAt (now : Int) (value : JsonValue) : Except Raised Int :=
  match value with
  | .string (c :: raw) =>
    match platform.parseDatetime (c :: raw) with
    | .malformed => .ok now
    | .invalid => .error .valueError
    | .aware moment => .ok moment
    | .naive moment => .ok (platform.makeAware moment)
  | _ => .ok now

def minEmailLength : Nat := 3

/-- `value.strip()` -/
def stripCodePoints (value : CodePoints) : CodePoints :=
  let isSpacePoint (c : CodePoint) : Bool := isSpace (Char.ofNat c.val)
  (value.dropWhile isSpacePoint).rdropWhile isSpacePoint

def normalizeEmail : JsonValue → Except Raised CodePoints
  | .string value =>
    let normalized := platform.lower (stripCodePoints value)
    if normalized.length < minEmailLength ∨ codePoint '@' ∉ normalized ∨
        normalized.head? = some (codePoint '@') then .error (.ingress .payloadInvalid)
    else .ok (normalized.take 320)
  | _ => .error (.ingress .payloadInvalid)

def normalizeGeneric (now : Int) (parsed : JsonFields) : Except Raised CanonicalInboundMessage := do
  let body ← boundedStr cfg.maxMessageBodyLength (field parsed "body")
  let providerEventId ← boundedStr 255 (field parsed "event_id")
  let providerThreadId ← optionalStr (field parsed "thread_id")
  let providerMessageId ← optionalStr (field parsed "message_id")
  let externalIdentity ← boundedStr 255 (field parsed "external_id")
  let subject ← boundedStr 300 (orEmpty (field parsed "subject"))
  let receivedAt ← receivedAt platform now (field parsed "received_at")
  .ok {
    channel := "generic_webhook", provider := "generic", providerEventId, providerThreadId,
    providerMessageId, externalIdentity, subject, body, receivedAt }

def normalizeInboundEmail (now : Int) (parsed : JsonFields) :
    Except Raised CanonicalInboundMessage := do
  let sender ← normalizeEmail platform (field parsed "from")
  let body ← boundedStr cfg.maxMessageBodyLength (field parsed "body")
  let metadata := if (field parsed "body_html").truthy then [("had_html_body", "true")] else []
  let providerEventId ← boundedStr 255 (field parsed "event_id")
  let providerThreadId ← optionalStr (field parsed "thread_id")
  let providerMessageId ← optionalStr (field parsed "message_id")
  let subject ← boundedStr 300 (orEmpty (field parsed "subject"))
  let receivedAt ← receivedAt platform now (field parsed "received_at")
  .ok {
    channel := "email", provider := "generic_email", providerEventId, providerThreadId,
    providerMessageId, externalIdentity := sender, subject, body, receivedAt, metadata }

def normalize : Adapter → Int → JsonFields → Except Raised CanonicalInboundMessage
  | .genericSignedWebhook => normalizeGeneric platform cfg
  | .emailInbound => normalizeInboundEmail platform cfg

/-- The three steps of the boundary, as the webhook view takes them. -/
def receive (adapter : Adapter) (secret : StoredSecret) (request : InboundRequest) :
    Except Raised CanonicalInboundMessage := do
  verifySignature platform cfg secret request
  let parsed ← parseEvent platform adapter request.rawBody
  normalize platform cfg adapter request.now parsed

end Boundary

/-! ## The columns -/

/-- Text that the columns of the database take: without NUL and without surrogates. -/
def Storable (text : CodePoints) : Prop := ∀ c ∈ text, c.val ≠ 0 ∧ c.val.isValidChar

/-- Text for a column of at most `maxLength` characters. -/
def FitsColumn (maxLength : Nat) (text : CodePoints) : Prop :=
  text.length ≤ maxLength ∧ Storable text

/-- The fields fit the columns of `InboundChannelEvent`; a missing identifier is stored empty. -/
structure CanonicalInboundMessage.Fits (message : CanonicalInboundMessage) : Prop where
  providerEventId : FitsColumn 255 message.providerEventId
  providerThreadId : FitsColumn 255 (message.providerThreadId.getD [])
  providerMessageId : FitsColumn 255 (message.providerMessageId.getD [])
  externalIdentity : FitsColumn 255 message.externalIdentity
  subject : FitsColumn 300 message.subject
  body : Storable message.body

end SupportPilot.ChannelIngress.Adapters
