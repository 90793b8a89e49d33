import SupportPilot.Library.Transition
import SupportPilot.Webhooks.Security

/-!
# Outbound connections

The attempts that open a connection to a destination that a workspace has configured: the delivery
of a webhook and the two uses of an SMTP server. Each attempt gets the answers of the resolver at
its own moments, and what it does on the network is the list of its events.
-/

namespace SupportPilot.Webhooks

open Library

inductive WebhookError
  | invalidUrl
  | destinationBlocked
  | dnsResolution
  | endpointDisabled
  | signingNotConfigured
  | redirectRejected
  | timeout
  | connection
  | tls
  | unexpectedTransport
  | unexpected
  deriving DecidableEq, Repr

def WebhookError.code : WebhookError → String
  | invalidUrl => "webhook_invalid_url"
  | destinationBlocked => "webhook_destination_blocked"
  | dnsResolution => "webhook_dns_resolution_failed"
  | endpointDisabled => "webhook_endpoint_disabled"
  | signingNotConfigured => "webhook_signing_not_configured"
  | redirectRejected => "webhook_redirect_rejected"
  | timeout => "webhook_timeout"
  | connection => "webhook_connection_failed"
  | tls => "webhook_tls_error"
  | unexpectedTransport => "webhook_unexpected_transport_error"
  | unexpected => "webhook_delivery_unexpected_error"

def DestinationError.webhook : DestinationError → WebhookError
  | unconfigured | blocked => .destinationBlocked
  | resolution => .dnsResolution
  | failure => .unexpected

/-- What comes back from the server: a status, or an error of the transport. -/
inductive Reply
  | status (code : Nat)
  | error (error : WebhookError)
  deriving DecidableEq, Repr

def Reply.isRedirect : Reply → Bool
  | status code => 300 ≤ code && code ≤ 399
  | error _ => false

/-- A request of the pool: it is sent to the host of the pool, and a client that follows redirects
goes on elsewhere. -/
def poolRequest (ip : String) (port : Nat) (redirect : Bool) (reply : Reply)
    (elsewhere : List NetworkEvent) : List NetworkEvent :=
  .opened ip port :: if redirect && reply.isRedirect then elsewhere else []

/-- `send_pinned_request` -/
def sendPinnedRequest (ip : String) (port : Nat) (reply : Reply)
    (elsewhere : List NetworkEvent) : List NetworkEvent × Except WebhookError Nat :=
  (poolRequest ip port false reply elsewhere,
    match reply with
    | .error error => .error error
    | .status code =>
      if 300 ≤ code ∧ code ≤ 399 then .error .redirectRejected else .ok code)

structure WebhookEndpoint where
  url : String
  active : Bool := true
  secretConfigured : Bool := true
  deriving DecidableEq, Repr

variable (lib : Stdlib) (settings : WebhookSettings)

/-- `handle_webhook_delivery_attempt`, from the endpoint as it is reloaded. -/
def handleWebhookDeliveryAttempt (endpoint : WebhookEndpoint) (answer : Answer) (reply : Reply)
    (elsewhere : List NetworkEvent) : List NetworkEvent × Except WebhookError Nat :=
  if endpoint.active = false then ([], .error .endpointDisabled)
  else if endpoint.secretConfigured = false then ([], .error .signingNotConfigured)
  else match parseWebhookUrl lib settings endpoint.url with
  | none => ([], .error .invalidUrl)
  | some parsed =>
    match resolveAndValidate lib parsed.hostname parsed.port answer with
    | (events, .error error) => (events, .error error.webhook)
    | (events, .ok ip) =>
      let (sent, result) := sendPinnedRequest ip parsed.port reply elsewhere
      (events ++ sent, result)

/-- `_best_effort_ssrf_check` -/
def bestEffortSsrfCheck (url : String) (answer : Answer) : Bool :=
  match parseWebhookUrl lib settings url with
  | none => false
  | some parsed =>
    match (resolveAndValidate lib parsed.hostname parsed.port answer).2 with
    | .ok _ => true
    | .error _ => false

/-! ## SMTP -/

inductive SmtpError
  | invalidRequest
  | temporarilyUnavailable
  | failure
  deriving DecidableEq, Repr

def DestinationError.smtp : DestinationError → SmtpError
  | unconfigured | blocked | resolution => .invalidRequest
  | failure => .failure

structure SmtpBackend where
  host : Option String
  port : Nat
  useSsl : Bool
  connected : Bool := false
  deriving DecidableEq, Repr

/-- `EMAIL_USE_SSL`, which the settings leave at its default and the provider does not set. -/
def emailUseSsl : Bool := false

/-- `PinnedSmtpEmailBackend.open`; the base implementation does what it does. -/
def SmtpBackend.openConnection (backend : SmtpBackend) (answer : Answer) (connects : Bool)
    (unpinned : List NetworkEvent) :
    SmtpBackend × List NetworkEvent × Except SmtpError Bool :=
  if backend.connected then (backend, [], .ok false)
  else if backend.useSsl then ({ backend with connected := true }, unpinned, .ok true)
  else match validateOutboundHost lib backend.host backend.port answer with
  | (events, .error error) => (backend, events, .error error.smtp)
  | (events, .ok ip) =>
    if connects then
      ({ backend with connected := true }, events ++ [.opened ip backend.port], .ok true)
    else (backend, events ++ [.opened ip backend.port], .error .temporarilyUnavailable)

/-- `SmtpNotificationProvider.probe`: an advisory validation, and the connection. -/
def smtpProbe (host : Option String) (port : Nat) (advisory pinned : Answer) (connects : Bool)
    (unpinned : List NetworkEvent) : List NetworkEvent :=
  match validateOutboundHost lib host port advisory with
  | (events, .error _) => events
  | (events, .ok _) =>
    let backend : SmtpBackend := { host, port, useSsl := emailUseSsl }
    events ++ (backend.openConnection lib pinned connects unpinned).2.1

/-- `SmtpNotificationProvider.send`: the backend is opened, and opened again to send. -/
def smtpSend (sender : Bool) (host : Option String) (port : Nat)
    (advisory pinned again : Answer) (connects : Bool) (unpinned : List NetworkEvent) :
    List NetworkEvent :=
  if sender = false then []
  else match validateOutboundHost lib host port advisory with
  | (events, .error _) => events
  | (events, .ok _) =>
    let backend : SmtpBackend := { host, port, useSsl := emailUseSsl }
    match backend.openConnection lib pinned connects unpinned with
    | (_, opening, .error _) => events ++ opening
    | (backend, opening, .ok _) =>
      events ++ opening ++ (backend.openConnection lib again connects unpinned).2.1

/-! ## Configuration and attempts -/

/-- An attempt, with the answers that the resolver gives during it. -/
inductive Attempt
  | webhook (endpoint : Nat) (answer : Answer) (reply : Reply) (elsewhere : List NetworkEvent)
  | probe (host : Option String) (port : Nat) (advisory pinned : Answer) (connects : Bool)
    (unpinned : List NetworkEvent)
  | send (sender : Bool) (host : Option String) (port : Nat) (advisory pinned again : Answer)
    (connects : Bool) (unpinned : List NetworkEvent)

inductive OutboundLabel
  | createEndpoint (url : String) (answer : Answer)
  | updateEndpoint (k : Nat) (url : String) (answer : Answer)
  | setStatus (k : Nat) (active : Bool)
  | attempt (attempt : Attempt)

/-- The endpoints, and the events of each attempt so far. -/
structure OutboundState where
  endpoints : List WebhookEndpoint
  log : List (List NetworkEvent)

def Attempt.events (endpoints : List WebhookEndpoint) : Attempt → List NetworkEvent
  | webhook k answer reply elsewhere =>
    match endpoints[k]? with
    | none => []
    | some endpoint => (handleWebhookDeliveryAttempt lib settings endpoint answer reply elsewhere).1
  | probe host port advisory pinned connects unpinned =>
    smtpProbe lib host port advisory pinned connects unpinned
  | send sender host port advisory pinned again connects unpinned =>
    smtpSend lib sender host port advisory pinned again connects unpinned

def outboundStep : OutboundLabel → OutboundState → Option OutboundState
  | .createEndpoint url answer, s =>
    if bestEffortSsrfCheck lib settings url answer then
      some { s with endpoints := s.endpoints ++ [{ url }] }
    else none
  | .updateEndpoint k url answer, s =>
    if bestEffortSsrfCheck lib settings url answer then
      some { s with endpoints := s.endpoints.modify k fun endpoint => { endpoint with url } }
    else none
  | .setStatus k active, s =>
    some { s with endpoints := s.endpoints.modify k fun endpoint => { endpoint with active } }
  | .attempt attempt, s =>
    some { s with log := attempt.events lib settings s.endpoints :: s.log }

def outbound : System OutboundState OutboundLabel where
  initial s := s = ⟨[], []⟩
  step := outboundStep lib settings

end SupportPilot.Webhooks
