import SupportPilot.Library.Transition
import SupportPilot.Library.Versions

/-!
# Integration connections

Administrators enable, disable and rotate a connection through objects that were loaded earlier,
and a provider call records the health of the connection that it was started with. Credentials are
the ciphertext that is stored; a new one is made by each rotation.
-/

namespace SupportPilot.Integrations

open Library

inductive IntegrationConnectionStatus
  | active
  | disabled
  | invalidCredentials
  | degraded
  deriving DecidableEq, Repr

inductive IntegrationError
  | unknown
  | notConfigured
  | disabled
  | authenticationFailed
  | permissionDenied
  | rateLimited
  | timeout
  | temporarilyUnavailable
  | invalidRequest
  | notFound
  | conflict
  | malformedResponse
  | configuration
  | providerNotSupported
  | customerNotFound
  | orderNotFound
  | shipmentNotFound
  | ticketNotFound
  | paymentNotFound
  | refundNotAllowedByProvider
  | refundAlreadyExists
  | calendarSlotUnavailable
  | bookingAlreadyExists
  deriving DecidableEq, Repr

def IntegrationError.code : IntegrationError → String
  | unknown => "integration_unknown_error"
  | notConfigured => "integration_not_configured"
  | disabled => "integration_disabled"
  | authenticationFailed => "integration_authentication_failed"
  | permissionDenied => "integration_permission_denied"
  | rateLimited => "integration_rate_limited"
  | timeout => "integration_timeout"
  | temporarilyUnavailable => "integration_temporarily_unavailable"
  | invalidRequest => "integration_invalid_request"
  | notFound => "integration_not_found"
  | conflict => "integration_conflict"
  | malformedResponse => "integration_malformed_response"
  | configuration => "integration_configuration_error"
  | providerNotSupported => "integration_provider_not_supported"
  | customerNotFound => "customer_not_found"
  | orderNotFound => "order_not_found"
  | shipmentNotFound => "shipment_not_found"
  | ticketNotFound => "ticket_not_found"
  | paymentNotFound => "payment_not_found"
  | refundNotAllowedByProvider => "refund_not_allowed_by_provider"
  | refundAlreadyExists => "refund_already_exists"
  | calendarSlotUnavailable => "calendar_slot_unavailable"
  | bookingAlreadyExists => "booking_already_exists"

/-- A connection; its configuration is the text of a JSON object. -/
structure IntegrationConnection where
  displayName : String := ""
  status : IntegrationConnectionStatus := .disabled
  encryptedCredentials : String := ""
  credentialVersion : Nat := 0
  configuration : String := "{}"
  lastCheckedAt : Option Nat := none
  lastSuccessAt : Option Nat := none
  lastErrorCode : String := ""
  deriving DecidableEq, Repr

def IntegrationConnection.credentialsConfigured (connection : IntegrationConnection) : Bool :=
  connection.encryptedCredentials ≠ ""

abbrev ConnectionObject := Object IntegrationConnection

abbrev ConnectionTable := Versioned IntegrationConnection

def createConnection (t : ConnectionTable) (displayName ciphertext configuration : String) :
    ConnectionTable :=
  t.insert { displayName, status := .active, encryptedCredentials := ciphertext,
             credentialVersion := 1, configuration }

def updateConnectionConfiguration (t : ConnectionTable) (connection : ConnectionObject)
    (displayName configuration : Option String) : ConnectionTable :=
  t.update connection.pk fun row =>
    { row with
      displayName := displayName.getD row.displayName
      configuration := configuration.getD row.configuration }

/-- The columns that a rotation saves, with the status of its object. -/
def rotateCredentials (t : ConnectionTable) (connection : ConnectionObject)
    (newCiphertext : String) : ConnectionTable :=
  t.update connection.pk fun row =>
    { row with
      encryptedCredentials := newCiphertext
      credentialVersion := connection.value.credentialVersion + 1
      lastErrorCode := ""
      status :=
        if connection.value.status = .invalidCredentials then .active
        else connection.value.status }

def setConnectionEnabled (t : ConnectionTable) (connection : ConnectionObject) (enabled : Bool) :
    ConnectionTable :=
  t.update connection.pk fun row =>
    { row with status := if enabled then .active else .disabled }

/-- The status that `_record_health` writes, if it writes one, from the status of its object. -/
def healthStatus (status : IntegrationConnectionStatus) :
    Option IntegrationError → Option IntegrationConnectionStatus
  | none => if status = .degraded ∨ status = .invalidCredentials then some .active else none
  | some error =>
    if status = .disabled then none
    else match error with
      | .authenticationFailed | .permissionDenied => some .invalidCredentials
      | .timeout | .temporarilyUnavailable | .rateLimited => some .degraded
      | _ => none

/-- `_record_health` -/
def recordHealth (t : ConnectionTable) (connection : ConnectionObject)
    (error : Option IntegrationError) (now : Nat) : ConnectionTable :=
  t.update connection.pk fun row =>
    { row with
      lastCheckedAt := some now
      lastSuccessAt := if error.isNone then some now else row.lastSuccessAt
      lastErrorCode := error.elim "" IntegrationError.code
      status := (healthStatus connection.value.status error).getD row.status }

/-- A provider call, with the connection that it holds. -/
structure ProviderCall where
  connection : ConnectionObject
  recorded : Bool := false
  deriving DecidableEq, Repr

structure IntegrationState where
  connections : ConnectionTable
  calls : List ProviderCall
  deriving DecidableEq

/-- `_require_usable_connection` -/
def requireUsableConnection (t : ConnectionTable) (k : Nat) :
    Except IntegrationError ConnectionObject :=
  match t.rows[k]? with
  | none => .error .notConfigured
  | some connection =>
    if connection.status = .disabled then .error .disabled
    else if connection.credentialsConfigured = false then .error .notConfigured
    else .ok ⟨k, connection⟩

/-- The check at the start of `test_connection`. -/
def testable (connection : ConnectionObject) : Bool :=
  connection.value.status ≠ .disabled

inductive IntegrationCall
  | create (displayName ciphertext configuration : String)
  | configure (connection : ConnectionObject) (displayName configuration : Option String)
  | rotate (connection : ConnectionObject) (newCiphertext : String)
  | setEnabled (connection : ConnectionObject) (enabled : Bool)
  | start (k : Nat)
  | test (connection : ConnectionObject)
  | record (i : Nat) (error : Option IntegrationError) (now : Nat)
  deriving DecidableEq, Repr

/-- The object that a service got from its caller. -/
def IntegrationCall.object : IntegrationCall → Option ConnectionObject
  | configure connection .. | rotate connection _ | setEnabled connection _ | test connection =>
    some connection
  | _ => none

def IntegrationCall.run : IntegrationCall → IntegrationState → Option IntegrationState
  | create displayName ciphertext configuration, s =>
    some { s with connections :=
        createConnection s.connections displayName ciphertext configuration }
  | configure connection displayName configuration, s =>
    some { s with
      connections :=
        updateConnectionConfiguration s.connections connection displayName configuration }
  | rotate connection newCiphertext, s =>
    some { s with connections := rotateCredentials s.connections connection newCiphertext }
  | setEnabled connection enabled, s =>
    some { s with connections := setConnectionEnabled s.connections connection enabled }
  | start k, s =>
    match requireUsableConnection s.connections k with
    | .error _ => none
    | .ok connection => some { s with calls := s.calls ++ [{ connection }] }
  | test connection, s =>
    if testable connection then some { s with calls := s.calls ++ [{ connection }] } else none
  | record i error now, s =>
    match s.calls[i]? with
    | none => none
    | some call =>
      if call.recorded then none
      else some {
        connections := recordHealth s.connections call.connection error now
        calls := s.calls.set i { call with recorded := true } }

def integrationStep (l : IntegrationCall) (s : IntegrationState) : Option IntegrationState :=
  if ∀ connection ∈ l.object, s.connections.Loaded connection then l.run s else none

/-- The integration services over an empty table. -/
def integrations : System IntegrationState IntegrationCall where
  initial s := s = ⟨.empty, []⟩
  step := integrationStep

end SupportPilot.Integrations
