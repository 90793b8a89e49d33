import SupportPilot.BusinessTools.Database

/-!
# The handlers of the business tools

A handler looks up rows of its workspace, calls a provider through the connection of the workspace,
or changes rows that it has found. An error of the integration layer becomes a tool error, and
what a handler returns is the JSON of its output.
-/

namespace SupportPilot.BusinessTools

open Library
open Integrations (IntegrationError)
open Policies (Moment)
open Tickets (TicketPriority TicketStatus)
open Tools (Value)

/-! ## Errors of the integration layer -/

def notConfigured : IntegrationFailure :=
  ⟨.notConfigured, "This integration has not been configured for this workspace."⟩

def disabled : IntegrationFailure := ⟨.disabled, "This integration is currently disabled."⟩

def misconfigured : IntegrationFailure := ⟨.configuration, "This integration is misconfigured."⟩

def customerNotFound : IntegrationFailure := ⟨.customerNotFound, "Customer not found."⟩

def ticketNotFound : IntegrationFailure := ⟨.ticketNotFound, "Ticket not found."⟩

/-- `IntegrationToolError` -/
def integrationToolError (failure : IntegrationFailure) : Failure :=
  .toolError (.raise (.handler failure.error.code) failure.safeMessage)

def invalidRequest (message : String) : Failure :=
  integrationToolError ⟨.invalidRequest, message⟩

variable {α : Type}

/-- `except IntegrationError as exc: raise IntegrationToolError(exc)` -/
def bridged (m : Statement α) : Statement α :=
  m.handle fun
    | .integration failure => .raise (integrationToolError failure)
    | e => .raise e

/-! ## The context and the arguments of a call -/

structure ToolExecutionContext where
  workspace : Nat
  toolExecution : Nat
  correlationId : Option String
  deadline : Int
  agentRun : Nat
  actorUser : Option Nat

section Calls

variable (env : Environment) (context : ToolExecutionContext)

/-- `_remaining_seconds` -/
def remainingSeconds : Statement Rat := do
  let now ← now env
  pure (max (((context.deadline - now : Int) : Rat) / 1000000) (1 / 2))

/-- `_actor` -/
def actor : Statement (Option Nat) :=
  TenantStore.access id fun world => .ok (context.actorUser.filter fun user => user ∈ world.users)

end Calls

abbrev Arguments := List (String × Value)

namespace Arguments

variable (arguments : Arguments)

def text? (name : String) : Option String :=
  match arguments.lookup name with
  | some (.text s) => some s
  | _ => none

def text (name : String) : String := (arguments.text? name).getD ""

def integer (name : String) : Int :=
  match arguments.lookup name with
  | some (.integer n) => n
  | _ => 0

def moment (name : String) : Moment :=
  match arguments.lookup name with
  | some (.moment m) => m
  | _ => ⟨0, none⟩

end Arguments

def optional : Option String → Json
  | some text => .string text
  | none => .null

/-! ## Selectors -/

section Selectors

variable (env : Environment) (workspace : Nat)

/-- The row of the workspace with a key that the model has written. -/
def getByIdForWorkspace (k : Kind) (id : String) : Statement (Option (Row k)) :=
  if id = "" then pure none
  else
    match env.parseUuid id with
    | none => pure none
    | some pk => TenantStore.newest k workspace fun row => row.id = pk

def customerGetByIdForWorkspace (customerId : String) : Statement (Option (Row .customer)) :=
  getByIdForWorkspace env workspace .customer customerId

def ticketGetByIdForWorkspace (ticketId : String) : Statement (Option (Row .ticket)) :=
  getByIdForWorkspace env workspace .ticket ticketId

def customerGetByEmailForWorkspace (email : String) : Statement (Option (Row .customer)) := do
  parameter email
  TenantStore.newest Kind.customer workspace fun row : Row .customer =>
    row.value.email = some (env.py.lower (strip email))

def customerGetByExternalIdForWorkspace (externalId : String) :
    Statement (Option (Row .customer)) := do
  parameter externalId
  TenantStore.newest Kind.customer workspace fun row : Row .customer =>
    row.value.externalId = some externalId

/-- The customer that a tool acts for. -/
def requireCustomer (customerId : String) : Statement (Row .customer) := do
  match ← customerGetByIdForWorkspace env workspace customerId with
  | some customer => pure customer
  | none => .raise (integrationToolError customerNotFound)

end Selectors

/-! ## Provider calls -/

section Providers

variable (env : Environment) (workspace : Nat)

/-- `resolve_connection_for_tool` and the checks of `_require_usable_connection`. -/
def requireUsableConnection (provider : IntegrationProvider) :
    Statement (Row .integrationConnection) := do
  match ← TenantStore.newest Kind.integrationConnection workspace
      fun row : Row .integrationConnection => row.value.provider = provider with
  | none => .raise (.integration notConfigured)
  | some connection =>
    let row : ConnectionRow := connection.value
    if row.status = .disabled then .raise (.integration disabled)
    else if row.credentialsConfigured = false then .raise (.integration notConfigured)
    else pure connection

def minProviderTimeoutSeconds : Rat := 1 / 2

def effectiveProviderTimeout (remaining : Rat) : Rat :=
  let bounded := min (min env.settings.defaultTimeoutSeconds env.settings.maxTimeoutSeconds)
    (max (remaining - 1 / 2) minProviderTimeoutSeconds)
  max bounded minProviderTimeoutSeconds

/-- `_record_health`, with the status of the object that was loaded. -/
def recordHealth (connection : Row .integrationConnection) (error : Option IntegrationError) :
    Statement Unit := do
  let now ← now env
  let object : ConnectionRow := connection.value
  TenantStore.update .integrationConnection connection.id fun row : ConnectionRow => { row with
    lastCheckedAt := some now
    lastSuccessAt := if error.isNone then some now else row.lastSuccessAt
    lastErrorCode := error.elim "" IntegrationError.code
    status := (Integrations.healthStatus object.status error).getD row.status }

/-- The request leaves, and the provider answers. -/
def send (request : ProviderRequest) (responds : Responds α) : Statement α :=
  TenantStore.access (fun world => { world with requests := world.requests ++ [request] })
    fun world => responds world.requests.length request

/-- `_execute_provider_call` -/
def executeProviderCall (connection : Row .integrationConnection) (operation : Operation)
    (timeoutSeconds : Rat) (responds : Responds α) : Statement α := do
  let row : ConnectionRow := connection.value
  match env.decrypt row.encryptedCredentials with
  | none =>
    recordHealth env connection (some .configuration)
    .raise (.integration misconfigured)
  | some credentials =>
    match ← (send ⟨credentials, operation, timeoutSeconds⟩ responds).outcome with
    | .ok result =>
      recordHealth env connection none
      pure result
    | .error (.integration failure) =>
      recordHealth env connection (some failure.error)
      .raise (.integration failure)
    | .error e => .raise e

/-- A business operation of the integration services: the connection of the workspace, then the
call with the configuration of the connection. -/
def providerCall (context : ToolExecutionContext) (provider : IntegrationProvider)
    (operation : String → Operation) (responds : Responds α) : Statement α := do
  let remaining ← remainingSeconds env context
  bridged do
    let connection ← requireUsableConnection workspace provider
    let row : ConnectionRow := connection.value
    executeProviderCall env connection (operation row.configuration)
      (effectiveProviderTimeout env remaining) responds

end Providers

/-! ## The handlers -/

section Handlers

variable (env : Environment) (context : ToolExecutionContext) (arguments : Arguments)

def moment (m : Moment) : Json := .string (env.lib.dumpMoment m)

/-- The customer under the identifier that is given. -/
def findCustomer : Statement (Option (Row .customer)) :=
  if arguments.text "customer_id" ≠ "" then
    customerGetByIdForWorkspace env context.workspace (arguments.text "customer_id")
  else if arguments.text "email" ≠ "" then
    customerGetByEmailForWorkspace env context.workspace (arguments.text "email")
  else
    customerGetByExternalIdForWorkspace context.workspace (arguments.text "external_reference")

def customerLookupHandler : Statement JsonObject := do
  match ← findCustomer env context arguments with
  | none => .raise (integrationToolError customerNotFound)
  | some customer =>
    let row : Customer := customer.value
    pure
      [("customer_id", .string (toString customer.id)),
        ("display_name", .string row.displayName), ("email", optional row.email),
        ("company", .string row.company), ("is_active", .bool row.isActive),
        ("external_reference", optional row.externalId)]

def orderLookupHandler : Statement JsonObject := do
  let order ← providerCall env context.workspace context .demoCommerce
    (fun configuration => .getOrder configuration (arguments.text "order_reference"))
    env.providers.getOrder
  pure
    [("order_id", .string order.orderId), ("external_order_id", .string order.externalOrderId),
      ("status", .string order.status), ("created_at", moment env order.createdAt),
      ("amount_minor", .int order.amountMinor), ("currency", .string order.currency),
      ("shipment_status", optional order.shipmentStatus),
      ("tracking_reference", optional order.trackingReference)]

def shipmentLookupHandler : Statement JsonObject := do
  let shipment ← providerCall env context.workspace context .demoCommerce
    (fun configuration => .getShipment configuration (arguments.text "shipment_reference"))
    env.providers.getShipment
  pure
    [("shipment_id", .string shipment.shipmentId), ("order_id", .string shipment.orderId),
      ("status", .string shipment.status),
      ("tracking_reference", optional shipment.trackingReference),
      ("carrier", optional shipment.carrier),
      ("estimated_delivery", shipment.estimatedDelivery.elim .null (moment env))]

def paymentLookupHandler : Statement JsonObject := do
  let payment ← providerCall env context.workspace context .stripe
    (fun _ => .getPayment (arguments.text "payment_reference")) env.providers.getPayment
  pure
    [("payment_id", .string payment.paymentId),
      ("external_payment_id", .string payment.externalPaymentId),
      ("status", .string payment.status), ("amount_minor", .int payment.amountMinor),
      ("currency", .string payment.currency), ("created_at", moment env payment.createdAt),
      ("refunded_amount_minor", .int payment.refundedAmountMinor)]

def paymentRefundHandler : Statement JsonObject := do
  let refund ← providerCall env context.workspace context .stripe
    (fun _ => .refundPayment (arguments.text "payment_reference")
      (arguments.integer "amount_minor") (arguments.text "currency") (arguments.text "reason")
      ("payment.refund:" ++ toString context.toolExecution))
    env.providers.refundPayment
  let actor ← actor context
  recordEvent env context.workspace {
    action := .paymentRefundExecuted
    targetType := "payment"
    targetId := refund.paymentId
    actor
    metadata :=
      [("tool_execution_id", .string (toString context.toolExecution)),
        ("agent_run_id", .string (toString context.agentRun)),
        ("refund_id", .string refund.refundId), ("amount_minor", .int refund.amountMinor),
        ("currency", .string refund.currency)]
    requestId := context.correlationId }
  pure
    [("refund_id", .string refund.refundId), ("payment_id", .string refund.paymentId),
      ("status", .string refund.status), ("amount_minor", .int refund.amountMinor),
      ("currency", .string refund.currency), ("created_at", moment env refund.createdAt)]

/-- `_within_scheduling_horizon`; a date without an offset cannot be compared. -/
def withinSchedulingHorizon (m : Moment) : Statement Bool := do
  let now ← now env
  match m.utcOffset with
  | none => .raise .uncaught
  | some offset => pure (m.microseconds - offset ≤ (now : Int) + env.settings.calendarMaxHorizon)

def calendarAvailabilityHandler : Statement JsonObject := do
  if !(← withinSchedulingHorizon env (arguments.moment "start")) then
    .raise (invalidRequest "Requested window exceeds the scheduling horizon.")
  else
    let slots ← providerCall env context.workspace context .googleCalendar
      (fun configuration =>
        .getAvailability configuration (arguments.moment "start") (arguments.moment "end"))
      env.providers.getAvailability
    pure [("slots", .list (slots.map fun slot =>
      .object [("start", moment env slot.start), ("end", moment env slot.finish)]))]

def calendarBookingHandler : Statement JsonObject := do
  if !(← withinSchedulingHorizon env (arguments.moment "start")) then
    .raise (invalidRequest "Requested time exceeds the scheduling horizon.")
  else if env.settings.calendarMaxTitleLength < (arguments.text "title").length then
    .raise (invalidRequest "Title is too long.")
  else
    let customer ← requireCustomer env context.workspace (arguments.text "customer_id")
    let row : Customer := customer.value
    let booking ← providerCall env context.workspace context .googleCalendar
      (fun configuration => .createBooking configuration (arguments.moment "start")
        (arguments.moment "end") (arguments.text "title") row.email
        ("calendar.create_booking:" ++ toString context.toolExecution))
      env.providers.createBooking
    pure
      [("booking_id", .string booking.bookingId),
        ("external_event_id", .string booking.externalEventId),
        ("start", moment env booking.start), ("end", moment env booking.finish),
        ("status", .string booking.status)]

def TicketStatus.value : TicketStatus → String
  | .opened => "open"
  | .inProgress => "in_progress"
  | .pending => "pending"
  | .resolved => "resolved"
  | .closed => "closed"

def ticketStatus? (text : String) : Option TicketStatus :=
  [TicketStatus.opened, .inProgress, .pending, .resolved, .closed].find?
    fun status => TicketStatus.value status = text

def TicketPriority.value : TicketPriority → String
  | .low => "low"
  | .normal => "normal"
  | .high => "high"
  | .urgent => "urgent"

def ticketPriority? (text : String) : Option TicketPriority :=
  [TicketPriority.low, .normal, .high, .urgent].find?
    fun priority => TicketPriority.value priority = text

/-- `TicketSummary` -/
def ticketSummary (pk : Nat) (ticket : TicketRow) : JsonObject :=
  [("ticket_id", .string (toString pk)), ("status", .string (TicketStatus.value ticket.status)),
    ("priority", .string (TicketPriority.value ticket.priority)),
    ("subject", .string ticket.subject)]

def createTicket (workspace : Nat) (customer : Row .customer) (subject description : String)
    (priority : Option TicketPriority) : Statement JsonObject :=
  TenantStore.atomic do
    if customer.tenant ≠ workspace then
      .raise (.validation "Customer does not belong to this workspace.")
    else
      let ticket : Tickets.Ticket := { subject, description, priority := priority.getD .normal }
      let ticket : TicketRow := { toTicket := ticket.saved, customer := customer.id }
      let pk ← create env .ticket workspace ticket
      pure (ticketSummary pk ticket)

def ticketCreateHandler : Statement JsonObject := do
  let customer ← requireCustomer env context.workspace (arguments.text "customer_id")
  createTicket env context.workspace customer (arguments.text "subject")
    (arguments.text "description") ((arguments.text? "priority").bind ticketPriority?)

/-- The action that a change of status is recorded with. -/
def statusAction (oldStatus status : TicketStatus) : AuditAction :=
  if status = .resolved then .ticketResolved
  else if oldStatus = .resolved ∧ status = .opened then .ticketReopened
  else .ticketStatusChanged

/-- The time that a resolved ticket gets; no other change of status asks for it. -/
def resolutionTime (status : TicketStatus) : Statement Nat :=
  if status = .resolved then now env else pure 0

/-- The change of status of an agent's update, with its audit event. -/
def changeStatus (workspace : Nat) (ticket : Row .ticket) (noted : TicketRow)
    (actor : Option Nat) (status : TicketStatus) : Statement TicketRow := do
  let row : TicketRow := ticket.value
  let now ← resolutionTime env status
  let changed : TicketRow :=
    { noted with status, resolvedAt := row.toTicket.resolvedAtAfter status now }
  save env .ticket ticket.id changed
  recordEvent env workspace {
    action := statusAction row.status status
    targetType := "ticket"
    targetId := toString ticket.id
    actor
    metadata :=
      [("old_status", .string (TicketStatus.value row.status)),
        ("new_status", .string (TicketStatus.value status)), ("via", .string "agent_tool")] }
  pure changed

def applyAgentTicketUpdate (workspace : Nat) (ticket : Row .ticket) (actor : Option Nat)
    (priority : Option TicketPriority) (status : Option TicketStatus) (note : Option String) :
    Statement TicketRow :=
  TenantStore.atomic do
    let row : TicketRow := ticket.value
    let noted : TicketRow := { row with toTicket := (row.toTicket.noted priority note).saved }
    match status.filter (· ≠ row.status) with
    | none =>
      save env .ticket ticket.id noted
      pure noted
    | some status =>
      if status ∉ row.status.transitions then
        .raise (.validation ("Cannot transition from " ++ TicketStatus.value row.status ++ " to " ++
          TicketStatus.value status ++ "."))
      else changeStatus env workspace ticket noted actor status

def ticketUpdateHandler : Statement JsonObject := do
  match ← ticketGetByIdForWorkspace env context.workspace (arguments.text "ticket_id") with
  | none => .raise (integrationToolError ticketNotFound)
  | some ticket =>
    let actor ← actor context
    let updated ← (applyAgentTicketUpdate env context.workspace ticket actor
        ((arguments.text? "priority").bind ticketPriority?)
        ((arguments.text? "status").bind ticketStatus?) (arguments.text? "note")).handle fun
      | .validation message => .raise (invalidRequest message)
      | e => .raise e
    pure (ticketSummary ticket.id updated)

/-- `create_or_reuse_notification_delivery`, which returns the key of the delivery. The delivery is
committed before the snapshot. -/
def createOrReuseNotificationDelivery (workspace : Nat) (execution : Row .toolExecution)
    (recipientEmail subject body : String) : Statement Nat := do
  let row : ExecutionRow := execution.value
  match row.notificationDelivery with
  | some existing => pure existing.delivery
  | none =>
    let delivery ← createDelivery env workspace .notification
    let snapshot := (Notifications.Production.notification execution.id workspace recipientEmail
      subject body).snapshot delivery
    if !snapshot.accepted then .raise .uncaught
    else
      TenantStore.update .toolExecution execution.id
        fun row : ExecutionRow => { row with notificationDelivery := some snapshot }
      pure delivery

/-- The error of a connection that is not usable is not bridged here. -/
def notificationSendHandler : Statement JsonObject := do
  if env.settings.notificationMaxSubjectLength < (arguments.text "subject").length then
    .raise (invalidRequest "Subject is too long.")
  else if env.settings.notificationMaxBodyLength < (arguments.text "body").length then
    .raise (invalidRequest "Body is too long.")
  else
    let customer ← requireCustomer env context.workspace (arguments.text "customer_id")
    let row : Customer := customer.value
    match row.email.filter (· ≠ "") with
    | none => .raise (invalidRequest "Customer has no email on file.")
    | some email =>
      let _ ← requireUsableConnection context.workspace .email
      let execution ← getRow .toolExecution context.toolExecution
      let delivery ← createOrReuseNotificationDelivery env context.workspace execution email
        (arguments.text "subject") (arguments.text "body")
      pure [("status", .string "queued"), ("delivery_id", .string (toString delivery))]

end Handlers

/-! ## The registered tools -/

inductive BusinessTool
  | customerLookup
  | orderLookup
  | shipmentLookup
  | paymentLookup
  | paymentRefund
  | calendarAvailability
  | calendarBooking
  | ticketCreate
  | ticketUpdate
  | notificationSend
  deriving DecidableEq, Repr

namespace BusinessTool

def key : BusinessTool → String
  | customerLookup => "customer.lookup"
  | orderLookup => "order.lookup"
  | shipmentLookup => "shipment.lookup"
  | paymentLookup => "payment.lookup"
  | paymentRefund => "payment.refund"
  | calendarAvailability => "calendar.check_availability"
  | calendarBooking => "calendar.create_booking"
  | ticketCreate => "ticket.create"
  | ticketUpdate => "ticket.update"
  | notificationSend => "notification.send"

def displayName : BusinessTool → String
  | customerLookup => "Customer lookup"
  | orderLookup => "Order lookup"
  | shipmentLookup => "Shipment lookup"
  | paymentLookup => "Payment lookup"
  | paymentRefund => "Payment refund"
  | calendarAvailability => "Calendar availability"
  | calendarBooking => "Calendar booking"
  | ticketCreate => "Create ticket"
  | ticketUpdate => "Update ticket"
  | notificationSend => "Send customer notification"

def inputModel : BusinessTool → Tools.InputModel
  | customerLookup => Tools.customerLookupInput
  | orderLookup => Tools.orderLookupInput
  | shipmentLookup => Tools.shipmentLookupInput
  | paymentLookup => Tools.paymentLookupInput
  | paymentRefund => Tools.paymentRefundInput
  | calendarAvailability => Tools.calendarAvailabilityInput
  | calendarBooking => Tools.calendarBookingInput
  | ticketCreate => Tools.ticketCreateInput
  | ticketUpdate => Tools.ticketUpdateInput
  | notificationSend => Tools.notificationSendInput

def writeRetryableCodes : List String :=
  [IntegrationError.rateLimited.code, IntegrationError.temporarilyUnavailable.code]

def readRetryableCodes : List String :=
  [IntegrationError.rateLimited.code, IntegrationError.temporarilyUnavailable.code,
    IntegrationError.timeout.code]

def calendarAmbiguousOutcomeCodes : List String :=
  [IntegrationError.timeout.code, IntegrationError.malformedResponse.code,
    ToolErrorClass.timeout.code]

def retryPolicy : BusinessTool → RetryPolicy
  | customerLookup | ticketCreate | ticketUpdate => ⟨0, [], []⟩
  | orderLookup | shipmentLookup | paymentLookup | calendarAvailability =>
    ⟨2, readRetryableCodes, []⟩
  | paymentRefund | notificationSend => ⟨2, writeRetryableCodes, []⟩
  | calendarBooking => ⟨2, writeRetryableCodes, calendarAmbiguousOutcomeCodes⟩

def defaultTimeoutSeconds : BusinessTool → Rat
  | customerLookup | ticketCreate | ticketUpdate => 5
  | orderLookup | shipmentLookup | paymentLookup | calendarAvailability | notificationSend => 8
  | paymentRefund | calendarBooking => 10

def maxTimeoutSeconds : BusinessTool → Rat
  | customerLookup | ticketCreate | ticketUpdate => 10
  | _ => 15

/-- No business tool has a sensitive field. -/
def contract (tool : BusinessTool) : Approvals.ToolContract where
  key := tool.key
  displayName := tool.displayName
  inputSensitiveFields := []

def handler (env : Environment) (context : ToolExecutionContext) (arguments : Arguments) :
    BusinessTool → Statement JsonObject
  | customerLookup => customerLookupHandler env context arguments
  | orderLookup => orderLookupHandler env context arguments
  | shipmentLookup => shipmentLookupHandler env context arguments
  | paymentLookup => paymentLookupHandler env context arguments
  | paymentRefund => paymentRefundHandler env context arguments
  | calendarAvailability => calendarAvailabilityHandler env context arguments
  | calendarBooking => calendarBookingHandler env context arguments
  | ticketCreate => ticketCreateHandler env context arguments
  | ticketUpdate => ticketUpdateHandler env context arguments
  | notificationSend => notificationSendHandler env context arguments

end BusinessTool

end SupportPilot.BusinessTools
