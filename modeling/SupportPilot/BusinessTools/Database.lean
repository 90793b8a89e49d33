import SupportPilot.Approvals.Requests
import SupportPilot.Integrations.Services
import SupportPilot.Library.Tenants
import SupportPilot.Notifications.Producers
import SupportPilot.Tickets.Services
import SupportPilot.Tools.Inputs
import SupportPilot.Webhooks.Events

/-!
# One database for all workspaces

The tables that a tool call reads and writes, with the rows of every workspace, and the statements
that the services share. What belongs to one row for good and has no workspace of its own is a
column of that row: the bindings of a version, the steps of a run, the versions of a policy, and
the evaluation, the approval request and the notification of a tool execution. Keys are numbers,
and times are microseconds.
-/

namespace SupportPilot.BusinessTools

open Library
open Policies (Moment RiskLevel RiskOutcome SideEffectType)

/-! ## Rows -/

structure Customer where
  externalId : Option String := none
  displayName : String
  email : Option String := none
  company : String := ""
  isActive : Bool := true
  deriving DecidableEq, Repr

structure TicketRow extends Tickets.Ticket where
  customer : Nat
  deriving DecidableEq, Repr

inductive IntegrationProvider
  | stripe
  | googleCalendar
  | email
  | demoCommerce
  deriving DecidableEq, Repr

structure ConnectionRow extends Integrations.IntegrationConnection where
  provider : IntegrationProvider
  deriving DecidableEq, Repr

structure ToolBinding where
  id : Nat
  toolDefinition : String
  enabled : Bool := true
  configuration : JsonObject := []

structure VersionRow extends AgentVersion where
  bindings : List ToolBinding := []

inductive AgentStepType
  | toolRequested
  | toolValidationFailed
  | toolExecutionStarted
  | toolExecutionSucceeded
  | toolExecutionFailed
  | toolExecutionTimedOut
  | toolIdempotencyReused
  | riskAssessed
  | policyEvaluated
  | approvalRequested
  deriving DecidableEq, Repr

inductive AgentStepStatus
  | started
  | succeeded
  | failed
  deriving DecidableEq, Repr

structure AgentStep where
  sequence : Nat
  stepType : AgentStepType
  status : AgentStepStatus
  errorCode : String
  safeMetadata : JsonObject
  startedAt : Nat
  completedAt : Nat

structure RunRow extends AgentRun where
  steps : List AgentStep := []

structure PolicyVersionRow where
  id : Nat
  status : Policies.PolicyVersionStatus
  rules : List (Nat × Policies.PolicyRule) := []
  deriving DecidableEq, Repr

structure PolicyRow where
  status : Policies.PolicyStatus
  versions : List PolicyVersionRow := []
  deriving DecidableEq, Repr

structure RiskAssessment where
  outcome : RiskOutcome
  factors : JsonObject

/-- A tool execution with the rows that point to it. -/
structure ExecutionRow extends ToolExecution where
  toolBinding : Nat
  version : Nat
  timeoutSeconds : Int
  riskAssessment : Option RiskAssessment := none
  policyVersion : Option Nat := none
  matchedRuleIds : List Nat := []
  approvalView : Option Approvals.RequestView := none
  notificationDelivery : Option Notifications.Snapshot := none

inductive AuditAction
  | ticketStatusChanged
  | ticketResolved
  | ticketReopened
  | paymentRefundExecuted
  | approvalRequested
  deriving DecidableEq, Repr

structure AuditEvent where
  action : AuditAction
  targetType : String
  targetId : String
  actor : Option Nat
  metadata : JsonObject
  requestId : Option String := none

structure WebhookEvent where
  eventType : Webhooks.WebhookEventType
  version : Nat := 1
  payloadSnapshot : JsonObject

inductive Kind
  | customer
  | ticket
  | integrationConnection
  | agentVersion
  | agentRun
  | policy
  | toolExecution
  | delivery
  | auditEvent
  | webhookEndpoint
  | webhookEvent
  | webhookDelivery
  deriving DecidableEq, Repr

def Columns : Kind → Type
  | .customer => Customer
  | .ticket => TicketRow
  | .integrationConnection => ConnectionRow
  | .agentVersion => VersionRow
  | .agentRun => RunRow
  | .policy => PolicyRow
  | .toolExecution => ExecutionRow
  | .delivery => Notifications.Delivery
  | .auditEvent => AuditEvent
  | .webhookEndpoint => Webhooks.SubscribedEndpoint
  | .webhookEvent => WebhookEvent
  | .webhookDelivery => Webhooks.WebhookDelivery

/-- The row of a workspace. -/
abbrev Row (k : Kind) := TenantRow Nat Nat (Columns k)

/-! ## What is shared by the workspaces, and what is outside of the database -/

/-- An entry of the tool catalogue. -/
structure ToolDefinition where
  key : String
  active : Bool := true
  riskLevel : RiskLevel
  sideEffectType : SideEffectType
  deriving DecidableEq, Repr

/-- A method of a provider with its arguments. A configuration is the text of a JSON object. -/
inductive Operation
  | getOrder (configuration orderReference : String)
  | getShipment (configuration shipmentReference : String)
  | getPayment (paymentReference : String)
  | refundPayment (paymentReference : String) (amountMinor : Int)
      (currency reason idempotencyKey : String)
  | getAvailability (configuration : String) (windowStart windowEnd : Moment)
  | createBooking (configuration : String) (start finish : Moment) (title : String)
      (attendeeEmail : Option String) (idempotencyKey : String)
  deriving DecidableEq, Repr

/-- The credentials are the JSON text that was decrypted. -/
structure ProviderRequest where
  credentials : String
  operation : Operation
  timeoutSeconds : Rat
  deriving DecidableEq, Repr

/-- What no workspace owns, the number of readings of the clock, and the requests so far. -/
structure World where
  definitions : List ToolDefinition
  users : List Nat
  ticks : Nat := 0
  requests : List ProviderRequest := []
  deriving DecidableEq, Repr

abbrev Database := TenantStore Nat Nat Columns World

/-- An error of the integration layer, with its message. -/
structure IntegrationFailure where
  error : Integrations.IntegrationError
  safeMessage : String
  deriving DecidableEq, Repr

/-- An exception; a validation error has the first of its messages. -/
inductive Failure
  | toolError (e : ToolError)
  | integration (failure : IntegrationFailure)
  | validation (message : String)
  | timeoutError
  | uncaught
  deriving DecidableEq, Repr

structure NormalizedOrder where
  orderId : String
  externalOrderId : String
  status : String
  createdAt : Moment
  amountMinor : Int
  currency : String
  shipmentStatus : Option String := none
  trackingReference : Option String := none
  deriving DecidableEq, Repr

structure NormalizedShipment where
  shipmentId : String
  orderId : String
  status : String
  trackingReference : Option String := none
  carrier : Option String := none
  estimatedDelivery : Option Moment := none
  deriving DecidableEq, Repr

structure NormalizedPayment where
  paymentId : String
  externalPaymentId : String
  status : String
  amountMinor : Int
  currency : String
  createdAt : Moment
  refundedAmountMinor : Int := 0
  deriving DecidableEq, Repr

structure NormalizedRefund where
  refundId : String
  paymentId : String
  status : String
  amountMinor : Int
  currency : String
  createdAt : Moment
  deriving DecidableEq, Repr

structure AvailabilitySlot where
  start : Moment
  finish : Moment
  deriving DecidableEq, Repr

structure NormalizedBooking where
  bookingId : String
  externalEventId : String
  start : Moment
  finish : Moment
  status : String
  deriving DecidableEq, Repr

/-- What a provider answers to the request with this number, or raises. -/
abbrev Responds (α : Type) := Nat → ProviderRequest → Except Failure α

structure Providers where
  getOrder : Responds NormalizedOrder
  getShipment : Responds NormalizedShipment
  getPayment : Responds NormalizedPayment
  refundPayment : Responds NormalizedRefund
  getAvailability : Responds (List AvailabilitySlot)
  createBooking : Responds NormalizedBooking

/-- The settings of the integrations, of the policies and of the deliveries. -/
structure Settings where
  defaultTimeoutSeconds : Rat
  maxTimeoutSeconds : Rat
  calendarMaxHorizon : Nat
  calendarMaxTitleLength : Nat
  notificationMaxSubjectLength : Nat
  notificationMaxBodyLength : Nat
  deliveryDefaultMaxAttempts : Nat
  riskBumpFinancialAmountMinor : Rat
  policies : Policies.PolicySettings

/-- All that is outside of the database: the supply of keys, the clock, the libraries, the
providers, the settings, and how the threads of a call that times out take turns. -/
structure Environment where
  ids : Nat → Nat
  distinct : Function.Injective ids
  clock : Nat → Nat
  lib : Tools.Validation
  py : Approvals.Texts
  /-- `UUID(text)` -/
  parseUuid : String → Option Nat
  /-- `float(value)` -/
  float : Json → Option Binary64
  isoformat : Nat → String
  /-- The length of `json.dumps`, unless it raises. -/
  jsonLength : JsonObject → Option Nat
  jsonText : JsonObject → String
  /-- PostgreSQL stores the object as `jsonb`. -/
  jsonbAccepts : JsonObject → Bool
  fingerprint : JsonObject → String
  decrypt : String → Option String
  /-- The types of the columns and the check constraints. -/
  accepts : (k : Kind) → Columns k → Bool
  providers : Providers
  settings : Settings
  /-- How many steps the handler makes on an attempt until it times out. -/
  deadline : Nat → Option Nat
  /-- The turns of a handler that goes on after it timed out. -/
  turns : List Bool

/-! ## Statements -/

abbrev Statement := Thread Database Failure

/-- `timezone.now()` -/
def now (env : Environment) : Statement Nat :=
  TenantStore.access (fun world => { world with ticks := world.ticks + 1 })
    fun world => .ok (env.clock world.ticks)

def create (env : Environment) (k : Kind) (workspace : Nat) (value : Columns k) : Statement Nat :=
  if env.accepts k value then TenantStore.insert env.ids .uncaught k workspace value
  else .raise .uncaught

/-- `save()`, which writes all columns of the object. -/
def save (env : Environment) (k : Kind) (pk : Nat) (value : Columns k) : Statement Unit :=
  if env.accepts k value then TenantStore.update k pk fun _ => value else .raise .uncaught

/-- A parameter of a query; PostgreSQL takes no NUL. -/
def parameter (text : String) : Statement Unit :=
  if text.toList.contains '\x00' then .raise .uncaught else pure ()

/-- `get(pk=pk)` -/
def getRow (k : Kind) (pk : Nat) : Statement (Row k) := do
  match ← TenantStore.get k pk with
  | some row => pure row
  | none => .raise .uncaught

/-- `record_event` -/
def recordEvent (env : Environment) (workspace : Nat) (event : AuditEvent) : Statement Unit := do
  let _ ← create env .auditEvent workspace event
  pure ()

/-- `create_delivery` -/
def createDelivery (env : Environment) (workspace : Nat)
    (channel : Notifications.DeliveryChannel) : Statement Nat := do
  let now ← now env
  create env .delivery workspace
    (Notifications.newDelivery workspace channel env.settings.deliveryDefaultMaxAttempts now)

def fanOut (env : Environment) (workspace event : Nat) :
    List (Row .webhookEndpoint) → Statement Unit
  | [] => pure ()
  | endpoint :: rest => do
    let delivery ← createDelivery env workspace .webhook
    let _ ← create env .webhookDelivery workspace ⟨delivery, workspace, endpoint.id, event⟩
    fanOut env workspace event rest

/-- `emit_event`; the newest endpoint comes first. -/
def emitEvent (env : Environment) (workspace : Nat) (eventType : Webhooks.WebhookEventType)
    (data : JsonObject) : Statement Unit := do
  let event ← create env .webhookEvent workspace { eventType, payloadSnapshot := data }
  let endpoints ← TenantStore.select Kind.webhookEndpoint workspace
    fun endpoint : Row .webhookEndpoint =>
      endpoint.value.active && endpoint.value.subscribedEventTypes.contains eventType
  fanOut env workspace event endpoints.reverse

/-- An `AgentRun` object: its key, its columns when it was loaded, and the key of its version. -/
structure RunObject extends AgentRun where
  pk : Nat
  version : Nat
  correlationId : String := ""

/-- The step is numbered under the lock of its run. -/
def AgentStep.after (steps : List AgentStep) (step : AgentStep) : List AgentStep :=
  steps ++ [{ step with sequence := (steps.map (·.sequence)).max?.elim 1 (· + 1) }]

/-- `record_step`, as `_record_step_factory` binds it to a run. -/
def recordStep (env : Environment) (run : RunObject) (stepType : AgentStepType)
    (status : AgentStepStatus) (safeMetadata : JsonObject) (errorCode : String := "") :
    Statement Unit := do
  let startedAt ← now env
  let completedAt ← now env
  TenantStore.atomic do
    let row ← getRow .agentRun run.pk
    let row : RunRow := row.value
    save env .agentRun run.pk { row with
      steps := AgentStep.after row.steps
        { sequence := 0, stepType, status, errorCode, safeMetadata, startedAt, completedAt } }

end SupportPilot.BusinessTools
