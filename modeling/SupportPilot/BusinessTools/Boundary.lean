import SupportPilot.BusinessTools.Execution

/-!
# The boundary of a workspace

Every statement of a tool call is confined to the workspace of its run: a key that it uses was
found among the rows of the workspace, or belongs to a row that the call has created, and what is
shared is only read, apart from the clock and the requests.
-/

namespace SupportPilot.BusinessTools

open Library

/-- What a call of this user may tell apart of what no workspace owns, and what it leaves alone. -/
def worldBoundary (creator : Option Nat) : Boundary World where
  agree x y := x.definitions = y.definitions ∧ x.ticks = y.ticks ∧ x.requests = y.requests ∧
    ∀ user ∈ creator, user ∈ x.users ↔ user ∈ y.users
  keeps x y := y.definitions = x.definitions ∧ y.users = x.users
  agree_symm h := ⟨h.1.symm, h.2.1.symm, h.2.2.1.symm, fun user huser => (h.2.2.2 user huser).symm⟩
  keeps_refl _ := ⟨rfl, rfl⟩
  keeps_trans h h' := ⟨h'.1.trans h.1, h'.2.trans h.2⟩

/-- The statement stays within the workspace. -/
abbrev Within {α : Type} (T : Tenancy Nat Nat Kind) (creator : Option Nat) (post : α → Prop)
    (m : Statement α) : Prop :=
  Confined (T.boundary (worldBoundary creator) Columns) post m

section Statements

variable {α : Type} {env : Environment} {T : Tenancy Nat Nat Kind} {creator : Option Nat}

theorem Within.trivial {post : α → Prop} {m : Statement α} (h : Within T creator post m) :
    Within T creator (fun _ => True) m :=
  h.mono fun _ _ => True.intro

theorem within_now : Within T creator (fun _ => True) (now env) := by
  refine Tenancy.confined_access fun {x y} h => ?_
  obtain ⟨hdefinitions, hticks, hrequests, husers⟩ := h
  refine ⟨⟨hdefinitions, congrArg (· + 1) hticks, hrequests, husers⟩, ⟨rfl, rfl⟩, ?_,
    fun _ _ => True.intro⟩
  rw [hticks]

theorem within_create (hids : T.ids = env.ids) (k : Kind) (value : Columns k) :
    Within T creator (T.mine k) (create env k T.tenant value) := by
  unfold create
  split
  · rw [← hids]
    exact Tenancy.confined_insert _ k value
  · exact Confined.raise

theorem within_save {k : Kind} {pk : Nat} (hpk : T.mine k pk) (value : Columns k) :
    Within T creator (fun _ => True) (save env k pk value) := by
  unfold save
  split
  · exact Tenancy.confined_update hpk _
  · exact Confined.raise

theorem within_parameter (text : String) :
    Within T creator (fun _ => True) (parameter text) := by
  unfold parameter
  split
  · exact Confined.raise
  · exact Confined.pure True.intro

theorem within_getRow {k : Kind} {pk : Nat} (hpk : T.mine k pk) :
    Within T creator (fun row => row.id = pk ∧ row.tenant = T.tenant) (getRow k pk) := by
  unfold getRow
  refine (Tenancy.confined_get hpk).bind fun found hfound => ?_
  cases found with
  | some row => exact Confined.pure (hfound row rfl)
  | none => exact Confined.raise

theorem within_recordEvent (hids : T.ids = env.ids) (event : AuditEvent) :
    Within T creator (fun _ => True) (recordEvent env T.tenant event) := by
  unfold recordEvent
  exact (within_create hids .auditEvent event).bind fun _ _ => Confined.pure True.intro

theorem within_createDelivery (hids : T.ids = env.ids) (channel : Notifications.DeliveryChannel) :
    Within T creator (T.mine .delivery) (createDelivery env T.tenant channel) := by
  unfold createDelivery
  exact within_now.bind fun now _ => within_create hids .delivery _

theorem within_fanOut (hids : T.ids = env.ids) (event : Nat)
    (endpoints : List (Row .webhookEndpoint)) :
    Within T creator (fun _ => True) (fanOut env T.tenant event endpoints) := by
  induction endpoints with
  | nil => exact Confined.pure True.intro
  | cons endpoint rest ih =>
    unfold fanOut
    refine (within_createDelivery hids .webhook).bind fun delivery _ => ?_
    exact (within_create hids .webhookDelivery _).bind fun _ _ => ih

theorem within_emitEvent (hids : T.ids = env.ids) (eventType : Webhooks.WebhookEventType)
    (data : JsonObject) :
    Within T creator (fun _ => True) (emitEvent env T.tenant eventType data) := by
  unfold emitEvent
  refine (within_create hids .webhookEvent _).bind fun event _ => ?_
  exact (Tenancy.confined_select _ _).bind fun endpoints _ => within_fanOut hids event _

theorem within_recordStep {run : RunObject} (hrun : T.mine .agentRun run.pk)
    (stepType : AgentStepType) (status : AgentStepStatus) (safeMetadata : JsonObject)
    (errorCode : String) :
    Within T creator (fun _ => True)
      (recordStep env run stepType status safeMetadata errorCode) := by
  unfold recordStep
  refine within_now.bind fun startedAt _ => within_now.bind fun completedAt _ => ?_
  refine Tenancy.confined_atomic ?_
  exact (within_getRow hrun).bind fun row _ => within_save hrun _

end Statements

/-! ## Handlers -/

section Handlers

variable {α : Type} {env : Environment} {T : Tenancy Nat Nat Kind} {creator : Option Nat}

theorem within_bridged {post : α → Prop} {m : Statement α} (hm : Within T creator post m) :
    Within T creator post (bridged m) := by
  unfold bridged
  refine hm.handle fun e => ?_
  cases e <;> exact Confined.raise

theorem within_remainingSeconds (context : ToolExecutionContext) :
    Within T creator (fun _ => True) (remainingSeconds env context) := by
  unfold remainingSeconds
  exact within_now.bind fun now _ => Confined.pure True.intro

theorem within_actor {context : ToolExecutionContext} (hactor : context.actorUser = creator) :
    Within T creator (fun _ => True) (actor context) := by
  unfold actor
  refine Tenancy.confined_access fun {x y} h => ?_
  refine ⟨h, (worldBoundary creator).keeps_refl x, congrArg Except.ok ?_, fun _ _ => True.intro⟩
  rw [hactor]
  cases hcreator : creator with
  | none => rfl
  | some user => simp [Option.filter, h.2.2.2 user hcreator]

/-- A row that is found under a key of the model is one of the workspace. -/
theorem within_getByIdForWorkspace (k : Kind) (id : String) :
    Within T creator (fun found => ∀ row ∈ found, T.mine k row.id ∧ row.tenant = T.tenant)
      (getByIdForWorkspace env T.tenant k id) := by
  have hnone : Within T creator (fun found => ∀ row ∈ found, T.mine k row.id ∧
      row.tenant = T.tenant) (pure none : Statement (Option (Row k))) :=
    Confined.pure fun row hrow => by cases hrow
  unfold getByIdForWorkspace
  split
  · exact hnone
  · split
    · exact hnone
    · exact (Tenancy.confined_newest k _).mono fun found hfound row hrow =>
        ⟨(hfound row hrow).1, (hfound row hrow).2.1⟩

theorem within_customerGetByEmail (email : String) :
    Within T creator (fun _ => True) (customerGetByEmailForWorkspace env T.tenant email) := by
  unfold customerGetByEmailForWorkspace
  exact (within_parameter email).bind fun _ _ => Within.trivial (Tenancy.confined_newest _ _)

theorem within_customerGetByExternalId (externalId : String) :
    Within T creator (fun _ => True) (customerGetByExternalIdForWorkspace T.tenant externalId) := by
  unfold customerGetByExternalIdForWorkspace
  exact (within_parameter externalId).bind fun _ _ => Within.trivial (Tenancy.confined_newest _ _)

theorem within_requireCustomer (customerId : String) :
    Within T creator (fun _ => True) (requireCustomer env T.tenant customerId) := by
  unfold requireCustomer customerGetByIdForWorkspace
  refine (within_getByIdForWorkspace .customer customerId).bind fun found _ => ?_
  cases found with
  | some customer => exact Confined.pure True.intro
  | none => exact Confined.raise

/-! ### Provider calls -/

theorem within_requireUsableConnection (provider : IntegrationProvider) :
    Within T creator (fun connection => T.mine .integrationConnection connection.id)
      (requireUsableConnection T.tenant provider) := by
  unfold requireUsableConnection
  refine (Tenancy.confined_newest _ _).bind fun found hfound => ?_
  cases found with
  | none => exact Confined.raise
  | some connection =>
    dsimp only
    split_ifs
    · exact Confined.raise
    · exact Confined.raise
    · exact Confined.pure (hfound connection rfl).1

theorem within_recordHealth {connection : Row .integrationConnection}
    (hconnection : T.mine .integrationConnection connection.id)
    (error : Option Integrations.IntegrationError) :
    Within T creator (fun _ => True) (recordHealth env connection error) := by
  unfold recordHealth
  exact within_now.bind fun now _ => Tenancy.confined_update hconnection _

theorem within_send (request : ProviderRequest) (responds : Responds α) :
    Within T creator (fun _ => True) (send request responds) := by
  refine Tenancy.confined_access fun {x y} h => ?_
  obtain ⟨hdefinitions, hticks, hrequests, husers⟩ := h
  refine ⟨⟨hdefinitions, hticks, congrArg (· ++ [request]) hrequests, husers⟩, ⟨rfl, rfl⟩, ?_,
    fun _ _ => True.intro⟩
  rw [hrequests]

theorem within_executeProviderCall {connection : Row .integrationConnection}
    (hconnection : T.mine .integrationConnection connection.id) (operation : Operation)
    (timeoutSeconds : Rat) (responds : Responds α) :
    Within T creator (fun _ => True)
      (executeProviderCall env connection operation timeoutSeconds responds) := by
  have hhealth : ∀ error, Within T creator (fun _ => True) (recordHealth env connection error) :=
    within_recordHealth hconnection
  unfold executeProviderCall
  dsimp only
  split
  · exact (hhealth _).bind fun _ _ => Confined.raise
  · refine (within_send _ responds).outcome.bind fun result _ => ?_
    split
    · exact (hhealth none).bind fun _ _ => Confined.pure True.intro
    · exact (hhealth _).bind fun _ _ => Confined.raise
    · exact Confined.raise

theorem within_providerCall (context : ToolExecutionContext) (provider : IntegrationProvider)
    (operation : String → Operation) (responds : Responds α) :
    Within T creator (fun _ => True)
      (providerCall env T.tenant context provider operation responds) := by
  unfold providerCall
  refine (within_remainingSeconds context).bind fun remaining _ => within_bridged ?_
  exact (within_requireUsableConnection provider).bind fun connection hconnection =>
    within_executeProviderCall hconnection _ _ responds

theorem within_withinSchedulingHorizon (m : Policies.Moment) :
    Within T creator (fun _ => True) (withinSchedulingHorizon env m) := by
  unfold withinSchedulingHorizon
  refine within_now.bind fun now _ => ?_
  split
  · exact Confined.raise
  · exact Confined.pure True.intro

/-! ### Changes of rows -/

theorem within_createTicket (hids : T.ids = env.ids) (customer : Row .customer)
    (subject description : String) (priority : Option Tickets.TicketPriority) :
    Within T creator (fun _ => True)
      (createTicket env T.tenant customer subject description priority) := by
  unfold createTicket
  refine Tenancy.confined_atomic ?_
  split
  · exact Confined.raise
  · exact (within_create hids .ticket _).bind fun _ _ => Confined.pure True.intro

theorem within_changeStatus (hids : T.ids = env.ids) {ticket : Row .ticket}
    (hticket : T.mine .ticket ticket.id) (noted : TicketRow) (actor : Option Nat)
    (status : Tickets.TicketStatus) :
    Within T creator (fun _ => True) (changeStatus env T.tenant ticket noted actor status) := by
  have htime : Within T creator (fun _ => True) (resolutionTime env status) := by
    unfold resolutionTime
    split
    · exact within_now
    · exact Confined.pure True.intro
  unfold changeStatus
  refine htime.bind fun now _ => (within_save hticket _).bind fun _ _ => ?_
  exact (within_recordEvent hids _).bind fun _ _ => Confined.pure True.intro

theorem within_applyAgentTicketUpdate (hids : T.ids = env.ids) {ticket : Row .ticket}
    (hticket : T.mine .ticket ticket.id) (actor : Option Nat)
    (priority : Option Tickets.TicketPriority) (status : Option Tickets.TicketStatus)
    (note : Option String) :
    Within T creator (fun _ => True)
      (applyAgentTicketUpdate env T.tenant ticket actor priority status note) := by
  unfold applyAgentTicketUpdate
  refine Tenancy.confined_atomic ?_
  dsimp only
  split
  · exact (within_save hticket _).bind fun _ _ => Confined.pure True.intro
  · split
    · exact Confined.raise
    · exact within_changeStatus hids hticket _ actor _

theorem within_createOrReuseNotificationDelivery (hids : T.ids = env.ids)
    {execution : Row .toolExecution} (hexecution : T.mine .toolExecution execution.id)
    (recipientEmail subject body : String) :
    Within T creator (fun _ => True)
      (createOrReuseNotificationDelivery env T.tenant execution recipientEmail subject body) := by
  unfold createOrReuseNotificationDelivery
  dsimp only
  split
  · exact Confined.pure True.intro
  · refine (within_createDelivery hids _).bind fun delivery _ => ?_
    split
    · exact Confined.raise
    · exact (Tenancy.confined_update hexecution _).bind fun _ _ => Confined.pure True.intro

/-! ### The handlers of the tools -/

section

variable {context : ToolExecutionContext}

theorem within_customerLookup (hworkspace : context.workspace = T.tenant)
    (arguments : Arguments) :
    Within T creator (fun _ => True) (customerLookupHandler env context arguments) := by
  have hfind : Within T creator (fun _ => True) (findCustomer env context arguments) := by
    unfold findCustomer customerGetByIdForWorkspace
    rw [hworkspace]
    split_ifs
    · exact (within_getByIdForWorkspace .customer _).trivial
    · exact within_customerGetByEmail _
    · exact within_customerGetByExternalId _
  unfold customerLookupHandler
  refine hfind.bind fun found _ => ?_
  cases found with
  | none => exact Confined.raise
  | some customer => exact Confined.pure True.intro

/-- A call of a provider whose answer is the output. -/
theorem within_lookup (hworkspace : context.workspace = T.tenant) (provider : IntegrationProvider)
    (operation : String → Operation) (responds : Responds α) (output : α → JsonObject) :
    Within T creator (fun _ => True) (do
      let found ← providerCall env context.workspace context provider operation responds
      pure (output found)) := by
  rw [hworkspace]
  exact (within_providerCall context _ _ _).bind fun found _ => Confined.pure True.intro

theorem within_paymentRefund (hids : T.ids = env.ids) (hworkspace : context.workspace = T.tenant)
    (hactor : context.actorUser = creator) (arguments : Arguments) :
    Within T creator (fun _ => True) (paymentRefundHandler env context arguments) := by
  unfold paymentRefundHandler
  rw [hworkspace]
  refine (within_providerCall context _ _ _).bind fun refund _ => ?_
  refine (within_actor hactor).bind fun actor _ => ?_
  exact (within_recordEvent hids _).bind fun _ _ => Confined.pure True.intro

theorem within_calendarAvailability (hworkspace : context.workspace = T.tenant)
    (arguments : Arguments) :
    Within T creator (fun _ => True) (calendarAvailabilityHandler env context arguments) := by
  unfold calendarAvailabilityHandler
  rw [hworkspace]
  refine (within_withinSchedulingHorizon _).bind fun near _ => ?_
  split
  · exact Confined.raise
  · exact (within_providerCall context _ _ _).bind fun slots _ => Confined.pure True.intro

theorem within_calendarBooking (hworkspace : context.workspace = T.tenant)
    (arguments : Arguments) :
    Within T creator (fun _ => True) (calendarBookingHandler env context arguments) := by
  unfold calendarBookingHandler
  rw [hworkspace]
  refine (within_withinSchedulingHorizon _).bind fun near _ => ?_
  split_ifs
  · exact Confined.raise
  · exact Confined.raise
  · refine (within_requireCustomer _).bind fun customer _ => ?_
    exact (within_providerCall context _ _ _).bind fun booking _ => Confined.pure True.intro

theorem within_ticketCreate (hids : T.ids = env.ids) (hworkspace : context.workspace = T.tenant)
    (arguments : Arguments) :
    Within T creator (fun _ => True) (ticketCreateHandler env context arguments) := by
  unfold ticketCreateHandler
  rw [hworkspace]
  exact (within_requireCustomer _).bind fun customer _ => within_createTicket hids customer _ _ _

theorem within_ticketUpdate (hids : T.ids = env.ids) (hworkspace : context.workspace = T.tenant)
    (hactor : context.actorUser = creator) (arguments : Arguments) :
    Within T creator (fun _ => True) (ticketUpdateHandler env context arguments) := by
  unfold ticketUpdateHandler ticketGetByIdForWorkspace
  rw [hworkspace]
  refine (within_getByIdForWorkspace .ticket _).bind fun found hfound => ?_
  cases found with
  | none => exact Confined.raise
  | some ticket =>
    refine (within_actor hactor).bind fun actor _ => ?_
    have hupdate : ∀ priority status note, Within T creator (fun _ => True)
        (applyAgentTicketUpdate env T.tenant ticket actor priority status note) :=
      within_applyAgentTicketUpdate hids (hfound ticket rfl).1 actor
    refine ((hupdate _ _ _).handle fun e => ?_).bind fun updated _ => Confined.pure True.intro
    cases e <;> exact Confined.raise

theorem within_notificationSend (hids : T.ids = env.ids)
    (hworkspace : context.workspace = T.tenant)
    (hexecution : T.mine .toolExecution context.toolExecution) (arguments : Arguments) :
    Within T creator (fun _ => True) (notificationSendHandler env context arguments) := by
  unfold notificationSendHandler
  rw [hworkspace]
  split_ifs
  · exact Confined.raise
  · exact Confined.raise
  · refine (within_requireCustomer _).bind fun customer _ => ?_
    dsimp only
    split
    · exact Confined.raise
    · refine (within_requireUsableConnection _).bind fun _ _ => ?_
      refine (within_getRow hexecution).bind fun execution hrow => ?_
      have hmine : T.mine .toolExecution execution.id := hrow.1 ▸ hexecution
      exact (within_createOrReuseNotificationDelivery hids hmine _ _ _).bind fun _ _ =>
        Confined.pure True.intro

/-- The handler of every tool stays within the workspace. -/
theorem within_handler (hids : T.ids = env.ids) (hworkspace : context.workspace = T.tenant)
    (hactor : context.actorUser = creator)
    (hexecution : T.mine .toolExecution context.toolExecution) (arguments : Arguments)
    (tool : BusinessTool) :
    Within T creator (fun _ => True) (tool.handler env context arguments) := by
  cases tool with
  | customerLookup => exact within_customerLookup hworkspace arguments
  | orderLookup | shipmentLookup | paymentLookup => exact within_lookup hworkspace _ _ _ _
  | paymentRefund => exact within_paymentRefund hids hworkspace hactor arguments
  | calendarAvailability => exact within_calendarAvailability hworkspace arguments
  | calendarBooking => exact within_calendarBooking hworkspace arguments
  | ticketCreate => exact within_ticketCreate hids hworkspace arguments
  | ticketUpdate => exact within_ticketUpdate hids hworkspace hactor arguments
  | notificationSend => exact within_notificationSend hids hworkspace hexecution arguments

end

end Handlers

/-! ## The executor -/

/-- The run belongs to the workspace, with its version, and was created by the user. -/
structure RunOf (T : Tenancy Nat Nat Kind) (creator : Option Nat) (run : RunObject) : Prop where
  workspace : run.workspace = T.tenant
  row : T.mine .agentRun run.pk
  version : T.mine .agentVersion run.version
  createdBy : run.createdBy = creator

section Execution

variable {α : Type} {env : Environment} {T : Tenancy Nat Nat Kind} {creator : Option Nat}
  {tool : BusinessTool} {run : RunObject}

theorem within_refuse {post : α → Prop} (cls : ToolErrorClass) (message : String) :
    Within T creator post (refuse cls message) :=
  Confined.raise

theorem within_effectiveTimeout (version : AgentVersion) (binding : ToolBinding) :
    Within T creator (fun _ => True) (effectiveTimeout env tool run version binding) := by
  have hcandidate : Within T creator (fun _ => True) (candidateTimeout env tool binding) := by
    unfold candidateTimeout
    split
    · exact Confined.pure True.intro
    · split
      · exact Confined.pure True.intro
      · exact Confined.raise
  have hfinite : ∀ x, Within T creator (fun _ => True) (finite x) := by
    intro x
    unfold finite
    split
    · exact Confined.pure True.intro
    · exact Confined.raise
  unfold effectiveTimeout
  refine hcandidate.bind fun candidate _ => ?_
  dsimp only
  split
  · exact hfinite _
  · refine within_now.bind fun now _ => ?_
    split
    · exact Confined.pure True.intro
    · exact hfinite _

theorem within_requireBinding (definition : ToolDefinition) (version : VersionRow) :
    Within T creator (fun _ => True) (requireBinding definition version) := by
  unfold requireBinding
  dsimp only
  split
  · exact Confined.pure True.intro
  · split
    · exact within_refuse _ _
    · exact within_refuse _ _

theorem within_liveToolCallCount (hrun : T.mine .agentRun run.pk) :
    Within T creator (fun _ => True) (liveToolCallCount run) := by
  unfold liveToolCallCount
  refine (Tenancy.confined_get hrun).bind fun found _ => ?_
  cases found <;> exact Confined.pure True.intro

theorem within_findDefinition :
    Within T creator (fun _ => True) (findDefinition tool) := by
  refine Tenancy.confined_access fun {x y} h => ?_
  exact ⟨h, (worldBoundary creator).keeps_refl x, by rw [h.1], fun _ _ => True.intro⟩

theorem within_checkCall (hrun : RunOf T creator run) (arguments : JsonObject)
    (idempotencyKey : String) :
    Within T creator (fun _ => True) (checkCall env tool run arguments idempotencyKey) := by
  unfold checkCall
  refine (within_getRow hrun.version).bind fun version _ => ?_
  refine (within_recordStep hrun.row _ _ _ _).bind fun _ _ => ?_
  split
  · exact within_refuse _ _
  refine within_findDefinition.bind fun definition _ => ?_
  split
  · exact within_refuse _ _
  refine (within_requireBinding _ _).bind fun binding _ => ?_
  refine (within_liveToolCallCount hrun.row).bind fun count _ => ?_
  split_ifs
  · exact within_refuse _ _
  · exact within_refuse _ _
  · exact within_refuse _ _
  split
  · exact (within_recordStep hrun.row _ _ _ _).bind fun _ _ => within_refuse _ _
  refine (within_effectiveTimeout _ binding).bind fun timeoutSeconds _ => ?_
  split
  · exact within_refuse _ _
  · exact Confined.pure True.intro

/-- The keys that a claim hands on are those of the workspace. -/
def Claimed.Mine (T : Tenancy Nat Nat Kind) : Claimed → Prop
  | .reused pk _ => T.mine .toolExecution pk
  | .waiting => True
  | .execute pk _ => T.mine .toolExecution pk

theorem within_resolveRow {existing : Row .toolExecution}
    (hexisting : T.mine .toolExecution existing.id) (fingerprint : String) :
    Within T creator (Claimed.Mine T) (resolveRow tool existing fingerprint) := by
  unfold resolveRow
  dsimp only
  split
  · exact Confined.raise
  · exact Confined.pure True.intro
  · exact Confined.pure hexisting
  · exact (Tenancy.confined_update hexisting _).bind fun _ _ => Confined.pure hexisting

theorem within_findExecution (hworkspace : run.workspace = T.tenant) (idempotencyKey : String) :
    Within T creator (fun found => ∀ row ∈ found, T.mine .toolExecution row.id)
      (findExecution tool run idempotencyKey) := by
  unfold findExecution
  split
  · exact Confined.pure fun row hrow => by cases hrow
  · rw [hworkspace]
    refine (within_parameter idempotencyKey).bind fun _ _ => ?_
    exact (Tenancy.confined_newest _ _).mono fun found hfound row hrow => (hfound row hrow).1

theorem within_claimExecution (hids : T.ids = env.ids) (hworkspace : run.workspace = T.tenant)
    (call : CheckedCall) (idempotencyKey fingerprint : String) (argumentsRedacted : JsonObject) :
    Within T creator (Claimed.Mine T)
      (claimExecution env tool run call idempotencyKey fingerprint argumentsRedacted) := by
  unfold claimExecution
  refine Tenancy.confined_atomic ?_
  refine (within_findExecution hworkspace idempotencyKey).bind fun found hfound => ?_
  cases found with
  | some existing => exact within_resolveRow (hfound existing rfl) fingerprint
  | none =>
    dsimp only
    rw [hworkspace]
    exact (within_create hids .toolExecution _).bind fun pk hpk => Confined.pure hpk

/-! ### The policy gate -/

theorem within_resolveActiveVersion :
    Within T creator (fun _ => True) (resolveActiveVersion T.tenant) := by
  unfold resolveActiveVersion
  refine (Tenancy.confined_newest _ _).bind fun found _ => ?_
  cases found <;> exact Confined.pure True.intro

theorem within_announceRequest (hids : T.ids = env.ids) (pk : Nat) (approval : ApprovalRequest)
    (view : Approvals.RequestView) :
    Within T creator (fun _ => True) (announceRequest env tool run T.tenant pk approval view) := by
  unfold announceRequest
  exact (within_recordEvent hids _).bind fun _ _ => within_emitEvent hids _ _

theorem within_evaluateRow (hids : T.ids = env.ids) {execution : Row .toolExecution}
    (hpk : T.mine .toolExecution execution.id) (htenant : execution.tenant = T.tenant)
    (risk : RiskAssessment) (arguments : JsonObject) :
    Within T creator (fun _ => True) (evaluateRow env tool run execution risk arguments) := by
  unfold evaluateRow
  rw [htenant]
  refine within_resolveActiveVersion.bind fun active _ => ?_
  refine (within_getRow hpk).bind fun locked _ => ?_
  refine within_now.bind fun now _ => ?_
  dsimp only
  split
  · exact Confined.raise
  · exact within_refuse _ _
  · refine (within_save hpk _).bind fun _ _ => ?_
    split
    · exact Confined.pure True.intro
    · exact (within_announceRequest hids _ _ _).bind fun _ _ => Confined.pure True.intro

theorem within_recordDecision (hrun : T.mine .agentRun run.pk) (outcome : PolicyOutcome) :
    Within T creator (fun _ => True) (recordDecision env tool run outcome) := by
  cases outcome with
  | allow | evaluationFailed | deny => exact within_recordStep hrun _ _ _ _
  | requireApproval =>
    exact (within_recordStep hrun _ _ _ _).bind fun _ _ => within_recordStep hrun _ _ _ _

theorem within_passGate (hids : T.ids = env.ids) (hrun : T.mine .agentRun run.pk) {pk : Nat}
    (hpk : T.mine .toolExecution pk) (definition : ToolDefinition) (arguments : JsonObject) :
    Within T creator (fun _ => True) (passGate env tool run pk definition arguments) := by
  unfold passGate
  refine (within_getRow hpk).bind fun execution hexecution => ?_
  dsimp only
  split
  · exact Confined.pure True.intro
  have hmine : T.mine .toolExecution execution.id := hexecution.1 ▸ hpk
  refine (within_recordStep hrun _ _ _ _).bind fun _ _ => ?_
  refine (Tenancy.confined_atomic (within_evaluateRow hids hmine hexecution.2 _ _)).bind
    fun decided _ => ?_
  refine (within_recordDecision hrun decided.1).bind fun _ _ => ?_
  split
  · exact Confined.pure True.intro
  · exact Confined.raise

/-! ### Transitions, attempts and finalizers -/

theorem within_startExecution {pk : Nat} (hpk : T.mine .toolExecution pk) :
    Within T creator (fun _ => True) (startExecution env pk) := by
  unfold startExecution
  refine Tenancy.confined_atomic ?_
  refine (within_getRow hpk).bind fun locked _ => within_now.bind fun now _ => ?_
  split
  · exact Confined.raise
  · exact Tenancy.confined_update hpk _

theorem within_reserveSlot (hrun : T.mine .agentRun run.pk) (maxToolCalls : Nat) :
    Within T creator (fun _ => True) (reserveSlot run maxToolCalls) := by
  unfold reserveSlot
  refine Tenancy.confined_atomic ?_
  refine (Tenancy.confined_get hrun).bind fun found _ => ?_
  split
  · exact Confined.pure True.intro
  · dsimp only
    split
    · exact Confined.pure True.intro
    · exact (Tenancy.confined_update hrun _).bind fun _ _ => Confined.pure True.intro

theorem within_finalizeRow {pk : Nat} (hpk : T.mine .toolExecution pk) (exit : CallExit) :
    Within T creator (fun _ => True) (finalizeRow env pk exit) := by
  unfold finalizeRow
  refine Tenancy.confined_atomic ?_
  refine (within_getRow hpk).bind fun locked _ => within_now.bind fun now _ => ?_
  split
  · exact Confined.pure True.intro
  · exact Confined.raise
  · exact Tenancy.confined_update hpk _

theorem within_leave (hrun : T.mine .agentRun run.pk) {pk : Nat}
    (hpk : T.mine .toolExecution pk) (attemptCount : Nat) (exit : CallExit) :
    Within T creator (fun _ => True) (leave env tool run pk attemptCount exit) := by
  cases exit with
  | success output =>
    refine (within_finalizeRow hpk _).bind fun _ _ => ?_
    exact (within_recordStep hrun _ _ _ _).bind fun _ _ => Confined.pure True.intro
  | failure status code message e =>
    refine (within_finalizeRow hpk _).bind fun _ _ => ?_
    exact (within_recordStep hrun _ _ _ _).bind fun _ _ => Confined.raise
  | raised e => exact Confined.raise
  | uncaught => exact Confined.raise

theorem within_invoke {handler : Statement JsonObject}
    (hhandler : Within T creator (fun _ => True) handler) (deadline : Option Nat) :
    Within T creator (Within T creator fun _ => True) (invoke deadline handler) := by
  unfold invoke
  split
  · exact hhandler.limit _
  · exact hhandler.outcome.bind fun result _ => Confined.pure (Confined.done fun _ _ => True.intro)

/-- A handler that is left over is still within the workspace. -/
theorem within_runRow {pk : Nat} (hpk : T.mine .toolExecution pk)
    {handler : Statement JsonObject} (hhandler : Within T creator (fun _ => True) handler)
    (attemptCount : Nat) :
    Within T creator (fun attempted => Within T creator (fun _ => True) attempted.handler)
      (runRow env tool pk handler attemptCount) := by
  induction attemptCount using runRow.induct tool with
  | case1 attemptCount hle =>
    rw [runRow, if_pos hle]
    exact Confined.pure Confined.raise
  | case2 attemptCount hle ih =>
    rw [runRow, if_neg hle]
    refine (Tenancy.confined_update hpk _).bind fun _ _ => ?_
    refine (within_invoke hhandler _).bind fun left hleft => ?_
    split
    · exact ih
    · exact Confined.pure hleft
    · exact Confined.pure hleft

/-! ### `execute_tool` -/

theorem within_performCall (hids : T.ids = env.ids) (hrun : RunOf T creator run)
    (call : CheckedCall) (arguments : JsonObject) {pk : Nat} (hpk : T.mine .toolExecution pk)
    (execution : ToolExecution) :
    Within T creator (fun _ => True) (performCall env tool run call arguments pk execution) := by
  unfold performCall
  refine (within_passGate hids hrun.row hpk _ _).bind fun _ _ => ?_
  refine (within_startExecution hpk).bind fun _ _ => ?_
  refine (within_reserveSlot hrun.row _).bind fun reserved _ => ?_
  split
  · exact within_leave hrun.row hpk _ _
  refine (within_recordStep hrun.row _ _ _ _).bind fun _ _ => within_now.bind fun now _ => ?_
  refine (within_runRow hpk (within_handler hids hrun.workspace hrun.createdBy hpk _ tool)
    _).bind fun attempted hleft => ?_
  exact hleft.interleave _ (within_leave hrun.row hpk _ _)

/-- A tool call stays within the workspace of its run. -/
theorem within_executeTool (hids : T.ids = env.ids) (hrun : RunOf T creator run)
    (arguments : JsonObject) (idempotencyKey : String) :
    Within T creator (fun _ => True) (executeTool env tool run arguments idempotencyKey) := by
  unfold executeTool
  refine (within_checkCall hrun arguments idempotencyKey).bind fun call _ => ?_
  refine (within_claimExecution hids hrun.workspace call _ _ _).bind fun claimed hclaimed => ?_
  cases claimed with
  | reused pk existing =>
    dsimp only
    split
    · exact (within_recordStep hrun.row _ _ _ _).bind fun _ _ => Confined.pure True.intro
    · exact Confined.raise
  | waiting => exact within_refuse _ _
  | execute pk execution => exact within_performCall hids hrun call _ hclaimed execution

end Execution

end SupportPilot.BusinessTools
