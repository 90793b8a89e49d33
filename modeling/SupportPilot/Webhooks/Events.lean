import SupportPilot.Agents.Models
import SupportPilot.Approvals.Services
import SupportPilot.Library.Processes
import SupportPilot.Notifications.Services
import SupportPilot.Tools.Execution

/-!
# Webhook events and the transactions that emit them

An event is emitted inside the transaction of the change that it reports, and fanned out to the
endpoints that are committed at that moment. Each transaction below takes its statements one at a
time, and between two of them other transactions commit. What it has written is seen by nobody
before its commit, so its rows get their numbers there; a rollback releases its locks.
-/

namespace SupportPilot.Webhooks

open Library Notifications

inductive WebhookEventType
  | approvalRequested
  | approvalApproved
  | approvalRejected
  | approvalExpired
  | handoffCreated
  deriving DecidableEq, Repr

/-- The columns of an endpoint that the fan-out reads. -/
structure SubscribedEndpoint where
  workspace : Nat
  active : Bool := true
  subscribedEventTypes : List WebhookEventType
  deriving DecidableEq, Repr

/-- The `data` of an event. An approval request has the number of its execution. -/
inductive EventData
  | requested (approvalId : Nat) (toolKey riskLevel requiredRole summary : String)
    (expiresAt : Nat)
  | decided (approvalId : Nat) (requiredRole : String) (decidedAt : Nat)
  | expired (approvalId : Nat) (requiredRole : String) (expiredAt : Nat)
  | handoff (handoffId conversationId : Nat) (reasonCode summary : String)
  deriving DecidableEq, Repr

/-- The row that the event is about. -/
def EventData.subject : EventData → Nat
  | requested approvalId .. => approvalId
  | decided approvalId .. => approvalId
  | expired approvalId .. => approvalId
  | handoff handoffId .. => handoffId

structure WebhookEvent where
  workspace : Nat
  eventType : WebhookEventType
  version : Nat := 1
  payloadSnapshot : EventData
  deriving DecidableEq, Repr

structure WebhookDelivery where
  delivery : Nat
  workspace : Nat
  endpoint : Nat
  event : Nat
  deriving DecidableEq, Repr

/-- A committed event, with the endpoints as they were when it was emitted. The code stores only
the first. -/
structure Emission where
  event : WebhookEvent
  endpoints : List SubscribedEndpoint
  deriving DecidableEq, Repr

/-- A row that a transaction has locked, or the slot of a unique constraint that it has filled. -/
inductive LockKey
  | approval (execution : Nat)
  | handoff (h : Nat)
  | activeHandoff (conversation : Nat)
  deriving DecidableEq, Repr

/-- The committed tables and the locks of the open transactions. Conversations and runs are given
by their workspaces. -/
structure EventStore where
  executions : List ToolExecution := []
  conversations : List Nat := []
  agentRuns : List Nat := []
  handoffs : List HumanHandoff := []
  endpoints : List SubscribedEndpoint := []
  emissions : List Emission := []
  deliveries : List Delivery := []
  webhookDeliveries : List WebhookDelivery := []
  locks : List (LockKey × Nat) := []
  deriving DecidableEq, Repr

namespace EventStore

def Free (s : EventStore) (key : LockKey) : Prop := ∀ x ∈ s.locks, x.1 ≠ key

instance (s : EventStore) (key : LockKey) : Decidable (s.Free key) :=
  inferInstanceAs (Decidable (∀ x ∈ s.locks, x.1 ≠ key))

def acquire (s : EventStore) (key : LockKey) (i : Nat) : EventStore :=
  { s with locks := (key, i) :: s.locks }

def release (s : EventStore) (i : Nat) : EventStore :=
  { s with locks := s.locks.filter (·.2 ≠ i) }

/-! ## The fan-out -/

/-- `active_endpoints_subscribed_to`, newest first. -/
def activeEndpointsSubscribedTo (endpoints : List SubscribedEndpoint) (workspace : Nat)
    (eventType : WebhookEventType) : List Nat :=
  (List.range endpoints.length).reverse.filter fun p =>
    (endpoints[p]?).any fun endpoint =>
      endpoint.workspace = workspace && endpoint.active &&
        endpoint.subscribedEventTypes.contains eventType

/-- One endpoint of the loop of `emit_event`. The unique constraint on endpoint and event refuses
a second row, and the delivery of the refused one stays. -/
def deliverTo (cfg : DeliverySettings) (s : EventStore) (workspace event p : Nat) (now : Int) :
    Except DeliveryError EventStore := do
  let (engine, delivery) ← Notifications.Store.createDelivery cfg { deliveries := s.deliveries }
    workspace .webhook none now
  let created : EventStore := { s with deliveries := engine.deliveries }
  if s.webhookDeliveries.any fun row => row.endpoint = p && row.event = event then
    return created
  else
    return { created with
      webhookDeliveries := s.webhookDeliveries ++ [⟨delivery, workspace, p, event⟩] }

/-- The loop of `emit_event`. -/
def fanOut (cfg : DeliverySettings) (workspace event : Nat) (now : Int) :
    List Nat → EventStore → Except DeliveryError EventStore
  | [], s => .ok s
  | p :: rest, s => do
    let s ← s.deliverTo cfg workspace event p now
    fanOut cfg workspace event now rest s

/-- `emit_event`, given the endpoints at the moment of its query. -/
def emitEvent (cfg : DeliverySettings) (s : EventStore) (event : WebhookEvent)
    (endpoints : List SubscribedEndpoint) (now : Int) : Except DeliveryError EventStore :=
  fanOut cfg event.workspace s.emissions.length now
    (activeEndpointsSubscribedTo endpoints event.workspace event.eventType)
    { s with emissions := s.emissions ++ [⟨event, endpoints⟩] }

end EventStore

/-! ## Transactions -/

/-- A call that may change an approval request or a handoff. The caller's own transaction goes
around the request and the cancellation of an approval, and around a handoff. -/
inductive DomainCall
  | requestApproval (execution : Nat) (createdBy : Option Nat) (requiredRole toolKey riskLevel
      summary : String) (ttlSeconds : Nat)
  | decideApproval (workspace approval actor : Nat) (actorRole : String)
      (decision : ApprovalDecisionValue)
  | expireStaleApproval (approval : Nat)
  | cancelApproval (execution : Nat)
  | createOrReuseHandoff (workspace conversation agentRun : Nat) (reasonCode safeSummary : String)
  deriving DecidableEq, Repr

/-- What a transaction has written and not committed. -/
inductive Change
  | requested (workspace execution : Nat) (approval : ApprovalRequest)
      (toolKey riskLevel summary : String)
  | decided (workspace execution : Nat) (approval : ApprovalRequest) (actor : Nat)
      (decision : ApprovalDecisionValue) (now : Nat)
  | expired (workspace execution : Nat) (approval : ApprovalRequest) (now : Nat)
  | cancelled (execution now : Nat)
  | handedOff (workspace : Nat) (handoff : HumanHandoff)
  deriving DecidableEq, Repr

/-- Where a transaction is. One that is `reusing` has nothing to write. -/
inductive DomainPoint
  | called
  | inserting
  | conflicted
  | reusing
  | changed (change : Change)
  | emitted (change : Change) (endpoints : List SubscribedEndpoint)
  | ended
  deriving DecidableEq, Repr

structure DomainTransaction where
  call : DomainCall
  point : DomainPoint := .called
  deriving DecidableEq, Repr

/-- The event type of a decision. -/
def decisionEventType : ApprovalDecisionValue → WebhookEventType
  | .approve => .approvalApproved
  | .reject => .approvalRejected

/-- The event that a change emits; the handoff gets the given number. -/
def Change.event (h : Nat) : Change → Option WebhookEvent
  | .requested workspace execution approval toolKey riskLevel summary =>
    some {
      workspace := workspace
      eventType := .approvalRequested
      payloadSnapshot := .requested execution toolKey riskLevel approval.requiredRole summary
        approval.expiresAt }
  | .decided workspace execution approval _ decision now =>
    some {
      workspace := workspace
      eventType := decisionEventType decision
      payloadSnapshot := .decided execution approval.requiredRole now }
  | .expired workspace execution approval now =>
    some {
      workspace := workspace
      eventType := .approvalExpired
      payloadSnapshot := .expired execution approval.requiredRole now }
  | .cancelled _ _ => none
  | .handedOff workspace handoff =>
    some {
      workspace := workspace
      eventType := .handoffCreated
      payloadSnapshot := .handoff h handoff.conversation handoff.reasonCode handoff.safeSummary }

namespace EventStore

/-- The active handoff of a conversation. -/
def activeHandoff (s : EventStore) (conversation : Nat) : Option Nat :=
  s.handoffs.findIdx? fun h => h.conversation = conversation && h.status.active

/-- The start of `_run_policy_gate`'s call of `create_or_reuse_approval_request`. -/
def findApproval (s : EventStore) (k : Nat) : Option DomainPoint :=
  (s.executions[k]?).map fun execution =>
    if execution.approvalRequest.isSome then .reusing else .inserting

/-- The INSERT of an approval request: the one-to-one column refuses a second one, and it waits
for a transaction that has inserted one and not committed it. -/
def insertApproval (s : EventStore) (i k : Nat) (createdBy : Option Nat)
    (requiredRole toolKey riskLevel summary : String) (ttlSeconds now : Nat) :
    Option (EventStore × DomainPoint) :=
  (s.executions[k]?).bind fun execution =>
    if execution.approvalRequest.isSome then some (s.release i, .ended)
    else if s.Free (.approval k) then
      match createOrReuseApprovalRequest execution createdBy requiredRole ttlSeconds now with
      | .error _ => some (s.release i, .ended)
      | .ok row => row.approvalRequest.map fun approval =>
        (s.acquire (.approval k) i,
          .changed (.requested execution.workspace k approval toolKey riskLevel summary))
    else none

/-- The lookup of the view, the row lock and the branches of `decide_approval`. -/
def lockAndDecide (s : EventStore) (i workspace k actor : Nat) (actorRole : String)
    (decision : ApprovalDecisionValue) (checkedAt now : Nat) :
    Option (EventStore × DomainPoint) :=
  (s.executions[k]?).bind fun execution =>
    match execution.approvalRequest with
    | none => some (s, .ended)
    | some approval =>
      if execution.workspace ≠ workspace then some (s, .ended)
      else if s.Free (.approval k) then
        let locked := s.acquire (.approval k) i
        match decideApproval execution approval actor actorRole decision checkedAt now with
        | .expired _ => some (locked, .changed (.expired execution.workspace k approval now))
        | .decided _ => some (locked, .changed (.decided workspace k approval actor decision now))
        | .replayed | .refused _ => some (locked, .reusing)
      else none

/-- One row of `expire_stale_approvals`. -/
def lockAndExpire (s : EventStore) (i k checkedAt now : Nat) : Option (EventStore × DomainPoint) :=
  (s.executions[k]?).bind fun execution =>
    execution.approvalRequest.bind fun approval =>
      if s.Free (.approval k) then
        let locked := s.acquire (.approval k) i
        match expireStaleApproval execution approval checkedAt now with
        | some _ => some (locked, .changed (.expired execution.workspace k approval now))
        | none => some (locked, .reusing)
      else none

/-- `cancel_approval_for_execution` -/
def lockAndCancel (s : EventStore) (i k now : Nat) : Option (EventStore × DomainPoint) :=
  (s.executions[k]?).bind fun execution =>
    match execution.approvalRequest with
    | none => some (s, .reusing)
    | some approval =>
      if s.Free (.approval k) then
        let locked := s.acquire (.approval k) i
        if approval.status ≠ .pending then some (locked, .reusing)
        else some (locked, .changed (.cancelled k now))
      else none

/-- The checks and the locking query of `create_or_reuse_handoff`. -/
def findHandoff (s : EventStore) (i workspace conversation agentRun : Nat) :
    Option (EventStore × DomainPoint) :=
  if s.conversations[conversation]? ≠ some workspace ∨ s.agentRuns[agentRun]? ≠ some workspace then
    some (s, .ended)
  else match s.activeHandoff conversation with
    | some h => if s.Free (.handoff h) then some (s.acquire (.handoff h) i, .reusing) else none
    | none => some (s, .inserting)

/-- The INSERT of a handoff: the partial unique constraint refuses it while the conversation has an
active one, and it waits for a transaction that has inserted one and not committed it. -/
def insertHandoff (s : EventStore) (i workspace conversation agentRun : Nat)
    (reasonCode safeSummary : String) : Option (EventStore × DomainPoint) :=
  if (s.activeHandoff conversation).isSome then some (s, .conflicted)
  else if s.Free (.activeHandoff conversation) then
    let handoff : HumanHandoff := { conversation, agentRun, reasonCode, safeSummary }
    some (s.acquire (.activeHandoff conversation) i, .changed (.handedOff workspace handoff))
  else none

/-- The second query, after a lost race: without an active handoff it raises. -/
def rereadHandoff (s : EventStore) (i conversation : Nat) : EventStore × DomainPoint :=
  if (s.activeHandoff conversation).isSome then (s, .reusing) else (s.release i, .ended)

/-- A write of an execution at the commit. Its row is the current one: the statement that locks it
is one of the last. -/
def writeExecution (s : EventStore) (k : Nat) (f : ToolExecution → Option ToolExecution) :
    Option EventStore :=
  (s.executions[k]?).bind fun execution => (f execution).map fun row =>
    { s with executions := s.executions.set k row }

/-- The rows of a change become visible. -/
def applyChange (s : EventStore) : Change → Option EventStore
  | .requested _ k approval _ _ _ => s.writeExecution k fun execution =>
    (transitionWaitingForApproval { execution with approvalRequest := some approval }).toOption
  | .decided _ k approval actor decision now =>
    s.writeExecution k fun execution => some (recordDecision execution approval actor decision now)
  | .expired _ k approval now =>
    s.writeExecution k fun execution => some (expire execution approval now)
  | .cancelled k now =>
    s.writeExecution k fun execution => some (cancelApprovalForExecution execution now)
  | .handedOff _ handoff => some { s with handoffs := s.handoffs ++ [handoff] }

/-- The commit of a transaction that has emitted the event of its change. -/
def commitEmitted (cfg : DeliverySettings) (s : EventStore) (i : Nat) (change : Change)
    (endpoints : List SubscribedEndpoint) (now : Int) : Option EventStore :=
  (s.applyChange change).bind fun changed =>
    (change.event s.handoffs.length).bind fun event =>
      ((changed.emitEvent cfg event endpoints now).toOption).map (·.release i)

/-- The commit of a transaction whose change has no event. -/
def commitSilent (s : EventStore) (i : Nat) (change : Change) : Option EventStore :=
  match change.event s.handoffs.length with
  | some _ => none
  | none => (s.applyChange change).map (·.release i)

end EventStore

/-! ## The system -/

/-- What other transactions commit, and the start of a call. -/
inductive DomainEvent
  | createExecution (row : ToolExecution)
  | writeExecution (k : Nat) (row : ToolExecution)
  | createConversation (workspace : Nat)
  | createRun (workspace : Nat)
  | writeHandoff (h : Nat) (status : HumanHandoffStatus) (assignedTo resolvedAt : Option Nat)
  | createEndpoint (workspace : Nat) (subscribedEventTypes : List WebhookEventType)
  | updateEndpoint (p : Nat) (subscribedEventTypes : List WebhookEventType)
  | setEndpointStatus (p : Nat) (active : Bool)
  | createDelivery (delivery : Delivery)
  | writeDelivery (d : Nat) (delivery : Delivery)
  | start (call : DomainCall)
  deriving DecidableEq

inductive DomainAction
  | query (checkedAt now : Nat)
  | overtaken
  | insert (now : Nat)
  | reread
  | emit
  | commit (now : Int)
  | rollback
  deriving DecidableEq, Repr

/-- Other writes of an execution keep its workspace and its approval request; the engine keeps the
workspace and the channel of a delivery, and the other producers do not create webhook
deliveries. -/
def domainEventStep : DomainEvent → EventStore → Option (EventStore × Option DomainTransaction)
  | .createExecution row, s =>
    if row.approvalRequest = none then
      some ({ s with executions := s.executions ++ [row] }, none)
    else none
  | .writeExecution k row, s =>
    (s.executions[k]?).bind fun execution =>
      if row.workspace = execution.workspace ∧ row.approvalRequest = execution.approvalRequest then
        some ({ s with executions := s.executions.set k row }, none)
      else none
  | .createConversation workspace, s =>
    some ({ s with conversations := s.conversations ++ [workspace] }, none)
  | .createRun workspace, s => some ({ s with agentRuns := s.agentRuns ++ [workspace] }, none)
  | .writeHandoff h status assignedTo resolvedAt, s =>
    (s.handoffs[h]?).bind fun row =>
      if s.Free (.handoff h) ∧ row.status.active then
        some ({ s with
          handoffs := s.handoffs.set h { row with status, assignedTo, resolvedAt } }, none)
      else none
  | .createEndpoint workspace subscribedEventTypes, s =>
    some ({ s with endpoints := s.endpoints ++ [{ workspace, subscribedEventTypes }] }, none)
  | .updateEndpoint p subscribedEventTypes, s =>
    (s.endpoints[p]?).map fun row =>
      ({ s with endpoints := s.endpoints.set p { row with subscribedEventTypes } }, none)
  | .setEndpointStatus p active, s =>
    (s.endpoints[p]?).map fun row =>
      ({ s with endpoints := s.endpoints.set p { row with active } }, none)
  | .createDelivery delivery, s =>
    if delivery.channel ≠ .webhook then
      some ({ s with deliveries := s.deliveries ++ [delivery] }, none)
    else none
  | .writeDelivery d delivery, s =>
    (s.deliveries[d]?).bind fun row =>
      if delivery.workspace = row.workspace ∧ delivery.channel = row.channel then
        some ({ s with deliveries := s.deliveries.set d delivery }, none)
      else none
  | .start call, s => some (s, some { call })

/-- The first statements of a call. -/
def queryStep (i : Nat) (call : DomainCall) (checkedAt now : Nat) (s : EventStore) :
    Option (EventStore × DomainPoint) :=
  match call with
  | .requestApproval execution .. => (s.findApproval execution).map (s, ·)
  | .decideApproval workspace approval actor actorRole decision =>
    s.lockAndDecide i workspace approval actor actorRole decision checkedAt now
  | .expireStaleApproval approval => s.lockAndExpire i approval checkedAt now
  | .cancelApproval execution => s.lockAndCancel i execution now
  | .createOrReuseHandoff workspace conversation agentRun _ _ =>
    s.findHandoff i workspace conversation agentRun

/-- The INSERT of a call. -/
def insertStep (i : Nat) (call : DomainCall) (now : Nat) (s : EventStore) :
    Option (EventStore × DomainPoint) :=
  match call with
  | .requestApproval execution createdBy requiredRole toolKey riskLevel summary ttlSeconds =>
    s.insertApproval i execution createdBy requiredRole toolKey riskLevel summary ttlSeconds now
  | .createOrReuseHandoff workspace conversation agentRun reasonCode safeSummary =>
    s.insertHandoff i workspace conversation agentRun reasonCode safeSummary
  | .decideApproval .. | .expireStaleApproval _ | .cancelApproval _ => none

/-- One statement of transaction `i`, which may roll back at any of them. A locking query that has
waited for a row which then leaves its filter is overtaken: it finds nothing. -/
def domainStep (cfg : DeliverySettings) (i : Nat) (a : DomainAction) (t : DomainTransaction)
    (s : EventStore) : Option (EventStore × DomainTransaction) :=
  let goTo (out : EventStore × DomainPoint) : EventStore × DomainTransaction :=
    (out.1, { t with point := out.2 })
  match a, t.point with
  | .query checkedAt now, .called => (queryStep i t.call checkedAt now s).map goTo
  | .overtaken, .called =>
    match t.call with
    | .createOrReuseHandoff workspace conversation agentRun _ _ =>
      if s.conversations[conversation]? = some workspace ∧
          s.agentRuns[agentRun]? = some workspace then some (goTo (s, .inserting))
      else none
    | _ => none
  | .insert now, .inserting => (insertStep i t.call now s).map goTo
  | .reread, .conflicted =>
    match t.call with
    | .createOrReuseHandoff _ conversation _ _ _ => some (goTo (s.rereadHandoff i conversation))
    | _ => none
  | .emit, .changed change =>
    if (change.event s.handoffs.length).isSome then some (goTo (s, .emitted change s.endpoints))
    else none
  | .commit _, .changed change => (s.commitSilent i change).map fun s => goTo (s, .ended)
  | .commit now, .emitted change endpoints =>
    (s.commitEmitted cfg i change endpoints now).map fun s => goTo (s, .ended)
  | .commit _, .reusing => some (goTo (s.release i, .ended))
  | .rollback, .ended => none
  | .rollback, _ => some (goTo (s.release i, .ended))
  | _, _ => none

/-- Domain transactions over empty tables. -/
def domainTransactions (cfg : DeliverySettings) :
    Program DomainEvent DomainAction DomainTransaction EventStore where
  initial s := s = {}
  env := domainEventStep
  work := domainStep cfg

end SupportPilot.Webhooks
