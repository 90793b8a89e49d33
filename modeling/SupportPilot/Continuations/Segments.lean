import SupportPilot.Agents.Graph
import SupportPilot.Agents.Services
import SupportPilot.Runtime.Worker
import Mathlib.Data.Rat.Floor

/-!
# From a tool call to the end of a segment

The contexts of the two segments with the tools that they offer and the clock that they start,
what the nodes of their graphs ask the outside, and how each segment settles its run.
-/

namespace SupportPilot

open Library

/-! ## Contexts -/

/-- A tool as the provider is told of it; the input schema is its JSON text. -/
structure ToolDescriptor where
  key : String
  displayName : String
  description : String
  inputSchema : String
  deriving DecidableEq, Repr

/-- A request to the provider, without the settings of the version and the messages that the
graph is given. -/
structure LLMRequest where
  toolResult : Option ToolResultContext
  tools : List ToolDescriptor
  deriving DecidableEq, Repr

/-- The context that `new_run_context` builds for a segment. -/
structure SegmentContext extends RunContext where
  segment : Segment
  hasConversation : Bool
  toolDescriptors : List ToolDescriptor := []
  startedMonotonic : Rat

/-- The context of `execute_claimed_agent_run`. -/
def claimedContext (agentVersion : AgentVersion) (run : Uuid) (hasConversation : Bool)
    (toolDescriptors : List ToolDescriptor) (startedMonotonic : Rat) : SegmentContext where
  toRunContext := mainContext agentVersion run
  segment := .main
  hasConversation := hasConversation
  toolDescriptors := toolDescriptors
  startedMonotonic := startedMonotonic

/-- The context of `_continue_run_after_resumed_tool`, which offers no tools. -/
def continuedContext (agentVersion : AgentVersion) (hasConversation : Bool)
    (startedMonotonic : Rat) : SegmentContext where
  toRunContext := resumedContext agentVersion
  segment := .resumed
  hasConversation := hasConversation
  startedMonotonic := startedMonotonic

/-! ## The outcome of a segment -/

/-- What becomes of the run at the end of a segment. -/
inductive RunOutcome
  | cancelled
  | handedOff (reasonCode summary : String)
  | budgetExceeded (reason : String)
  | waitingForApproval
  | failed (code message : String)
  | succeeded (finalResponse : String)
  | alreadyResumed
  deriving DecidableEq, Repr

/-- `_fail_or_handoff`. -/
def failOrHandoff (hasConversation : Bool) (code message : String) : RunOutcome :=
  match classifyTerminalFailure code hasConversation with
  | .handoff =>
    .handedOff "runtime_failure" ("Automated recovery after repeated " ++ code ++ ".")
  | .fail => .failed code (RunContext.orDefault message "The agent run failed.")

/-- How `_continue_run_after_resumed_tool` settles the run with the result of the graph. -/
def continuedOutcome (hasConversation : Bool) (state : RuntimeState) : RunOutcome :=
  match state.handoffRequest with
  | some request => .handedOff request.reasonCode request.summary
  | none =>
    if state.budgetExceeded then
      .budgetExceeded (RunContext.orDefault (state.budgetExceededReason.getD "") "unknown")
    else if state.safeErrorCode = some "approval_required" then .waitingForApproval
    else if truthy state.safeErrorCode then
      failOrHandoff hasConversation (state.safeErrorCode.getD "") (state.safeErrorMessage.getD "")
    else .succeeded state.finalResponse

/-- How `execute_claimed_agent_run` settles the run: it leaves a cancelled one as it is. -/
def claimedOutcome (hasConversation : Bool) (state : RuntimeState) : RunOutcome :=
  if state.cancelled then .cancelled else continuedOutcome hasConversation state

def SegmentContext.outcome (ctx : SegmentContext) : RuntimeState → RunOutcome :=
  match ctx.segment with
  | .main => claimedOutcome ctx.hasConversation
  | .resumed => continuedOutcome ctx.hasConversation

def internalErrorOutcome : RunOutcome :=
  .failed "agent_internal_error" "The agent run failed unexpectedly."

/-- What `resume_agent_run_after_approval` does with an error of the approved call. -/
def resumeErrorOutcome (e : ToolError) : RunOutcome :=
  if e.cls = .executionInProgress then .alreadyResumed else .failed e.code e.safeMessage

/-- The `execute_tool` of `_execute_tool_factory`, with the result of the call or its error. -/
def executeToolOutcome (toolName : String) : Except ToolError String → ToolOutcome
  | .ok output => .result ⟨toolName, .succeeded, output, none⟩
  | .error e =>
    if e.cls = .approvalRequired then .approvalRequired e.code e.safeMessage
    else if e.cls = .budgetExceeded then .budgetExceeded "max_tool_calls_reached"
    else if e.code ∈ Point.terminalToolCodes then .terminal e.code e.safeMessage
    else .result ⟨toolName, if e.cls = .policyDenied then .denied else .failed, "", some e.code⟩

/-! ## What the database keeps of a cost -/

/-- A decimal number in a `numeric(10, 4)` column: ties are rounded away from zero. Where the column
has no room for it, nothing is stored at all. -/
def columnNumber (q : Rat) : Rat :=
  if 0 ≤ q then (⌊q * 10000 + 1 / 2⌋ : Rat) / 10000
  else -((⌊-q * 10000 + 1 / 2⌋ : Rat) / 10000)

/-- What the next segment reads of a cost: `_apply_usage` stores `Decimal(str(cost))`, and
`_continue_run_after_resumed_tool` reads it with `float`. -/
def storedCost (cost : Binary64) : Binary64 :=
  match cost.toDecimal with
  | .finite q => .round (columnNumber q)
  | x => x

/-- The counters of a run as the next segment reads them. -/
def storedUsage (usage : RunUsage) : RunUsage :=
  { usage with estimatedCostUsd := usage.estimatedCostUsd.map storedCost }

/-! ## The outside -/

/-- What a segment meets outside after a tool call, node by node: the provider and the tools,
which may raise an exception that nobody expects, the cancellation of the run, the seconds since
the call ended and the validation of a handoff. Every error class of a provider has a code. -/
structure Surroundings where
  provider : Nat → LLMRequest → Option (Except ProviderError LLMResponse)
  executeTool : Nat → (toolName arguments idempotencyKey : String) →
    Option (Except ToolError String)
  cancelled : Nat → Bool
  elapsed : Nat → Rat
  requestHandoff : NormalizedHandoffRequest → HandoffValidation
  errorCode : ∀ n request e, provider n request = some (.error e) → e.code ≠ ""

/-- The call that `_execute_tool_call` hands to `execute_tool`. -/
def RunContext.executedCall (ctx : RunContext) (state : RuntimeState) (cancelled : Bool) :
    Option PendingToolCall :=
  if ctx.executeTool ∧ ctx.observesCancellation cancelled = false then
    state.pendingToolCall.filter fun call => !truthy call.normalizationError
  else none

/-- What a node shows to the outside. -/
inductive NodeEvent
  | nothing
  | cancelled
  | budgetChecked (result : BudgetCheckResult)
  | requested (request : LLMRequest)
  | executed (toolName arguments idempotencyKey : String)
  | handoffRequested (request : NormalizedHandoffRequest)
  | ended (outcome : RunOutcome)
  deriving DecidableEq, Repr

/-- What is seen of a node: what it shows and where the graph goes from there. -/
structure Sight where
  event : NodeEvent
  next : Node
  deriving DecidableEq, Repr

namespace SegmentContext

variable (ctx : SegmentContext) (called : Rat) (world : Surroundings) (n : Nat)

/-- `time.monotonic() - started_monotonic`, where the tool call ended at the time `called`. -/
def elapsed : Rat := Binary64.toPrecision (called + world.elapsed n - ctx.startedMonotonic)

def request (state : RuntimeState) : LLMRequest := ⟨state.toolResultSummary, ctx.toolDescriptors⟩

/-- The budget check of a node that observes no cancellation. -/
def budgetResult (state : RuntimeState) : BudgetCheckResult :=
  checkBudget ctx.budgets state.modelCallCount state.stepCount state.totalTokens
    (RunContext.budgetCost state) (ctx.elapsed called world n)

/-- What the outside tells a node. Where no tool or no handoff is asked for, the node does not
look at the outcome. -/
def answer (g : GraphRun) : Answer :=
  match g.node with
  | .checkBudget => .budget (world.cancelled n) (ctx.elapsed called world n)
  | .generateResponse =>
    match world.provider n (ctx.request g.state) with
    | some outcome => .provider outcome
    | none => .exception
  | .executeToolCall =>
    match ctx.executedCall g.state (world.cancelled n) with
    | none => .tool (world.cancelled n) (.budgetExceeded "")
    | some call =>
      match world.executeTool n call.toolName call.arguments call.idempotencyKey with
      | some result => .tool (world.cancelled n) (executeToolOutcome call.toolName result)
      | none => .exception
  | .executeHandoffRequest =>
    .handoff (world.cancelled n)
      (world.requestHandoff (g.state.pendingHandoffRequest.getD ⟨"", ""⟩))
  | _ => .nothing

/-- The next node with its state. A graph that is over stays as it is. -/
def advance (digest : String → String) (g : GraphRun) : GraphRun :=
  (ctx.graphStep digest (ctx.answer called world n g) g).getD g

def event (g : GraphRun) : NodeEvent :=
  match g.node with
  | .checkBudget =>
    if ctx.observesCancellation (world.cancelled n) then .cancelled
    else .budgetChecked (ctx.budgetResult called world n g.state)
  | .generateResponse =>
    if g.state.budgetExceeded then .nothing else .requested (ctx.request g.state)
  | .executeToolCall =>
    if g.state.pendingToolCall.isSome ∧ ctx.observesCancellation (world.cancelled n) then
      .cancelled
    else match ctx.executedCall g.state (world.cancelled n) with
    | none => .nothing
    | some call => .executed call.toolName call.arguments call.idempotencyKey
  | .executeHandoffRequest =>
    match g.state.pendingHandoffRequest with
    | none => .nothing
    | some request =>
      if ctx.observesCancellation (world.cancelled n) then .cancelled
      else .handoffRequested request
  | .finished => .ended (ctx.outcome g.state)
  | .raised => .ended internalErrorOutcome
  | _ => .nothing

def sight (digest : String → String) (g : GraphRun) : Sight :=
  ⟨ctx.event called world n g, (ctx.advance called world n digest g).node⟩

end SegmentContext

end SupportPilot
