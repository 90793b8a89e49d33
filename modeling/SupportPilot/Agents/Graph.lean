import SupportPilot.Agents.Models
import SupportPilot.Library.Decimals
import SupportPilot.Library.Identifiers
import SupportPilot.Library.Transition

/-!
# The bounded execution graph

The nodes and the routing of the graph that a run segment executes, as a transition system
over its runtime state. A label carries what the node is told from outside: whether the run
was cancelled, the time that passed, and the outcome of a provider, tool or handoff call.
-/

namespace SupportPilot

open Library

/-! ## Budgets -/

structure Budgets where
  maxModelCalls : Nat
  maxSteps : Nat
  wallTimeLimitSeconds : Nat
  maxTotalTokens : Option Nat
  maxEstimatedCostUsd : Option Rat
  maxRetryAttempts : Nat
  deriving DecidableEq, Repr

structure BudgetCheckResult where
  allowed : Bool
  reason : Option String := none
  deriving DecidableEq, Repr

/-- `check_budget`, with the seconds that passed since the segment started. The cost is a decimal
number. -/
def checkBudget (budgets : Budgets) (modelCallCount stepCount totalTokens : Nat)
    (estimatedCostUsd : Option Binary64) (elapsed : Rat) : BudgetCheckResult :=
  if budgets.maxModelCalls ≤ modelCallCount then ⟨false, "max_model_calls_reached"⟩
  else if budgets.maxSteps ≤ stepCount then ⟨false, "max_steps_reached"⟩
  else if (budgets.wallTimeLimitSeconds : Rat) ≤ elapsed then ⟨false, "wall_time_limit_reached"⟩
  else if budgets.maxTotalTokens.any (· ≤ totalTokens) then ⟨false, "max_total_tokens_reached"⟩
  else if budgets.maxEstimatedCostUsd.any fun limit =>
      estimatedCostUsd.any (Binary64.finite limit).le then
    ⟨false, "max_estimated_cost_reached"⟩
  else ⟨true, none⟩

/-- `_version_budgets`. -/
def versionBudgets (agentVersion : AgentVersion) : Budgets where
  maxModelCalls := agentVersion.maxModelCalls
  maxSteps := agentVersion.maxSteps
  wallTimeLimitSeconds := agentVersion.wallTimeLimitSeconds
  maxTotalTokens := agentVersion.maxTotalTokens
  maxEstimatedCostUsd := agentVersion.maxEstimatedCostUsd
  maxRetryAttempts := agentVersion.maxRetryAttempts

/-! ## Provider and tool outcomes -/

/-- A tool call proposed by the model. The arguments are their canonical JSON text, with
sorted keys and without spaces. -/
structure NormalizedToolCall where
  toolName : String
  arguments : String
  normalizationError : Option String := none
  deriving DecidableEq, Repr

structure NormalizedHandoffRequest where
  reasonCode : String
  summary : String
  deriving DecidableEq, Repr

structure LLMUsage where
  inputTokens : Nat := 0
  outputTokens : Nat := 0
  totalTokens : Nat := 0
  deriving DecidableEq, Repr

/-- The cost is a finite float. -/
structure LLMResponse where
  text : String := ""
  usage : LLMUsage := {}
  estimatedCostUsd : Option Rat := none
  toolCalls : List NormalizedToolCall := []
  handoffRequest : Option NormalizedHandoffRequest := none
  deriving DecidableEq, Repr

structure ProviderError where
  code : String
  safeMessage : String
  retryable : Bool
  deriving DecidableEq, Repr

inductive ToolResultStatus
  | succeeded
  | denied
  | failed
  deriving DecidableEq, Repr

/-- What `as_model_message` renders for the next model turn. -/
structure ToolResultContext where
  toolKey : String
  status : ToolResultStatus
  result : String := ""
  errorCode : Option String := none
  deriving DecidableEq, Repr

/-- The outcome dict of the bound `execute_tool`. -/
inductive ToolOutcome
  | approvalRequired (errorCode errorMessage : String)
  | budgetExceeded (budgetReason : String)
  | terminal (errorCode errorMessage : String)
  | result (modelResult : ToolResultContext)
  deriving DecidableEq, Repr

/-- The outcome dict of the bound `request_handoff`. -/
inductive HandoffValidation
  | ok (reasonCode summary : String)
  | refused (errorCode errorMessage : String)
  deriving DecidableEq, Repr

/-! ## State -/

structure PendingToolCall where
  toolName : String
  arguments : String
  normalizationError : Option String
  idempotencyKey : String
  deriving DecidableEq, Repr

structure RuntimeState extends RunUsage where
  attempt : Nat := 0
  finalResponse : String := ""
  budgetExceeded : Bool := false
  budgetExceededReason : Option String := none
  safeErrorCode : Option String := none
  safeErrorMessage : Option String := none
  retryableError : Bool := false
  cancelled : Bool := false
  pendingToolCall : Option PendingToolCall := none
  toolResultSummary : Option ToolResultContext := none
  pendingHandoffRequest : Option NormalizedHandoffRequest := none
  handoffRequest : Option NormalizedHandoffRequest := none
  deriving DecidableEq, Repr

def initialState : RuntimeState := {}

/-- `resume_state_after_tool`: the counters persisted by the pause, and the tool result. -/
def resumeStateAfterTool (usage : RunUsage) (toolResultSummary : ToolResultContext) :
    RuntimeState :=
  { toRunUsage := usage, toolResultSummary := some toolResultSummary }

/-- What the context of a segment binds; the callables are bound or absent. -/
structure RunContext where
  budgets : Budgets
  executeTool : Bool := false
  agentRunId : Option String := none
  isCancelled : Bool := false
  requestHandoff : Bool := false
  deriving DecidableEq, Repr

/-! ## Idempotency keys -/

/-- The text whose digest stands for a proposed call. -/
def digestText (toolName arguments : String) : String := toolName ++ ":" ++ arguments

/-- `agent_run_id or 'unknown'`. -/
def RunContext.keyOwner (ctx : RunContext) : String :=
  if ctx.agentRunId.getD "" = "" then "unknown" else ctx.agentRunId.getD ""

/-- The idempotency key of a call in a model turn. `digest` gives the first 24 hexadecimal
digits of the SHA-256 hash of a text. -/
def toolCallKey (digest : String → String) (owner : String) (modelTurn : Nat)
    (toolName arguments : String) : String :=
  "agent:" ++ owner ++ ":turn:" ++ toString modelTurn ++ ":" ++
    digest (digestText toolName arguments)

/-! ## Nodes -/

/-- A text that Python takes as true. -/
def truthy (text : Option String) : Bool := text.any (· ≠ "")

namespace RunContext

variable (ctx : RunContext) (state : RuntimeState)

def observesCancellation (cancelled : Bool) : Bool := ctx.isCancelled && cancelled

/-- The cost that `_check_budget` passes on: `Decimal(str(cost))`, and none for a cost of zero. -/
def budgetCost : Option Binary64 :=
  (state.estimatedCostUsd.filter (· ≠ .finite 0)).map Binary64.toDecimal

/-- `_check_budget`. -/
def checkBudgetNode (cancelled : Bool) (elapsed : Rat) : RuntimeState :=
  if ctx.observesCancellation cancelled then { state with cancelled := true }
  else
    let result := checkBudget ctx.budgets state.modelCallCount state.stepCount state.totalTokens
      (budgetCost state) elapsed
    if result.allowed then { state with stepCount := state.stepCount + 1 }
    else { state with
      stepCount := state.stepCount + 1
      budgetExceeded := true
      budgetExceededReason := result.reason }

@[simp] theorem checkBudgetNode_pendingToolCall (cancelled : Bool) (elapsed : Rat) :
    (ctx.checkBudgetNode state cancelled elapsed).pendingToolCall = state.pendingToolCall := by
  unfold checkBudgetNode
  split
  · rfl
  · dsimp only
    split <;> rfl

/-- The handoff request that the response makes, where handoffs are supported. -/
def handoffCall (response : LLMResponse) : Option NormalizedHandoffRequest :=
  if ctx.requestHandoff then response.handoffRequest else none

/-- Only the first proposed tool call counts, and none next to a handoff request. -/
def toolCall (response : LLMResponse) : Option NormalizedToolCall :=
  if (ctx.handoffCall response).isSome then none else response.toolCalls.head?

/-- `float(Decimal(str(prior or 0)) + Decimal(str(turn or 0)))` -/
def accumulatedCost (prior : Option Binary64) (turn : Option Rat) : Option Binary64 :=
  if prior.isSome ∨ turn.isSome then
    some (((prior.getD (.finite 0)).toDecimal.decimalAdd
      (Binary64.shortestDecimal (turn.getD 0))).nearest)
  else none

/-- `_generate_response` with the outcome of the provider call. -/
def generateResponse (digest : String → String) (outcome : Except ProviderError LLMResponse) :
    RuntimeState :=
  if state.budgetExceeded then state
  else match outcome with
  | .error e =>
    { state with
      modelCallCount := state.modelCallCount + 1
      stepCount := state.stepCount + 1
      attempt := state.attempt + 1
      safeErrorCode := some e.code
      safeErrorMessage := some e.safeMessage
      retryableError := e.retryable }
  | .ok response =>
    { state with
      modelCallCount := state.modelCallCount + 1
      stepCount := state.stepCount + 1
      attempt := state.attempt + 1
      inputTokens := state.inputTokens + response.usage.inputTokens
      outputTokens := state.outputTokens + response.usage.outputTokens
      totalTokens := state.totalTokens + response.usage.totalTokens
      estimatedCostUsd := accumulatedCost state.estimatedCostUsd response.estimatedCostUsd
      finalResponse := response.text
      safeErrorCode := none
      safeErrorMessage := none
      retryableError := false
      pendingToolCall := (ctx.toolCall response).map fun call =>
        ⟨call.toolName, call.arguments, call.normalizationError,
          toolCallKey digest ctx.keyOwner (state.modelCallCount + 1) call.toolName call.arguments⟩
      toolResultSummary := none
      pendingHandoffRequest := ctx.handoffCall response }

/-- A call that waits after the turn was proposed in it, without an error, and has its key. -/
theorem generateResponse_pendingToolCall (digest : String → String)
    (outcome : Except ProviderError LLMResponse) (hnone : state.pendingToolCall = none)
    {call : PendingToolCall}
    (h : (ctx.generateResponse state digest outcome).pendingToolCall = some call) :
    (ctx.generateResponse state digest outcome).safeErrorCode = none ∧
      (ctx.generateResponse state digest outcome).modelCallCount = state.modelCallCount + 1 ∧
      call.idempotencyKey = toolCallKey digest ctx.keyOwner (state.modelCallCount + 1)
        call.toolName call.arguments := by
  unfold generateResponse at h ⊢
  split at h
  · simp [hnone] at h
  · cases outcome with
    | error e => simp [hnone] at h
    | ok response =>
      obtain ⟨proposed, -, rfl⟩ := Option.map_eq_some_iff.mp h
      rename_i hbudget
      simp [hbudget]

/-- An error that the state carries to the end of the segment. -/
def withError (code message : String) : RuntimeState :=
  { state with
    safeErrorCode := some code
    safeErrorMessage := some message
    retryableError := false }

/-- `code or default`. -/
def orDefault (text default : String) : String := if text = "" then default else text

/-- The error of a tool outcome, with the defaults for missing texts. -/
def withToolError (code message : String) : RuntimeState :=
  withError state (orDefault code "tool_execution_failed")
    (orDefault message "The requested tool failed.")

/-- `_execute_tool_call`. -/
def executeToolCall (cancelled : Bool) (outcome : ToolOutcome) : RuntimeState :=
  match state.pendingToolCall, ctx.executeTool with
  | none, _ | _, false => { state with pendingToolCall := none }
  | some call, true =>
    if ctx.observesCancellation cancelled then
      { state with pendingToolCall := none, cancelled := true }
    else
      let ran := { state with pendingToolCall := none, stepCount := state.stepCount + 1 }
      if truthy call.normalizationError then
        { ran with
          toolResultSummary := some ⟨call.toolName, .failed, "", call.normalizationError⟩ }
      else match outcome with
      | .approvalRequired code message => withToolError ran code message
      | .budgetExceeded reason =>
        { ran with budgetExceeded := true, budgetExceededReason := some reason }
      | .terminal code message => withToolError ran code message
      | .result modelResult => { ran with toolResultSummary := some modelResult }

@[simp] theorem executeToolCall_pendingToolCall (cancelled : Bool) (outcome : ToolOutcome) :
    (ctx.executeToolCall state cancelled outcome).pendingToolCall = none := by
  unfold executeToolCall withToolError withError
  split
  · rfl
  · rfl
  · split
    · rfl
    · dsimp only
      split
      · rfl
      · cases outcome <;> rfl

/-- `_execute_handoff_request`. -/
def executeHandoffRequest (cancelled : Bool) (validated : HandoffValidation) : RuntimeState :=
  match state.pendingHandoffRequest, ctx.requestHandoff with
  | none, _ | _, false => { state with pendingHandoffRequest := none }
  | some _, true =>
    if ctx.observesCancellation cancelled then
      { state with pendingHandoffRequest := none, cancelled := true }
    else
      let ran := { state with pendingHandoffRequest := none, stepCount := state.stepCount + 1 }
      match validated with
      | .ok reasonCode summary => { ran with handoffRequest := some ⟨reasonCode, summary⟩ }
      | .refused code message =>
        withError ran (orDefault code "invalid_handoff_request")
          (orDefault message "The handoff request was invalid.")

theorem executeHandoffRequest_keeps (cancelled : Bool) (validated : HandoffValidation) :
    (ctx.executeHandoffRequest state cancelled validated).pendingToolCall =
        state.pendingToolCall ∧
      (ctx.executeHandoffRequest state cancelled validated).modelCallCount =
        state.modelCallCount := by
  unfold executeHandoffRequest withError
  split
  · exact ⟨rfl, rfl⟩
  · exact ⟨rfl, rfl⟩
  · split
    · exact ⟨rfl, rfl⟩
    · cases validated <;> exact ⟨rfl, rfl⟩

/-- `_validate_provider_result`. -/
def validateProviderResult : RuntimeState :=
  if state.finalResponse = "" then
    withError state "provider_malformed_response" "The AI provider returned an empty response."
  else state

theorem validateProviderResult_keeps :
    (validateProviderResult state).pendingToolCall = state.pendingToolCall ∧
      (validateProviderResult state).modelCallCount = state.modelCallCount := by
  unfold validateProviderResult withError
  split <;> exact ⟨rfl, rfl⟩

end RunContext

/-! ## Graphs -/

inductive Node
  | prepareRun
  | checkBudget
  | generateResponse
  | executeToolCall
  | executeHandoffRequest
  | validateProviderResult
  | finalizeResponse
  | finished
  | raised
  deriving DecidableEq, Repr

structure GraphRun where
  node : Node
  state : RuntimeState
  deriving DecidableEq, Repr

/-- What a node is told from outside. -/
inductive Answer
  | nothing
  | budget (cancelled : Bool) (elapsed : Rat)
  | provider (outcome : Except ProviderError LLMResponse)
  | tool (cancelled : Bool) (outcome : ToolOutcome)
  | handoff (cancelled : Bool) (validated : HandoffValidation)
  | exception

namespace RunContext

variable (ctx : RunContext)

def routeAfterBudget (state : RuntimeState) : Node :=
  if state.budgetExceeded ∨ state.cancelled then .finished else .generateResponse

/-- `_route_after_generate`. -/
def routeAfterGenerate (state : RuntimeState) : Node :=
  if state.budgetExceeded then .finished
  else if truthy state.safeErrorCode then
    if state.retryableError ∧ state.attempt < ctx.budgets.maxRetryAttempts ∧
        state.modelCallCount < ctx.budgets.maxModelCalls then .checkBudget
    else .finished
  else if state.pendingHandoffRequest.isSome ∧ ctx.requestHandoff then .executeHandoffRequest
  else if state.pendingToolCall.isSome ∧ ctx.executeTool then .executeToolCall
  else .validateProviderResult

/-- Only a failed turn is retried. -/
theorem routeAfterGenerate_of_safeErrorCode {state : RuntimeState}
    (h : state.safeErrorCode = none) :
    ctx.routeAfterGenerate state ∉ [Node.prepareRun, .checkBudget, .generateResponse] := by
  unfold routeAfterGenerate
  simp only [truthy, h, Option.any_none, Bool.false_eq_true, if_false]
  split_ifs <;> simp

/-- `_route_after_tool`. -/
def routeAfterTool (state : RuntimeState) : Node :=
  if truthy state.safeErrorCode ∨ state.budgetExceeded ∨ state.cancelled then .finished
  else .checkBudget

def routeAfterValidation (state : RuntimeState) : Node :=
  if truthy state.safeErrorCode then .finished else .finalizeResponse

/-- One node of the graph. An exception that a node lets through ends the graph. -/
def graphStep (digest : String → String) : Answer → GraphRun → Option GraphRun
  | .exception, ⟨node, state⟩ =>
    if node = .finished ∨ node = .raised then none else some ⟨.raised, state⟩
  | .nothing, ⟨.prepareRun, state⟩ =>
    some ⟨.checkBudget, { state with stepCount := state.stepCount + 1 }⟩
  | .budget cancelled elapsed, ⟨.checkBudget, state⟩ =>
    let state' := ctx.checkBudgetNode state cancelled elapsed
    some ⟨routeAfterBudget state', state'⟩
  | .provider outcome, ⟨.generateResponse, state⟩ =>
    let state' := ctx.generateResponse state digest outcome
    some ⟨ctx.routeAfterGenerate state', state'⟩
  | .tool cancelled outcome, ⟨.executeToolCall, state⟩ =>
    let state' := ctx.executeToolCall state cancelled outcome
    some ⟨routeAfterTool state', state'⟩
  | .handoff cancelled validated, ⟨.executeHandoffRequest, state⟩ =>
    some ⟨.finished, ctx.executeHandoffRequest state cancelled validated⟩
  | .nothing, ⟨.validateProviderResult, state⟩ =>
    let state' := validateProviderResult state
    some ⟨routeAfterValidation state', state'⟩
  | .nothing, ⟨.finalizeResponse, state⟩ =>
    some ⟨.finished, { state with stepCount := state.stepCount + 1 }⟩
  | _, _ => none

/-- What one node can do. -/
inductive GraphStep (digest : String → String) : Answer → GraphRun → GraphRun → Prop
  | raised {node : Node} {state : RuntimeState} : node ≠ .finished → node ≠ .raised →
      GraphStep digest .exception ⟨node, state⟩ ⟨.raised, state⟩
  | prepared {state : RuntimeState} :
      GraphStep digest .nothing ⟨.prepareRun, state⟩
        ⟨.checkBudget, { state with stepCount := state.stepCount + 1 }⟩
  | checked {cancelled : Bool} {elapsed : Rat} {state state' : RuntimeState} :
      state' = ctx.checkBudgetNode state cancelled elapsed →
      GraphStep digest (.budget cancelled elapsed) ⟨.checkBudget, state⟩
        ⟨routeAfterBudget state', state'⟩
  | generated {outcome : Except ProviderError LLMResponse} {state state' : RuntimeState} :
      state' = ctx.generateResponse state digest outcome →
      GraphStep digest (.provider outcome) ⟨.generateResponse, state⟩
        ⟨ctx.routeAfterGenerate state', state'⟩
  | executed {cancelled : Bool} {outcome : ToolOutcome} {state state' : RuntimeState} :
      state' = ctx.executeToolCall state cancelled outcome →
      GraphStep digest (.tool cancelled outcome) ⟨.executeToolCall, state⟩
        ⟨routeAfterTool state', state'⟩
  | handedOff {cancelled : Bool} {validated : HandoffValidation} {state state' : RuntimeState} :
      state' = ctx.executeHandoffRequest state cancelled validated →
      GraphStep digest (.handoff cancelled validated) ⟨.executeHandoffRequest, state⟩
        ⟨.finished, state'⟩
  | validated {state state' : RuntimeState} : state' = validateProviderResult state →
      GraphStep digest .nothing ⟨.validateProviderResult, state⟩
        ⟨routeAfterValidation state', state'⟩
  | finalized {state : RuntimeState} :
      GraphStep digest .nothing ⟨.finalizeResponse, state⟩
        ⟨.finished, { state with stepCount := state.stepCount + 1 }⟩

theorem graphStep_cases {digest : String → String} {a : Answer} {g g' : GraphRun}
    (h : ctx.graphStep digest a g = some g') : ctx.GraphStep digest a g g' := by
  unfold graphStep at h
  split at h
  · split at h
    · cases h
    · rename_i hnode
      cases h
      exact .raised (fun hfinished => hnode (.inl hfinished)) fun hraised => hnode (.inr hraised)
  · cases h
    exact .prepared
  · cases h
    exact .checked rfl
  · cases h
    exact .generated rfl
  · cases h
    exact .executed rfl
  · cases h
    exact .handedOff rfl
  · cases h
    exact .validated rfl
  · cases h
    exact .finalized
  · cases h

end RunContext

/-- `build_graph` on the initial state. -/
def buildGraph (digest : String → String) (ctx : RunContext) : System GraphRun Answer where
  initial g := g = ⟨.prepareRun, initialState⟩
  step := ctx.graphStep digest

/-- `build_resume_graph`, entered at the budget check with a resumed state. -/
def buildResumeGraph (digest : String → String) (ctx : RunContext) : System GraphRun Answer where
  initial g := ∃ usage summary, g = ⟨.checkBudget, resumeStateAfterTool usage summary⟩
  step := ctx.graphStep digest

/-! ## The contexts of the two segments -/

/-- The context of `execute_claimed_agent_run`. -/
def mainContext (agentVersion : AgentVersion) (run : Uuid) : RunContext where
  budgets := versionBudgets agentVersion
  executeTool := true
  agentRunId := some run.text
  isCancelled := true
  requestHandoff := true

/-- The context of `_continue_run_after_resumed_tool`, which passes on neither the run's id nor
a cancellation probe. -/
def resumedContext (agentVersion : AgentVersion) : RunContext where
  budgets := versionBudgets agentVersion
  executeTool := true
  requestHandoff := true

end SupportPilot
