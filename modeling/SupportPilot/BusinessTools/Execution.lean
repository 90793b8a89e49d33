import SupportPilot.BusinessTools.Handlers
import SupportPilot.Library.Binary64

/-!
# The execution of a business tool

`execute_tool` for a registered business tool, on the database of all workspaces. Its transactions
are those of the executor on single rows. A handler that times out is left to itself, and takes
turns with what the executor still does.
-/

namespace SupportPilot.BusinessTools

open Library
open Policies (RiskLevel)

structure ToolExecutionResult where
  execution : Nat
  output : String
  reused : Bool
  deriving DecidableEq, Repr

/-- `raise cls(message)` -/
def refuse {α : Type} (cls : ToolErrorClass) (message : String := "") : Statement α :=
  .raise (.toolError (.raise cls message))

section Execution

variable (env : Environment) (tool : BusinessTool) (run : RunObject)

def toolMetadata : JsonObject := [("tool_key", .string tool.key)]

def executionMetadata (pk : Nat) : JsonObject :=
  [("tool_key", .string tool.key), ("tool_execution_id", .string (toString pk))]

/-! ## Registry, binding, budget and input checks -/

/-- The truth value of a JSON value. -/
def truthy : Json → Bool
  | .null => false
  | .bool b => b
  | .int n => n ≠ 0
  | .float q => q ≠ 0
  | .string s => s ≠ ""
  | .list items => !items.isEmpty
  | .object fields => !fields.isEmpty

/-- `min(a, b)` -/
def minFloat (a b : Binary64) : Binary64 := if b.lt a then b else a

/-- The `round` that follows raises on what is not finite. -/
def finite : Binary64 → Statement (Option Rat)
  | .finite q => pure (some q)
  | _ => .raise .uncaught

/-- The configured timeout, or that of the tool. -/
def candidateTimeout (binding : ToolBinding) : Statement Binary64 :=
  match (binding.configuration.lookup "timeout_seconds").filter truthy with
  | none => pure (.finite tool.defaultTimeoutSeconds)
  | some configured =>
    match env.float configured with
    | some candidate => pure candidate
    | none => .raise .uncaught

/-- `_effective_timeout`; an absent one stands for a wall time that is over. -/
def effectiveTimeout (version : AgentVersion) (binding : ToolBinding) :
    Statement (Option Rat) := do
  let candidate ← candidateTimeout env tool binding
  let effective := minFloat candidate (.finite tool.maxTimeoutSeconds)
  match run.startedAt with
  | none => finite effective
  | some startedAt =>
    let now ← now env
    let remaining : Rat :=
      version.wallTimeLimitSeconds - (((now : Int) - startedAt : Int) : Rat) / 1000000
    if remaining ≤ 0 then pure none else finite (minFloat effective (.finite remaining))

/-- The entry of the tool in the catalogue. -/
def findDefinition : Statement (Option ToolDefinition) :=
  TenantStore.access id fun world => .ok (world.definitions.find? (·.key = tool.key))

/-- `resolve_enabled_binding`, and the two errors of a call without one. -/
def requireBinding (definition : ToolDefinition) (version : VersionRow) : Statement ToolBinding :=
  let bound := version.bindings.reverse.filter (·.toolDefinition = definition.key)
  match bound.find? fun binding => binding.enabled && definition.active with
  | some binding => pure binding
  | none => if bound.isEmpty then refuse .notBound else refuse .disabled

/-- The count of the row, or that of the object when there is no row. -/
def liveToolCallCount : Statement Nat := do
  match ← TenantStore.get Kind.agentRun run.pk with
  | none => pure run.toolCallCount
  | some row =>
    let row : RunRow := row.value
    pure row.toolCallCount

/-- What the checks hand on. -/
structure CheckedCall where
  definition : ToolDefinition
  version : VersionRow
  binding : ToolBinding
  values : Arguments
  timeoutSeconds : Rat

/-- Steps 1 to 5 of `execute_tool`, which refuse a call before it has a row. -/
def checkCall (arguments : JsonObject) (idempotencyKey : String) : Statement CheckedCall := do
  let version ← getRow .agentVersion run.version
  let version : VersionRow := version.value
  recordStep env run .toolRequested .started (toolMetadata tool)
  if run.status ≠ .running then refuse .runNotExecutable
  else
    match ← findDefinition tool with
    | none => refuse .configuration "Tool is registered but not published to the catalog."
    | some definition =>
      let binding ← requireBinding definition version
      if version.maxToolCalls ≤ (← liveToolCallCount run) then refuse .budgetExceeded
      else if (env.jsonLength arguments).all (maxArgumentsBytes < ·) then
        refuse .invalidInput "Tool arguments payload is too large."
      else if maxIdempotencyKeyLength < idempotencyKey.toList.length then
        refuse .invalidInput "Idempotency key is too long."
      else
        match tool.inputModel.validate env.lib arguments with
        | none =>
          recordStep env run .toolValidationFailed .failed (toolMetadata tool) "tool_invalid_input"
          refuse .invalidInput
        | some values =>
          match ← effectiveTimeout env tool run version.toAgentVersion binding with
          | none => refuse .budgetExceeded "The run's remaining wall time is exhausted."
          | some timeoutSeconds => pure { definition, version, binding, values, timeoutSeconds }

/-! ## Idempotency claim -/

/-- What a claim hands on. -/
inductive Claimed
  | reused (pk : Nat) (existing : ToolExecution)
  | waiting
  | execute (pk : Nat) (execution : ToolExecution)

def resolveRow (existing : Row .toolExecution) (fingerprint : String) : Statement Claimed := do
  let row : ExecutionRow := existing.value
  match resolveExisting row.toToolExecution fingerprint ⟨tool.key, tool.retryPolicy⟩ with
  | .error e => .raise (.toolError e)
  | .ok .waiting => pure .waiting
  | .ok .reused => pure (.reused existing.id row.toToolExecution)
  | .ok .reset =>
    TenantStore.update .toolExecution existing.id
      fun row : ExecutionRow => { row with toToolExecution := row.toToolExecution.reset }
    pure (.execute existing.id row.toToolExecution.reset)

/-- The execution that has the key already. -/
def findExecution (idempotencyKey : String) : Statement (Option (Row .toolExecution)) :=
  if idempotencyKey = "" then pure none
  else do
    parameter idempotencyKey
    TenantStore.newest Kind.toolExecution run.workspace fun row : Row .toolExecution =>
      row.value.toolDefinition = tool.key && row.value.idempotencyKey = idempotencyKey

/-- `_claim_execution`. An insert that is refused raises: no other call takes the key in
between. -/
def claimExecution (call : CheckedCall) (idempotencyKey fingerprint : String)
    (argumentsRedacted : JsonObject) : Statement Claimed :=
  TenantStore.atomic do
    match ← findExecution tool run idempotencyKey with
    | some existing => resolveRow tool existing fingerprint
    | none =>
      let execution : ToolExecution := {
        workspace := run.workspace
        agentRun := run.pk
        agentVersion := call.version.toAgentVersion
        toolDefinition := tool.key
        idempotencyKey
        argumentsFingerprint := if idempotencyKey = "" then "" else fingerprint
        argumentsRedacted := env.jsonText argumentsRedacted }
      let row : ExecutionRow := {
        toToolExecution := execution
        toolBinding := call.binding.id
        version := run.version
        timeoutSeconds := max 1 (Binary64.roundHalfEven call.timeoutSeconds) }
      let pk ← create env .toolExecution run.workspace row
      pure (.execute pk execution)

/-! ## Risk assessment and policy gate -/

/-- `_bump` -/
def bump : RiskLevel → RiskLevel
  | .readOnly => .low
  | .low => .medium
  | .medium => .high
  | .high | .critical => .critical

/-- A number that is no truth value. -/
def amountMinor (arguments : JsonObject) : Option Rat :=
  match arguments.lookup "amount_minor" with
  | some (.int n) => some n
  | some (.float q) => some q
  | _ => none

def currency (arguments : JsonObject) : Option String :=
  match arguments.lookup "currency" with
  | some (.string text) => some text
  | _ => none

def assessRisk (definition : ToolDefinition) (arguments : JsonObject) : RiskAssessment :=
  let amount := amountMinor arguments
  let bumped := definition.sideEffectType = .financial &&
    amount.any (env.settings.riskBumpFinancialAmountMinor ≤ ·)
  { outcome :=
      { baseRisk := definition.riskLevel
        effectiveRisk := if bumped then bump definition.riskLevel else definition.riskLevel
        sideEffectType := definition.sideEffectType }
    factors :=
      [("base_risk", .string definition.riskLevel.value),
        ("side_effect_type", .string definition.sideEffectType.value),
        ("financial", .bool (definition.sideEffectType = .financial)),
        ("external_write", .bool (definition.sideEffectType = .externalWrite ∨
          definition.sideEffectType = .financial))] ++
      (if amount.isSome then [("amount_minor", (arguments.lookup "amount_minor").getD .null)]
        else []) ++
      (currency arguments).toList.map (fun text => ("currency", .string (env.lib.upper text))) ++
      if bumped then [("risk_bumped", .bool true)] else [] }

def resolveActiveVersion (workspace : Nat) : Statement (Option PolicyVersionRow) := do
  match ← TenantStore.newest Kind.policy workspace
      fun row : Row .policy => row.value.status = .active with
  | none => pure none
  | some policy =>
    let row : PolicyRow := policy.value
    pure (row.versions.reverse.find? (·.status = .active))

/-- The enabled rules in the order of evaluation. -/
def PolicyVersionRow.enabledRules (version : PolicyVersionRow) :
    List (Nat × Policies.PolicyRule) :=
  (version.rules.filter (·.2.enabled)).mergeSort fun a b => a.2.priority ≤ b.2.priority

def evaluatePolicy (risk : RiskAssessment) (arguments : JsonObject)
    (activeVersion : Option PolicyVersionRow) : Except String Policies.PolicyDecision :=
  Policies.evaluatePolicy env.settings.policies tool.key risk.outcome
    { amountMinor := amountMinor arguments
      currency := currency arguments
      canonical := env.jsonText arguments }
    (activeVersion.map fun version => (version.id, version.enabledRules))

def policyOutcome : Except String Policies.PolicyDecision → PolicyOutcome
  | .error message => .evaluationFailed message
  | .ok decision =>
    match decision.decision with
    | .allow => .allow decision.decisionCode decision.safeReason
    | .deny => .deny decision.decisionCode decision.safeReason
    | .requireApproval => .requireApproval decision.decisionCode decision.safeReason
        decision.requiredRole decision.approvalTtlSeconds

/-- What approvers read of a request that was created by this evaluation. -/
def requestView (pk : Nat) (risk : RiskAssessment) (arguments : JsonObject)
    (evaluation : PolicyEvaluation) (approval : ApprovalRequest) : Approvals.RequestView :=
  Approvals.createApprovalRequest env.py tool.contract
    { approvalId := toString pk
      riskLevel := risk.outcome.effectiveRisk
      sideEffectType := risk.outcome.sideEffectType
      policyReason := evaluation.safeReason
      requiredRole := approval.requiredRole
      expiresAt := env.isoformat approval.expiresAt } arguments

/-- The audit event and the webhook event of a new request, which has the key of its execution. -/
def announceRequest (workspace pk : Nat) (approval : ApprovalRequest)
    (view : Approvals.RequestView) : Statement Unit := do
  recordEvent env workspace {
    action := .approvalRequested
    targetType := "approval_request"
    targetId := toString pk
    actor := run.createdBy
    metadata :=
      [("approval_request_id", .string (toString pk)), ("tool_execution_id", .string (toString pk)),
        ("tool_key", .string tool.key), ("required_role", .string approval.requiredRole)]
    requestId := if run.correlationId = "" then none else some run.correlationId }
  emitEvent env workspace .approvalRequested view.eventData

/-- The request that a gate has created. -/
def newRequest (row : ExecutionRow) (execution : ToolExecution) :
    Option (PolicyEvaluation × ApprovalRequest) :=
  match row.approvalRequest, execution.policyEvaluation, execution.approvalRequest with
  | none, some evaluation, some approval => some (evaluation, approval)
  | _, _, _ => none

/-- The transaction of the gate, with what is raised after it. -/
def evaluateRow (execution : Row .toolExecution) (risk : RiskAssessment)
    (arguments : JsonObject) : Statement (PolicyOutcome × Option ToolError) := do
  let decision := evaluatePolicy env tool risk arguments
    (← resolveActiveVersion execution.tenant)
  let outcome := policyOutcome decision
  let locked ← getRow .toolExecution execution.id
  let row : ExecutionRow := locked.value
  let now ← now env
  match runPolicyGate row.toToolExecution run.createdBy outcome now with
  | .error .integrityError => .raise .uncaught
  | .error .executionInProgress => refuse .executionInProgress
  | .ok (gated, e) =>
    let gated : ToolExecution := { gated with
      policyEvaluation := gated.policyEvaluation.map fun evaluation =>
        { evaluation with safeReason := truncate 500 evaluation.safeReason } }
    let request := (newRequest row gated).map fun (evaluation, approval) =>
      (approval, requestView env tool execution.id risk arguments evaluation approval)
    let written : ExecutionRow := { row with
      toToolExecution := gated
      riskAssessment := some risk
      policyVersion := decision.toOption.bind (·.policyVersion)
      matchedRuleIds := (decision.toOption.map (·.matchedRuleIds)).getD []
      approvalView := (request.map (·.2)).or row.approvalView }
    save env .toolExecution execution.id written
    match request with
    | none => pure (outcome, e)
    | some (approval, view) =>
      announceRequest env tool run execution.tenant execution.id approval view
      pure (outcome, e)

/-- The steps of a gate after its commit. -/
def recordDecision : PolicyOutcome → Statement Unit
  | .allow .. => recordStep env run .policyEvaluated .succeeded (decided "allow")
  | .evaluationFailed _ =>
    recordStep env run .policyEvaluated .failed (toolMetadata tool) "policy_evaluation_failed"
  | .deny .. => recordStep env run .policyEvaluated .succeeded (decided "deny")
  | .requireApproval .. => do
    recordStep env run .policyEvaluated .succeeded (decided "require_approval")
    recordStep env run .approvalRequested .succeeded (toolMetadata tool)
where
  decided (decision : String) : JsonObject :=
    [("tool_key", .string tool.key), ("decision", .string decision)]

/-- `_run_policy_gate`, for a row that was not evaluated before. -/
def passGate (pk : Nat) (definition : ToolDefinition) (arguments : JsonObject) :
    Statement Unit := do
  let execution ← getRow .toolExecution pk
  let row : ExecutionRow := execution.value
  if row.policyEvaluation.isSome then pure ()
  else
    let risk := assessRisk env definition arguments
    recordStep env run .riskAssessed .succeeded
      [("tool_key", .string tool.key), ("effective_risk", .string risk.outcome.effectiveRisk.value)]
    let (outcome, e) ← TenantStore.atomic (evaluateRow env tool run execution risk arguments)
    recordDecision env tool run outcome
    match e with
    | none => pure ()
    | some e => .raise (.toolError e)

/-! ## Transitions and finalizers -/

/-- `_transition_running` -/
def startExecution (pk : Nat) : Statement Unit :=
  TenantStore.atomic do
    let locked ← getRow .toolExecution pk
    let row : ExecutionRow := locked.value
    let now ← now env
    match transitionRunning row.toToolExecution now with
    | .error e => .raise (.toolError e)
    | .ok started =>
      TenantStore.update .toolExecution pk
        fun row : ExecutionRow => { row with toToolExecution := started }

/-- `_reserve_budget_slot`, one conditional update. -/
def reserveSlot (maxToolCalls : Nat) : Statement Bool :=
  TenantStore.atomic do
    match ← TenantStore.get Kind.agentRun run.pk with
    | none => pure false
    | some locked =>
      let row : RunRow := locked.value
      match reserveBudgetSlot row.toAgentRun maxToolCalls with
      | none => pure false
      | some reserved =>
        TenantStore.update .agentRun run.pk
          fun row : RunRow => { row with toAgentRun := reserved }
        pure true

/-- `_finalize_success` and `_finalize_failure` -/
def finalizeRow (pk : Nat) (exit : CallExit) : Statement Unit :=
  TenantStore.atomic do
    let locked ← getRow .toolExecution pk
    let row : ExecutionRow := locked.value
    let now ← now env
    match exit.finalize row.toToolExecution now with
    | .skipped => pure ()
    | .refused => .raise .uncaught
    | .stored finalized =>
      TenantStore.update .toolExecution pk
        fun row : ExecutionRow => { row with toToolExecution := finalized }

def FailureStatus.stepType : FailureStatus → AgentStepType
  | .failed => .toolExecutionFailed
  | .timedOut => .toolExecutionTimedOut

/-- The finalizer of an exit and its step, and then what the caller gets. -/
def leave (pk attemptCount : Nat) : CallExit → Statement ToolExecutionResult
  | .success output => do
    finalizeRow env pk (.success output)
    recordStep env run .toolExecutionSucceeded .succeeded
      (executionMetadata tool pk ++ [("attempt_count", .int attemptCount)])
    pure ⟨pk, output.json, false⟩
  | .failure status code message e => do
    finalizeRow env pk (.failure status code message e)
    recordStep env run (FailureStatus.stepType status) .failed (executionMetadata tool pk) code
    .raise (.toolError e)
  | .raised e => .raise (.toolError e)
  | .uncaught => .raise .uncaught

/-! ## Bounded execution -/

/-- The dump of an output, which is validated already. -/
def dumpedOutput (output : JsonObject) : ToolOutput :=
  let dumped := Tools.hideFields (Tools.hiddenKey env.py.lower []) output
  { json := env.jsonText dumped, jsonbAccepts := env.jsonbAccepts dumped }

/-- What is left of a handler when its call ends: it has ended itself, or it has timed out. -/
def behaviour : Statement JsonObject → HandlerBehaviour
  | .done (.ok output) => .returns (.modelInstance (.dumped (dumpedOutput env output)))
  | .done (.error (.toolError e)) => .raises (.toolError e)
  | .done (.error .timeoutError) => .raises .timeoutError
  | .done (.error _) => .raises .other
  | .step .. => .timesOut

/-- `_invoke_with_timeout`, until the handler ends or its time is over. -/
def invoke (deadline : Option Nat) (handler : Statement JsonObject) :
    Statement (Statement JsonObject) :=
  match deadline with
  | some steps => handler.limit steps
  | none => do
    let result ← handler.outcome
    pure (.done result)

/-- How a call leaves its attempts, with the handler that may still go on. -/
structure Attempted where
  exit : CallExit
  attemptCount : Nat
  handler : Statement JsonObject

/-- `_run_with_retries` -/
def runRow (pk : Nat) (handler : Statement JsonObject) (attemptCount : Nat) :
    Statement Attempted :=
  if tool.retryPolicy.maxRetries + 1 ≤ attemptCount then
    pure ⟨.ofRaised (.toolError (.raise .retryExhausted)), attemptCount, .raise .uncaught⟩
  else do
    TenantStore.update .toolExecution pk
      fun row : ExecutionRow => { row with attemptCount := attemptCount + 1 }
    let left ← invoke (env.deadline (attemptCount + 1)) handler
    match afterAttempt tool.retryPolicy (attemptCount + 1) (behaviour env left) with
    | .retry => runRow pk handler (attemptCount + 1)
    | .returns output => pure ⟨.success output, attemptCount + 1, left⟩
    | .raises r => pure ⟨.ofRaised r, attemptCount + 1, left⟩
termination_by tool.retryPolicy.maxRetries + 1 - attemptCount

/-! ## `execute_tool` -/

/-- Steps 6.5 to the end, for a row that is to be executed. -/
def performCall (call : CheckedCall) (arguments : JsonObject) (pk : Nat)
    (execution : ToolExecution) : Statement ToolExecutionResult := do
  passGate env tool run pk call.definition arguments
  startExecution env pk
  if !(← reserveSlot run call.version.maxToolCalls) then
    leave env tool run pk execution.attemptCount budgetRefusal
  else
    recordStep env run .toolExecutionStarted .started (executionMetadata tool pk)
    let now ← now env
    let context : ToolExecutionContext := {
      workspace := run.workspace
      toolExecution := pk
      correlationId := if run.correlationId = "" then none else some run.correlationId
      deadline := now + Binary64.roundHalfEven (call.timeoutSeconds * 1000000)
      agentRun := run.pk
      actorUser := run.createdBy }
    let attempted ← runRow env tool pk (tool.handler env context call.values)
      execution.attemptCount
    .interleave env.turns attempted.handler
      (leave env tool run pk attempted.attemptCount attempted.exit)

def executeTool (arguments : JsonObject) (idempotencyKey : String) :
    Statement ToolExecutionResult := do
  let call ← checkCall env tool run arguments idempotencyKey
  let canonical := Tools.dump env.lib call.values
  match ← claimExecution env tool run call idempotencyKey (env.fingerprint canonical)
      (Approvals.argumentsRedacted env.py tool.contract canonical) with
  | .reused pk existing =>
    match reusedOutcome existing with
    | .ok output =>
      recordStep env run .toolIdempotencyReused .succeeded (executionMetadata tool pk)
      pure ⟨pk, output, true⟩
    | .error e => .raise (.toolError e)
  | .waiting => refuse .approvalRequired
  | .execute pk execution => performCall env tool run call canonical pk execution

end Execution

end SupportPilot.BusinessTools
