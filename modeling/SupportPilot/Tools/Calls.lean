import SupportPilot.Library.JsonEncoder
import SupportPilot.Library.JsonReader
import SupportPilot.Library.Utf8
import SupportPilot.Tools.Execution

/-!
# From a proposed tool call to its outcome

The step from the tool call of a provider response to the outcome that the graph goes on with:
the arguments are normalized, the idempotency key is derived from them, and the callback that is
bound for the graph executes the tool. Where a step may raise, its exceptions are those of the
source, and what nothing catches is `Raised.uncaught`.
-/

namespace SupportPilot.ToolCalls

open Library

/-- The interpreter, with what is left of its stack where JSON is read and written. -/
structure Interpreter where
  maxDigits : Nat
  normalizeDepth : Nat
  keyDepth : Nat
  /-- The first 24 hexadecimal digits of the SHA-256. -/
  digest : Bytes → String

/-! ## `normalize_tool_call` -/

structure NormalizedToolCall where
  toolName : CodePoints
  arguments : JsonFields
  normalizationError : Option String := none

def malformed (toolKey : CodePoints) : NormalizedToolCall where
  toolName := toolKey
  arguments := []
  normalizationError := some "tool_arguments_malformed"

section Normalization

variable (python : Interpreter)

/-- The key of a call in a model turn; it is derived for malformed calls, too. -/
def idempotencyKey (owner : String) (modelTurn : Nat) (call : NormalizedToolCall) :
    Except Raised String :=
  match encode (.canonical python.maxDigits) python.keyDepth (.object call.arguments) with
  | .error _ => .error .uncaught
  | .ok canonical =>
    match encodeUtf8 (call.toolName ++ codePoints ":" ++ canonical.map codePoint) with
    | none => .error .uncaught
    | some bytes =>
      .ok ("agent:" ++ owner ++ ":turn:" ++ toString modelTurn ++ ":" ++ python.digest bytes)

end Normalization

/-! ## `execute_tool` -/

/-- The effective timeout, `model_dump`, `redact` and the fingerprint of validated arguments, and
whether PostgreSQL stores the redacted ones as `jsonb`. -/
inductive ArgumentsDump
  | raises
  | dumped (jsonbAccepts : Bool)
  deriving DecidableEq, Repr

/-- All that a call finds on its way: the run, the registry with the catalogue and the bindings,
the validated arguments, the rows that its statements lock, and the handler. -/
structure CallSite where
  runStatus : AgentRunStatus
  liveToolCallCount : Nat
  maxToolCalls : Nat
  lookup : CodePoints → JsonFields → ToolLookup
  dump : JsonFields → ArgumentsDump
  fingerprint : String
  /-- The row of the idempotency key. -/
  existing : Option ToolExecution
  /-- The row of the key that another call commits before the insert. -/
  raced : Option ToolExecution
  inserted : ToolExecution
  policy : PolicyOutcome
  createdBy : Option Nat
  /-- The row that the gate evaluates. -/
  gated : ToolExecution
  /-- The row that is started. -/
  started : ToolExecution
  /-- A slot of the budget is left. -/
  reserved : Bool
  handler : Nat → HandlerBehaviour
  /-- The row that the finalizer locks. -/
  finalized : ToolExecution
  /-- `as_model_message` of an output does not run out of stack. -/
  renders : String → Bool
  now : Nat

def maxDecisionCodeLength : Nat := 64

/-- The code of the evaluation that the gate inserts. -/
def decisionCode : PolicyOutcome → String
  | .allow code _ | .deny code _ | .requireApproval code _ _ _ => code
  | .evaluationFailed _ => "policy_evaluation_failed"

def ofTool {α : Type} : Except ToolError α → Except Raised α
  | .ok a => .ok a
  | .error e => .error (.toolError e)

/-- A JSON column takes a name without NUL and surrogates. -/
def recordable (toolName : CodePoints) : Bool :=
  toolName.all fun c => c.val ≠ 0 && decide c.val.isValidChar

/-- What a claim hands on. -/
inductive Claimed
  | reused (existing : ToolExecution)
  | waiting
  | execute (execution : ToolExecution)

section Execution

variable (site : CallSite)

def resolved (tool : ToolSpec) (existing : ToolExecution) : Except Raised Claimed :=
  match resolveExisting existing site.fingerprint tool with
  | .error e => .error (.toolError e)
  | .ok .waiting => .ok .waiting
  | .ok .reused => .ok (.reused existing)
  | .ok .reset => .ok (.execute existing.reset)

/-- `_claim_execution`; the insert fails on arguments that are no `jsonb` before it fails on a key
that is taken. -/
def claimExecution (tool : ToolSpec) (jsonbAccepts : Bool) : Except Raised Claimed :=
  match site.existing with
  | some existing => resolved site tool existing
  | none =>
    if !jsonbAccepts then .error .uncaught
    else
      match site.raced with
      | some existing => resolved site tool existing
      | none => .ok (.execute site.inserted)

/-- The gate, for a row that was not evaluated before; the evaluation is inserted before the row
changes. -/
def passGate (execution : ToolExecution) : Except Raised Unit :=
  if execution.policyEvaluation.isSome then .ok ()
  else if !varcharAccepts maxDecisionCodeLength (decisionCode site.policy) then .error .uncaught
  else
    match runPolicyGate site.gated site.createdBy site.policy site.now with
    | .error .integrityError => .error .uncaught
    | .error .executionInProgress => .error (.toolError (.raise .executionInProgress))
    | .ok (_, some e) => .error (.toolError e)
    | .ok (_, none) => .ok ()

/-- How the started call leaves: without a slot, or with what the handler does. -/
def handlerExit (tool : ToolSpec) : CallExit :=
  if !site.reserved then budgetRefusal
  else
    match runWithRetries tool.retryPolicy site.started.attemptCount site.handler with
    | .ok output => .success output
    | .error r => .ofRaised r

/-- The finalizer, the step that records the exit with its code, and what is raised then. -/
def leave (exit : CallExit) : Except Raised (String × Bool) :=
  if exit.finalize site.finalized site.now = .refused then .error .uncaught
  else
    match exit with
    | .success output => .ok (output.json, false)
    | .failure _ code _ e =>
      if varcharAccepts maxErrorCodeLength code then .error (.toolError e) else .error .uncaught
    | .raised e => .error (.toolError e)
    | .uncaught => .error .uncaught

/-- The output of the tool, and whether it is that of an earlier call. -/
def runTool (toolName : CodePoints) (arguments : JsonFields) (key : String) :
    Except Raised (String × Bool) :=
  -- The step `TOOL_REQUESTED` carries the name of the tool.
  if !recordable toolName then .error .uncaught
  else do
    let tool ← ofTool (checkToolCall site.runStatus site.liveToolCallCount site.maxToolCalls key
      (site.lookup toolName arguments))
    match site.dump arguments with
    | .raises => .error .uncaught
    | .dumped jsonbAccepts =>
      match ← claimExecution site tool jsonbAccepts with
      | .reused existing => (ofTool (reusedOutcome existing)).map fun output => (output, true)
      | .waiting => .error (.toolError (.raise .approvalRequired))
      | .execute execution =>
        passGate site execution
        let _ ← ofTool (transitionRunning site.started site.now)
        leave site (handlerExit site tool)

end Execution

/-! ## The callback -/

/-- The outcome dict of the callback, and what the graph makes of a malformed call. -/
inductive StepOutcome
  | malformed (errorCode : String)
  | approvalRequired (errorCode errorMessage : String)
  | budgetExceeded (budgetReason : String)
  | terminal (errorCode errorMessage : String)
  | refused (denied : Bool) (errorCode : String)
  | succeeded (output : String) (reused : Bool)
  deriving DecidableEq, Repr

def terminalCodes : List String :=
  ["tool_configuration_error", "tool_invalid_output", "tool_idempotency_conflict",
    "tool_execution_in_progress", "tool_run_not_executable", "policy_evaluation_failed"]

/-- The clauses of `_execute_tool_factory`. -/
def refusal (e : ToolError) : StepOutcome :=
  if e.cls = .approvalRequired then .approvalRequired e.code e.safeMessage
  else if e.cls = .budgetExceeded then .budgetExceeded "max_tool_calls_reached"
  else if e.code ∈ terminalCodes then .terminal e.code e.safeMessage
  else .refused (e.cls = .policyDenied) e.code

/-- The callback that `_execute_tool_factory` binds for the graph. -/
def executeTool (site : CallSite) (toolName : CodePoints) (arguments : JsonFields)
    (key : String) : Except Raised StepOutcome :=
  match runTool site toolName arguments key with
  | .ok (output, reused) =>
    if site.renders output then .ok (.succeeded output reused) else .error .uncaught
  | .error (.toolError e) => .ok (refusal e)
  | .error .uncaught => .error .uncaught

end SupportPilot.ToolCalls
