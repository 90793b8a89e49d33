import SupportPilot.Library.Outcomes
import SupportPilot.Tools.Models

/-!
# The controlled tool execution service, row by row

Each transaction of the executor as a function of the row it locks: the idempotency
claim, the policy gate, the transitions to `RUNNING`, the fenced finalizers and the
budget reservation. The handler section is a function of what the handler does.
-/

namespace SupportPilot

/-! ## Run state, registry, binding, budget and input checks -/

inductive BindingState
  | unbound
  | disabled
  | enabled
  deriving DecidableEq, Repr

/-- What `execute_tool` reads before it touches the execution table, apart from the live count. -/
structure ToolLookup where
  tool : Option ToolSpec
  definitionPublished : Bool := true
  binding : BindingState := .enabled
  argumentsJsonLength : Option Nat := some 0
  inputValid : Bool := true
  wallTimeLeft : Bool := true
  deriving DecidableEq, Repr

def maxArgumentsBytes : Nat := 8000
def maxOutputBytes : Nat := 16000

/-- Steps 1 to 5 of `execute_tool`: every refusal that leaves no row behind. -/
def checkToolCall (runStatus : AgentRunStatus) (liveToolCallCount maxToolCalls : Nat)
    (idempotencyKey : String) (lookup : ToolLookup) : Except ToolError ToolSpec :=
  if runStatus ≠ .running then .error (.raise .runNotExecutable)
  else match lookup.tool with
  | none => .error (.raise .notRegistered)
  | some tool =>
    if !lookup.definitionPublished then
      .error (.raise .configuration "Tool is registered but not published to the catalog.")
    else match lookup.binding with
    | .unbound => .error (.raise .notBound)
    | .disabled => .error (.raise .disabled)
    | .enabled =>
      if maxToolCalls ≤ liveToolCallCount then .error (.raise .budgetExceeded)
      else match lookup.argumentsJsonLength with
      | none => .error (.raise .invalidInput "Tool arguments payload is too large.")
      | some length =>
        if maxArgumentsBytes < length then
          .error (.raise .invalidInput "Tool arguments payload is too large.")
        else if maxIdempotencyKeyLength < idempotencyKey.toList.length then
          .error (.raise .invalidInput "Idempotency key is too long.")
        else if !lookup.inputValid then .error (.raise .invalidInput)
        else if !lookup.wallTimeLeft then
          .error (.raise .budgetExceeded "The run's remaining wall time is exhausted.")
        else .ok tool

theorem checkToolCall_ok {runStatus : AgentRunStatus} {liveToolCallCount maxToolCalls : Nat}
    {idempotencyKey : String} {lookup : ToolLookup} {tool : ToolSpec}
    (h : checkToolCall runStatus liveToolCallCount maxToolCalls idempotencyKey lookup = .ok tool) :
    lookup.tool = some tool := by
  unfold checkToolCall at h
  split at h
  · cases h
  · split at h
    · cases h
    · rename_i found hfound
      repeat' split at h
      all_goals cases h
      exact hfound

/-! ## Idempotency claim -/

/-- What a call does with the row that already carries its idempotency key. -/
inductive Resolution
  | waiting
  | reused
  | reset
  deriving DecidableEq, Repr

/-- The row after the reset that lets the same key be tried again. -/
def ToolExecution.reset (existing : ToolExecution) : ToolExecution :=
  { existing with
    status := .pending
    errorCode := ""
    errorMessageSafe := ""
    completedAt := none }

def resolveExisting (existing : ToolExecution) (fingerprint : String) (tool : ToolSpec) :
    Except ToolError Resolution :=
  if existing.argumentsFingerprint ≠ fingerprint then .error (.raise .idempotencyConflict)
  else match existing.status with
  | .pending | .running => .error (.raise .executionInProgress)
  | .waitingForApproval => .ok .waiting
  | .succeeded | .blockedByPolicy | .approvalTerminated => .ok .reused
  | .failed | .timedOut | .cancelled =>
    if existing.errorCode ∈ tool.retryPolicy.ambiguousOutcomeErrorCodes then
      .error (.raise .ambiguousOutcomeRequiresReconciliation)
    else if tool.retryPolicy.maxRetries + 1 ≤ existing.attemptCount then
      .error (.raise .retryExhausted)
    else .ok .reset

theorem resolveExisting_waiting {existing : ToolExecution} {fingerprint : String}
    {tool : ToolSpec} (h : resolveExisting existing fingerprint tool = .ok .waiting) :
    existing.status = .waitingForApproval := by
  unfold resolveExisting at h
  grind

theorem resolveExisting_reset {existing : ToolExecution} {fingerprint : String}
    {tool : ToolSpec} (h : resolveExisting existing fingerprint tool = .ok .reset) :
    existing.argumentsFingerprint = fingerprint ∧
      (existing.status = .failed ∨ existing.status = .timedOut ∨ existing.status = .cancelled) ∧
      existing.errorCode ∉ tool.retryPolicy.ambiguousOutcomeErrorCodes ∧
      existing.attemptCount < tool.retryPolicy.maxRetries + 1 := by
  unfold resolveExisting at h
  grind

/-- The stored outcome of a policy-terminal row, raised again. -/
def raisePolicyTerminalOutcome (execution : ToolExecution) : ToolError :=
  if execution.status = .blockedByPolicy then .raise .policyDenied execution.errorMessageSafe
  else if execution.errorCode = "approval_expired" then
    .raise .approvalExpired execution.errorMessageSafe
  else if execution.errorCode = "approval_cancelled" then
    .raise .approvalCancelled execution.errorMessageSafe
  else .raise .approvalRejected execution.errorMessageSafe

theorem raisePolicyTerminalOutcome_cls (execution : ToolExecution) :
    (raisePolicyTerminalOutcome execution).cls ≠ .approvalRequired := by
  unfold raisePolicyTerminalOutcome
  split_ifs <;> simp

/-- What a call is answered with the row that it reuses: the stored output, or the stored
denial. -/
def reusedOutcome (existing : ToolExecution) : Except ToolError String :=
  if existing.status = .succeeded then .ok existing.resultRedacted
  else .error (raisePolicyTerminalOutcome existing)

theorem reusedOutcome_ok {existing : ToolExecution} {output : String}
    (h : reusedOutcome existing = .ok output) :
    existing.status = .succeeded ∧ output = existing.resultRedacted := by
  unfold reusedOutcome at h
  grind

theorem reusedOutcome_cls {existing : ToolExecution} {e : ToolError}
    (h : reusedOutcome existing = .error e) : e.cls ≠ .approvalRequired := by
  unfold reusedOutcome at h
  split at h
  · cases h
  · cases h
    exact raisePolicyTerminalOutcome_cls existing

/-! ## Policy gate -/

/-- The answer of `evaluate_policy`, or its safe failure. -/
inductive PolicyOutcome
  | allow (decisionCode safeReason : String)
  | deny (decisionCode safeReason : String)
  | requireApproval (decisionCode safeReason requiredRole : String) (ttlSeconds : Nat)
  | evaluationFailed (safeMessage : String)
  deriving DecidableEq, Repr

/-- The evaluation asks for an approval. -/
def PolicyOutcome.requires : PolicyOutcome → Bool
  | .requireApproval .. => true
  | _ => false

/-- Why the gate's transaction rolls back. -/
inductive GateAbort
  | integrityError
  | executionInProgress
  deriving DecidableEq, Repr

def transitionBlockedByPolicy (locked : ToolExecution) (message : String) (now : Nat) :
    Except GateAbort ToolExecution :=
  if locked.status ≠ .pending then .error .executionInProgress
  else .ok { locked with
    status := .blockedByPolicy
    errorCode := "policy_action_denied"
    errorMessageSafe := String.ofList (message.toList.take maxErrorMessageLength)
    completedAt := some now }

def transitionWaitingForApproval (locked : ToolExecution) : Except GateAbort ToolExecution :=
  if locked.status ≠ .pending then .error .executionInProgress
  else .ok { locked with status := .waitingForApproval }

/-- An existing request is reused; a new one must expire after its creation. -/
def createOrReuseApprovalRequest (execution : ToolExecution) (createdBy : Option Nat)
    (requiredRole : String) (ttlSeconds now : Nat) : Except GateAbort ToolExecution :=
  match execution.approvalRequest with
  | some _ => .ok execution
  | none =>
    if ttlSeconds = 0 then .error .integrityError
    else .ok { execution with approvalRequest := some {
      requestedBy := createdBy
      requiredRole := requiredRole
      argumentsFingerprint := execution.argumentsFingerprint
      expiresAt := now + ttlSeconds * 1000000 } }

/-- `_run_policy_gate`: the committed row with the error raised after the commit, or the
rollback when the row was evaluated before or is no longer pending. -/
def runPolicyGate (execution : ToolExecution) (createdBy : Option Nat) (outcome : PolicyOutcome)
    (now : Nat) : Except GateAbort (ToolExecution × Option ToolError) :=
  if execution.policyEvaluation.isSome then .error .integrityError
  else match outcome with
  | .allow code reason =>
    .ok ({ execution with policyEvaluation := some ⟨.allow, code, reason⟩ }, none)
  | .deny code reason => do
    let row ← transitionBlockedByPolicy
      { execution with policyEvaluation := some ⟨.deny, code, reason⟩ } reason now
    .ok (row, some (.raise .policyDenied reason))
  | .evaluationFailed message => do
    let row ← transitionBlockedByPolicy
      { execution with
        policyEvaluation := some ⟨.deny, "policy_evaluation_failed", message⟩ } message now
    .ok (row, some (.raise .policyEvaluationFailed message))
  | .requireApproval code reason requiredRole ttlSeconds => do
    let row ← createOrReuseApprovalRequest
      { execution with policyEvaluation := some ⟨.requireApproval, code, reason⟩ }
      createdBy requiredRole ttlSeconds now
    let row ← transitionWaitingForApproval row
    .ok (row, some (.raise .approvalRequired reason))

/-- The three commits of the gate, with the error that each raises afterwards. -/
inductive GateCommit (execution : ToolExecution) (createdBy : Option Nat) (now : Nat) :
    ToolExecution → Option ToolError → Prop
  | allowed (code reason : String) :
      GateCommit execution createdBy now
        { execution with policyEvaluation := some ⟨.allow, code, reason⟩ } none
  | denied (evaluation : PolicyEvaluation) (message : String) (e : ToolError) :
      evaluation.decision = .deny → execution.status = .pending → e.cls ≠ .approvalRequired →
      GateCommit execution createdBy now
        { execution with
          policyEvaluation := some evaluation
          status := .blockedByPolicy
          errorCode := "policy_action_denied"
          errorMessageSafe := message
          completedAt := some now } (some e)
  | approvalRequired (code reason : String) (approval : ApprovalRequest) (e : ToolError) :
      (execution.approvalRequest = some approval ∨
        execution.approvalRequest = none ∧ approval.status = .pending ∧
          approval.decision = none ∧ approval.requestedBy = createdBy ∧
          approval.argumentsFingerprint = execution.argumentsFingerprint) →
      execution.status = .pending → e.cls = .approvalRequired →
      GateCommit execution createdBy now
        { execution with
          policyEvaluation := some ⟨.requireApproval, code, reason⟩
          approvalRequest := some approval
          status := .waitingForApproval } (some e)

theorem transitionBlockedByPolicy_ok {locked row : ToolExecution} {message : String} {now : Nat}
    (h : transitionBlockedByPolicy locked message now = .ok row) :
    locked.status = .pending ∧ row = { locked with
      status := .blockedByPolicy
      errorCode := "policy_action_denied"
      errorMessageSafe := String.ofList (message.toList.take maxErrorMessageLength)
      completedAt := some now } := by
  unfold transitionBlockedByPolicy at h
  grind

theorem transitionWaitingForApproval_ok {locked row : ToolExecution}
    (h : transitionWaitingForApproval locked = .ok row) :
    locked.status = .pending ∧ row = { locked with status := .waitingForApproval } := by
  unfold transitionWaitingForApproval at h
  grind

theorem createOrReuseApprovalRequest_ok {execution row : ToolExecution} {createdBy : Option Nat}
    {requiredRole : String} {ttlSeconds now : Nat}
    (h : createOrReuseApprovalRequest execution createdBy requiredRole ttlSeconds now = .ok row) :
    ∃ approval, row = { execution with approvalRequest := some approval } ∧
      (execution.approvalRequest = some approval ∨
        execution.approvalRequest = none ∧ approval.status = .pending ∧
          approval.decision = none ∧ approval.requestedBy = createdBy ∧
          approval.argumentsFingerprint = execution.argumentsFingerprint) := by
  unfold createOrReuseApprovalRequest at h
  split at h
  · rename_i approval happroval
    simp only [Except.ok.injEq] at h
    exact ⟨approval, by rw [← h, ← happroval], .inl happroval⟩
  · rename_i hnone
    split at h
    · cases h
    · simp only [Except.ok.injEq] at h
      exact ⟨_, h.symm, .inr ⟨hnone, rfl, rfl, rfl, rfl⟩⟩

/-- A committed gate found no evaluation, and left one of the three commits. -/
theorem runPolicyGate_ok {execution row : ToolExecution} {createdBy : Option Nat}
    {outcome : PolicyOutcome} {now : Nat} {e : Option ToolError}
    (h : runPolicyGate execution createdBy outcome now = .ok (row, e)) :
    execution.policyEvaluation = none ∧ GateCommit execution createdBy now row e := by
  unfold runPolicyGate at h
  split at h
  · cases h
  · rename_i hnone
    refine ⟨by simpa using hnone, ?_⟩
    cases outcome with
    | allow code reason =>
      simp only [Except.ok.injEq, Prod.mk.injEq] at h
      obtain ⟨rfl, rfl⟩ := h
      exact .allowed code reason
    | deny code reason =>
      obtain ⟨blocked, hblocked, hrow⟩ := Library.bind_eq_ok.mp h
      obtain ⟨hpending, rfl⟩ := transitionBlockedByPolicy_ok hblocked
      simp only [Except.ok.injEq, Prod.mk.injEq] at hrow
      obtain ⟨rfl, rfl⟩ := hrow
      exact .denied _ _ _ rfl hpending (by simp)
    | evaluationFailed message =>
      obtain ⟨blocked, hblocked, hrow⟩ := Library.bind_eq_ok.mp h
      obtain ⟨hpending, rfl⟩ := transitionBlockedByPolicy_ok hblocked
      simp only [Except.ok.injEq, Prod.mk.injEq] at hrow
      obtain ⟨rfl, rfl⟩ := hrow
      exact .denied _ _ _ rfl hpending (by simp)
    | requireApproval code reason requiredRole ttlSeconds =>
      obtain ⟨requested, hrequested, hrest⟩ := Library.bind_eq_ok.mp h
      obtain ⟨approval, rfl, happroval⟩ := createOrReuseApprovalRequest_ok hrequested
      obtain ⟨waiting, hwaiting, hrow⟩ := Library.bind_eq_ok.mp hrest
      obtain ⟨hpending, rfl⟩ := transitionWaitingForApproval_ok hwaiting
      simp only [Except.ok.injEq, Prod.mk.injEq] at hrow
      obtain ⟨rfl, rfl⟩ := hrow
      exact .approvalRequired code reason approval _ happroval hpending rfl

/-- The gate raises for an approval only when the evaluation asks for one. -/
theorem runPolicyGate_requires {execution row : ToolExecution} {createdBy : Option Nat}
    {outcome : PolicyOutcome} {now : Nat} {e : ToolError}
    (h : runPolicyGate execution createdBy outcome now = .ok (row, some e))
    (hcls : e.cls = .approvalRequired) : outcome.requires = true := by
  unfold runPolicyGate at h
  split at h
  · cases h
  · cases outcome with
    | allow code reason => simp at h
    | deny code reason =>
      obtain ⟨blocked, -, hrow⟩ := Library.bind_eq_ok.mp h
      simp only [Except.ok.injEq, Prod.mk.injEq, Option.some.injEq] at hrow
      simp [← hrow.2] at hcls
    | evaluationFailed message =>
      obtain ⟨blocked, -, hrow⟩ := Library.bind_eq_ok.mp h
      simp only [Except.ok.injEq, Prod.mk.injEq, Option.some.injEq] at hrow
      simp [← hrow.2] at hcls
    | requireApproval => rfl

/-! ## Transitions to `RUNNING` -/

/-- The row after the transition that both entry points make before the handler section. -/
def ToolExecution.start (locked : ToolExecution) (now : Nat) : ToolExecution :=
  { locked with status := .running, startedAt := some now }

def transitionRunning (locked : ToolExecution) (now : Nat) : Except ToolError ToolExecution :=
  if locked.status ≠ .pending ∧ locked.status ≠ .waitingForApproval then
    .error (.raise .executionInProgress)
  else .ok (locked.start now)

theorem transitionRunning_ok {locked row : ToolExecution} {now : Nat}
    (h : transitionRunning locked now = .ok row) :
    (locked.status = .pending ∨ locked.status = .waitingForApproval) ∧ row = locked.start now := by
  unfold transitionRunning at h
  grind

def claimResume (locked : ToolExecution) (now : Nat) : Option ToolExecution :=
  if locked.status ≠ .waitingForApproval then none else some (locked.start now)

/-- `_reserve_budget_slot`: the conditional update, `none` when no row matched. -/
def reserveBudgetSlot (run : AgentRun) (maxToolCalls : Nat) : Option AgentRun :=
  if run.toolCallCount < maxToolCalls then
    some { run with toolCallCount := run.toolCallCount + 1 }
  else none

theorem reserveBudgetSlot_some {run reserved : AgentRun} {maxToolCalls : Nat}
    (h : reserveBudgetSlot run maxToolCalls = some reserved) :
    run.toolCallCount < maxToolCalls ∧
      reserved = { run with toolCallCount := run.toolCallCount + 1 } := by
  unfold reserveBudgetSlot at h
  grind

theorem reserveBudgetSlot_none {run : AgentRun} {maxToolCalls : Nat}
    (h : reserveBudgetSlot run maxToolCalls = none) : maxToolCalls ≤ run.toolCallCount := by
  unfold reserveBudgetSlot at h
  grind

/-! ## Bounded execution: retries, timeout and output validation -/

/-- The `json.dumps` text of a dumped result, and whether PostgreSQL stores it as `jsonb`. -/
structure ToolOutput where
  json : String
  jsonbAccepts : Bool := true
  deriving DecidableEq, Repr

/-- `model_dump`, `redact` and `json.dumps` of a validated result. -/
inductive DumpOutcome
  | dumped (output : ToolOutput)
  | raises
  deriving DecidableEq, Repr

/-- `output_model.model_validate` on a dictionary. -/
inductive ValidationOutcome
  | valid (dump : DumpOutcome)
  | validationError
  | toolError (e : ToolError)
  | otherException
  deriving DecidableEq, Repr

/-- What the handler returned, as the output model sees it. -/
inductive RawResult
  | modelInstance (dump : DumpOutcome)
  | dict (validation : ValidationOutcome)
  | other
  deriving DecidableEq, Repr

/-- An exception of the handler: a tool error, the built-in `TimeoutError`, or any other. -/
inductive HandlerException
  | toolError (e : ToolError)
  | timeoutError
  | other
  deriving DecidableEq, Repr

/-- One invocation of a handler, as `future.result` reports it. -/
inductive HandlerBehaviour
  | returns (raw : RawResult)
  | raises (e : HandlerException)
  | timesOut
  deriving DecidableEq, Repr

/-- What leaves a Python call: a tool error, or an exception no handler clause names. -/
inductive Raised
  | toolError (e : ToolError)
  | uncaught
  deriving DecidableEq, Repr

def dumpOutput : DumpOutcome → Except Raised ToolOutput
  | .raises => .error .uncaught
  | .dumped output =>
    if maxOutputBytes < output.json.toList.length then
      .error (.toolError (.raise .invalidOutput "Tool output exceeds the maximum allowed size."))
    else .ok output

def validateOutput : RawResult → Except Raised ToolOutput
  | .modelInstance dump => dumpOutput dump
  | .dict (.valid dump) => dumpOutput dump
  | .dict .validationError => .error (.toolError (.raise .invalidOutput))
  | .dict (.toolError e) => .error (.toolError e)
  | .dict .otherException => .error (.toolError (.raise .executionFailed))
  | .other => .error (.toolError (.raise .invalidOutput))

/-- `FuturesTimeoutError` is the built-in `TimeoutError`, so a handler that raises it is
reported exactly like one that ran out of time. -/
def invokeWithTimeout : HandlerBehaviour → Except Raised ToolOutput
  | .timesOut | .raises .timeoutError => .error (.toolError (.raise .timeout))
  | .raises (.toolError e) => .error (.toolError e)
  | .raises .other => .error .uncaught
  | .returns raw => validateOutput raw

/-- How one pass of the retry loop ends. -/
inductive AttemptResult
  | retry
  | returns (output : ToolOutput)
  | raises (r : Raised)
  deriving DecidableEq, Repr

/-- The body of the retry loop after `attempt_count` has been written. -/
def afterAttempt (policy : RetryPolicy) (attemptCount : Nat) (b : HandlerBehaviour) :
    AttemptResult :=
  match invokeWithTimeout b with
  | .ok output => .returns output
  | .error .uncaught => .raises .uncaught
  | .error (.toolError e) =>
    if e.cls = .timeout then .raises (.toolError e)
    else if e.code ∈ policy.retryableErrorCodes then
      if attemptCount < policy.maxRetries + 1 then .retry
      else .raises (.toolError (.raise .retryExhausted))
    else .raises (.toolError e)

/-- `_run_with_retries` from a row with `attemptCount` attempts, for a handler that behaves as
`handler n` on attempt `n`. -/
def runWithRetries (policy : RetryPolicy) (attemptCount : Nat)
    (handler : Nat → HandlerBehaviour) : Except Raised ToolOutput :=
  if policy.maxRetries + 1 ≤ attemptCount then .error (.toolError (.raise .retryExhausted))
  else match afterAttempt policy (attemptCount + 1) (handler (attemptCount + 1)) with
  | .retry => runWithRetries policy (attemptCount + 1) handler
  | .returns output => .ok output
  | .raises r => .error r
termination_by policy.maxRetries + 1 - attemptCount

theorem afterAttempt_retry {policy : RetryPolicy} {attemptCount : Nat} {b : HandlerBehaviour}
    (h : afterAttempt policy attemptCount b = .retry) : attemptCount ≤ policy.maxRetries := by
  unfold afterAttempt at h
  grind

/-! ## Finalizers -/

/-- The two statuses that a failed call is finalized with. -/
inductive FailureStatus
  | failed
  | timedOut
  deriving DecidableEq, Repr

def FailureStatus.status : FailureStatus → ToolExecutionStatus
  | .failed => .failed
  | .timedOut => .timedOut

theorem FailureStatus.status_ne_waiting (f : FailureStatus) :
    f.status ≠ .waitingForApproval := by
  cases f <;> simp [FailureStatus.status]

/-- How a call leaves after its row became `RUNNING`: with a result, with a tool error that a
finalizer records first, with a tool error that none records, or with another exception. -/
inductive CallExit
  | success (output : ToolOutput)
  | failure (status : FailureStatus) (code message : String) (e : ToolError)
  | raised (e : ToolError)
  | uncaught
  deriving DecidableEq, Repr

/-- The two `except` clauses around `_run_with_retries`. -/
def CallExit.ofRaised : Raised → CallExit
  | .toolError e =>
    .failure (if e.cls = .timeout then .timedOut else .failed) e.code e.safeMessage e
  | .uncaught => .uncaught

def durationMs (startedAt : Option Nat) (completedAt : Nat) : Option Nat :=
  startedAt.map fun s => (completedAt - s) / 1000

/-- What a finalizer does with the locked row: nothing because it is no longer `RUNNING`, a
write, or a write that PostgreSQL refuses, which raises through the caller. -/
inductive Finalized
  | skipped
  | stored (row : ToolExecution)
  | refused
  deriving DecidableEq, Repr

def finalizeSuccess (locked : ToolExecution) (output : ToolOutput) (now : Nat) : Finalized :=
  if locked.status ≠ .running then .skipped
  else if output.jsonbAccepts then
    .stored { locked with
      status := .succeeded
      resultRedacted := output.json
      completedAt := some now
      durationMs := durationMs locked.startedAt now }
  else .refused

def finalizeFailure (locked : ToolExecution) (status : FailureStatus)
    (code message : String) (now : Nat) : Finalized :=
  if locked.status ≠ .running then .skipped
  else if varcharAccepts maxErrorCodeLength code &&
      varcharAccepts maxErrorMessageLength message then
    .stored { locked with
      status := status.status
      errorCode := code
      errorMessageSafe := message
      completedAt := some now
      durationMs := durationMs locked.startedAt now }
  else .refused

/-- The finalizer that an exit calls, if it calls one. -/
def CallExit.finalize (exit : CallExit) (locked : ToolExecution) (now : Nat) : Finalized :=
  match exit with
  | .success output => finalizeSuccess locked output now
  | .failure status code message _ => finalizeFailure locked status code message now
  | .raised _ | .uncaught => .skipped

/-- A stored finalization found the row `RUNNING`, and left it in a status that the exit
names, with the exit's own code when it failed. -/
theorem CallExit.finalize_stored {exit : CallExit} {locked row : ToolExecution} {now : Nat}
    (h : exit.finalize locked now = .stored row) :
    locked.status = .running ∧
      ((∃ output, exit = .success output ∧ row = { locked with
          status := .succeeded
          resultRedacted := output.json
          completedAt := some now
          durationMs := SupportPilot.durationMs locked.startedAt now }) ∨
        ∃ status code message e, exit = .failure status code message e ∧ row = { locked with
          status := FailureStatus.status status
          errorCode := code
          errorMessageSafe := message
          completedAt := some now
          durationMs := SupportPilot.durationMs locked.startedAt now }) := by
  cases exit with
  | success output =>
    simp only [CallExit.finalize, finalizeSuccess] at h
    grind
  | failure status code message e =>
    simp only [CallExit.finalize, finalizeFailure] at h
    grind
  | raised e => cases h
  | uncaught => cases h

/-! ## Checks of `resume_after_approval` -/

/-- `input_model.model_validate` on the stored arguments. -/
inductive SnapshotOutcome
  | valid
  | validationError
  | otherException
  deriving DecidableEq, Repr

/-- What `resume_after_approval` reads after it claimed the row. -/
structure ResumeLookup where
  tool : Option ToolSpec
  bindingEnabled : Bool := true
  definitionActive : Bool := true
  snapshot : SnapshotOutcome := .valid
  deriving DecidableEq, Repr

/-- The request carries a fingerprint, and it is not the one of the row. -/
def ToolExecution.actionChanged (claimed : ToolExecution) : Bool :=
  claimed.approvalRequest.any fun approval =>
    approval.argumentsFingerprint ≠ "" &&
      approval.argumentsFingerprint ≠ claimed.argumentsFingerprint

/-- The checks between the claim and the reservation. A missing registration is raised by
the registry lookup itself, so no finalizer runs for it. -/
def checkResume (claimed : ToolExecution) (lookup : ResumeLookup) :
    Except CallExit ToolSpec :=
  if claimed.actionChanged then
    .error (.failure .failed "approval_action_changed"
      "The approved action no longer matches what was requested." (.raise .approvalActionChanged))
  else match lookup.tool with
  | none => .error (.raised (.raise .notRegistered))
  | some tool =>
    if !lookup.bindingEnabled || !lookup.definitionActive then
      .error (.failure .failed "tool_disabled"
        "The tool was disabled while this action was awaiting approval." (.raise .disabled))
    else match lookup.snapshot with
    | .valid => .ok tool
    | .validationError =>
      .error (.failure .failed "tool_invalid_input"
        "The approved action's arguments could not be safely reconstructed."
        (.raise .invalidInput))
    | .otherException => .error .uncaught

theorem checkResume_ok {claimed : ToolExecution} {lookup : ResumeLookup} {tool : ToolSpec}
    (h : checkResume claimed lookup = .ok tool) : lookup.tool = some tool := by
  unfold checkResume at h
  grind

/-- The failure both entry points record when no budget slot is left. -/
def budgetRefusal : CallExit :=
  .failure .failed "tool_budget_exceeded"
    "The run's tool-call budget was exhausted by a concurrent call." (.raise .budgetExceeded)

end SupportPilot
