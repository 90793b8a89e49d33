import SupportPilot.Approvals.Services

/-!
# Run lifecycle services, row by row

Every writer of an agent run as a function of the locked row, with `none` where the
function returns without writing. The two completions also say which message they
create for the customer.
-/

namespace SupportPilot

def handoffAcknowledgementText : String :=
  "I'm connecting you with a support specialist who can help with this — they'll follow up here."

/-- The row that `create_agent_run` inserts. -/
def newAgentRun (workspace : Nat) (agentVersion : AgentVersion)
    (conversation triggerMessage createdBy : Option Nat) (now : Nat) : AgentRun where
  workspace := workspace
  agentVersion := agentVersion
  conversation := conversation
  triggerMessage := triggerMessage
  createdBy := createdBy
  updatedAt := now

/-- `claim_agent_run`. -/
def claimAgentRun (run : AgentRun) (now : Nat) : Option AgentRun :=
  if run.status ≠ .pending then none
  else some { run with status := .running, startedAt := some now, updatedAt := now }

/-- `cancel_agent_run` on the run itself; `none` stands for `AgentRunNotCancellableError`. -/
def cancelAgentRun (run : AgentRun) (now : Nat) : Option AgentRun :=
  if run.status.terminal then none
  else some { run with status := .cancelled, cancelledAt := some now, updatedAt := now }

/-- What the cancellation of a waiting run does to one child execution: its approval is
cancelled, then the row itself by a conditional update. -/
def cancelChildExecution (execution : ToolExecution) (now : Nat) : ToolExecution :=
  if execution.status = .waitingForApproval then
    { cancelApprovalForExecution execution now with
      status := .cancelled
      completedAt := some now }
  else execution

def cancelHandoff (handoff : HumanHandoff) : HumanHandoff :=
  if handoff.status.active then { handoff with status := .cancelled } else handoff

/-- `_pause_run_for_approval`. -/
def pauseRunForApproval (run : AgentRun) (usage : RunUsage) (now : Nat) : Option AgentRun :=
  if run.status ≠ .running then none
  else some { run with usage := usage, status := .waitingForApproval, updatedAt := now }

/-- `_claim_run_for_resume`. -/
def claimRunForResume (run : AgentRun) (now : Nat) : Option AgentRun :=
  if run.status ≠ .waitingForApproval then none
  else some { run with status := .running, updatedAt := now }

/-- The fields that both completions write. -/
def completed (run : AgentRun) (status : AgentRunStatus) (finalResponse : String)
    (usage : RunUsage) (outputMessage : Option Nat) (now : Nat) : AgentRun :=
  { run with
    usage := usage
    finalResponse := finalResponse
    status := status
    completedAt := some now
    outputMessage := outputMessage
    updatedAt := now }

/-- `_complete_run_as_handoff`, with the message it creates under the key `messageId`. A run
without a conversation fails the assertion and writes nothing. -/
def completeRunAsHandoff (r : Nat) (run : AgentRun) (usage : RunUsage) (messageId now : Nat) :
    Option (AgentRun × Option Message) :=
  if run.status ≠ .running then none
  else match run.conversation with
  | none => none
  | some conversation =>
    match run.outputMessage with
    | some m =>
      some (completed run .handedOff handoffAcknowledgementText usage (some m) now, none)
    | none =>
      some (completed run .handedOff handoffAcknowledgementText usage (some messageId) now,
        some ⟨conversation, handoffAcknowledgementText, r⟩)

/-- A handoff completes a running run with a conversation, and leaves it with a message: the
one it had, or the one that is created with it. -/
theorem completeRunAsHandoff_some {r messageId now : Nat} {run row : AgentRun}
    {usage : RunUsage} {message : Option Message}
    (h : completeRunAsHandoff r run usage messageId now = some (row, message)) :
    run.status = .running ∧ ∃ conversation outputMessage, run.conversation = some conversation ∧
      row = completed run .handedOff handoffAcknowledgementText usage outputMessage now ∧
      (message = none ∧ outputMessage.isSome ∧ run.outputMessage = outputMessage ∨
        message = some ⟨conversation, handoffAcknowledgementText, r⟩ ∧
          outputMessage = some messageId ∧ run.outputMessage = none) := by
  unfold completeRunAsHandoff at h
  split at h
  · cases h
  · rename_i hrunning
    refine ⟨by simpa using hrunning, ?_⟩
    split at h
    · cases h
    · rename_i conversation hconversation
      split at h
      · rename_i m hm
        cases h
        exact ⟨conversation, some m, hconversation, rfl, .inl ⟨rfl, rfl, hm⟩⟩
      · rename_i hm
        cases h
        exact ⟨conversation, some messageId, hconversation, rfl, .inr ⟨rfl, rfl, hm⟩⟩

/-- `_complete_run`: a message only with a conversation, a non-empty response and no message. -/
def completeRun (r : Nat) (run : AgentRun) (usage : RunUsage) (finalResponse : String)
    (messageId now : Nat) : Option (AgentRun × Option Message) :=
  if run.status ≠ .running then none
  else match run.conversation, run.outputMessage with
  | some conversation, none =>
    if finalResponse ≠ "" then
      some (completed run .succeeded finalResponse usage (some messageId) now,
        some ⟨conversation, finalResponse, r⟩)
    else some (completed run .succeeded finalResponse usage none now, none)
  | _, outputMessage =>
    some (completed run .succeeded finalResponse usage outputMessage now, none)

/-- A completion succeeds a running run. It creates a message exactly when there is a
conversation, a non-empty response and no message yet. -/
theorem completeRun_some {r messageId now : Nat} {run row : AgentRun} {usage : RunUsage}
    {finalResponse : String} {message : Option Message}
    (h : completeRun r run usage finalResponse messageId now = some (row, message)) :
    run.status = .running ∧ ∃ outputMessage,
      row = completed run .succeeded finalResponse usage outputMessage now ∧
      (message = none ∧ outputMessage = run.outputMessage ∧
          (run.conversation = none ∨ finalResponse = "" ∨ run.outputMessage.isSome) ∨
        ∃ conversation, run.conversation = some conversation ∧ finalResponse ≠ "" ∧
          run.outputMessage = none ∧ message = some ⟨conversation, finalResponse, r⟩ ∧
          outputMessage = some messageId) := by
  unfold completeRun at h
  split at h
  · cases h
  · rename_i hrunning
    refine ⟨by simpa using hrunning, ?_⟩
    split at h
    · rename_i conversation hconversation hnone
      split at h
      · rename_i hresponse
        cases h
        exact ⟨_, rfl, .inr ⟨conversation, hconversation, hresponse, hnone, rfl, rfl⟩⟩
      · rename_i hresponse
        cases h
        exact ⟨none, rfl, .inl ⟨rfl, hnone.symm, .inr (.inl (by simpa using hresponse))⟩⟩
    · rename_i hnot
      cases h
      refine ⟨_, rfl, .inl ⟨rfl, rfl, ?_⟩⟩
      cases hconversation : run.conversation with
      | none => exact .inl rfl
      | some conversation =>
        cases hmessage : run.outputMessage with
        | none => exact absurd hmessage (hnot conversation hconversation)
        | some m => exact .inr (.inr rfl)

/-- `create_or_reuse_handoff`: at most one active handoff in a conversation. -/
def createOrReuseHandoff (handoffs : List HumanHandoff) (conversation run : Nat)
    (reasonCode safeSummary : String) : List HumanHandoff :=
  if handoffs.any fun h => h.conversation == conversation && h.status.active then handoffs
  else handoffs ++ [{
    conversation := conversation
    agentRun := run
    reasonCode := reasonCode
    safeSummary := safeSummary }]

/-- `_fail_run`, with the usage of the graph result where the caller has one. -/
def failRun (run : AgentRun) (code message : String) (usage : Option RunUsage) (now : Nat) :
    Option AgentRun :=
  if run.status.terminal then none
  else some { run with
    usage := usage.getD run.usage
    status := .failed
    failureCode := code
    failureMessageSafe := message
    completedAt := some now
    updatedAt := now }

theorem failRun_some {run row : AgentRun} {code message : String} {usage : Option RunUsage}
    {now : Nat} (h : failRun run code message usage now = some row) :
    run.status.terminal = false ∧ row = { run with
      usage := usage.getD run.usage
      status := .failed
      failureCode := code
      failureMessageSafe := message
      completedAt := some now
      updatedAt := now } := by
  unfold failRun at h
  grind

/-- `_budget_exceeded_run`. -/
def budgetExceededRun (run : AgentRun) (reason : String) (usage : RunUsage) (now : Nat) :
    Option AgentRun :=
  if run.status.terminal then none
  else some { run with
    usage := usage
    status := .budgetExceeded
    failureCode := "budget_exceeded:" ++ (if reason = "" then "unknown" else reason)
    failureMessageSafe := "The run exceeded its configured execution budget."
    completedAt := some now
    updatedAt := now }

theorem budgetExceededRun_some {run row : AgentRun} {reason : String} {usage : RunUsage}
    {now : Nat} (h : budgetExceededRun run reason usage now = some row) :
    run.status.terminal = false ∧ row = { run with
      usage := usage
      status := .budgetExceeded
      failureCode := "budget_exceeded:" ++ (if reason = "" then "unknown" else reason)
      failureMessageSafe := "The run exceeded its configured execution budget."
      completedAt := some now
      updatedAt := now } := by
  unfold budgetExceededRun at h
  grind

inductive RecoveryAction
  | fail
  | handoff
  deriving DecidableEq, Repr

/-- `classify_terminal_failure`. -/
def classifyTerminalFailure (errorCode : String) (hasConversation : Bool) : RecoveryAction :=
  if hasConversation ∧ errorCode ∈
      ["provider_rate_limited", "provider_timeout", "provider_temporarily_unavailable"] then
    .handoff
  else .fail

/-! ## Stuck-worker recovery -/

/-- `_recover_one_stuck_run` on the run itself. -/
def recoverOneStuckRun (run : AgentRun) (cutoff now : Nat) : Option AgentRun :=
  if run.status ≠ .running then none
  else if cutoff < run.updatedAt then none
  else some { run with
    status := .failed
    failureCode := "stuck_worker_recovered"
    failureMessageSafe :=
      "Recovered: no worker progress was observed before the staleness threshold."
    completedAt := some now
    updatedAt := now }

theorem recoverOneStuckRun_some {run row : AgentRun} {cutoff now : Nat}
    (h : recoverOneStuckRun run cutoff now = some row) :
    run.status = .running ∧ run.updatedAt ≤ cutoff ∧ row = { run with
      status := .failed
      failureCode := "stuck_worker_recovered"
      failureMessageSafe :=
        "Recovered: no worker progress was observed before the staleness threshold."
      completedAt := some now
      updatedAt := now } := by
  unfold recoverOneStuckRun at h
  grind

/-- `_fail_in_flight_tool_executions` on one child execution. -/
def failInFlightToolExecution (execution : ToolExecution) (now : Nat) : ToolExecution :=
  if execution.status = .pending ∨ execution.status = .running then
    { execution with
      status := .failed
      errorCode := "stuck_worker_recovered"
      completedAt := some now }
  else execution

end SupportPilot
