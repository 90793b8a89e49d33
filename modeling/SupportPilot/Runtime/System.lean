import SupportPilot.Library.Processes
import SupportPilot.Runtime.Worker

/-!
# The system of workers and services

One label is one committed transaction, one probe, or the start or the end of one handler
invocation. Services that run outside a worker (requests, approval decisions, sweeps,
message deliveries) are events of the environment; a redelivered or republished message is
one more delivery of the same message.
-/

namespace SupportPilot

open Library

/-! ## Environment -/

inductive ServiceEvent
  | createRun (workspace : Nat) (agentVersion : AgentVersion) (conversation : Option Nat)
      (triggerMessage createdBy : Option Nat) (now : Nat)
  | claimRun (run now : Nat)
  | deliverResume (execution : Nat)
  | cancelRun (run now : Nat)
  | recoverRun (run cutoff now : Nat)
  | redispatchResume (execution cutoff : Nat)
  | decide (execution actor : Nat) (actorRole : String) (decision : ApprovalDecisionValue)
      (checkedAt now : Nat)
  | expire (execution checkedAt now : Nat)
  | cancelApproval (execution now : Nat)

namespace Store

/-- `create_agent_run`: a trigger message has at most one run. -/
def createRun (s : Store) (workspace : Nat) (agentVersion : AgentVersion)
    (conversation triggerMessage createdBy : Option Nat) (now : Nat) : Store :=
  if triggerMessage.isSome ∧ s.runs.any (·.triggerMessage == triggerMessage) then s
  else { s with
    runs := s.runs ++
      [newAgentRun workspace agentVersion conversation triggerMessage createdBy now] }

/-- The loop over the child executions, entered only when the run was waiting. -/
def cancelChildOf (r : Nat) (run : AgentRun) (now : Nat) (e : ToolExecution) : ToolExecution :=
  if e.agentRun = r ∧ run.status = .waitingForApproval then cancelChildExecution e now else e

/-- `cancel_agent_run`: the children and the handoffs are released in the same transaction. -/
def cancelRun (s : Store) (r now : Nat) : Option Store := do
  let run ← s.runs[r]?
  let cancelled ← cancelAgentRun run now
  some { s with
    runs := s.runs.set r cancelled
    executions := s.executions.map (cancelChildOf r run now)
    handoffs := s.handoffs.map fun h => if h.agentRun = r then cancelHandoff h else h }

/-- The conditional update of the child executions of a recovered run. -/
def recoverChildOf (r now : Nat) (e : ToolExecution) : ToolExecution :=
  if e.agentRun = r then failInFlightToolExecution e now else e

/-- `_recover_one_stuck_run` with the failure of the in-flight children. -/
def recoverRun (s : Store) (r cutoff now : Nat) : Option Store := do
  let run ← s.runs[r]?
  let recovered ← recoverOneStuckRun run cutoff now
  some { s with
    runs := s.runs.set r recovered
    executions := s.executions.map (recoverChildOf r now) }

/-- `_redispatch_stuck_waiting_for_approval_runs`: any resolved approval of a waiting run. -/
def redispatchResume (s : Store) (x cutoff : Nat) : Option Store := do
  let execution ← s.executions[x]?
  let approval ← execution.approvalRequest
  let run ← s.runs[execution.agentRun]?
  if run.status = .waitingForApproval ∧ approval.status.resolved ∧
      approval.resolvedAt.any (· ≤ cutoff) then
    some (s.dispatchResume x)
  else none

/-- `decide_approval`: a decision and an expiry found by it publish a resume message. -/
def decide (s : Store) (x actor : Nat) (actorRole : String) (decision : ApprovalDecisionValue)
    (checkedAt now : Nat) : Option Store := do
  let execution ← s.executions[x]?
  let approval ← execution.approvalRequest
  match decideApproval execution approval actor actorRole decision checkedAt now with
  | .refused _ | .replayed => some s
  | .expired row => some ((s.setExecution x row).dispatchResume x)
  | .decided row =>
    some (((s.setExecution x row).dispatchResume x).record
      (.approvalDecided x actor actorRole decision checkedAt))

def expire (s : Store) (x checkedAt now : Nat) : Option Store := do
  let execution ← s.executions[x]?
  let approval ← execution.approvalRequest
  let row ← expireStaleApproval execution approval checkedAt now
  some ((s.setExecution x row).dispatchResume x)

def cancelApproval (s : Store) (x now : Nat) : Option Store := do
  let execution ← s.executions[x]?
  some (s.setExecution x (cancelApprovalForExecution execution now))

/-- `execute_agent_run_task`: only the claim out of `PENDING` starts a worker. -/
def claimRun (s : Store) (r now : Nat) : Option (Store × Worker) := do
  let run ← s.runs[r]?
  let claimed ← claimAgentRun run now
  some ((s.setRun r claimed).record (.runClaimed r), Worker.claimed r)

/-- `resume_approved_action_task`: a resolved approval starts a worker on its own run. -/
def deliverResume (s : Store) (x : Nat) : Option Worker := do
  if x ∈ s.resumeMessages then
    let execution ← s.executions[x]?
    let approval ← execution.approvalRequest
    if approval.status.resolved then
      some (Worker.resuming execution.agentRun x approval.status)
    else none
  else none

end Store

def serviceStep : ServiceEvent → Store → Option (Store × Option Worker)
  | .createRun workspace agentVersion conversation triggerMessage createdBy now, s =>
    some (s.createRun workspace agentVersion conversation triggerMessage createdBy now, none)
  | .claimRun r now, s => (s.claimRun r now).map fun out => (out.1, some out.2)
  | .deliverResume x, s => (s.deliverResume x).map fun w => (s, some w)
  | .cancelRun r now, s => (s.cancelRun r now).map (·, none)
  | .recoverRun r cutoff now, s => (s.recoverRun r cutoff now).map (·, none)
  | .redispatchResume x cutoff, s => (s.redispatchResume x cutoff).map (·, none)
  | .decide x actor actorRole decision checkedAt now, s =>
    (s.decide x actor actorRole decision checkedAt now).map (·, none)
  | .expire x checkedAt now, s => (s.expire x checkedAt now).map (·, none)
  | .cancelApproval x now, s => (s.cancelApproval x now).map (·, none)

/-! ## Workers -/

inductive WorkerAction
  | vanish
  | callTool (request : ToolRequest)
  | endGraph (result : GraphResult)
  | raiseInGraph
  | checkCall (lookup : ToolLookup)
  | claimExecution
  | checkEvaluated
  | runPolicyGate (outcome : PolicyOutcome) (now : Nat)
  | transitionRunning (now : Nat)
  | reserveSlot
  | countAttempt
  | invokeHandler
  | handlerEnds (behaviour : HandlerBehaviour)
  | finalize (now : Nat)
  | pauseRun (usage : RunUsage) (now : Nat)
  | finishRun (usage : RunUsage) (now : Nat)
  | claimRunForResume (now : Nat)
  | claimResume (now : Nat)
  | refreshExecution
  | checkResume (lookup : ResumeLookup)
  | failRun (now : Nat)

namespace Store

/-- A worker disappears. A call that had invoked its handler leaves an event behind. -/
def vanish (s : Store) (i : Nat) (w : Worker) : Store :=
  match w.point.startedCall with
  | some call => if call.invoked then s.record (.workerVanished i call.execution) else s
  | none => s

/-- The probe before a tool call, which only the main segment carries. -/
def callTool (s : Store) (w : Worker) (request : ToolRequest) : Option Point := do
  let run ← s.runs[w.run]?
  if w.segment = .main ∧ run.status = .cancelled then some .returned
  else some (.toolCall request)

def checkCall (s : Store) (w : Worker) (request : ToolRequest) (lookup : ToolLookup) :
    Option Point := do
  let run ← s.runs[w.run]?
  match checkToolCall w.seenStatus run.toolCallCount run.agentVersion.maxToolCalls
      request.idempotencyKey lookup with
  | .error e => some (.afterRefusal e)
  | .ok tool => some (.claimExecution request tool)

/-- `_claim_execution`, with what `execute_tool` does about its result. -/
def claimExecution (s : Store) (w : Worker) (request : ToolRequest) (tool : ToolSpec) :
    Option (Store × Point) := do
  let run ← s.runs[w.run]?
  match s.findExecution run.workspace request.toolKey request.idempotencyKey with
  | none =>
    some ({ s with executions := s.executions ++ [newExecution w.run run request] },
      .policyCheck ⟨s.executions.length, tool, 0, false, false⟩)
  | some x =>
    let existing ← s.executions[x]?
    match resolveExisting existing request.argumentsFingerprint tool with
    | .error e => some (s, .afterRefusal e)
    | .ok .waiting => some (s, .approvalRequired x)
    | .ok .reused =>
      match reusedOutcome existing with
      | .ok _ => some (s, .graph)
      | .error e => some (s, .afterToolError x e)
    | .ok .reset =>
      some (s.setExecution x existing.reset,
        .policyCheck ⟨x, tool, existing.attemptCount, false, false⟩)

/-- `_already_policy_evaluated`. -/
def checkEvaluated (s : Store) (call : Call) : Option Point := do
  let execution ← s.executions[call.execution]?
  if execution.policyEvaluation.isSome then some (.transitionRunning call)
  else some (.policyGate call)

def runPolicyGate (s : Store) (w : Worker) (call : Call) (outcome : PolicyOutcome) (now : Nat) :
    Option (Store × Point) := do
  let run ← s.runs[w.run]?
  let execution ← s.executions[call.execution]?
  match SupportPilot.runPolicyGate execution run.createdBy outcome now with
  | .error .integrityError => some (s, .internalError)
  | .error .executionInProgress => some (s, .afterRefusal (.raise .executionInProgress))
  | .ok (row, none) => some (s.setExecution call.execution row, .transitionRunning call)
  | .ok (row, some e) =>
    some (s.setExecution call.execution row, .afterToolError call.execution e)

def transitionRunning (s : Store) (i : Nat) (call : Call) (now : Nat) :
    Option (Store × Point) := do
  let execution ← s.executions[call.execution]?
  match SupportPilot.transitionRunning execution now with
  | .error e => some (s, .afterRefusal e)
  | .ok row =>
    some ((s.setExecution call.execution row).record (.rowStarted i call.execution),
      .reserveSlot call)

/-- The `max_tool_calls` that the two entry points pass to the reservation. -/
def slotLimit (call : Call) (run : AgentRun) (execution : ToolExecution) : Nat :=
  if call.resumed then execution.agentVersion.maxToolCalls else run.agentVersion.maxToolCalls

/-- `_reserve_budget_slot` on the worker's run; a refusal goes on to the finalizer. -/
def reserveSlot (s : Store) (w : Worker) (call : Call) : Option (Store × Point) := do
  let run ← s.runs[w.run]?
  let execution ← s.executions[call.execution]?
  match reserveBudgetSlot run (slotLimit call run execution) with
  | some reserved => some (s.setRun w.run reserved, .attempt call)
  | none => some (s, .leave call budgetRefusal)

/-- The head of the retry loop: the attempt counter in memory is written to the row. -/
def countAttempt (s : Store) (call : Call) : Option (Store × Point) := do
  let execution ← s.executions[call.execution]?
  if call.tool.retryPolicy.maxRetries + 1 ≤ call.attemptCount then
    some (s, .leave call (.ofRaised (.toolError (.raise .retryExhausted))))
  else
    some (s.setExecution call.execution { execution with attemptCount := call.attemptCount + 1 },
      .invoke { call with attemptCount := call.attemptCount + 1 })

def invokeHandler (s : Store) (i : Nat) (w : Worker) (call : Call) : Store × Point :=
  (s.record (.handlerStarted i w.run call.execution (!call.invoked)),
    .handler { call with invoked := true })

def handlerEnds (s : Store) (i : Nat) (call : Call) (behaviour : HandlerBehaviour) :
    Store × Point :=
  (s.record (.handlerEnded i call.execution (invokeWithTimeout behaviour)),
    match afterAttempt call.tool.retryPolicy call.attemptCount behaviour with
    | .retry => .attempt call
    | .returns output => .leave call (.success output)
    | .raises r => .leave call (.ofRaised r))

/-- The fenced finalizer of an exit: it writes only a row that is still `RUNNING`. -/
def finalize (s : Store) (i : Nat) (call : Call) (exit : CallExit) (now : Nat) :
    Option (Store × Point) := do
  let execution ← s.executions[call.execution]?
  match exit.finalize execution now with
  | .refused => some (s, .afterExit call exit false)
  | .skipped => some (s, .afterExit call exit true)
  | .stored row =>
    some ((s.setExecution call.execution row).record (.rowFinalized i call.execution),
      .afterExit call exit true)

def pauseRun (s : Store) (w : Worker) (x : Nat) (usage : RunUsage) (now : Nat) :
    Option (Store × Point) := do
  let run ← s.runs[w.run]?
  match pauseRunForApproval run usage now with
  | none => some (s, .returned)
  | some paused => some ((s.setRun w.run paused).record (.runPaused w.run x), .returned)

/-- The handoff row, the message and the run of `_complete_run_as_handoff`. -/
def handOff (s : Store) (w : Worker) (run : AgentRun) (reasonCode safeSummary : String)
    (usage : RunUsage) (now : Nat) : Store :=
  match completeRunAsHandoff w.run run usage s.messages.length now, run.conversation with
  | some (completed, message), some conversation =>
    { s with
      runs := s.runs.set w.run completed
      messages := s.messages ++ message.toList
      handoffs := createOrReuseHandoff s.handoffs conversation w.run reasonCode safeSummary }
  | _, _ => s

/-- `_fail_run` and `_budget_exceeded_run` write the run or return without writing. -/
def writeRun (s : Store) (r : Nat) : Option AgentRun → Store
  | some run => s.setRun r run
  | none => s

/-- The dispatch on the graph result at the end of a segment. -/
def finishRun (s : Store) (w : Worker) (result : GraphResult) (usage : RunUsage) (now : Nat) :
    Option Store := do
  let run ← s.runs[w.run]?
  match result with
  | .handoff reasonCode safeSummary => some (s.handOff w run reasonCode safeSummary usage now)
  | .budgetExceeded reason => some (s.writeRun w.run (budgetExceededRun run reason usage now))
  | .error code message =>
    match classifyTerminalFailure code run.conversation.isSome with
    | .handoff =>
      some (s.handOff w run "runtime_failure"
        ("Automated recovery after repeated " ++ code ++ ".") usage now)
    | .fail => some (s.writeRun w.run (SupportPilot.failRun run code message usage now))
  | .succeeded finalResponse =>
    match completeRun w.run run usage finalResponse s.messages.length now with
    | some (completed, message) =>
      some { s with
        runs := s.runs.set w.run completed
        messages := s.messages ++ message.toList }
    | none => some s

def failRun (s : Store) (w : Worker) (code message : String) (now : Nat) : Option Store := do
  let run ← s.runs[w.run]?
  some (s.writeRun w.run (SupportPilot.failRun run code message none now))

/-- `_claim_run_for_resume`, keyed on the run, for the approval of execution `x`. -/
def claimRunForResume (s : Store) (w : Worker) (x : Nat) (status : ApprovalStatus) (now : Nat) :
    Option (Store × Point) := do
  let run ← s.runs[w.run]?
  match SupportPilot.claimRunForResume run now with
  | none => some (s, .returned)
  | some claimed =>
    some ((s.setRun w.run claimed).record (.runResumeClaimed w.run x),
      if status = .approved then .resumeExecution x else .graph)

/-- `_claim_resume`. -/
def claimResume (s : Store) (i : Nat) (x : Nat) (now : Nat) : Option (Store × Point) := do
  let execution ← s.executions[x]?
  match SupportPilot.claimResume execution now with
  | none => some (s, .resumeRefresh x)
  | some row =>
    some ((s.setExecution x row).record (.rowStarted i x), .resumeChecks x row.attemptCount)

def refreshExecution (s : Store) (x : Nat) : Option Point := do
  let execution ← s.executions[x]?
  if execution.status = .succeeded then some .graph
  else if execution.status = .running then
    some (.afterResumeError (.raise .executionInProgress))
  else some (.afterResumeError (raisePolicyTerminalOutcome execution))

/-- The checks on the claimed row; a refusal leaves through its finalizer, if it has one. -/
def checkResume (s : Store) (x attemptCount : Nat) (lookup : ResumeLookup) : Option Point := do
  let execution ← s.executions[x]?
  match SupportPilot.checkResume execution lookup with
  | .ok tool => some (.reserveSlot ⟨x, tool, attemptCount, true, false⟩)
  | .error exit =>
    some (.leave ⟨x, lookup.tool.getD ⟨execution.toolDefinition, {}⟩, attemptCount, true, false⟩
      exit)

end Store

/-- What a live worker does at its point. -/
def workerStep (i : Nat) (w : Worker) (s : Store) : WorkerAction → Point → Option (Store × Point)
  | .callTool request, .graph => (s.callTool w request).map (s, ·)
  | .endGraph result, .graph => some (s, .ending result)
  | .raiseInGraph, .graph => some (s, .internalError)
  | .checkCall lookup, .toolCall request => (s.checkCall w request lookup).map (s, ·)
  | .claimExecution, .claimExecution request tool => s.claimExecution w request tool
  | .checkEvaluated, .policyCheck call => (s.checkEvaluated call).map (s, ·)
  | .runPolicyGate outcome now, .policyGate call => s.runPolicyGate w call outcome now
  | .transitionRunning now, .transitionRunning call => s.transitionRunning i call now
  | .reserveSlot, .reserveSlot call => s.reserveSlot w call
  | .countAttempt, .attempt call => s.countAttempt call
  | .invokeHandler, .invoke call => some (s.invokeHandler i w call)
  | .handlerEnds behaviour, .handler call => some (s.handlerEnds i call behaviour)
  | .finalize now, .leave call exit => s.finalize i call exit now
  | .pauseRun usage now, .approvalRequired x => s.pauseRun w x usage now
  | .finishRun usage now, .ending result => (s.finishRun w result usage now).map (·, .returned)
  | .claimRunForResume now, .claimRun x status => s.claimRunForResume w x status now
  | .claimResume now, .resumeExecution x => s.claimResume i x now
  | .refreshExecution, .resumeRefresh x => (s.refreshExecution x).map (s, ·)
  | .checkResume lookup, .resumeChecks x attemptCount =>
    (s.checkResume x attemptCount lookup).map (s, ·)
  | .failRun now, .failRun code message => (s.failRun w code message now).map (·, .returned)
  | _, _ => none

def workStep (i : Nat) (a : WorkerAction) (w : Worker) (s : Store) : Option (Store × Worker) :=
  if w.alive then
    match a with
    | .vanish => some (s.vanish i w, { w with alive := false })
    | a => (workerStep i w s a w.point).map fun out => (out.1, w.goto out.2)
  else none

/-- The program of the repository's workers and services, started on empty tables. -/
def program : Program ServiceEvent WorkerAction Worker Store where
  initial s := s = {}
  env := serviceStep
  work := workStep

end SupportPilot
