import SupportPilot.Runtime.System

/-!
# What one step can do

`WorkerStep` and `ServiceStep` say, action by action, which commits a step can make, with
the guards that it passed. Every invariant of the development is proved by cases on them.
-/

namespace SupportPilot

open Library

/-- The outcomes of a worker's action at a point, with the store and the point it leaves. -/
inductive WorkerStep (i : Nat) (w : Worker) (s : Store) :
    WorkerAction → Point → Store → Point → Prop
  | vanished {p : Point} : WorkerStep i w s .vanish p (s.vanish i w) p
  | probedCancelled {request : ToolRequest} {run : AgentRun} :
      s.runs[w.run]? = some run → w.segment = .main → run.status = .cancelled →
      WorkerStep i w s (.callTool request) .graph s .returned
  | calledTool {request : ToolRequest} {run : AgentRun} :
      s.runs[w.run]? = some run → (w.segment = .main → run.status ≠ .cancelled) →
      WorkerStep i w s (.callTool request) .graph s (.toolCall request)
  | endedGraph {result : GraphResult} :
      WorkerStep i w s (.endGraph result) .graph s (.ending result)
  | raisedInGraph : WorkerStep i w s .raiseInGraph .graph s .internalError
  | refusedCall {request : ToolRequest} {lookup : ToolLookup} {e : ToolError} :
      WorkerStep i w s (.checkCall lookup) (.toolCall request) s (.afterRefusal e)
  | checkedCall {request : ToolRequest} {lookup : ToolLookup} {tool : ToolSpec} :
      lookup.tool = some tool →
      WorkerStep i w s (.checkCall lookup) (.toolCall request) s (.claimExecution request tool)
  | createdRow {request : ToolRequest} {tool : ToolSpec} {run : AgentRun} :
      s.runs[w.run]? = some run →
      s.findExecution run.workspace request.toolKey request.idempotencyKey = none →
      WorkerStep i w s .claimExecution (.claimExecution request tool)
        { s with executions := s.executions ++ [newExecution w.run run request] }
        (.policyCheck ⟨s.executions.length, tool, 0, false, false⟩)
  | resetRow {request : ToolRequest} {tool : ToolSpec} {run : AgentRun} {x : Nat}
      {existing : ToolExecution} :
      s.runs[w.run]? = some run →
      s.findExecution run.workspace request.toolKey request.idempotencyKey = some x →
      s.executions[x]? = some existing →
      resolveExisting existing request.argumentsFingerprint tool = .ok .reset →
      WorkerStep i w s .claimExecution (.claimExecution request tool)
        (s.setExecution x existing.reset)
        (.policyCheck ⟨x, tool, existing.attemptCount, false, false⟩)
  | foundWaiting {request : ToolRequest} {tool : ToolSpec} {x : Nat} {existing : ToolExecution} :
      s.executions[x]? = some existing → existing.status = .waitingForApproval →
      WorkerStep i w s .claimExecution (.claimExecution request tool) s (.approvalRequired x)
  | replayed {request : ToolRequest} {tool : ToolSpec} {x : Nat} {existing : ToolExecution} :
      s.executions[x]? = some existing → existing.status = .succeeded →
      WorkerStep i w s .claimExecution (.claimExecution request tool) s .graph
  | refusedClaim {request : ToolRequest} {tool : ToolSpec} {e : ToolError} :
      WorkerStep i w s .claimExecution (.claimExecution request tool) s (.afterRefusal e)
  | foundEvaluated {call : Call} {row : ToolExecution} :
      s.executions[call.execution]? = some row → row.policyEvaluation.isSome →
      WorkerStep i w s .checkEvaluated (.policyCheck call) s (.transitionRunning call)
  | foundUnevaluated {call : Call} :
      WorkerStep i w s .checkEvaluated (.policyCheck call) s (.policyGate call)
  | gateAllowed {call : Call} {row row' : ToolExecution} {run : AgentRun}
      {outcome : PolicyOutcome} {now : Nat} :
      s.runs[w.run]? = some run → s.executions[call.execution]? = some row →
      row.policyEvaluation = none → GateCommit row run.createdBy now row' none →
      WorkerStep i w s (.runPolicyGate outcome now) (.policyGate call)
        (s.setExecution call.execution row') (.transitionRunning call)
  | gateRaised {call : Call} {row row' : ToolExecution} {run : AgentRun} {e : ToolError}
      {outcome : PolicyOutcome} {now : Nat} :
      s.runs[w.run]? = some run → s.executions[call.execution]? = some row →
      row.policyEvaluation = none → GateCommit row run.createdBy now row' (some e) →
      (e.cls = .approvalRequired → outcome.requires = true) →
      WorkerStep i w s (.runPolicyGate outcome now) (.policyGate call)
        (s.setExecution call.execution row') (.afterToolError call.execution e)
  | gateFailed {call : Call} {outcome : PolicyOutcome} {now : Nat} :
      WorkerStep i w s (.runPolicyGate outcome now) (.policyGate call) s .internalError
  | gateInProgress {call : Call} {outcome : PolicyOutcome} {now : Nat} :
      WorkerStep i w s (.runPolicyGate outcome now) (.policyGate call) s
        (.afterRefusal (.raise .executionInProgress))
  | startedRow {call : Call} {row : ToolExecution} {now : Nat} :
      s.executions[call.execution]? = some row →
      (row.status = .pending ∨ row.status = .waitingForApproval) →
      WorkerStep i w s (.transitionRunning now) (.transitionRunning call)
        ((s.setExecution call.execution (row.start now)).record (.rowStarted i call.execution))
        (.reserveSlot call)
  | refusedStart {call : Call} {now : Nat} {e : ToolError} :
      WorkerStep i w s (.transitionRunning now) (.transitionRunning call) s (.afterRefusal e)
  | reservedSlot {call : Call} {run : AgentRun} {row : ToolExecution} :
      s.runs[w.run]? = some run → s.executions[call.execution]? = some row →
      run.toolCallCount < Store.slotLimit call run row →
      WorkerStep i w s .reserveSlot (.reserveSlot call)
        (s.setRun w.run { run with toolCallCount := run.toolCallCount + 1 }) (.attempt call)
  | refusedSlot {call : Call} {run : AgentRun} {row : ToolExecution} :
      s.runs[w.run]? = some run → s.executions[call.execution]? = some row →
      Store.slotLimit call run row ≤ run.toolCallCount →
      WorkerStep i w s .reserveSlot (.reserveSlot call) s (.leave call budgetRefusal)
  | exhausted {call : Call} :
      call.tool.retryPolicy.maxRetries + 1 ≤ call.attemptCount →
      WorkerStep i w s .countAttempt (.attempt call) s
        (.leave call (.ofRaised (.toolError (.raise .retryExhausted))))
  | countedAttempt {call : Call} {row : ToolExecution} :
      s.executions[call.execution]? = some row →
      call.attemptCount < call.tool.retryPolicy.maxRetries + 1 →
      WorkerStep i w s .countAttempt (.attempt call)
        (s.setExecution call.execution { row with attemptCount := call.attemptCount + 1 })
        (.invoke { call with attemptCount := call.attemptCount + 1 })
  | invoked {call : Call} :
      WorkerStep i w s .invokeHandler (.invoke call)
        (s.record (.handlerStarted i w.run call.execution (!call.invoked)))
        (.handler { call with invoked := true })
  | retried {call : Call} {behaviour : HandlerBehaviour} :
      afterAttempt call.tool.retryPolicy call.attemptCount behaviour = .retry →
      WorkerStep i w s (.handlerEnds behaviour) (.handler call)
        (s.record (.handlerEnded i call.execution (invokeWithTimeout behaviour)))
        (.attempt call)
  | handlerReturned {call : Call} {behaviour : HandlerBehaviour} {output : ToolOutput} :
      afterAttempt call.tool.retryPolicy call.attemptCount behaviour = .returns output →
      WorkerStep i w s (.handlerEnds behaviour) (.handler call)
        (s.record (.handlerEnded i call.execution (invokeWithTimeout behaviour)))
        (.leave call (.success output))
  | handlerRaised {call : Call} {behaviour : HandlerBehaviour} {r : Raised} :
      afterAttempt call.tool.retryPolicy call.attemptCount behaviour = .raises r →
      WorkerStep i w s (.handlerEnds behaviour) (.handler call)
        (s.record (.handlerEnded i call.execution (invokeWithTimeout behaviour)))
        (.leave call (.ofRaised r))
  | finalized {call : Call} {exit : CallExit} {row row' : ToolExecution} {now : Nat} :
      s.executions[call.execution]? = some row → exit.finalize row now = .stored row' →
      WorkerStep i w s (.finalize now) (.leave call exit)
        ((s.setExecution call.execution row').record (.rowFinalized i call.execution))
        (.afterExit call exit true)
  | leftUnfinalized {call : Call} {exit : CallExit} {row : ToolExecution} {now : Nat}
      {stored : Bool} :
      s.executions[call.execution]? = some row →
      exit.finalize row now = (if stored then .skipped else .refused) →
      WorkerStep i w s (.finalize now) (.leave call exit) s (.afterExit call exit stored)
  | pausedRun {x : Nat} {run : AgentRun} {usage : RunUsage} {now : Nat} :
      s.runs[w.run]? = some run → run.status = .running →
      WorkerStep i w s (.pauseRun usage now) (.approvalRequired x)
        ((s.setRun w.run
          { run with usage := usage, status := .waitingForApproval, updatedAt := now }).record
          (.runPaused w.run x)) .returned
  | unpausedRun {x : Nat} {run : AgentRun} {usage : RunUsage} {now : Nat} :
      s.runs[w.run]? = some run → run.status ≠ .running →
      WorkerStep i w s (.pauseRun usage now) (.approvalRequired x) s .returned
  | handedOffRun {result : GraphResult} {run completed : AgentRun} {message : Option Message}
      {conversation : Nat} {reasonCode safeSummary : String} {usage : RunUsage} {now : Nat} :
      s.runs[w.run]? = some run → run.conversation = some conversation →
      completeRunAsHandoff w.run run usage s.messages.length now = some (completed, message) →
      WorkerStep i w s (.finishRun usage now) (.ending result)
        { s with
          runs := s.runs.set w.run completed
          messages := s.messages ++ message.toList
          handoffs := createOrReuseHandoff s.handoffs conversation w.run reasonCode safeSummary }
        .returned
  | completedRun {result : GraphResult} {run completed : AgentRun} {message : Option Message}
      {finalResponse : String} {usage : RunUsage} {now : Nat} :
      s.runs[w.run]? = some run →
      completeRun w.run run usage finalResponse s.messages.length now =
        some (completed, message) →
      WorkerStep i w s (.finishRun usage now) (.ending result)
        { s with
          runs := s.runs.set w.run completed
          messages := s.messages ++ message.toList } .returned
  | budgetExceededRun {result : GraphResult} {run exceeded : AgentRun} {reason : String}
      {usage : RunUsage} {now : Nat} :
      s.runs[w.run]? = some run →
      SupportPilot.budgetExceededRun run reason usage now = some exceeded →
      WorkerStep i w s (.finishRun usage now) (.ending result)
        (s.setRun w.run exceeded) .returned
  | failedRun {a : WorkerAction} {p : Point} {run failed : AgentRun} {code message : String}
      {usage : Option RunUsage} {now : Nat} :
      (∃ u result, a = .finishRun u now ∧ p = .ending result) ∨
        a = .failRun now ∧ p = .failRun code message →
      s.runs[w.run]? = some run →
      SupportPilot.failRun run code message usage now = some failed →
      WorkerStep i w s a p (s.setRun w.run failed) .returned
  | unfinishedRun {a : WorkerAction} {p : Point} :
      (∃ u now result, a = .finishRun u now ∧ p = .ending result) ∨
        (∃ now code message, a = .failRun now ∧ p = .failRun code message) →
      WorkerStep i w s a p s .returned
  | resumeClaimedRun {x : Nat} {status : ApprovalStatus} {run : AgentRun} {now : Nat} :
      s.runs[w.run]? = some run → run.status = .waitingForApproval →
      WorkerStep i w s (.claimRunForResume now) (.claimRun x status)
        ((s.setRun w.run { run with status := .running, updatedAt := now }).record
          (.runResumeClaimed w.run x))
        (if status = .approved then .resumeExecution x else .graph)
  | alreadyResumedRun {x : Nat} {status : ApprovalStatus} {now : Nat} :
      WorkerStep i w s (.claimRunForResume now) (.claimRun x status) s .returned
  | claimedRow {x : Nat} {row : ToolExecution} {now : Nat} :
      s.executions[x]? = some row → row.status = .waitingForApproval →
      WorkerStep i w s (.claimResume now) (.resumeExecution x)
        ((s.setExecution x (row.start now)).record (.rowStarted i x))
        (.resumeChecks x row.attemptCount)
  | unclaimedRow {x : Nat} {row : ToolExecution} {now : Nat} :
      s.executions[x]? = some row → row.status ≠ .waitingForApproval →
      WorkerStep i w s (.claimResume now) (.resumeExecution x) s (.resumeRefresh x)
  | refreshedSucceeded {x : Nat} {row : ToolExecution} :
      s.executions[x]? = some row → row.status = .succeeded →
      WorkerStep i w s .refreshExecution (.resumeRefresh x) s .graph
  | refreshedOther {x : Nat} {e : ToolError} :
      WorkerStep i w s .refreshExecution (.resumeRefresh x) s (.afterResumeError e)
  | checkedResume {x attemptCount : Nat} {row : ToolExecution} {lookup : ResumeLookup}
      {tool : ToolSpec} :
      s.executions[x]? = some row → SupportPilot.checkResume row lookup = .ok tool →
      WorkerStep i w s (.checkResume lookup) (.resumeChecks x attemptCount) s
        (.reserveSlot ⟨x, tool, attemptCount, true, false⟩)
  | refusedResume {x attemptCount : Nat} {row : ToolExecution} {lookup : ResumeLookup}
      {tool : ToolSpec} {exit : CallExit} :
      s.executions[x]? = some row → SupportPilot.checkResume row lookup = .error exit →
      WorkerStep i w s (.checkResume lookup) (.resumeChecks x attemptCount) s
        (.leave ⟨x, tool, attemptCount, true, false⟩ exit)

/-- The outcomes of a service, with the store and the worker it starts. -/
inductive ServiceStep (s : Store) : ServiceEvent → Store → Option Worker → Prop
  | createdRun {workspace : Nat} {agentVersion : AgentVersion}
      {conversation triggerMessage createdBy : Option Nat} {now : Nat} :
      ServiceStep s (.createRun workspace agentVersion conversation triggerMessage createdBy now)
        { s with
          runs := s.runs ++
            [newAgentRun workspace agentVersion conversation triggerMessage createdBy now] } none
  | reusedRun {workspace : Nat} {agentVersion : AgentVersion}
      {conversation triggerMessage createdBy : Option Nat} {now : Nat} :
      ServiceStep s (.createRun workspace agentVersion conversation triggerMessage createdBy now)
        s none
  | claimedRun {r now : Nat} {run : AgentRun} :
      s.runs[r]? = some run → run.status = .pending →
      ServiceStep s (.claimRun r now)
        ((s.setRun r { run with
          status := .running, startedAt := some now, updatedAt := now }).record (.runClaimed r))
        (some (Worker.claimed r))
  | delivered {x : Nat} {row : ToolExecution} {approval : ApprovalRequest} :
      s.executions[x]? = some row → row.approvalRequest = some approval →
      approval.status.resolved →
      ServiceStep s (.deliverResume x) s (some (Worker.resuming row.agentRun x approval.status))
  | cancelledRun {r now : Nat} {run : AgentRun} :
      s.runs[r]? = some run → run.status.terminal = false →
      ServiceStep s (.cancelRun r now)
        { s with
          runs := s.runs.set r
            { run with status := .cancelled, cancelledAt := some now, updatedAt := now }
          executions := s.executions.map (Store.cancelChildOf r run now)
          handoffs := s.handoffs.map fun h => if h.agentRun = r then cancelHandoff h else h } none
  | recoveredRun {r cutoff now : Nat} {run recovered : AgentRun} :
      s.runs[r]? = some run → recoverOneStuckRun run cutoff now = some recovered →
      ServiceStep s (.recoverRun r cutoff now)
        { s with
          runs := s.runs.set r recovered
          executions := s.executions.map (Store.recoverChildOf r now) } none
  | redispatched {x cutoff : Nat} {row : ToolExecution} {approval : ApprovalRequest} :
      s.executions[x]? = some row → row.approvalRequest = some approval →
      approval.status.resolved →
      ServiceStep s (.redispatchResume x cutoff) (s.dispatchResume x) none
  | undecided {x actor checkedAt now : Nat} {actorRole : String}
      {decision : ApprovalDecisionValue} :
      ServiceStep s (.decide x actor actorRole decision checkedAt now) s none
  | decided {x actor checkedAt now : Nat} {actorRole : String}
      {decision : ApprovalDecisionValue} {row : ToolExecution} {approval : ApprovalRequest} :
      s.executions[x]? = some row → row.approvalRequest = some approval →
      approval.status = .pending → checkedAt < approval.expiresAt →
      approval.requestedBy ≠ some actor →
      roleSatisfiesRequirement actorRole approval.requiredRole = true →
      approval.decision = none →
      ServiceStep s (.decide x actor actorRole decision checkedAt now)
        (((s.setExecution x (recordDecision row approval actor decision now)).dispatchResume
          x).record (.approvalDecided x actor actorRole decision checkedAt)) none
  | expired {event : ServiceEvent} {x checkedAt now : Nat} {row : ToolExecution}
      {approval : ApprovalRequest} :
      (∃ actor actorRole decision, event = .decide x actor actorRole decision checkedAt now) ∨
        event = .expire x checkedAt now →
      s.executions[x]? = some row → row.approvalRequest = some approval →
      approval.status = .pending → approval.expiresAt ≤ checkedAt →
      ServiceStep s event
        ((s.setExecution x (expire row approval now)).dispatchResume x) none
  | cancelledApproval {x now : Nat} {row : ToolExecution} :
      s.executions[x]? = some row →
      ServiceStep s (.cancelApproval x now)
        (s.setExecution x (cancelApprovalForExecution row now)) none

/-! ## Inversion of the worker's step function -/

section Worker

variable {i : Nat} {w : Worker} {s s' : Store} {p' : Point} {call : Call}

private theorem callTool_cases {request : ToolRequest} (h : s.callTool w request = some p') :
    WorkerStep i w s (.callTool request) .graph s p' := by
  obtain ⟨run, hrun, h⟩ := Option.bind_eq_some_iff.mp h
  split at h
  · rename_i hc
    cases h
    exact .probedCancelled hrun hc.1 hc.2
  · rename_i hc
    cases h
    exact .calledTool hrun fun hmain hcancelled => hc ⟨hmain, hcancelled⟩

private theorem checkCall_cases {request : ToolRequest} {lookup : ToolLookup}
    (h : s.checkCall w request lookup = some p') :
    WorkerStep i w s (.checkCall lookup) (.toolCall request) s p' := by
  obtain ⟨run, hrun, h⟩ := Option.bind_eq_some_iff.mp h
  split at h
  · cases h
    exact .refusedCall
  · rename_i tool hok
    cases h
    exact .checkedCall (checkToolCall_ok hok)

private theorem claimExecution_cases {request : ToolRequest} {tool : ToolSpec}
    (h : s.claimExecution w request tool = some (s', p')) :
    WorkerStep i w s .claimExecution (.claimExecution request tool) s' p' := by
  obtain ⟨run, hrun, h⟩ := Option.bind_eq_some_iff.mp h
  split at h
  · rename_i hnone
    cases h
    exact .createdRow hrun hnone
  · rename_i x hsome
    obtain ⟨existing, hx, h⟩ := Option.bind_eq_some_iff.mp h
    split at h
    · cases h
      exact .refusedClaim
    · rename_i hwaiting
      cases h
      exact .foundWaiting hx (resolveExisting_waiting hwaiting)
    · split at h
      · rename_i output hreused
        cases h
        exact .replayed hx (reusedOutcome_ok hreused).1
      · rename_i e hdenied
        cases h
        rw [Point.afterToolError, if_neg (reusedOutcome_cls hdenied)]
        exact .refusedClaim
    · rename_i hreset
      cases h
      exact .resetRow hrun hsome hx hreset

private theorem checkEvaluated_cases (h : s.checkEvaluated call = some p') :
    WorkerStep i w s .checkEvaluated (.policyCheck call) s p' := by
  obtain ⟨row, hx, h⟩ := Option.bind_eq_some_iff.mp h
  split at h
  · rename_i hev
    cases h
    exact .foundEvaluated hx hev
  · cases h
    exact .foundUnevaluated

private theorem runPolicyGate_cases {outcome : PolicyOutcome} {now : Nat}
    (h : s.runPolicyGate w call outcome now = some (s', p')) :
    WorkerStep i w s (.runPolicyGate outcome now) (.policyGate call) s' p' := by
  obtain ⟨run, hrun, h⟩ := Option.bind_eq_some_iff.mp h
  obtain ⟨row, hx, h⟩ := Option.bind_eq_some_iff.mp h
  split at h
  · cases h
    exact .gateFailed
  · cases h
    exact .gateInProgress
  · rename_i row' hok
    cases h
    exact .gateAllowed hrun hx (SupportPilot.runPolicyGate_ok hok).1
      (SupportPilot.runPolicyGate_ok hok).2
  · rename_i row' e hok
    cases h
    exact .gateRaised hrun hx (SupportPilot.runPolicyGate_ok hok).1
      (SupportPilot.runPolicyGate_ok hok).2 (runPolicyGate_requires hok)

private theorem transitionRunning_cases {now : Nat}
    (h : s.transitionRunning i call now = some (s', p')) :
    WorkerStep i w s (.transitionRunning now) (.transitionRunning call) s' p' := by
  obtain ⟨row, hx, h⟩ := Option.bind_eq_some_iff.mp h
  split at h
  · cases h
    exact .refusedStart
  · rename_i row' hok
    obtain ⟨hstatus, rfl⟩ := SupportPilot.transitionRunning_ok hok
    cases h
    exact .startedRow hx hstatus

private theorem reserveSlot_cases (h : s.reserveSlot w call = some (s', p')) :
    WorkerStep i w s .reserveSlot (.reserveSlot call) s' p' := by
  obtain ⟨run, hrun, h⟩ := Option.bind_eq_some_iff.mp h
  obtain ⟨row, hx, h⟩ := Option.bind_eq_some_iff.mp h
  split at h
  · rename_i reserved hsome
    obtain ⟨hlt, rfl⟩ := reserveBudgetSlot_some hsome
    cases h
    exact .reservedSlot hrun hx hlt
  · rename_i hnone
    cases h
    exact .refusedSlot hrun hx (reserveBudgetSlot_none hnone)

private theorem countAttempt_cases (h : s.countAttempt call = some (s', p')) :
    WorkerStep i w s .countAttempt (.attempt call) s' p' := by
  obtain ⟨row, hx, h⟩ := Option.bind_eq_some_iff.mp h
  split at h
  · rename_i hle
    cases h
    exact .exhausted hle
  · rename_i hlt
    cases h
    exact .countedAttempt hx (by omega)

private theorem handlerEnds_cases {behaviour : HandlerBehaviour}
    (h : some (s.handlerEnds i call behaviour) = some (s', p')) :
    WorkerStep i w s (.handlerEnds behaviour) (.handler call) s' p' := by
  simp only [Store.handlerEnds, Option.some.injEq, Prod.mk.injEq] at h
  obtain ⟨rfl, h⟩ := h
  split at h
  · rename_i hretry
    cases h
    exact .retried hretry
  · rename_i output hreturns
    cases h
    exact .handlerReturned hreturns
  · rename_i r hraises
    cases h
    exact .handlerRaised hraises

private theorem finalize_cases {exit : CallExit} {now : Nat}
    (h : s.finalize i call exit now = some (s', p')) :
    WorkerStep i w s (.finalize now) (.leave call exit) s' p' := by
  obtain ⟨row, hx, h⟩ := Option.bind_eq_some_iff.mp h
  split at h
  · rename_i hrefused
    cases h
    exact .leftUnfinalized hx hrefused
  · rename_i hskipped
    cases h
    exact .leftUnfinalized hx hskipped
  · rename_i row' hstored
    cases h
    exact .finalized hx hstored

private theorem pauseRun_cases {x : Nat} {usage : RunUsage} {now : Nat}
    (h : s.pauseRun w x usage now = some (s', p')) :
    WorkerStep i w s (.pauseRun usage now) (.approvalRequired x) s' p' := by
  obtain ⟨run, hrun, h⟩ := Option.bind_eq_some_iff.mp h
  simp only [pauseRunForApproval] at h
  split at h
  · rename_i hnone
    cases h
    split at hnone
    · rename_i hstatus
      exact .unpausedRun hrun hstatus
    · cases hnone
  · rename_i paused hsome
    cases h
    split at hsome
    · cases hsome
    · rename_i hstatus
      cases hsome
      exact .pausedRun hrun (by simpa using hstatus)

private theorem finishRun_cases {result : GraphResult} {usage : RunUsage} {now : Nat}
    (h : s.finishRun w result usage now = some s') :
    WorkerStep i w s (.finishRun usage now) (.ending result) s' .returned := by
  have hstay : WorkerStep i w s (.finishRun usage now) (.ending result) s .returned :=
    .unfinishedRun (.inl ⟨_, _, _, rfl, rfl⟩)
  obtain ⟨run, hrun, h⟩ := Option.bind_eq_some_iff.mp h
  have hhandOff : ∀ reasonCode safeSummary, WorkerStep i w s (.finishRun usage now)
      (.ending result) (s.handOff w run reasonCode safeSummary usage now) .returned := by
    intro reasonCode safeSummary
    simp only [Store.handOff]
    split
    · rename_i completed message conversation hcompleted hconversation
      exact .handedOffRun hrun hconversation hcompleted
    · exact hstay
  have hfail : ∀ code message, WorkerStep i w s (.finishRun usage now) (.ending result)
      (s.writeRun w.run (SupportPilot.failRun run code message usage now)) .returned := by
    intro code message
    cases hf : SupportPilot.failRun run code message (some usage) now with
    | none => exact hstay
    | some failed => exact .failedRun (.inl ⟨_, _, rfl, rfl⟩) hrun hf
  split at h
  · cases h
    exact hhandOff _ _
  · cases h
    rename_i reason
    cases hb : SupportPilot.budgetExceededRun run reason usage now with
    | none => exact hstay
    | some exceeded => exact .budgetExceededRun hrun hb
  · split at h
    · cases h
      exact hhandOff _ _
    · cases h
      exact hfail _ _
  · split at h
    · rename_i completed message hcompleted
      cases h
      exact .completedRun hrun hcompleted
    · cases h
      exact hstay

private theorem failRun_cases {code message : String} {now : Nat}
    (h : s.failRun w code message now = some s') :
    WorkerStep i w s (.failRun now) (.failRun code message) s' .returned := by
  obtain ⟨run, hrun, h⟩ := Option.bind_eq_some_iff.mp h
  cases h
  cases hf : SupportPilot.failRun run code message none now with
  | none => exact .unfinishedRun (.inr ⟨_, _, _, rfl, rfl⟩)
  | some failed => exact .failedRun (.inr ⟨rfl, rfl⟩) hrun hf

private theorem claimRunForResume_cases {x : Nat} {status : ApprovalStatus} {now : Nat}
    (h : s.claimRunForResume w x status now = some (s', p')) :
    WorkerStep i w s (.claimRunForResume now) (.claimRun x status) s' p' := by
  obtain ⟨run, hrun, h⟩ := Option.bind_eq_some_iff.mp h
  simp only [SupportPilot.claimRunForResume] at h
  split at h
  · cases h
    exact .alreadyResumedRun
  · rename_i claimed hsome
    cases h
    split at hsome
    · cases hsome
    · rename_i hstatus
      cases hsome
      exact .resumeClaimedRun hrun (by simpa using hstatus)

private theorem claimResume_cases {x now : Nat} (h : s.claimResume i x now = some (s', p')) :
    WorkerStep i w s (.claimResume now) (.resumeExecution x) s' p' := by
  obtain ⟨row, hx, h⟩ := Option.bind_eq_some_iff.mp h
  simp only [SupportPilot.claimResume] at h
  split at h
  · rename_i hnone
    cases h
    split at hnone
    · rename_i hstatus
      exact .unclaimedRow hx hstatus
    · cases hnone
  · rename_i row' hsome
    cases h
    split at hsome
    · cases hsome
    · rename_i hstatus
      cases hsome
      exact .claimedRow hx (by simpa using hstatus)

private theorem refreshExecution_cases {x : Nat} (h : s.refreshExecution x = some p') :
    WorkerStep i w s .refreshExecution (.resumeRefresh x) s p' := by
  obtain ⟨row, hx, h⟩ := Option.bind_eq_some_iff.mp h
  split at h
  · rename_i hsucceeded
    cases h
    exact .refreshedSucceeded hx hsucceeded
  · split at h <;> cases h <;> exact .refreshedOther

private theorem checkResume_cases {x attemptCount : Nat} {lookup : ResumeLookup}
    (h : s.checkResume x attemptCount lookup = some p') :
    WorkerStep i w s (.checkResume lookup) (.resumeChecks x attemptCount) s p' := by
  obtain ⟨row, hx, h⟩ := Option.bind_eq_some_iff.mp h
  split at h
  · rename_i tool hok
    cases h
    exact .checkedResume hx hok
  · rename_i exit herror
    cases h
    exact .refusedResume hx herror

/-- The step function of a worker makes only the steps that `WorkerStep` lists. -/
theorem workerStep_cases {a : WorkerAction} {p : Point}
    (h : workerStep i w s a p = some (s', p')) : WorkerStep i w s a p s' p' := by
  unfold workerStep at h
  split at h
  case h_1 =>
    obtain ⟨q, hq, hout⟩ := Option.map_eq_some_iff.mp h
    cases hout
    exact callTool_cases hq
  case h_2 => cases h; exact .endedGraph
  case h_3 => cases h; exact .raisedInGraph
  case h_4 =>
    obtain ⟨q, hq, hout⟩ := Option.map_eq_some_iff.mp h
    cases hout
    exact checkCall_cases hq
  case h_5 => exact claimExecution_cases h
  case h_6 =>
    obtain ⟨q, hq, hout⟩ := Option.map_eq_some_iff.mp h
    cases hout
    exact checkEvaluated_cases hq
  case h_7 => exact runPolicyGate_cases h
  case h_8 => exact transitionRunning_cases h
  case h_9 => exact reserveSlot_cases h
  case h_10 => exact countAttempt_cases h
  case h_11 => cases h; exact .invoked
  case h_12 => exact handlerEnds_cases h
  case h_13 => exact finalize_cases h
  case h_14 => exact pauseRun_cases h
  case h_15 =>
    obtain ⟨t, ht, hout⟩ := Option.map_eq_some_iff.mp h
    cases hout
    exact finishRun_cases ht
  case h_16 => exact claimRunForResume_cases h
  case h_17 => exact claimResume_cases h
  case h_18 =>
    obtain ⟨q, hq, hout⟩ := Option.map_eq_some_iff.mp h
    cases hout
    exact refreshExecution_cases hq
  case h_19 =>
    obtain ⟨q, hq, hout⟩ := Option.map_eq_some_iff.mp h
    cases hout
    exact checkResume_cases hq
  case h_20 =>
    obtain ⟨t, ht, hout⟩ := Option.map_eq_some_iff.mp h
    cases hout
    exact failRun_cases ht
  case h_21 => cases h

/-- Only a live worker acts, and it changes nothing of itself but its point and its life. -/
theorem workStep_cases {a : WorkerAction} {w' : Worker} (h : workStep i a w s = some (s', w')) :
    w.alive ∧ ∃ p' alive', WorkerStep i w s a w.point s' p' ∧
      w' = { w with point := p', alive := alive' } := by
  unfold workStep at h
  split at h
  · rename_i halive
    refine ⟨halive, ?_⟩
    split at h
    · cases h
      exact ⟨w.point, false, .vanished, rfl⟩
    · obtain ⟨⟨t, q⟩, hq, hout⟩ := Option.map_eq_some_iff.mp h
      cases hout
      exact ⟨q, w.alive, workerStep_cases hq, rfl⟩
  · cases h

end Worker

/-! ## Inversion of the services -/

section Service

variable {s s' : Store}

private theorem decide_cases {x actor checkedAt now : Nat} {actorRole : String}
    {decision : ApprovalDecisionValue}
    (h : s.decide x actor actorRole decision checkedAt now = some s') :
    ServiceStep s (.decide x actor actorRole decision checkedAt now) s' none := by
  obtain ⟨row, hx, h⟩ := Option.bind_eq_some_iff.mp h
  obtain ⟨approval, happroval, h⟩ := Option.bind_eq_some_iff.mp h
  split at h
  · cases h
    exact .undecided
  · cases h
    exact .undecided
  · rename_i row' hexpired
    obtain ⟨hpending, hexpiry, rfl⟩ := decideApproval_expired hexpired
    cases h
    exact .expired (.inl ⟨_, _, _, rfl⟩) hx happroval hpending hexpiry
  · rename_i row' hdecided
    obtain ⟨hpending, hexpiry, hself, hrole, hnone, rfl⟩ := decideApproval_decided hdecided
    cases h
    exact .decided hx happroval hpending hexpiry hself hrole hnone

private theorem expire_cases {x checkedAt now : Nat} (h : s.expire x checkedAt now = some s') :
    ServiceStep s (.expire x checkedAt now) s' none := by
  obtain ⟨row, hx, h⟩ := Option.bind_eq_some_iff.mp h
  obtain ⟨approval, happroval, h⟩ := Option.bind_eq_some_iff.mp h
  obtain ⟨row', hrow', h⟩ := Option.bind_eq_some_iff.mp h
  obtain ⟨hpending, hexpiry, rfl⟩ := expireStaleApproval_some hrow'
  cases h
  exact .expired (.inr rfl) hx happroval hpending hexpiry

private theorem cancelRun_cases {r now : Nat} (h : s.cancelRun r now = some s') :
    ServiceStep s (.cancelRun r now) s' none := by
  obtain ⟨run, hrun, h⟩ := Option.bind_eq_some_iff.mp h
  obtain ⟨cancelled, hcancelled, h⟩ := Option.bind_eq_some_iff.mp h
  unfold cancelAgentRun at hcancelled
  split at hcancelled
  · cases hcancelled
  · rename_i hterminal
    cases hcancelled
    cases h
    exact .cancelledRun hrun (by simpa using hterminal)

private theorem redispatchResume_cases {x cutoff : Nat}
    (h : s.redispatchResume x cutoff = some s') :
    ServiceStep s (.redispatchResume x cutoff) s' none := by
  obtain ⟨row, hx, h⟩ := Option.bind_eq_some_iff.mp h
  obtain ⟨approval, happroval, h⟩ := Option.bind_eq_some_iff.mp h
  obtain ⟨run, hrun, h⟩ := Option.bind_eq_some_iff.mp h
  split at h
  · rename_i hguard
    cases h
    exact .redispatched hx happroval hguard.2.1
  · cases h

private theorem claimRun_cases {r now : Nat} {w : Worker}
    (h : s.claimRun r now = some (s', w)) : ServiceStep s (.claimRun r now) s' (some w) := by
  obtain ⟨run, hrun, h⟩ := Option.bind_eq_some_iff.mp h
  obtain ⟨claimed, hclaimed, h⟩ := Option.bind_eq_some_iff.mp h
  unfold claimAgentRun at hclaimed
  split at hclaimed
  · cases hclaimed
  · rename_i hpending
    cases hclaimed
    cases h
    exact .claimedRun hrun (by simpa using hpending)

private theorem deliverResume_cases {x : Nat} {w : Worker} (h : s.deliverResume x = some w) :
    ServiceStep s (.deliverResume x) s (some w) := by
  unfold Store.deliverResume at h
  split at h
  · obtain ⟨row, hx, h⟩ := Option.bind_eq_some_iff.mp h
    obtain ⟨approval, happroval, h⟩ := Option.bind_eq_some_iff.mp h
    split at h
    · rename_i hresolved
      cases h
      exact .delivered hx happroval hresolved
    · cases h
  · cases h

/-- The services make only the steps that `ServiceStep` lists. -/
theorem serviceStep_cases {event : ServiceEvent} {started : Option Worker}
    (h : serviceStep event s = some (s', started)) : ServiceStep s event s' started := by
  cases event with
  | createRun workspace agentVersion conversation triggerMessage createdBy now =>
    simp only [serviceStep, Store.createRun, Option.some.injEq, Prod.mk.injEq] at h
    obtain ⟨h, rfl⟩ := h
    split at h
    · cases h
      exact .reusedRun
    · cases h
      exact .createdRun
  | claimRun r now =>
    obtain ⟨⟨t, w⟩, hout, hw⟩ := Option.map_eq_some_iff.mp h
    cases hw
    exact claimRun_cases hout
  | deliverResume x =>
    obtain ⟨w, hout, hw⟩ := Option.map_eq_some_iff.mp h
    cases hw
    exact deliverResume_cases hout
  | cancelRun r now =>
    obtain ⟨t, hout, hw⟩ := Option.map_eq_some_iff.mp h
    cases hw
    exact cancelRun_cases hout
  | recoverRun r cutoff now =>
    obtain ⟨t, hout, hw⟩ := Option.map_eq_some_iff.mp h
    cases hw
    obtain ⟨run, hrun, hout⟩ := Option.bind_eq_some_iff.mp hout
    obtain ⟨recovered, hrecovered, hout⟩ := Option.bind_eq_some_iff.mp hout
    cases hout
    exact .recoveredRun hrun hrecovered
  | redispatchResume x cutoff =>
    obtain ⟨t, hout, hw⟩ := Option.map_eq_some_iff.mp h
    cases hw
    exact redispatchResume_cases hout
  | decide x actor actorRole decision checkedAt now =>
    obtain ⟨t, hout, hw⟩ := Option.map_eq_some_iff.mp h
    cases hw
    exact decide_cases hout
  | expire x checkedAt now =>
    obtain ⟨t, hout, hw⟩ := Option.map_eq_some_iff.mp h
    cases hw
    exact expire_cases hout
  | cancelApproval x now =>
    obtain ⟨t, hout, hw⟩ := Option.map_eq_some_iff.mp h
    cases hw
    obtain ⟨row, hx, hout⟩ := Option.bind_eq_some_iff.mp hout
    cases hout
    exact .cancelledApproval hx

end Service

@[simp] theorem Store.vanish_executions (s : Store) (i : Nat) (w : Worker) :
    (s.vanish i w).executions = s.executions := by
  unfold Store.vanish
  split
  · split <;> rfl
  · rfl

@[simp] theorem Store.vanish_runs (s : Store) (i : Nat) (w : Worker) :
    (s.vanish i w).runs = s.runs := by
  unfold Store.vanish
  split
  · split <;> rfl
  · rfl

/-! ## What a step records -/

/-- The events that worker `i` may record at a point. -/
inductive Records (i : Nat) (w : Worker) : Point → Event → Prop
  | rowStarted (call : Call) :
      Records i w (.transitionRunning call) (.rowStarted i call.execution)
  | rowResumed (x : Nat) : Records i w (.resumeExecution x) (.rowStarted i x)
  | rowFinalized (call : Call) (exit : CallExit) :
      Records i w (.leave call exit) (.rowFinalized i call.execution)
  | handlerStarted (call : Call) :
      Records i w (.invoke call) (.handlerStarted i w.run call.execution (!call.invoked))
  | handlerEnded (call : Call) (behaviour : HandlerBehaviour) :
      Records i w (.handler call) (.handlerEnded i call.execution (invokeWithTimeout behaviour))
  | workerVanished {p : Point} (call : Call) : p.startedCall = some call → call.invoked = true →
      Records i w p (.workerVanished i call.execution)
  | runPaused (x : Nat) : Records i w (.approvalRequired x) (.runPaused w.run x)
  | runResumeClaimed (x : Nat) (status : ApprovalStatus) :
      Records i w (.claimRun x status) (.runResumeClaimed w.run x)

theorem recorded_workerStep {i : Nat} {w : Worker} {s s' : Store} {a : WorkerAction}
    {p' : Point} (h : WorkerStep i w s a w.point s' p') :
    s'.history = s.history ∨
      ∃ event, s'.history = event :: s.history ∧ Records i w w.point event := by
  generalize hp : w.point = p at h
  cases h with
  | vanished =>
    unfold Store.vanish
    rw [← hp]
    split
    · rename_i call hcall
      split
      · rename_i hinvoked
        exact .inr ⟨_, rfl, .workerVanished call hcall hinvoked⟩
      · exact .inl rfl
    · exact .inl rfl
  | startedRow => exact .inr ⟨_, rfl, .rowStarted _⟩
  | invoked => exact .inr ⟨_, rfl, .handlerStarted _⟩
  | retried | handlerReturned | handlerRaised => exact .inr ⟨_, rfl, .handlerEnded _ _⟩
  | finalized => exact .inr ⟨_, rfl, .rowFinalized _ _⟩
  | pausedRun => exact .inr ⟨_, rfl, .runPaused _⟩
  | resumeClaimedRun => exact .inr ⟨_, rfl, .runResumeClaimed _ _⟩
  | claimedRow => exact .inr ⟨_, rfl, .rowResumed _⟩
  | _ => exact .inl rfl

/-- An event after a worker's step was there before, or the worker recorded it. -/
theorem event_workerStep {i : Nat} {w : Worker} {s s' : Store} {a : WorkerAction} {p' : Point}
    (h : WorkerStep i w s a w.point s' p') {event : Event} (hevent : event ∈ s'.history) :
    event ∈ s.history ∨ ∃ p, w.point = p ∧ Records i w p event := by
  rcases recorded_workerStep h with hsame | ⟨new, hnew, hrecords⟩
  · exact .inl (hsame ▸ hevent)
  · rw [hnew, List.mem_cons] at hevent
    rcases hevent with rfl | hold
    · exact .inr ⟨_, rfl, hrecords⟩
    · exact .inl hold

/-- The events that a service may record. -/
inductive ServiceRecords : ServiceEvent → Event → Prop
  | runClaimed (r now : Nat) : ServiceRecords (.claimRun r now) (.runClaimed r)
  | approvalDecided (x actor : Nat) (actorRole : String) (decision : ApprovalDecisionValue)
      (checkedAt now : Nat) :
      ServiceRecords (.decide x actor actorRole decision checkedAt now)
        (.approvalDecided x actor actorRole decision checkedAt)

theorem recorded_serviceStep {s s' : Store} {event : ServiceEvent} {started : Option Worker}
    (h : ServiceStep s event s' started) :
    s'.history = s.history ∨
      ∃ e, s'.history = e :: s.history ∧ ServiceRecords event e := by
  cases h with
  | claimedRun => exact .inr ⟨_, rfl, .runClaimed _ _⟩
  | decided => exact .inr ⟨_, rfl, .approvalDecided _ _ _ _ _ _⟩
  | _ => exact .inl rfl

theorem event_serviceStep {s s' : Store} {event : ServiceEvent} {started : Option Worker}
    (h : ServiceStep s event s' started) {e : Event} (he : e ∈ s'.history) :
    e ∈ s.history ∨ ServiceRecords event e := by
  rcases recorded_serviceStep h with hsame | ⟨new, hnew, hrecords⟩
  · exact .inl (hsame ▸ he)
  · rw [hnew, List.mem_cons] at he
    rcases he with rfl | hold
    · exact .inr hrecords
    · exact .inl hold

/-! ## How a worker gets to own a started row -/

/-- The started row of a worker after its step is the one it had before, or the one that it
started by its own transition, or the one that it claimed for a resume. -/
theorem startedCall_workerStep {i : Nat} {w : Worker} {s s' : Store} {a : WorkerAction}
    {p p' : Point} (h : WorkerStep i w s a p s' p') {call : Call}
    (hcall : p'.startedCall = some call) :
    (∃ old, p.startedCall = some old ∧ old.execution = call.execution) ∨
      (∃ now row, a = .transitionRunning now ∧ p = .transitionRunning call ∧
        s.executions[call.execution]? = some row ∧
        (row.status = .pending ∨ row.status = .waitingForApproval) ∧
        s'.executions = s.executions.set call.execution (row.start now)) ∨
      ∃ n, p = .resumeChecks call.execution n ∧ s' = s := by
  have hout : ∀ {q : Point}, q.outside = true → q.startedCall ≠ some call := by
    intro q hq
    cases q <;> first | (intro hsome; cases hsome; done) | cases hq
  cases h with
  | vanished => exact .inl ⟨call, hcall, rfl⟩
  | startedRow hx hstatus =>
    cases hcall
    exact .inr (.inl ⟨_, _, rfl, rfl, hx, hstatus, rfl⟩)
  | checkedResume | refusedResume =>
    cases hcall
    exact .inr (.inr ⟨_, rfl, rfl⟩)
  | reservedSlot | refusedSlot | exhausted | countedAttempt | invoked | retried
  | handlerReturned | handlerRaised =>
    cases hcall
    exact .inl ⟨_, rfl, rfl⟩
  | refusedCall | refusedClaim | gateInProgress | refusedStart =>
    exact absurd hcall (hout (Point.afterRefusal_outside _))
  | gateRaised => exact absurd hcall (hout (Point.afterToolError_outside _ _))
  | refreshedOther => exact absurd hcall (hout (Point.afterResumeError_outside _))
  | leftUnfinalized | finalized => exact absurd hcall (hout (Point.afterExit_outside _ _ _))
  | resumeClaimedRun =>
    split at hcall <;> cases hcall
  | _ => cases hcall

end SupportPilot
