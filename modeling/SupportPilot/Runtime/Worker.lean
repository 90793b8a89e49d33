import SupportPilot.Runtime.Store

/-!
# Workers

A worker executes one segment of one run: the main segment after the claim of a pending
run, or a resumed segment after a resume message. Its point says which transaction, probe
or call comes next, together with the values it carries in memory to that point.
-/

namespace SupportPilot

inductive Segment
  | main
  | resumed
  deriving DecidableEq, Repr

/-- A tool call as the graph hands it to `execute_tool`. -/
structure ToolRequest where
  toolKey : String
  arguments : String := ""
  argumentsFingerprint : String := ""
  idempotencyKey : String := ""
  deriving DecidableEq, Repr

/-- The row that a claim creates. A fingerprint is stored only together with a key. -/
def newExecution (r : Nat) (run : AgentRun) (request : ToolRequest) : ToolExecution where
  workspace := run.workspace
  agentRun := r
  agentVersion := run.agentVersion
  toolDefinition := request.toolKey
  idempotencyKey := request.idempotencyKey
  argumentsFingerprint := if request.idempotencyKey = "" then "" else request.argumentsFingerprint
  argumentsRedacted := request.arguments

/-- A call that owns its row in memory. `resumed` tells `resume_after_approval` from
`execute_tool`, and `invoked` says whether the call has invoked its handler already. -/
structure Call where
  execution : Nat
  tool : ToolSpec
  attemptCount : Nat
  resumed : Bool := false
  invoked : Bool := false
  deriving DecidableEq, Repr

/-- The outcome of a graph segment that is not a pause for approval. -/
inductive GraphResult
  | handoff (reasonCode safeSummary : String)
  | budgetExceeded (reason : String)
  | error (code message : String)
  | succeeded (finalResponse : String)
  deriving DecidableEq, Repr

inductive Point
  | graph
  | toolCall (request : ToolRequest)
  | claimExecution (request : ToolRequest) (tool : ToolSpec)
  | policyCheck (call : Call)
  | policyGate (call : Call)
  | transitionRunning (call : Call)
  | reserveSlot (call : Call)
  | attempt (call : Call)
  | invoke (call : Call)
  | handler (call : Call)
  | leave (call : Call) (exit : CallExit)
  | approvalRequired (execution : Nat)
  | ending (result : GraphResult)
  | claimRun (execution : Nat) (status : ApprovalStatus)
  | resumeExecution (execution : Nat)
  | resumeRefresh (execution : Nat)
  | resumeChecks (execution attemptCount : Nat)
  | failRun (code message : String)
  | returned
  deriving DecidableEq, Repr

structure Worker where
  run : Nat
  segment : Segment
  seenStatus : AgentRunStatus
  point : Point
  alive : Bool := true
  deriving DecidableEq, Repr

namespace Point

/-- The call that owns a started row at this point. -/
def startedCall : Point → Option Call
  | reserveSlot call | attempt call | invoke call | handler call | leave call _ => some call
  | _ => none

/-- The started row that the worker at this point is responsible for. -/
def sectionRow : Point → Option Nat
  | resumeChecks x _ => some x
  | p => p.startedCall.map (·.execution)

/-- The codes that `_execute_tool_factory` reports as terminal for the graph. -/
def terminalToolCodes : List String :=
  ["tool_configuration_error", "tool_invalid_output", "tool_idempotency_conflict",
    "tool_execution_in_progress", "tool_run_not_executable", "policy_evaluation_failed"]

/-- Where the graph continues after `execute_tool` refused a call without an approval. -/
def afterRefusal (e : ToolError) : Point :=
  if e.cls = .budgetExceeded then ending (.budgetExceeded "max_tool_calls_reached")
  else if e.code ∈ terminalToolCodes then ending (.error e.code e.safeMessage)
  else graph

/-- Where the graph continues after `execute_tool` raised on the row `execution`. -/
def afterToolError (execution : Nat) (e : ToolError) : Point :=
  if e.cls = .approvalRequired then approvalRequired execution else afterRefusal e

/-- An exception that no clause names ends a graph segment as an internal error. -/
def internalError : Point :=
  failRun "agent_internal_error" "The agent run failed unexpectedly."

/-- Where the caller of `resume_after_approval` continues after a tool error. -/
def afterResumeError (e : ToolError) : Point :=
  if e.cls = .executionInProgress then returned else failRun e.code e.safeMessage

/-- Where the caller continues after a call is left, given whether its finalizer, if it has
one, was stored. -/
def afterExit (call : Call) (exit : CallExit) (stored : Bool) : Point :=
  match exit, stored with
  | .success _, true => graph
  | .failure _ _ _ e, true | .raised e, true =>
    if call.resumed then afterResumeError e else afterToolError call.execution e
  | .uncaught, _ | _, false => if call.resumed then returned else internalError

/-- Points between tool calls: the worker carries no row that it claimed. -/
def outside : Point → Bool
  | graph | ending _ | failRun _ _ | returned | approvalRequired _ => true
  | _ => false

theorem afterRefusal_outside (e : ToolError) : (afterRefusal e).outside = true := by
  unfold afterRefusal
  split_ifs <;> rfl

theorem afterToolError_outside (x : Nat) (e : ToolError) :
    (afterToolError x e).outside = true := by
  unfold afterToolError
  split
  · rfl
  · exact afterRefusal_outside e

theorem afterResumeError_outside (e : ToolError) : (afterResumeError e).outside = true := by
  unfold afterResumeError
  split_ifs <;> rfl

theorem afterExit_outside (call : Call) (exit : CallExit) (stored : Bool) :
    (afterExit call exit stored).outside = true := by
  unfold afterExit
  split
  · rfl
  · split
    · exact afterResumeError_outside _
    · exact afterToolError_outside _ _
  · split
    · exact afterResumeError_outside _
    · exact afterToolError_outside _ _
  · split <;> rfl
  · split <;> rfl

end Point

namespace Worker

/-- The worker that a claimed pending run is given to. -/
def claimed (r : Nat) : Worker := ⟨r, .main, .running, .graph, true⟩

/-- The worker that a resume message is given to, with the approval status it read. -/
def resuming (r x : Nat) (status : ApprovalStatus) : Worker :=
  ⟨r, .resumed, .running, .claimRun x status, true⟩

@[simp] def goto (w : Worker) (point : Point) : Worker := { w with point := point }

end Worker

end SupportPilot
