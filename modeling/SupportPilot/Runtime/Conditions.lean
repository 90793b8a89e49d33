import SupportPilot.Runtime.Guarantee

/-!
# Conditions on the steps of a run

Some properties hold of a run as long as a named step is not taken in a named state. Each
condition reads the state before the step, so a run either meets it or shows where it does
not.
-/

namespace SupportPilot

/-- The row has an approval request that nobody approved. -/
def ToolExecution.unapproved (e : ToolExecution) : Bool :=
  e.approvalRequest.any fun a => a.status ≠ .approved

/-- The row that `_transition_running` would start. -/
def Point.startTarget : Point → Option Nat
  | .transitionRunning call => some call.execution
  | _ => none

def startTarget (c : Configuration) (i : Nat) : Option Nat :=
  (c.procs[i]?).bind fun w => w.point.startTarget

/-- `execute_tool` itself starts row `x`, which waits for an approval that another call has
requested and whose status meets `p`. -/
def startsWaiting (p : ApprovalStatus → Bool) (x : Nat) (c : Configuration) : Step → Bool
  | .work i (.transitionRunning _) => startTarget c i == some x &&
    (c.store.executions[x]?).any fun e => e.status == .waitingForApproval &&
      e.approvalRequest.any fun a => p a.status
  | _ => false

theorem startsWaiting_false {p : ApprovalStatus → Bool} {x i now : Nat} {c : Configuration}
    {w : Worker} {call : Call} {e : ToolExecution} {a : ApprovalRequest}
    (h : startsWaiting p x c (.work i (.transitionRunning now)) = false)
    (hw : c.procs[i]? = some w) (hpoint : w.point = .transitionRunning call)
    (hx : call.execution = x) (he : c.store.executions[x]? = some e)
    (hwaiting : e.status = .waitingForApproval) (ha : e.approvalRequest = some a) :
    p a.status = false := by
  simpa [startsWaiting, startTarget, Point.startTarget, hw, hpoint, hx, he, hwaiting, ha] using h

/-- No call of `execute_tool` starts row `x` while its request is pending. -/
abbrev StartsWhenDecided (x : Nat) (c : Configuration) (l : Step) : Prop :=
  startsWaiting (· = .pending) x c l = false

/-- The row that the claim of worker `i` would reset. -/
def resetTarget (c : Configuration) (i : Nat) : Option Nat := do
  let w ← c.procs[i]?
  match w.point with
  | .claimExecution request tool =>
    let run ← c.store.runs[w.run]?
    let x ← c.store.findExecution run.workspace request.toolKey request.idempotencyKey
    let existing ← c.store.executions[x]?
    if (resolveExisting existing request.argumentsFingerprint tool).toOption = some .reset then
      some x
    else none
  | _ => none

/-- A later call with the key of row `x` resets it after its cancellation, although its
request was not approved. -/
def resetsUnapproved (x : Nat) (c : Configuration) : Step → Bool
  | .work i .claimExecution => resetTarget c i == some x &&
    (c.store.executions[x]?).any fun e => e.status == .cancelled && e.unapproved
  | _ => false

/-- Neither way around the gate is taken for row `x`. -/
def KeepsGate (x : Nat) (c : Configuration) (l : Step) : Prop :=
  startsWaiting (· ≠ .approved) x c l = false ∧ resetsUnapproved x c l = false

instance (x : Nat) (c : Configuration) (l : Step) : Decidable (KeepsGate x c l) :=
  inferInstanceAs (Decidable (_ ∧ _))

theorem keepsGate_reset {x i : Nat} {c : Configuration} {w : Worker} {request : ToolRequest}
    {tool : ToolSpec} {run : AgentRun} {e : ToolExecution}
    (h : KeepsGate x c (.work i .claimExecution)) (hw : c.procs[i]? = some w)
    (hpoint : w.point = .claimExecution request tool) (hrun : c.store.runs[w.run]? = some run)
    (hfind : c.store.findExecution run.workspace request.toolKey request.idempotencyKey = some x)
    (he : c.store.executions[x]? = some e)
    (hreset : resolveExisting e request.argumentsFingerprint tool = .ok .reset)
    (hcancelled : e.status = .cancelled) {a : ApprovalRequest}
    (ha : e.approvalRequest = some a) : a.status = .approved := by
  simpa [resetsUnapproved, resetTarget, hw, hpoint, hrun, hfind, he, hreset, hcancelled,
    Except.toOption, ToolExecution.unapproved, ha] using h.2

end SupportPilot
