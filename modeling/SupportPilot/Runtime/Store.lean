import SupportPilot.Agents.Services
import SupportPilot.Tools.Execution

/-!
# The shared store

The tables that workers and services share, the resume messages published so far, and
a history of what happened. The history is read by no transition: it records the facts
that the properties of runs speak about, newest first.
-/

namespace SupportPilot

/-- What the history remembers. `caller` is the position of the acting worker. -/
inductive Event
  | runClaimed (run : Nat)
  | runPaused (run execution : Nat)
  | runResumeClaimed (run execution : Nat)
  | rowStarted (caller execution : Nat)
  | rowFinalized (caller execution : Nat)
  | handlerStarted (caller run execution : Nat) (first : Bool)
  | handlerEnded (caller execution : Nat) (result : Except Raised ToolOutput)
  | workerVanished (caller execution : Nat)
  | approvalDecided (execution actor : Nat) (actorRole : String)
      (decision : ApprovalDecisionValue) (checkedAt : Nat)
  deriving DecidableEq, Repr

/-- A handler invocation on row `x`. -/
def Event.invokesOn (x : Nat) : Event → Bool
  | .handlerStarted _ _ y _ => y == x
  | _ => false

structure Store where
  runs : List AgentRun := []
  executions : List ToolExecution := []
  messages : List Message := []
  handoffs : List HumanHandoff := []
  resumeMessages : List Nat := []
  history : List Event := []

namespace Store

@[simp] def setRun (s : Store) (r : Nat) (run : AgentRun) : Store :=
  { s with runs := s.runs.set r run }

@[simp] def setExecution (s : Store) (x : Nat) (execution : ToolExecution) : Store :=
  { s with executions := s.executions.set x execution }

@[simp] def record (s : Store) (event : Event) : Store :=
  { s with history := event :: s.history }

/-- `_dispatch_resume` after the commit that resolved the approval of execution `x`. -/
@[simp] def dispatchResume (s : Store) (x : Nat) : Store :=
  { s with resumeMessages := s.resumeMessages ++ [x] }

/-- The row that carries a non-blank idempotency key in a workspace and for a tool. -/
def findExecution (s : Store) (workspace : Nat) (toolKey idempotencyKey : String) : Option Nat :=
  if idempotencyKey = "" then none
  else s.executions.findIdx? fun e =>
    e.workspace == workspace && e.toolDefinition == toolKey && e.idempotencyKey == idempotencyKey

theorem findExecution_some {s : Store} {workspace x : Nat} {toolKey idempotencyKey : String}
    (h : s.findExecution workspace toolKey idempotencyKey = some x) :
    idempotencyKey ≠ "" ∧ ∃ e, s.executions[x]? = some e ∧ e.workspace = workspace ∧
      e.toolDefinition = toolKey ∧ e.idempotencyKey = idempotencyKey := by
  unfold findExecution at h
  split at h
  · cases h
  · rename_i hkey
    obtain ⟨hlt, hp, -⟩ := List.findIdx?_eq_some_iff_getElem.mp h
    simp only [Bool.and_eq_true, beq_iff_eq] at hp
    exact ⟨hkey, s.executions[x], List.getElem?_eq_getElem hlt, hp.1.1, hp.1.2, hp.2⟩

/-- No row carries a key that the lookup does not find. -/
theorem findExecution_none {s : Store} {workspace x : Nat} {toolKey idempotencyKey : String}
    (h : s.findExecution workspace toolKey idempotencyKey = none) (hkey : idempotencyKey ≠ "")
    {e : ToolExecution} (he : s.executions[x]? = some e) (hworkspace : e.workspace = workspace)
    (htool : e.toolDefinition = toolKey) : e.idempotencyKey ≠ idempotencyKey := by
  rw [findExecution, if_neg hkey, List.findIdx?_eq_none_iff] at h
  intro hsame
  have hnot := h e (List.mem_of_getElem? he)
  simp [hworkspace, htool, hsame] at hnot

end Store

end SupportPilot
