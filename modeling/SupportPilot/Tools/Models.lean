import SupportPilot.Agents.Models
import SupportPilot.Approvals.Models
import SupportPilot.Tools.Errors

/-!
# Tool contracts and tool executions

What the executor reads of a registered tool, and the row that records one logical
invocation of it. A row points to its run and to its tool definition; JSON columns
are their serialised text.
-/

namespace SupportPilot

structure RetryPolicy where
  maxRetries : Nat := 0
  retryableErrorCodes : List String := []
  ambiguousOutcomeErrorCodes : List String := []
  deriving DecidableEq, Repr

/-- The code-owned metadata of a registered tool. -/
structure ToolSpec where
  key : String
  retryPolicy : RetryPolicy := {}
  deriving DecidableEq, Repr

inductive ToolExecutionStatus
  | pending
  | running
  | succeeded
  | failed
  | timedOut
  | cancelled
  | waitingForApproval
  | blockedByPolicy
  | approvalTerminated
  deriving DecidableEq, Repr

/-- Membership in `TOOL_EXECUTION_TERMINAL_STATUSES`. -/
def ToolExecutionStatus.terminal : ToolExecutionStatus → Bool
  | .succeeded | .failed | .timedOut | .cancelled | .blockedByPolicy | .approvalTerminated => true
  | .pending | .running | .waitingForApproval => false

structure ToolExecution where
  workspace : Nat
  agentRun : Nat
  agentVersion : AgentVersion
  toolDefinition : String
  status : ToolExecutionStatus := .pending
  idempotencyKey : String := ""
  argumentsFingerprint : String := ""
  argumentsRedacted : String := ""
  resultRedacted : String := ""
  attemptCount : Nat := 0
  errorCode : String := ""
  errorMessageSafe : String := ""
  startedAt : Option Nat := none
  completedAt : Option Nat := none
  durationMs : Option Nat := none
  policyEvaluation : Option PolicyEvaluation := none
  approvalRequest : Option ApprovalRequest := none
  deriving DecidableEq, Repr

/-- What PostgreSQL stores in a `varchar(n)` column: at most `n` characters, none of them NUL. -/
def varcharAccepts (n : Nat) (text : String) : Bool :=
  text.toList.length ≤ n && !text.toList.contains '\x00'

def maxErrorCodeLength : Nat := 64
def maxErrorMessageLength : Nat := 500
def maxIdempotencyKeyLength : Nat := 200

end SupportPilot
