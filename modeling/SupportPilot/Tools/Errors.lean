/-!
# The tool error taxonomy

Every error class of the tool layer with its stable code and its default message.
`handler code` stands for the error classes that tool packages define themselves.
-/

namespace SupportPilot

inductive ToolErrorClass
  | notRegistered
  | notBound
  | disabled
  | invalidInput
  | invalidOutput
  | timeout
  | executionFailed
  | retryExhausted
  | idempotencyConflict
  | executionInProgress
  | budgetExceeded
  | permissionDenied
  | configuration
  | runNotExecutable
  | ambiguousOutcomeRequiresReconciliation
  | policyDenied
  | policyEvaluationFailed
  | approvalRequired
  | approvalRejected
  | approvalExpired
  | approvalCancelled
  | approvalActionChanged
  | handler (code : String)
  deriving DecidableEq, Repr

namespace ToolErrorClass

def code : ToolErrorClass → String
  | notRegistered => "tool_not_registered"
  | notBound => "tool_not_bound"
  | disabled => "tool_disabled"
  | invalidInput => "tool_invalid_input"
  | invalidOutput => "tool_invalid_output"
  | timeout => "tool_timeout"
  | executionFailed => "tool_execution_failed"
  | retryExhausted => "tool_retry_exhausted"
  | idempotencyConflict => "tool_idempotency_conflict"
  | executionInProgress => "tool_execution_in_progress"
  | budgetExceeded => "tool_budget_exceeded"
  | permissionDenied => "tool_permission_denied"
  | configuration => "tool_configuration_error"
  | runNotExecutable => "tool_run_not_executable"
  | ambiguousOutcomeRequiresReconciliation => "tool_ambiguous_outcome_requires_reconciliation"
  | policyDenied => "policy_action_denied"
  | policyEvaluationFailed => "policy_evaluation_failed"
  | approvalRequired => "approval_required"
  | approvalRejected => "approval_rejected"
  | approvalExpired => "approval_expired"
  | approvalCancelled => "approval_cancelled"
  | approvalActionChanged => "approval_action_changed"
  | handler code => code

def safeMessage : ToolErrorClass → String
  | notRegistered => "The requested tool is not registered."
  | notBound => "This agent version is not bound to the requested tool."
  | disabled => "The requested tool is currently disabled."
  | invalidInput => "The tool arguments failed validation."
  | invalidOutput => "The tool produced an invalid result."
  | timeout => "The tool did not complete within its allotted time."
  | executionFailed => "The tool failed to execute."
  | retryExhausted => "The tool failed after exhausting its retry budget."
  | idempotencyConflict => "This idempotency key was already used with different arguments."
  | executionInProgress => "A matching tool execution is already in progress."
  | budgetExceeded => "The run's tool-call budget has been exhausted."
  | permissionDenied => "You do not have permission to use this tool."
  | configuration => "The tool is misconfigured."
  | runNotExecutable => "The agent run is not in a state that allows tool execution."
  | ambiguousOutcomeRequiresReconciliation =>
    "The previous attempt's outcome could not be confirmed and this action cannot be " ++
    "safely retried automatically. Reconciliation is required before retrying."
  | policyDenied => "This action is denied by workspace policy."
  | policyEvaluationFailed =>
    "The action could not be safely evaluated against workspace policy."
  | approvalRequired => "This action requires human approval before it can execute."
  | approvalRejected => "This action was rejected by an approver."
  | approvalExpired => "The approval request for this action expired before it was decided."
  | approvalCancelled => "The approval request for this action was cancelled."
  | approvalActionChanged => "The approved action no longer matches what was requested."
  | handler _ => "The tool request could not be completed."

end ToolErrorClass

/-- A raised tool error: its class, and its message where the raiser gave one. -/
structure ToolError where
  cls : ToolErrorClass
  safeMessage : String
  deriving DecidableEq, Repr

namespace ToolError

def code (e : ToolError) : String := e.cls.code

/-- `ToolError.__init__`: an absent or empty message leaves the class default. -/
def raise (cls : ToolErrorClass) (message : String := "") : ToolError :=
  ⟨cls, if message = "" then cls.safeMessage else message⟩

@[simp] theorem raise_cls (cls : ToolErrorClass) (message : String) :
    (raise cls message).cls = cls := rfl

end ToolError

end SupportPilot
