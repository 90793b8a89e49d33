/-!
# Policy evaluations and approval requests

A tool execution owns at most one policy evaluation and at most one approval
request, and an approval request owns at most one decision. These one-to-one rows
are optional fields of their owner here, so a second row cannot be represented;
the operations that would create one are the ones that fail.
-/

namespace SupportPilot

inductive PolicyEffect
  | allow
  | deny
  | requireApproval
  deriving DecidableEq, Repr

structure PolicyEvaluation where
  decision : PolicyEffect
  decisionCode : String
  safeReason : String
  deriving DecidableEq, Repr

inductive ApprovalStatus
  | pending
  | approved
  | rejected
  | expired
  | cancelled
  deriving DecidableEq, Repr

/-- Statuses for which a resume message continues the run. -/
def ApprovalStatus.resolved : ApprovalStatus → Bool
  | .approved | .rejected | .expired => true
  | .pending | .cancelled => false

inductive ApprovalDecisionValue
  | approve
  | reject
  deriving DecidableEq, Repr

/-- The status that a decision of this value leaves on its request. -/
def ApprovalDecisionValue.status : ApprovalDecisionValue → ApprovalStatus
  | .approve => .approved
  | .reject => .rejected

structure ApprovalDecision where
  decision : ApprovalDecisionValue
  decidedBy : Nat
  deriving DecidableEq, Repr

structure ApprovalRequest where
  status : ApprovalStatus := .pending
  requestedBy : Option Nat
  requiredRole : String
  argumentsFingerprint : String
  expiresAt : Nat
  resolvedAt : Option Nat := none
  decision : Option ApprovalDecision := none
  deriving DecidableEq, Repr

end SupportPilot
