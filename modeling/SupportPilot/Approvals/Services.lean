import SupportPilot.Tools.Models

/-!
# Approval lifecycle services, row by row

Each transaction of the approval services as a function of the tool execution whose
approval request it locks. A resolution of the request and the termination of the
execution are one transaction, so they are one function here.
-/

namespace SupportPilot

inductive ApprovalError
  | expired
  | cancelled
  | alreadyResolved
  | selfApprovalForbidden
  | permissionDenied
  deriving DecidableEq, Repr

/-- `_APPROVAL_ROLE_RANK`: only these three roles can decide, or be required. -/
def approvalRoleRank (role : String) : Option Nat :=
  if role = "support_manager" then some 1
  else if role = "admin" then some 2
  else if role = "owner" then some 3
  else none

def roleSatisfiesRequirement (actorRole requiredRole : String) : Bool :=
  (approvalRoleRank requiredRole).getD 99 ≤ (approvalRoleRank actorRole).getD 0

/-- `_terminate_execution`: a conditional update that only a waiting row matches. -/
def terminateExecution (execution : ToolExecution) (errorCode errorMessage : String) (now : Nat) :
    ToolExecution :=
  if execution.status = .waitingForApproval then
    { execution with
      status := .approvalTerminated
      errorCode := errorCode
      errorMessageSafe := errorMessage
      completedAt := some now }
  else execution

theorem terminateExecution_status {execution : ToolExecution} {errorCode errorMessage : String}
    {now : Nat} (h : execution.status ≠ .waitingForApproval) :
    (terminateExecution execution errorCode errorMessage now).status = execution.status := by
  rw [terminateExecution, if_neg h]

theorem terminateExecution_request (e : ToolExecution) (code message : String) (now : Nat) :
    (terminateExecution e code message now).approvalRequest = e.approvalRequest := by
  unfold terminateExecution
  split <;> rfl

theorem terminateExecution_workspace (e : ToolExecution) (code message : String) (now : Nat) :
    (terminateExecution e code message now).workspace = e.workspace := by
  unfold terminateExecution
  split <;> rfl

/-- The writes of an expiry, at decision time and in the sweep alike. -/
def expire (execution : ToolExecution) (approval : ApprovalRequest) (now : Nat) : ToolExecution :=
  terminateExecution
    { execution with
      approvalRequest := some { approval with status := .expired, resolvedAt := some now } }
    "approval_expired" "The approval request expired." now

/-- `_expire_if_stale`, checked against the wall clock at `checkedAt`. -/
def expireIfStale (execution : ToolExecution) (approval : ApprovalRequest)
    (checkedAt now : Nat) : Option ToolExecution :=
  if approval.status ≠ .pending then none
  else if checkedAt < approval.expiresAt then none
  else some (expire execution approval now)

theorem expireIfStale_some {execution row : ToolExecution} {approval : ApprovalRequest}
    {checkedAt now : Nat} (h : expireIfStale execution approval checkedAt now = some row) :
    approval.status = .pending ∧ approval.expiresAt ≤ checkedAt ∧
      row = expire execution approval now := by
  unfold expireIfStale at h
  grind

theorem expireIfStale_none {execution : ToolExecution} {approval : ApprovalRequest}
    {checkedAt now : Nat} (h : expireIfStale execution approval checkedAt now = none)
    (hpending : approval.status = .pending) : checkedAt < approval.expiresAt := by
  unfold expireIfStale at h
  grind

/-- What one call of `decide_approval` does. -/
inductive DecideResult
  | refused (e : ApprovalError)
  | replayed
  | expired (row : ToolExecution)
  | decided (row : ToolExecution)
  deriving DecidableEq, Repr

/-- The writes of a fresh decision. -/
def recordDecision (execution : ToolExecution) (approval : ApprovalRequest) (actor : Nat)
    (decision : ApprovalDecisionValue) (now : Nat) : ToolExecution :=
  let row := { execution with
    approvalRequest := some { approval with
      status := decision.status
      resolvedAt := some now
      decision := some ⟨decision, actor⟩ } }
  match decision with
  | .approve => row
  | .reject => terminateExecution row "approval_rejected" "This action was rejected." now

theorem recordDecision_status {execution : ToolExecution} {approval : ApprovalRequest}
    {actor now : Nat} {decision : ApprovalDecisionValue}
    (h : execution.status ≠ .waitingForApproval) :
    (recordDecision execution approval actor decision now).status = execution.status := by
  cases decision with
  | approve => rfl
  | reject => exact terminateExecution_status h

theorem recordDecision_request (e : ToolExecution) (approval : ApprovalRequest) (actor : Nat)
    (decision : ApprovalDecisionValue) (now : Nat) :
    (recordDecision e approval actor decision now).approvalRequest = some { approval with
      status := decision.status
      resolvedAt := some now
      decision := some ⟨decision, actor⟩ } := by
  cases decision with
  | approve => rfl
  | reject => exact terminateExecution_request _ _ _ _

theorem recordDecision_workspace (e : ToolExecution) (approval : ApprovalRequest) (actor : Nat)
    (decision : ApprovalDecisionValue) (now : Nat) :
    (recordDecision e approval actor decision now).workspace = e.workspace := by
  cases decision with
  | approve => rfl
  | reject => exact terminateExecution_workspace _ _ _ _

/-- `decide_approval` on the locked request. A decision row that is already there makes the
insertion fail, which leaves the request as it was. -/
def decideApproval (execution : ToolExecution) (approval : ApprovalRequest) (actor : Nat)
    (actorRole : String) (decision : ApprovalDecisionValue) (checkedAt now : Nat) : DecideResult :=
  match expireIfStale execution approval checkedAt now with
  | some row => .expired row
  | none =>
    match approval.status with
    | .expired => .refused .expired
    | .cancelled => .refused .cancelled
    | .approved => if decision = .approve then .replayed else .refused .alreadyResolved
    | .rejected => if decision = .reject then .replayed else .refused .alreadyResolved
    | .pending =>
      if approval.requestedBy = some actor then .refused .selfApprovalForbidden
      else if !roleSatisfiesRequirement actorRole approval.requiredRole then
        .refused .permissionDenied
      else if approval.decision.isSome then .refused .alreadyResolved
      else .decided (recordDecision execution approval actor decision now)

theorem decideApproval_expired {execution row : ToolExecution} {approval : ApprovalRequest}
    {actor checkedAt now : Nat} {actorRole : String} {decision : ApprovalDecisionValue}
    (h : decideApproval execution approval actor actorRole decision checkedAt now =
      .expired row) :
    approval.status = .pending ∧ approval.expiresAt ≤ checkedAt ∧
      row = expire execution approval now := by
  unfold decideApproval at h
  split at h
  · rename_i stale hstale
    cases h
    exact expireIfStale_some hstale
  · grind

/-- A fresh decision passed every check on a request that was still pending. -/
theorem decideApproval_decided {execution row : ToolExecution} {approval : ApprovalRequest}
    {actor checkedAt now : Nat} {actorRole : String} {decision : ApprovalDecisionValue}
    (h : decideApproval execution approval actor actorRole decision checkedAt now =
      .decided row) :
    approval.status = .pending ∧ checkedAt < approval.expiresAt ∧
      approval.requestedBy ≠ some actor ∧
      roleSatisfiesRequirement actorRole approval.requiredRole = true ∧
      approval.decision = none ∧ row = recordDecision execution approval actor decision now := by
  unfold decideApproval at h
  split at h
  · cases h
  · rename_i hfresh
    cases hstatus : approval.status with
    | pending =>
      simp only [hstatus] at h
      split at h
      · cases h
      · rename_i hself
        split at h
        · cases h
        · rename_i hrole
          split at h
          · cases h
          · rename_i hnone
            cases h
            exact ⟨rfl, expireIfStale_none hfresh hstatus, hself, by simpa using hrole,
              by simpa using hnone, rfl⟩
    | approved | rejected =>
      simp only [hstatus] at h
      split at h <;> cases h
    | expired | cancelled =>
      simp only [hstatus] at h
      cases h

/-- One row of `expire_stale_approvals`. -/
def expireStaleApproval (execution : ToolExecution) (approval : ApprovalRequest)
    (checkedAt now : Nat) : Option ToolExecution :=
  if approval.status ≠ .pending ∨ checkedAt < approval.expiresAt then none
  else some (expire execution approval now)

theorem expireStaleApproval_some {execution row : ToolExecution} {approval : ApprovalRequest}
    {checkedAt now : Nat} (h : expireStaleApproval execution approval checkedAt now = some row) :
    approval.status = .pending ∧ approval.expiresAt ≤ checkedAt ∧
      row = expire execution approval now := by
  unfold expireStaleApproval at h
  grind

/-- `cancel_approval_for_execution`: only a pending request changes, and only the request. -/
def cancelApprovalForExecution (execution : ToolExecution) (now : Nat) : ToolExecution :=
  match execution.approvalRequest with
  | none => execution
  | some approval =>
    if approval.status ≠ .pending then execution
    else { execution with
      approvalRequest := some { approval with status := .cancelled, resolvedAt := some now } }

end SupportPilot
