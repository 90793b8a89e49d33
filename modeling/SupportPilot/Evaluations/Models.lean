import SupportPilot.Library.Text

/-!
# Evaluation runs and results

A row points to another by its position in the other table. The results of a run are its cases,
and further results replay them.
-/

namespace SupportPilot.Evaluations

open Library

inductive EvaluationRunStatus
  | pending
  | running
  | succeeded
  | partialSuccess
  | failed
  | cancelled
  deriving DecidableEq, Repr

/-- Membership in `EVALUATION_RUN_TERMINAL_STATUSES`. -/
def EvaluationRunStatus.terminal : EvaluationRunStatus → Bool
  | succeeded | partialSuccess | failed | cancelled => true
  | pending | running => false

inductive EvaluationResultStatus
  | pending
  | running
  | succeeded
  | failed
  | cancelled
  deriving DecidableEq, Repr

/-- Membership in `EVALUATION_RESULT_TERMINAL_STATUSES`. -/
def EvaluationResultStatus.terminal : EvaluationResultStatus → Bool
  | succeeded | failed | cancelled => true
  | pending | running => false

/-- The statuses that count as completed. -/
def EvaluationResultStatus.completed : EvaluationResultStatus → Bool
  | succeeded | failed => true
  | pending | running | cancelled => false

inductive EvaluationFailureCode
  | invalidCase
  | agentExecutionFailed
  | budgetExceeded
  | providerFailure
  | forbiddenToolViolation
  | policyViolation
  | approvalViolation
  | outcomeMismatch
  | scoringFailed
  | cancelled
  | workerCrashRecovered
  deriving DecidableEq, Repr

structure EvaluationRun where
  status : EvaluationRunStatus := .pending
  totalCases : Nat := 0
  completedCases : Nat := 0
  passedCases : Nat := 0
  failedCases : Nat := 0
  startedAt : Option Nat := none
  completedAt : Option Nat := none
  cancelledAt : Option Nat := none
  createdAt : Nat
  updatedAt : Nat
  deriving DecidableEq, Repr

/-- What `score_case` returns; `output` stands for the scorer's output and the columns that are
copied from it. -/
structure CaseScore where
  passed : Bool
  failureCode : Option EvaluationFailureCode
  output : String
  deriving DecidableEq, Repr

structure EvaluationResult where
  run : Nat
  status : EvaluationResultStatus := .pending
  agentRun : Option Nat := none
  scorerOutput : String := ""
  passed : Option Bool := none
  failureCode : Option EvaluationFailureCode := none
  failureMessageSafe : String := ""
  replayOf : Option Nat := none
  startedAt : Option Nat := none
  completedAt : Option Nat := none
  createdAt : Nat
  updatedAt : Nat
  deriving DecidableEq, Repr

/-- The results that count: the cases of a run, without the replays. -/
def EvaluationResult.caseOf (result : EvaluationResult) (k : Nat) : Bool :=
  result.run = k && result.replayOf.isNone

structure EvaluationSettings where
  stuckRunStaleSeconds : Nat
  integrationsLiveProvidersEnabled : Bool := false
  deriving DecidableEq, Repr

end SupportPilot.Evaluations
