import SupportPilot.Evaluations.Models
import SupportPilot.Library.Binary64
import SupportPilot.Runtime.Store
import Mathlib.Data.List.Dedup

/-!
# Scoring a case

The score of a case is read from the rows that its agent run has left: the run, its tool
executions in the order of their creation and the approval requests on them. Whether a handler was
invoked stands on no row; the history of the store has it.
-/

namespace SupportPilot.Evaluations.Scoring

open Library

/-! ## Expectations -/

inductive ApprovalBehavior
  | notRequired
  | required
  | approvedPath
  | rejectedPath
  | handoffExpected
  deriving DecidableEq, Repr

inductive OutcomeAssertionType
  | runTerminalStateEquals
  | handoffCreated
  | approvalCreated
  | toolSucceeded
  | toolNotExecuted
  | responseContainsCitation
  deriving DecidableEq, Repr

def OutcomeAssertionType.value : OutcomeAssertionType → String
  | runTerminalStateEquals => "run_terminal_state_equals"
  | handoffCreated => "handoff_created"
  | approvalCreated => "approval_created"
  | toolSucceeded => "tool_succeeded"
  | toolNotExecuted => "tool_not_executed"
  | responseContainsCitation => "response_contains_citation"

structure OutcomeAssertion where
  type : OutcomeAssertionType
  value : Option String := none
  tool : Option String := none
  deriving DecidableEq, Repr

/-- `f"{assertion.type}:{assertion.value or assertion.tool or ''}"` -/
def OutcomeAssertion.failure (assertion : OutcomeAssertion) : String :=
  let value := assertion.value.getD ""
  assertion.type.value ++ ":" ++ if value ≠ "" then value else assertion.tool.getD ""

structure EvaluationCaseExpectations where
  allowedTools : List String := []
  forbiddenTools : List String := []
  requiredToolSequence : Option (List String) := none
  acceptableToolSequences : Option (List (List String)) := none
  approvalBehavior : Option ApprovalBehavior := none
  outcomeAssertions : List OutcomeAssertion := []
  deriving DecidableEq, Repr

/-! ## What is scored -/

/-- Membership in `_TOOL_EXECUTED_STATUSES`. -/
def toolExecuted : ToolExecutionStatus → Bool
  | .succeeded | .failed | .timedOut => true
  | _ => false

/-- The run and what the queries on it return; `citations` is the truth value of the citations in
the metadata of the output message, if there are any. -/
structure RunArtifacts where
  run : AgentRun
  toolExecutions : List ToolExecution
  citations : Option Bool := none
  deriving DecidableEq, Repr

namespace RunArtifacts

def executedKeys (a : RunArtifacts) : List String :=
  (a.toolExecutions.filter fun te => toolExecuted te.status).map (·.toolDefinition)

def attemptedKeys (a : RunArtifacts) : List String := a.toolExecutions.map (·.toolDefinition)

def approvalRequests (a : RunArtifacts) : List ApprovalRequest :=
  a.toolExecutions.filterMap (·.approvalRequest)

end RunArtifacts

/-- What the queries of `score_case` return for run `r`. -/
def artifactsOf (s : SupportPilot.Store) (r : Nat) (run : AgentRun) (citations : Option Bool) :
    RunArtifacts where
  run
  toolExecutions := s.executions.filter (·.agentRun = r)
  citations

/-- The tools of the executions of run `r` whose handler was invoked, in order. -/
def invokedKeys (s : SupportPilot.Store) (r : Nat) : List String :=
  (s.executions.zipIdx.filter fun e => e.1.agentRun = r && s.history.any (·.invokesOn e.2)).map
    (·.1.toolDefinition)

/-! ## The scorer -/

structure EvaluationScorerOutput where
  intentEvaluated : Bool := false
  intentCorrect : Option Bool := none
  toolSelectionCorrect : Option Bool := none
  forbiddenToolViolation : Bool := false
  forbiddenToolsAttempted : List String := []
  requiredSequenceCompliant : Option Bool := none
  approvalCompliant : Option Bool := none
  approvalViolation : Bool := false
  handoffOccurred : Bool := false
  outcomeAssertionsPassed : Nat := 0
  outcomeAssertionsFailed : Nat := 0
  outcomeAssertionFailures : List String := []
  citationPresent : Option Bool := none
  latencyMs : Option Nat := none
  inputTokens : Nat := 0
  outputTokens : Nat := 0
  totalTokens : Nat := 0
  estimatedCostUsd : Option Binary64 := none
  deriving DecidableEq, Repr

structure CaseScore where
  output : EvaluationScorerOutput
  passed : Bool
  failureCode : Option EvaluationFailureCode
  failureMessageSafe : String := ""
  deriving DecidableEq, Repr

def runStatusValue : AgentRunStatus → String
  | .pending => "pending"
  | .running => "running"
  | .succeeded => "succeeded"
  | .failed => "failed"
  | .cancelled => "cancelled"
  | .budgetExceeded => "budget_exceeded"
  | .waitingForApproval => "waiting_for_approval"
  | .handedOff => "handed_off"

/-- `int(delta.total_seconds() * 1000)`, not below zero. -/
def latencyMs (startedAt completedAt : Nat) : Nat :=
  match Binary64.round (((completedAt : Rat) - startedAt) / 1000000) with
  | .finite seconds =>
    match Binary64.round (seconds * 1000) with
    | .finite milliseconds => milliseconds.floor.toNat
    | _ => 0
  | _ => 0

namespace RunArtifacts

variable (a : RunArtifacts)

/-- `_score_approval_behavior`, whose second value is the negation of this. -/
def scoreApprovalBehavior : ApprovalBehavior → Bool
  | .notRequired => a.approvalRequests.isEmpty
  | .required => !a.approvalRequests.isEmpty
  | .approvedPath => a.approvalRequests.any (·.status = .approved)
  | .rejectedPath => a.approvalRequests.any (·.status = .rejected)
  | .handoffExpected => a.run.status = .handedOff

def responseContainsCitation : Bool :=
  match a.citations with
  | some citations => citations
  | none => a.run.finalResponse.toList.contains '[' && a.run.finalResponse.toList.contains ']'

def evaluateOutcomeAssertion (assertion : OutcomeAssertion) : Bool :=
  match assertion.type with
  | .runTerminalStateEquals => assertion.value = some (runStatusValue a.run.status)
  | .handoffCreated => a.run.status = .handedOff
  | .approvalCreated => !a.approvalRequests.isEmpty
  | .toolSucceeded => a.toolExecutions.any fun te =>
      some te.toolDefinition = assertion.tool && te.status = .succeeded
  | .toolNotExecuted => !a.toolExecutions.any fun te => some te.toolDefinition = assertion.tool
  | .responseContainsCitation => a.responseContainsCitation

variable (parsed : EvaluationCaseExpectations)

def forbiddenExecuted : Bool := a.executedKeys.any fun key => key ∈ parsed.forbiddenTools

/-- `none` where the case names no allowed tools. -/
def toolSelectionCorrect : Option Bool :=
  if parsed.allowedTools = [] then none
  else some (a.executedKeys.all fun key => key ∈ parsed.allowedTools)

def requiredSequenceCompliant : Option Bool :=
  match parsed.requiredToolSequence, parsed.acceptableToolSequences with
  | some sequence, _ => some (a.executedKeys = sequence)
  | none, some sequences => some (a.executedKeys ∈ sequences)
  | none, none => none

def approvalCompliant : Option Bool := parsed.approvalBehavior.map a.scoreApprovalBehavior

/-- The violations in the order in which they are found. -/
def violations : List EvaluationFailureCode :=
  (if a.forbiddenExecuted parsed then [.forbiddenToolViolation] else []) ++
    (if a.toolSelectionCorrect parsed = some false then [.outcomeMismatch] else []) ++
    (if a.requiredSequenceCompliant parsed = some false then [.outcomeMismatch] else []) ++
    (if a.approvalCompliant parsed = some false then [.approvalViolation] else []) ++
    if parsed.outcomeAssertions.all a.evaluateOutcomeAssertion then [] else [.outcomeMismatch]

/-- A failure of the run is put before the other violations. -/
def withRunFailure (violations : List EvaluationFailureCode) : List EvaluationFailureCode :=
  match a.run.status with
  | .budgetExceeded => .budgetExceeded :: violations
  | .failed => .agentExecutionFailed :: violations
  | _ => violations

def scorerOutput : EvaluationScorerOutput where
  forbiddenToolsAttempted :=
    ((a.attemptedKeys.filter (· ∈ parsed.forbiddenTools)).dedup).mergeSort (· ≤ ·)
  forbiddenToolViolation := a.forbiddenExecuted parsed
  toolSelectionCorrect := a.toolSelectionCorrect parsed
  requiredSequenceCompliant := a.requiredSequenceCompliant parsed
  handoffOccurred := a.run.status = .handedOff
  approvalCompliant := a.approvalCompliant parsed
  approvalViolation := a.approvalCompliant parsed = some false
  outcomeAssertionsPassed := parsed.outcomeAssertions.countP a.evaluateOutcomeAssertion
  outcomeAssertionsFailed := parsed.outcomeAssertions.countP (!a.evaluateOutcomeAssertion ·)
  outcomeAssertionFailures :=
    (parsed.outcomeAssertions.filter (!a.evaluateOutcomeAssertion ·)).map (·.failure)
  citationPresent :=
    if parsed.outcomeAssertions.any (·.type = .responseContainsCitation) then
      some a.responseContainsCitation
    else none
  inputTokens := a.run.usage.inputTokens
  outputTokens := a.run.usage.outputTokens
  totalTokens := a.run.usage.totalTokens
  estimatedCostUsd := a.run.usage.estimatedCostUsd
  latencyMs := a.run.startedAt.bind fun started => a.run.completedAt.map (latencyMs started)

/-- Score one case's execution against its expectations. -/
def scoreCase : CaseScore :=
  let violations := a.withRunFailure (a.violations parsed)
  { output := a.scorerOutput parsed
    passed := violations.isEmpty
    failureCode := violations.head? }

end RunArtifacts

end SupportPilot.Evaluations.Scoring
