import SupportPilot.Evaluations.Scoring
import SupportPilot.Library.Decimals

/-!
# Comparing two evaluation runs

Two runs with the same case keys are compared by rates and counts of their results, and the
thresholds of the candidate say whether the comparison passes. A result has a scorer output only
when its case was scored. The configuration is any JSON document; its numbers are as they were
written, and are rounded to floats when they are read.
-/

namespace SupportPilot.Evaluations.Comparison

open Library Scoring

/-! ## Rows -/

inductive ConfigValue
  | null
  | bool (b : Bool)
  | int (n : Int)
  | decimal (q : Rat)
  | string (text : CodePoints)
  | list (items : List ConfigValue)
  | object (fields : List (String × ConfigValue))

/-- A result; `agentRuns` are the runs that were created for its case, whether the row points to
one of them or not. -/
structure EvaluationResult where
  caseKey : String
  expectations : EvaluationCaseExpectations := {}
  status : EvaluationResultStatus := .pending
  passed : Option Bool := none
  scorerOutput : Option EvaluationScorerOutput := none
  replayOf : Option Nat := none
  agentRuns : List Nat := []
  deriving DecidableEq, Repr

structure EvaluationRun where
  caseKeys : List String
  results : List EvaluationResult
  thresholdConfig : ConfigValue := .object []

/-- The results that are no replays. -/
def EvaluationRun.initialResults (run : EvaluationRun) : List EvaluationResult :=
  run.results.filter (·.replayOf.isNone)

inductive Raised
  | runsNotComparable
  | attributeError
  | typeError
  | valueError
  | overflowError
  deriving DecidableEq, Repr

/-! ## Metrics -/

structure RunMetrics where
  passRate : Binary64
  forbiddenToolViolations : Binary64
  approvalViolations : Binary64
  handoffRate : Binary64
  deriving DecidableEq, Repr

namespace EvaluationRun

/-- `len(results) or 1` -/
def total (run : EvaluationRun) : Nat := max run.initialResults.length 1

def count (run : EvaluationRun) (f : EvaluationScorerOutput → Bool) : Nat :=
  run.initialResults.countP (·.scorerOutput.any f)

def passRate (run : EvaluationRun) : Rat :=
  run.initialResults.countP (·.passed = some true) / run.total

def handoffRate (run : EvaluationRun) : Rat := run.count (·.handoffOccurred) / run.total

/-- `_run_metrics` -/
def metrics (run : EvaluationRun) : RunMetrics where
  passRate := .round run.passRate
  forbiddenToolViolations := .finite (run.count (·.forbiddenToolViolation))
  approvalViolations := .finite (run.count (·.approvalViolation))
  handoffRate := .round run.handoffRate

end EvaluationRun

/-- `round(candidate_metrics[key] - baseline_metrics[key], 6)` for each key. -/
def deltas (baseline candidate : RunMetrics) : RunMetrics where
  passRate := (candidate.passRate.sub baseline.passRate).roundPlaces 6
  forbiddenToolViolations :=
    (candidate.forbiddenToolViolations.sub baseline.forbiddenToolViolations).roundPlaces 6
  approvalViolations := (candidate.approvalViolations.sub baseline.approvalViolations).roundPlaces 6
  handoffRate := (candidate.handoffRate.sub baseline.handoffRate).roundPlaces 6

/-! ## Thresholds -/

section Thresholds

variable (decimal : CodePoint → Option (Fin 10))

namespace ConfigValue

def truthy : ConfigValue → Bool
  | .null => false
  | .bool b => b
  | .int n => n ≠ 0
  | .decimal q => Binary64.round q ≠ .finite 0
  | .string text => text ≠ []
  | .list items => !items.isEmpty
  | .object fields => !fields.isEmpty

/-- The value at a key that is not null, in the object that the configuration is. -/
def get (fields : List (String × ConfigValue)) (key : String) : Option ConfigValue :=
  match fields.find? (·.1 = key) with
  | none | some (_, .null) => none
  | some (_, value) => some value

/-- The number that a value stands for. -/
def number : ConfigValue → Except Raised Binary64
  | .bool b => .ok (.finite (if b then 1 else 0))
  | .int n => .ok (.finite n)
  | .decimal q => .ok (.finite q)
  | .string text =>
    match readFloat decimal text with
    | some x => .ok x
    | none => .error .valueError
  | .null | .list _ | .object _ => .error .typeError

/-- `float(value)` -/
def float (value : ConfigValue) : Except Raised Binary64 :=
  match value.number decimal, value with
  | .error e, _ => .error e
  | .ok x, .int _ =>
    match x.nearest with
    | .infinite _ => .error .overflowError
    | y => .ok y
  | .ok x, _ => .ok x.nearest

end ConfigValue

/-- One threshold that was evaluated. -/
structure ThresholdResult where
  name : String
  threshold : ConfigValue
  passed : Bool
  category : String

/-- A threshold that is a number, where it is configured. -/
def numberThreshold (fields : List (String × ConfigValue)) (name category : String)
    (ok : Binary64 → Bool) : Except Raised (List ThresholdResult) :=
  match ConfigValue.get fields name with
  | none => .ok []
  | some threshold => do
    let limit ← threshold.float decimal
    return [⟨name, threshold, ok limit, category⟩]

/-- A threshold that is switched on. -/
def zeroThreshold (fields : List (String × ConfigValue)) (name category : String)
    (count : Binary64) : List ThresholdResult :=
  if (ConfigValue.get fields name).any (·.truthy) then
    [⟨name, .bool true, count = .finite 0, category⟩]
  else []

/-- `_evaluate_thresholds`; the regressions are the categories of what did not pass. -/
def evaluateThresholds (candidateMetrics deltas : RunMetrics)
    (fields : List (String × ConfigValue)) : Except Raised (List ThresholdResult) := do
  let minPassRate ← numberThreshold decimal fields "min_pass_rate" "pass_rate"
    fun limit => limit.le candidateMetrics.passRate
  let maxPassRateDrop ← numberThreshold decimal fields "max_pass_rate_drop" "pass_rate"
    fun limit => deltas.passRate.neg.le limit
  let forbidden := zeroThreshold fields "zero_forbidden_tool_violations" "forbidden_tool"
    candidateMetrics.forbiddenToolViolations
  let approval := zeroThreshold fields "zero_approval_violations" "approval_compliance"
    candidateMetrics.approvalViolations
  let maxHandoffRateIncrease ← numberThreshold decimal fields "max_handoff_rate_increase"
    "handoff_rate" fun limit => deltas.handoffRate.le limit
  return minPassRate ++ maxPassRateDrop ++ forbidden ++ approval ++ maxHandoffRateIncrease

/-! ## The comparison -/

structure ComparisonResult where
  caseCount : Nat
  baselineMetrics : RunMetrics
  candidateMetrics : RunMetrics
  deltas : RunMetrics
  thresholds : List ThresholdResult
  regressions : List String
  passed : Bool

def categories : List String :=
  ["approval_compliance", "forbidden_tool", "handoff_rate", "pass_rate"]

/-- `threshold_config or {}`, which has a method `get` only if it is an object. -/
def EvaluationRun.thresholdFields (run : EvaluationRun) :
    Except Raised (List (String × ConfigValue)) :=
  match run.thresholdConfig with
  | .object fields => .ok fields
  | value => if value.truthy then .error .attributeError else .ok []

def compareEvaluationRuns (baselineRun candidateRun : EvaluationRun) :
    Except Raised ComparisonResult :=
  if baselineRun.caseKeys.all (· ∈ candidateRun.caseKeys) &&
      candidateRun.caseKeys.all (· ∈ baselineRun.caseKeys) then do
    let baselineMetrics := baselineRun.metrics
    let candidateMetrics := candidateRun.metrics
    let deltas := deltas baselineMetrics candidateMetrics
    let fields ← candidateRun.thresholdFields
    let thresholds ← evaluateThresholds decimal candidateMetrics deltas fields
    let failed := (thresholds.filter (!·.passed)).map (·.category)
    return {
      caseCount := baselineRun.caseKeys.dedup.length
      baselineMetrics
      candidateMetrics
      deltas
      thresholds
      regressions := categories.filter (· ∈ failed)
      passed := failed.isEmpty }
  else .error .runsNotComparable

end Thresholds

end SupportPilot.Evaluations.Comparison
