import SupportPilot.Evaluations.Models

/-!
# The transactions of evaluation runs

Each function is what one transaction does to the committed rows. A transaction that counts
results holds the lock of the run and counts them with one query.
-/

namespace SupportPilot.Evaluations

open Library

structure Store where
  runs : List EvaluationRun := []
  results : List EvaluationResult := []
  deriving DecidableEq, Repr

namespace Store

def setRun (s : Store) (k : Nat) (run : EvaluationRun) : Store :=
  { s with runs := s.runs.set k run }

def setResult (s : Store) (r : Nat) (result : EvaluationResult) : Store :=
  { s with results := s.results.set r result }

/-! ## Runs -/

/-- `start_evaluation_run` on a dataset with active cases. -/
def startEvaluationRun (s : Store) (cases : Nat) (now : Nat) : Option Store :=
  if cases = 0 then none
  else some {
    runs := s.runs ++ [{ totalCases := cases, createdAt := now, updatedAt := now }]
    results := s.results ++
      List.replicate cases { run := s.runs.length, createdAt := now, updatedAt := now } }

def claimEvaluationRun (s : Store) (k : Nat) (now : Nat) : Option Store :=
  (s.runs[k]?).bind fun run =>
    if run.status ≠ .pending then none
    else some (s.setRun k { run with status := .running, startedAt := some now, updatedAt := now })

/-- `_aggregate_case_counts`: the completed and the passed cases. -/
def aggregateCaseCounts (s : Store) (k : Nat) : Nat × Nat :=
  (s.results.countP fun r => r.caseOf k && r.status.completed,
    s.results.countP fun r => r.caseOf k && r.passed = some true)

/-- Saves a run with counters that are computed from its results. -/
def recount (s : Store) (k : Nat) (run : EvaluationRun) (now : Nat) : Store :=
  let counts := s.aggregateCaseCounts k
  s.setRun k { run with
    completedCases := counts.1
    passedCases := counts.2
    failedCases := counts.1 - counts.2
    updatedAt := now }

/-- The status that `finalize_evaluation_run` gives. -/
def verdict (s : Store) (k : Nat) (run : EvaluationRun) : EvaluationRunStatus :=
  let executionFailed := s.results.countP fun r => r.caseOf k && r.status = .failed
  if 0 < run.totalCases ∧ executionFailed = run.totalCases then .failed
  else if 0 < executionFailed then .partialSuccess
  else .succeeded

def finalizeEvaluationRun (s : Store) (k : Nat) (now : Nat) : Store :=
  match s.runs[k]? with
  | none => s
  | some run =>
    if run.status ≠ .running then s
    else if run.completedCases < run.totalCases then s
    else s.setRun k { run with
      status := s.verdict k run, completedAt := some now, updatedAt := now }

/-- The update of the pending cases by `cancel_evaluation_run`. -/
def cancelPending (s : Store) (k : Nat) (now : Nat) : Store :=
  { s with results := s.results.map fun r =>
      if r.caseOf k && r.status = .pending then
        { r with status := .cancelled, completedAt := some now }
      else r }

def cancelEvaluationRun (s : Store) (k : Nat) (now : Nat) : Option Store :=
  (s.runs[k]?).bind fun run =>
    if run.status.terminal then none
    else some ((s.cancelPending k now).recount k
      { run with status := .cancelled, cancelledAt := some now } now)

/-- `replay_evaluation_case`; whether the version is published is left to the caller. -/
def replayEvaluationCase (s : Store) (r : Nat) (now : Nat) : Option Store :=
  (s.results[r]?).bind fun result =>
    if result.status.terminal then
      some { s with results := s.results ++
        [{ run := result.run, replayOf := some r, createdAt := now, updatedAt := now }] }
    else none

/-! ## Results -/

/-- `_claim_evaluation_result`: the rows, and whether the caller has claimed the result. -/
def claimEvaluationResult (s : Store) (r : Nat) (now : Nat) : Option (Store × Bool) :=
  (s.results[r]?).bind fun result =>
    (s.runs[result.run]?).map fun run =>
      if result.status ≠ .pending then (s, false)
      else if run.status = .cancelled ∨ run.cancelledAt.isSome then
        (s.setResult r { result with
          status := .cancelled, completedAt := some now, updatedAt := now }, false)
      else
        (s.setResult r { result with
          status := .running, startedAt := some now, updatedAt := now }, true)

/-- The transaction of `_terminate_result`. -/
def terminateResult (s : Store) (r : Nat) (code : EvaluationFailureCode) (message : String)
    (now : Nat) : Option Store :=
  (s.results[r]?).map fun result => s.setResult r { result with
    status := .failed
    passed := some false
    failureCode := some code
    failureMessageSafe := truncate 500 message
    completedAt := some now
    updatedAt := now }

/-- The last transaction of `execute_evaluation_case`. -/
def completeResult (s : Store) (r : Nat) (agentRun : Nat) (score : CaseScore) (now : Nat) :
    Option Store :=
  (s.results[r]?).map fun result => s.setResult r { result with
    status := .succeeded
    agentRun := some agentRun
    scorerOutput := score.output
    passed := some score.passed
    failureCode := score.failureCode
    completedAt := some now
    updatedAt := now }

/-- The transaction of `_record_case_completion`, and whether the run is to be finalized. -/
def recordCaseCompletion (s : Store) (k : Nat) (now : Nat) : Option (Store × Bool) :=
  (s.runs[k]?).map fun run =>
    let counts := s.aggregateCaseCounts k
    (s.recount k run now, run.status = .running && run.totalCases ≤ counts.1)

/-! ## Recovery -/

def staleResult (k cutoff : Nat) (r : EvaluationResult) : Bool :=
  r.caseOf k && r.status = .running && r.updatedAt ≤ cutoff

def liveResult (k cutoff : Nat) (r : EvaluationResult) : Bool :=
  r.caseOf k && r.status = .running && cutoff < r.updatedAt

def recoveredMessage : String :=
  "Recovered: worker did not finalize this case before the staleness threshold."

/-- Fails the stale cases of a run. -/
def failStale (s : Store) (k cutoff now : Nat) : Store :=
  { s with results := s.results.map fun r =>
      if staleResult k cutoff r then
        { r with
          status := .failed
          passed := some false
          failureCode := some .workerCrashRecovered
          failureMessageSafe := recoveredMessage
          completedAt := some now
          updatedAt := now }
      else r }

/-- The transaction of `_recover_one_stuck_run`, and whether the run is to be finalized. -/
def recoverOneStuckRun (s : Store) (k cutoff now : Nat) : Option (Store × Bool) :=
  (s.runs[k]?).bind fun run =>
    if run.status ≠ .running then none
    else if cutoff < run.updatedAt then none
    else if !s.results.any (staleResult k cutoff) && s.results.any (liveResult k cutoff) then none
    else
      let t := s.failStale k cutoff now
      some (t.recount k run now, run.totalCases ≤ (t.aggregateCaseCounts k).1)

end Store

end SupportPilot.Evaluations
