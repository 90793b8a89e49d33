import SupportPilot.Evaluations.Services
import SupportPilot.Library.Processes

/-!
# Workers on evaluation cases

A worker claims a result, executes the case, writes the result, counts it and finalizes the run,
each in a transaction of its own, and may vanish between any two of them.
-/

namespace SupportPilot.Evaluations

open Library

/-- A call of `execute_evaluation_case` between its transactions, or a pending call of
`finalize_evaluation_run`. -/
inductive Proc
  | starting (r : Nat)
  | executing (r : Nat)
  | recording (r : Nat)
  | finalizing (k : Nat)
  | ended
  deriving DecidableEq, Repr

inductive EvaluationEvent
  | startRun (cases now : Nat)
  | claimRun (k now : Nat)
  | cancel (k now : Nat)
  | replay (r now : Nat)
  | recover (k sweepNow now : Nat)
  | caseTask (r : Nat)
  deriving DecidableEq

inductive EvaluationAction
  | claim (now : Nat)
  | terminate (code : EvaluationFailureCode) (message : String) (now : Nat)
  | complete (agentRun : Nat) (score : CaseScore) (now : Nat)
  | record (now : Nat)
  | finalize (now : Nat)
  | vanish
  deriving DecidableEq

def evaluationStep (cfg : EvaluationSettings) :
    EvaluationEvent → Store → Option (Store × Option Proc)
  | .startRun cases now, s => (s.startEvaluationRun cases now).map (·, none)
  | .claimRun k now, s => (s.claimEvaluationRun k now).map (·, none)
  | .cancel k now, s => (s.cancelEvaluationRun k now).map (·, none)
  | .replay r now, s => (s.replayEvaluationCase r now).map (·, none)
  | .recover k sweepNow now, s =>
    (s.recoverOneStuckRun k (sweepNow - cfg.stuckRunStaleSeconds * 1000000) now).map fun out =>
      (out.1, if out.2 then some (.finalizing k) else none)
  | .caseTask r, s => some (s, some (.starting r))

/-- What a worker does after it has written a result: replays are not counted. -/
def afterWrite (s : Store) (r : Nat) : Proc :=
  match s.results[r]? with
  | some result => if result.replayOf.isNone then .recording r else .ended
  | none => .ended

def caseStep (cfg : EvaluationSettings) :
    EvaluationAction → Proc → Store → Option (Store × Proc)
  | .claim now, .starting r, s =>
    (s.claimEvaluationResult r now).map fun out =>
      (out.1, if out.2 then .executing r else .ended)
  | .terminate code message now, .executing r, s =>
    (s.terminateResult r code message now).map fun t => (t, afterWrite s r)
  | .complete agentRun score now, .executing r, s =>
    if cfg.integrationsLiveProvidersEnabled then none
    else (s.completeResult r agentRun score now).map fun t => (t, afterWrite s r)
  | .record now, .recording r, s =>
    (s.results[r]?).bind fun result =>
      (s.recordCaseCompletion result.run now).map fun out =>
        (out.1, if out.2 then .finalizing result.run else .ended)
  | .finalize now, .finalizing k, s => some (s.finalizeEvaluationRun k now, .ended)
  | .vanish, .starting _, s | .vanish, .executing _, s | .vanish, .recording _, s
  | .vanish, .finalizing _, s => some (s, .ended)
  | _, _, _ => none

/-- Evaluation runs over empty tables. -/
def evaluations (cfg : EvaluationSettings) :
    Program EvaluationEvent EvaluationAction Proc Store where
  initial s := s = {}
  env := evaluationStep cfg
  work _ := caseStep cfg

abbrev Evaluation := Config Proc Store

abbrev EvaluationLabel := Label EvaluationEvent EvaluationAction

end SupportPilot.Evaluations
