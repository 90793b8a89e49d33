import SupportPilot.Evaluations.Providers
import SupportPilot.Evaluations.System
import SupportPilot.Runtime.System

/-!
# Agent runs of evaluation cases

A call of `execute_evaluation_case` creates the agent run of its case, claims it and executes
it with the provider of the case, all in one call. The row of the run is an ordinary one: the
services and the workers of the agent runtime see it like any other. The program here is
theirs and the evaluation harness's together, each worker in a process with its own settings.
-/

namespace SupportPilot.Evaluations

open Library

/-- What a run says about its origin: the provider of its version, and the result whose case
it executes when its trigger is `EVALUATION`. -/
structure Launch where
  versionProvider : String
  result : Option Nat
  deriving DecidableEq, Repr

/-- What is done on behalf of a run outside of the database, newest first in the store. -/
inductive Use
  | generate (run : Nat) (provider : LLMProvider)
  | handler (run : Nat) (liveProvidersEnabled : Bool)
  deriving DecidableEq, Repr

structure CaseStore where
  agents : SupportPilot.Store := {}
  evaluations : Store := {}
  launches : List Launch := []
  uses : List Use := []

namespace CaseStore

/-- The result whose case run `r` was created for. -/
def caseOf (s : CaseStore) (r : Nat) : Option Nat :=
  (s.launches[r]?).bind (·.result)

def record (s : CaseStore) (use : Use) : CaseStore :=
  { s with uses := use :: s.uses }

end CaseStore

/-! ## Workers -/

/-- A worker on a segment of an agent run. `supplied` is the provider that the caller passed,
`provider` the one of the context, and `result` the evaluation result of the calling frame. -/
structure AgentFrame where
  worker : Worker
  supplied : Option LLMProvider := none
  provider : Option LLMProvider := none
  result : Option Nat := none
  deriving DecidableEq, Repr

/-- `_fail_run` with this code and message comes next. -/
def AgentFrame.fail (f : AgentFrame) (code message : String) : AgentFrame :=
  { f with worker := f.worker.goto (.failRun code message) }

inductive Frame
  | case (proc : Proc)
  | creating (result : Nat) (provider : LLMProvider)
  | created (result run : Nat) (provider : LLMProvider)
  | agent (frame : AgentFrame)
  deriving DecidableEq, Repr

structure Process where
  settings : ProcessSettings
  frame : Frame
  deriving DecidableEq, Repr

/-! ## Environment -/

/-- An event of the evaluation tables or of the agent runtime. A worker that it starts has the
given settings, and a run that it creates has a version with the given provider. -/
inductive CaseEvent
  | evaluation (settings : ProcessSettings) (event : EvaluationEvent)
  | agents (settings : ProcessSettings) (versionProvider : String) (event : ServiceEvent)

def caseEvent : CaseEvent → CaseStore → Option (CaseStore × Option Process)
  | .evaluation settings event, s =>
    (evaluationStep settings.toEvaluationSettings event s.evaluations).map fun out =>
      ({ s with evaluations := out.1 }, out.2.map fun proc => ⟨settings, .case proc⟩)
  | .agents settings versionProvider event, s =>
    (serviceStep event s.agents).map fun out =>
      ({ s with
          agents := out.1
          launches := s.launches ++
            List.replicate (out.1.runs.length - s.agents.runs.length) ⟨versionProvider, none⟩ },
        out.2.map fun worker => ⟨settings, .agent { worker := worker }⟩)

/-! ## Actions -/

inductive CaseAction
  | evaluation (action : EvaluationAction)
  | checkProviders (now : Nat)
  | createRun (now : Nat)
  | claimRun (now : Nat)
  | vanish
  | prepare (catalogFailure : Option (String × String))
  | generate
  | agent (action : WorkerAction)
  | complete (score : CaseScore) (now : Nat)
  | terminate (code : EvaluationFailureCode) (message : String) (now : Nat)

namespace CaseStore

variable (s : CaseStore)

/-- `_terminate_result`, after which the frame goes on to count the result. -/
def terminate (r : Nat) (code : EvaluationFailureCode) (message : String) (now : Nat) :
    Option (CaseStore × Frame) :=
  (s.evaluations.terminateResult r code message now).map fun t =>
    ({ s with evaluations := t }, .case (afterWrite s.evaluations r))

/-- The check of the settings and the construction of the provider, before the run exists. -/
def checkProviders (settings : ProcessSettings) (plan : CasePlan) (r now : Nat) :
    Option (CaseStore × Frame) :=
  if settings.integrationsLiveProvidersEnabled then
    s.terminate r .providerFailure
      "Evaluation cannot run while live external providers are enabled." now
  else match buildFakeLlmProvider plan.llmScenarios with
    | .error (.invalidLLMScenario message) => s.terminate r .invalidCase message now
    | .error .other => some (s, .case .ended)
    | .ok scenarios => some (s, .creating r (.scripted r scenarios))

/-- `_create_evaluation_agent_run`. -/
def createEvaluationAgentRun (plan : CasePlan) (r now : Nat) : CaseStore :=
  { s with
    agents := { s.agents with runs := s.agents.runs ++
      [newAgentRun plan.workspace plan.agentVersion none none plan.createdBy now] }
    launches := s.launches ++ [⟨plan.versionProvider, some r⟩] }

/-- The claim of the run by the frame that created it. -/
def claimCaseRun (r k : Nat) (provider : LLMProvider) (now : Nat) :
    Option (CaseStore × Frame) :=
  match s.agents.claimRun k now with
  | some (t, worker) => some ({ s with agents := t },
      .agent { worker := worker, supplied := some provider, result := some r })
  | none => s.terminate r .agentExecutionFailed
      "The agent run could not be claimed for execution." now

/-- The head of a segment before its graph starts: the main one reads the tool catalog, and
takes the provider that its caller supplied; otherwise the settings decide. -/
def prepare (settings : ProcessSettings) (catalogFailure : Option (String × String))
    (f : AgentFrame) : Option AgentFrame :=
  if f.worker.alive ∧ f.worker.point = .graph ∧ f.provider = none then
    match f.worker.segment, catalogFailure with
    | .main, some (code, message) => some (f.fail code message)
    | _, _ =>
      match f.supplied with
      | some provider => some { f with provider := some provider }
      | none => (s.launches[f.worker.run]?).map fun launch =>
        match resolveProvider settings launch.versionProvider with
        | some provider => { f with provider := some (.configured provider) }
        | none => f.fail providerConfigurationCode providerConfigurationMessage
  else none

/-- One call of `generate` by the graph. -/
def generate (f : AgentFrame) : Option CaseStore :=
  if f.worker.alive ∧ f.worker.point = .graph then
    f.provider.map fun provider => s.record (.generate f.worker.run provider)
  else none

/-- A step of the agent runtime by a worker whose segment is prepared once it is in the graph.
The start of a handler is recorded with the setting of the process. -/
def agentStep (i : Nat) (settings : ProcessSettings) (f : AgentFrame) (action : WorkerAction) :
    Option (CaseStore × AgentFrame) :=
  (workStep i action f.worker s.agents).bind fun out =>
    let moved : CaseStore := { s with agents := out.1 }
    let frame : AgentFrame := { f with worker := out.2 }
    match action with
    | .vanish => some (moved, frame)
    | .invokeHandler => some (moved.record
        (.handler f.worker.run settings.integrationsLiveProvidersEnabled), frame)
    | _ => if f.worker.point = .graph ∧ f.provider = none then none else some (moved, frame)

/-- The end of a case: the result is written once the segment has returned. -/
def endCase (f : AgentFrame) (write : Nat → Option Store) : Option (CaseStore × Frame) :=
  if f.worker.alive ∧ f.worker.point = .returned then
    f.result.bind fun r => (write r).map fun t =>
      ({ s with evaluations := t }, .case (afterWrite s.evaluations r))
  else none

end CaseStore

/-- The steps of `execute_evaluation_case` that the evaluation tables share with its claim. -/
def EvaluationAction.shared : EvaluationAction → Bool
  | .claim _ | .record _ | .finalize _ | .vanish => true
  | .terminate .. | .complete .. => false

def caseWork (plans : Nat → CasePlan) (i : Nat) (action : CaseAction) (process : Process)
    (s : CaseStore) : Option (CaseStore × Process) :=
  let settings := process.settings
  let out : Option (CaseStore × Frame) :=
    match action, process.frame with
    | .evaluation a, .case proc =>
      if a.shared then
        (caseStep settings.toEvaluationSettings a proc s.evaluations).map fun out =>
          ({ s with evaluations := out.1 }, .case out.2)
      else none
    | .checkProviders now, .case (.executing r) => s.checkProviders settings (plans r) r now
    | .createRun now, .creating r provider =>
      some (s.createEvaluationAgentRun (plans r) r now,
        .created r s.agents.runs.length provider)
    | .claimRun now, .created r k provider => s.claimCaseRun r k provider now
    | .vanish, .creating _ _ | .vanish, .created _ _ _ => some (s, .case .ended)
    | .prepare catalogFailure, .agent f =>
      (s.prepare settings catalogFailure f).map fun f' => (s, .agent f')
    | .generate, .agent f => (s.generate f).map fun t => (t, .agent f)
    | .agent a, .agent f => (s.agentStep i settings f a).map fun out => (out.1, .agent out.2)
    | .complete score now, .agent f =>
      s.endCase f fun r => s.evaluations.completeResult r f.worker.run score now
    | .terminate code message now, .agent f =>
      s.endCase f fun r => s.evaluations.terminateResult r code message now
    | _, _ => none
  out.map fun out => (out.1, { process with frame := out.2 })

/-- Evaluations and agent runs over empty tables, for the given plans of the results. -/
def caseRuns (plans : Nat → CasePlan) : Program CaseEvent CaseAction Process CaseStore where
  initial s := s = {}
  env := caseEvent
  work := caseWork plans

abbrev CaseRun := Config Process CaseStore

abbrev CaseLabel := Label CaseEvent CaseAction

end SupportPilot.Evaluations
