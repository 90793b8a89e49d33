import SupportPilot.Evaluations.CaseRuns
import SupportPilot.Runtime.Holders

/-!
# Provider isolation of evaluation cases

The scripted provider and the check of the settings live in the call frame of a case. As long
as that frame is the only one that claims the agent run of its case, every model call of the
run goes to the scripted provider, and no handler of it runs in a process with live providers.
A resume message, or the message of the sweep over pending runs, is delivered to a worker that
knows neither.
-/

namespace SupportPilot.Evaluations

open Library

variable {plans : Nat → CasePlan} {s s' : CaseStore} {c : CaseRun} {i r k : Nat}

/-! ## The condition -/

/-- A worker other than the frame of its case claims a run, out of `PENDING` or out of
`WAITING_FOR_APPROVAL`. -/
def claimsElsewhere (c : CaseRun) : CaseLabel → Bool
  | .env (.agents _ _ (.claimRun r _)) => (c.store.caseOf r).isSome &&
    (c.store.agents.runs[r]?).any (·.status == .pending)
  | .work i (.agent (.claimRunForResume _)) => (c.procs[i]?).any fun process =>
    match process.frame with
    | .agent f => (c.store.caseOf f.worker.run).isSome &&
      (c.store.agents.runs[f.worker.run]?).any (·.status == .waitingForApproval)
    | _ => false
  | _ => false

abbrev Confined (c : CaseRun) (l : CaseLabel) : Prop :=
  claimsElsewhere c l = false

theorem confined_pending {settings : ProcessSettings} {versionProvider : String} {now : Nat}
    {run : AgentRun} (h : Confined c (.env (.agents settings versionProvider (.claimRun r now))))
    (hrun : c.store.agents.runs[r]? = some run) (hpending : run.status = .pending) :
    c.store.caseOf r = none := by
  simpa [Confined, claimsElsewhere, hrun, hpending] using h

theorem confined_waiting {now : Nat} {process : Process} {f : AgentFrame} {run : AgentRun}
    (h : Confined c (.work i (.agent (.claimRunForResume now))))
    (hprocess : c.procs[i]? = some process) (hframe : process.frame = .agent f)
    (hrun : c.store.agents.runs[f.worker.run]? = some run)
    (hwaiting : run.status = .waitingForApproval) : c.store.caseOf f.worker.run = none := by
  simpa [Confined, claimsElsewhere, hprocess, hframe, hrun, hwaiting] using h

/-! ## What frames and uses keep to -/

/-- The provider that replays the scenarios of the case of result `k`. -/
def Scripted (plans : Nat → CasePlan) (k : Nat) (provider : LLMProvider) : Prop :=
  ∃ scenarios, buildFakeLlmProvider (plans k).llmScenarios = .ok scenarios ∧
    provider = .scripted k scenarios

/-- The use of a run of a case: the scripted provider, and no live providers. -/
def Use.Isolated (plans : Nat → CasePlan) (s : CaseStore) : Use → Prop
  | .generate r provider => ∀ k, s.caseOf r = some k → Scripted plans k provider
  | .handler r live => (s.caseOf r).isSome → live = false

def Isolated (plans : Nat → CasePlan) (s : CaseStore) : Prop :=
  ∀ use ∈ s.uses, use.Isolated plans s

def Use.run : Use → Nat
  | .generate r _ | .handler r _ => r

/-- The runs have their origins, and every use of a run is isolated. -/
structure StoreLaw (plans : Nat → CasePlan) (s : CaseStore) : Prop where
  launches : s.launches.length = s.agents.runs.length
  uses : ∀ use ∈ s.uses, use.run < s.launches.length ∧ use.Isolated plans s

/-- What a worker on run `r` keeps to when the run belongs to the case of result `k`. -/
structure AgentLaw (plans : Nat → CasePlan) (settings : ProcessSettings) (f : AgentFrame)
    (k : Nat) : Prop where
  live : settings.integrationsLiveProvidersEnabled = false
  supplied : ∃ provider, f.supplied = some provider ∧ Scripted plans k provider
  provider : ∀ provider, f.provider = some provider → Scripted plans k provider

def FrameLaw (plans : Nat → CasePlan) (s : CaseStore) (process : Process) : Prop :=
  match process.frame with
  | .case _ => True
  | .creating k provider =>
    process.settings.integrationsLiveProvidersEnabled = false ∧ Scripted plans k provider
  | .created k r provider =>
    process.settings.integrationsLiveProvidersEnabled = false ∧ Scripted plans k provider ∧
      s.caseOf r = some k
  | .agent f => f.worker.point.active = true → f.worker.run < s.launches.length ∧
    ∀ k, s.caseOf f.worker.run = some k → AgentLaw plans process.settings f k

/-- Runs get their origin once. -/
def Grows (s s' : CaseStore) : Prop :=
  ∃ new, s'.launches = s.launches ++ new

theorem Grows.same (h : s'.launches = s.launches) : Grows s s' :=
  ⟨[], by rw [h, List.append_nil]⟩

theorem Grows.caseOf (h : Grows s s') (hr : r < s.launches.length) : s'.caseOf r = s.caseOf r := by
  obtain ⟨new, hnew⟩ := h
  rw [CaseStore.caseOf, CaseStore.caseOf, hnew, List.getElem?_append_left hr]

theorem Grows.length_le (h : Grows s s') : s.launches.length ≤ s'.launches.length := by
  obtain ⟨new, hnew⟩ := h
  rw [hnew, List.length_append]
  omega

theorem caseOf_lt (h : s.caseOf r = some k) : r < s.launches.length := by
  obtain ⟨launch, hlaunch, -⟩ := Option.bind_eq_some_iff.mp h
  exact (List.getElem?_eq_some_iff.mp hlaunch).1

theorem Use.Isolated.grows {use : Use} (h : use.Isolated plans s) (hs : Grows s s')
    (hr : use.run < s.launches.length) : use.Isolated plans s' := by
  cases use with
  | generate r provider =>
    have hsame : s'.caseOf r = s.caseOf r := hs.caseOf hr
    intro k hk
    exact h k (hsame.symm.trans hk)
  | handler r live =>
    have hsame : s'.caseOf r = s.caseOf r := hs.caseOf hr
    intro hk
    exact h (hsame ▸ hk)

theorem FrameLaw.grows {process : Process} (h : FrameLaw plans s process) (hs : Grows s s') :
    FrameLaw plans s' process := by
  unfold FrameLaw at *
  split
  · trivial
  · rename_i hframe
    rw [hframe] at h
    exact h
  · rename_i hframe
    rw [hframe] at h
    exact ⟨h.1, h.2.1, (hs.caseOf (caseOf_lt h.2.2)).trans h.2.2⟩
  · rename_i hframe
    rw [hframe] at h
    intro hactive
    obtain ⟨hlt, hlaw⟩ := h hactive
    refine ⟨hlt.trans_le hs.length_le, fun k hk => ?_⟩
    rw [hs.caseOf hlt] at hk
    exact hlaw k hk

/-- A step that leaves the uses alone keeps the law of the store. -/
theorem StoreLaw.grows (h : StoreLaw plans s) (hs : Grows s s') (huses : s'.uses = s.uses)
    (hlength : s'.launches.length = s'.agents.runs.length) : StoreLaw plans s' := by
  refine ⟨hlength, fun use huse => ?_⟩
  rw [huses] at huse
  obtain ⟨hlt, hisolated⟩ := h.uses use huse
  exact ⟨hlt.trans_le hs.length_le, hisolated.grows hs hlt⟩

theorem StoreLaw.record (h : StoreLaw plans s) {use : Use} (hlt : use.run < s.launches.length)
    (hisolated : use.Isolated plans s) : StoreLaw plans (s.record use) := by
  refine ⟨h.launches, fun other hother => ?_⟩
  rcases List.mem_cons.mp hother with rfl | hold
  · exact ⟨hlt, hisolated⟩
  · exact h.uses other hold

/-! ## Events -/

theorem caseOf_of_append {launch : Launch} (hlaunches : s'.launches = s.launches ++ [launch]) :
    s'.caseOf s.launches.length = launch.result := by
  rw [CaseStore.caseOf, hlaunches, List.getElem?_concat_length]
  rfl

/-- An event of the agent runtime gives a worker only a run that no case has. -/
theorem frameLaw_started {settings : ProcessSettings} {versionProvider : String}
    {event : ServiceEvent} {t : SupportPilot.Store} {worker : Worker} (hs : StoreLaw plans c.store)
    (hp : Confined c (.env (.agents settings versionProvider event)))
    (h : ServiceStep c.store.agents event t (some worker)) (hgrows : Grows c.store s') :
    FrameLaw plans s' ⟨settings, .agent { worker := worker }⟩ := by
  intro hactive
  cases h with
  | @claimedRun r now run hrun hpending =>
    have hnone := confined_pending hp hrun hpending
    have hlt : r < c.store.launches.length := by
      rw [hs.launches]
      exact (List.getElem?_eq_some_iff.mp hrun).1
    refine ⟨hlt.trans_le hgrows.length_le, fun k hk => ?_⟩
    have hsome : s'.caseOf r = some k := hk
    rw [hgrows.caseOf hlt, hnone] at hsome
    cases hsome
  | delivered => cases hactive

theorem law_event {event : CaseEvent} {started : Option Process} (hs : StoreLaw plans c.store)
    (hp : Confined c (.env event)) (h : caseEvent event c.store = some (s', started)) :
    StoreLaw plans s' ∧ Grows c.store s' ∧ ∀ process ∈ started, FrameLaw plans s' process := by
  cases event with
  | evaluation settings event =>
    obtain ⟨⟨t, proc⟩, -, heq⟩ := Option.map_eq_some_iff.mp h
    cases heq
    have hgrows : Grows c.store { c.store with evaluations := t } := .same rfl
    refine ⟨hs.grows hgrows rfl hs.launches, hgrows, fun process hprocess => ?_⟩
    obtain ⟨proc', -, rfl⟩ := Option.map_eq_some_iff.mp hprocess
    trivial
  | agents settings versionProvider event =>
    obtain ⟨⟨t, worker⟩, hout, heq⟩ := Option.map_eq_some_iff.mp h
    cases heq
    have hstep := serviceStep_cases hout
    have hgrows : Grows c.store { c.store with
        agents := t
        launches := c.store.launches ++
          List.replicate (t.runs.length - c.store.agents.runs.length) ⟨versionProvider, none⟩ } :=
      ⟨_, rfl⟩
    refine ⟨hs.grows hgrows rfl ?_, hgrows, fun process hprocess => ?_⟩
    · have hle := (keeps_serviceStep hstep).runs.length_le
      have hlength := hs.launches
      simp only [List.length_append, List.length_replicate]
      omega
    · obtain ⟨worker', hworker, rfl⟩ := Option.map_eq_some_iff.mp hprocess
      cases hworker
      exact frameLaw_started hs hp hstep hgrows

/-! ## Frames -/

/-- What a step of a frame does: the store keeps its law, the runs keep their origin, and the
frame keeps its own law. -/
structure StepLaw (plans : Nat → CasePlan) (s : CaseStore) (settings : ProcessSettings)
    (s' : CaseStore) (frame : Frame) : Prop where
  store : StoreLaw plans s'
  grows : Grows s s'
  frame : FrameLaw plans s' ⟨settings, frame⟩

variable {settings : ProcessSettings} {frame : Frame}

/-- Writes of the evaluation tables concern no agent run. -/
theorem stepLaw_evaluations (hs : StoreLaw plans s) {t : Store} {proc : Proc} :
    StepLaw plans s settings { s with evaluations := t } (.case proc) := by
  have hgrows : Grows s { s with evaluations := t } := .same rfl
  exact ⟨hs.grows hgrows rfl hs.launches, hgrows, trivial⟩

theorem stepLaw_terminate {code : EvaluationFailureCode} {message : String} {now : Nat}
    (hs : StoreLaw plans s) (h : s.terminate k code message now = some (s', frame)) :
    StepLaw plans s settings s' frame := by
  obtain ⟨t, -, heq⟩ := Option.map_eq_some_iff.mp h
  cases heq
  exact stepLaw_evaluations hs

theorem stepLaw_endCase {f : AgentFrame} {write : Nat → Option Store} (hs : StoreLaw plans s)
    (h : s.endCase f write = some (s', frame)) : StepLaw plans s settings s' frame := by
  unfold CaseStore.endCase at h
  split at h
  · obtain ⟨r, -, h⟩ := Option.bind_eq_some_iff.mp h
    obtain ⟨t, -, heq⟩ := Option.map_eq_some_iff.mp h
    cases heq
    exact stepLaw_evaluations hs
  · cases h

theorem stepLaw_checkProviders {now : Nat} (hs : StoreLaw plans s)
    (h : s.checkProviders settings (plans k) k now = some (s', frame)) :
    StepLaw plans s settings s' frame := by
  unfold CaseStore.checkProviders at h
  split at h
  · exact stepLaw_terminate hs h
  · rename_i hlive
    split at h
    · exact stepLaw_terminate hs h
    · cases h
      exact stepLaw_evaluations hs
    · rename_i scenarios hbuild
      cases h
      exact ⟨hs, .same rfl, by simpa using hlive, scenarios, hbuild, rfl⟩

theorem stepLaw_createRun {now : Nat} {provider : LLMProvider} (hs : StoreLaw plans s)
    (hframe : FrameLaw plans s ⟨settings, .creating k provider⟩) :
    StepLaw plans s settings (s.createEvaluationAgentRun (plans k) k now)
      (.created k s.agents.runs.length provider) := by
  have hgrows : Grows s (s.createEvaluationAgentRun (plans k) k now) := ⟨_, rfl⟩
  refine ⟨hs.grows hgrows rfl ?_, hgrows, hframe.1, hframe.2, ?_⟩
  · simp [CaseStore.createEvaluationAgentRun, hs.launches]
  · have hlaunches : (s.createEvaluationAgentRun (plans k) k now).launches =
        s.launches ++ [⟨(plans k).versionProvider, some k⟩] := rfl
    have hcase := caseOf_of_append hlaunches
    rw [hs.launches] at hcase
    exact hcase

theorem stepLaw_claimRun {now : Nat} {provider : LLMProvider} (hs : StoreLaw plans s)
    (hframe : FrameLaw plans s ⟨settings, .created k r provider⟩)
    (h : s.claimCaseRun k r provider now = some (s', frame)) :
    StepLaw plans s settings s' frame := by
  unfold CaseStore.claimCaseRun at h
  split at h
  · rename_i t worker hclaim
    cases h
    obtain ⟨hlive, hscripted, hcase⟩ := hframe
    have hgrows : Grows s { s with agents := t } := .same rfl
    obtain ⟨run, hrun, hclaimed⟩ := Option.bind_eq_some_iff.mp hclaim
    obtain ⟨claimed, -, heq⟩ := Option.bind_eq_some_iff.mp hclaimed
    cases heq
    refine ⟨hs.grows hgrows rfl ?_, hgrows, fun _ => ⟨caseOf_lt hcase, fun k' hk' => ?_⟩⟩
    · simp [hs.launches]
    · cases hcase.symm.trans hk'
      exact ⟨hlive, ⟨provider, rfl, hscripted⟩, nofun⟩
  · exact stepLaw_terminate hs h

/-! ## Workers -/

theorem AgentLaw.fail {f : AgentFrame} (h : AgentLaw plans settings f k) (code message : String) :
    AgentLaw plans settings (f.fail code message) k :=
  ⟨h.live, h.supplied, h.provider⟩

/-- The segment of a case takes the provider that its caller supplied. -/
theorem stepLaw_prepare {catalogFailure : Option (String × String)} {f f' : AgentFrame}
    (hs : StoreLaw plans s) (hframe : FrameLaw plans s ⟨settings, .agent f⟩)
    (h : s.prepare settings catalogFailure f = some f') :
    StepLaw plans s settings s (.agent f') := by
  refine ⟨hs, .same rfl, fun _ => ?_⟩
  unfold CaseStore.prepare at h
  split at h
  · rename_i hready
    obtain ⟨hlt, hlaw⟩ := hframe (by rw [hready.2.1]; rfl)
    split at h
    · cases h
      exact ⟨hlt, fun k hk => (hlaw k hk).fail _ _⟩
    · split at h
      · rename_i provider hsupplied
        cases h
        refine ⟨hlt, fun k hk => ⟨(hlaw k hk).live, (hlaw k hk).supplied, fun other hother => ?_⟩⟩
        cases hother
        obtain ⟨supplied, hsome, hscripted⟩ := (hlaw k hk).supplied
        cases hsupplied.symm.trans hsome
        exact hscripted
      · rename_i hnone
        obtain ⟨launch, -, rfl⟩ := Option.map_eq_some_iff.mp h
        have hforeign : ∀ k, s.caseOf f.worker.run ≠ some k := by
          intro k hk
          obtain ⟨supplied, hsome, -⟩ := (hlaw k hk).supplied
          cases hnone.symm.trans hsome
        split
        · exact ⟨hlt, fun k hk => absurd hk (hforeign k)⟩
        · exact ⟨hlt, fun k hk => absurd hk (hforeign k)⟩
  · cases h

theorem stepLaw_generate {f : AgentFrame} (hs : StoreLaw plans s)
    (hframe : FrameLaw plans s ⟨settings, .agent f⟩) (h : s.generate f = some s') :
    StepLaw plans s settings s' (.agent f) := by
  unfold CaseStore.generate at h
  split at h
  · rename_i hready
    obtain ⟨provider, hprovider, rfl⟩ := Option.map_eq_some_iff.mp h
    obtain ⟨hlt, hlaw⟩ := hframe (by rw [hready.2]; rfl)
    have hgrows : Grows s (s.record (.generate f.worker.run provider)) := .same rfl
    exact ⟨hs.record hlt fun k hk => (hlaw k hk).provider provider hprovider, hgrows,
      hframe.grows hgrows⟩
  · cases h

/-- After a step of the agent runtime the worker is on a run of its own case, or of none. -/
theorem frameLaw_agent {process : Process} {f : AgentFrame} {action : WorkerAction}
    {t : SupportPilot.Store} {w' : Worker} (hs : StoreLaw plans c.store)
    (hp : Confined c (.work i (.agent action))) (hprocess : c.procs[i]? = some process)
    (hf : process.frame = .agent f) (hframe : FrameLaw plans c.store process)
    (hout : workStep i action f.worker c.store.agents = some (t, w')) (hgrows : Grows c.store s') :
    FrameLaw plans s' ⟨process.settings, .agent { f with worker := w' }⟩ := by
  obtain ⟨-, p', alive, hstep, rfl⟩ := workStep_cases hout
  intro hactive
  rw [FrameLaw, hf] at hframe
  rcases active_workerStep hstep hactive with
    hbefore | ⟨x, status, run, run', hpoint, hrun, hwaiting, -, -⟩
  · obtain ⟨hlt, hlaw⟩ := hframe hbefore
    refine ⟨hlt.trans_le hgrows.length_le, fun k hk => ?_⟩
    have hcase : s'.caseOf f.worker.run = some k := hk
    rw [hgrows.caseOf hlt] at hcase
    exact ⟨(hlaw k hcase).live, (hlaw k hcase).supplied, (hlaw k hcase).provider⟩
  · have hlt : f.worker.run < c.store.launches.length := by
      rw [hs.launches]
      exact (List.getElem?_eq_some_iff.mp hrun).1
    have hnone : c.store.caseOf f.worker.run = none := by
      rw [hpoint] at hstep
      cases hstep with
      | resumeClaimedRun => exact confined_waiting hp hprocess hf hrun hwaiting
      | alreadyResumedRun => cases hactive
      | failedRun => cases hactive
      | unfinishedRun => cases hactive
      | vanished => cases hactive
    refine ⟨hlt.trans_le hgrows.length_le, fun k hk => ?_⟩
    have hcase : s'.caseOf f.worker.run = some k := hk
    rw [hgrows.caseOf hlt, hnone] at hcase
    cases hcase

theorem runs_workStep {action : WorkerAction} {w w' : Worker} {u t : SupportPilot.Store}
    (h : workStep i action w u = some (t, w')) : t.runs.length = u.runs.length := by
  obtain ⟨-, p', alive, hstep, -⟩ := workStep_cases h
  rcases runs_workerStep hstep with hsame | ⟨run, run', -, hset, -⟩
  · rw [hsame]
  · rw [hset, List.length_set]

/-- A handler starts at a point where its worker holds the run. -/
theorem active_invokeHandler {w w' : Worker} {u t : SupportPilot.Store}
    (h : workStep i .invokeHandler w u = some (t, w')) : w.point.active = true := by
  obtain ⟨-, p', alive, hstep, -⟩ := workStep_cases h
  generalize w.point = p at hstep
  cases hstep with
  | invoked => rfl
  | failedRun hcases => rcases hcases with ⟨_, _, ha, -⟩ | ⟨ha, -⟩ <;> cases ha
  | unfinishedRun hcases => rcases hcases with ⟨_, _, _, ha, -⟩ | ⟨_, _, _, ha, -⟩ <;> cases ha

theorem stepLaw_agent {process : Process} {f f' : AgentFrame} {action : WorkerAction}
    (hs : StoreLaw plans c.store) (hp : Confined c (.work i (.agent action)))
    (hprocess : c.procs[i]? = some process) (hf : process.frame = .agent f)
    (hframe : FrameLaw plans c.store process)
    (h : c.store.agentStep i process.settings f action = some (s', f')) :
    StepLaw plans c.store process.settings s' (.agent f') := by
  obtain ⟨⟨t, w'⟩, hout, hcases⟩ := Option.bind_eq_some_iff.mp h
  have hgrows : Grows c.store { c.store with agents := t } := .same rfl
  have hstore : StoreLaw plans { c.store with agents := t } :=
    hs.grows hgrows rfl (hs.launches.trans (runs_workStep hout).symm)
  have hnext := frameLaw_agent hs hp hprocess hf hframe hout hgrows
  cases action with
  | vanish =>
    cases hcases
    exact ⟨hstore, hgrows, hnext⟩
  | invokeHandler =>
    cases hcases
    rw [FrameLaw, hf] at hframe
    obtain ⟨hlt, hlaw⟩ := hframe (active_invokeHandler hout)
    have hlog : Grows { c.store with agents := t } (CaseStore.record { c.store with agents := t }
      (.handler f.worker.run process.settings.integrationsLiveProvidersEnabled)) := .same rfl
    refine ⟨hstore.record hlt fun hcase => ?_, .same rfl, hnext.grows hlog⟩
    obtain ⟨k, hk⟩ := Option.isSome_iff_exists.mp hcase
    exact (hlaw k hk).live
  | _ =>
    simp only at hcases
    split at hcases
    · cases hcases
    · cases hcases
      exact ⟨hstore, hgrows, hnext⟩

theorem law_action {action : CaseAction} {process process' : Process}
    (hs : StoreLaw plans c.store) (hp : Confined c (.work i action))
    (hprocess : c.procs[i]? = some process) (hframe : FrameLaw plans c.store process)
    (h : caseWork plans i action process c.store = some (s', process')) :
    StepLaw plans c.store process.settings s' process'.frame ∧
      process'.settings = process.settings := by
  obtain ⟨⟨t, frame⟩, hout, heq⟩ := Option.map_eq_some_iff.mp h
  cases heq
  refine ⟨?_, rfl⟩
  split at hout
  · split at hout
    · obtain ⟨⟨u, proc⟩, -, heq⟩ := Option.map_eq_some_iff.mp hout
      cases heq
      exact stepLaw_evaluations hs
    · cases hout
  · exact stepLaw_checkProviders hs hout
  · rename_i hf
    rw [FrameLaw, hf] at hframe
    cases hout
    exact stepLaw_createRun hs hframe
  · rename_i hf
    rw [FrameLaw, hf] at hframe
    exact stepLaw_claimRun hs hframe hout
  · cases hout
    exact stepLaw_evaluations hs
  · cases hout
    exact stepLaw_evaluations hs
  · rename_i hf
    obtain ⟨f', hprepare, heq⟩ := Option.map_eq_some_iff.mp hout
    cases heq
    rw [FrameLaw, hf] at hframe
    exact stepLaw_prepare hs hframe hprepare
  · rename_i hf
    obtain ⟨t, hgenerate, heq⟩ := Option.map_eq_some_iff.mp hout
    cases heq
    rw [FrameLaw, hf] at hframe
    exact stepLaw_generate hs hframe hgenerate
  · rename_i hf
    obtain ⟨⟨t, f'⟩, hagent, heq⟩ := Option.map_eq_some_iff.mp hout
    cases heq
    exact stepLaw_agent hs hp hprocess hf hframe hagent
  · exact stepLaw_endCase hs hout
  · exact stepLaw_endCase hs hout
  · cases hout

theorem laws (h : (caseRuns plans).system.Reach Confined c) :
    c.Annotated (StoreLaw plans) (FrameLaw plans) := by
  refine Program.annotated_reach ?_ ?_ ?_ h
  · rintro s rfl
    exact ⟨rfl, nofun⟩
  · intro c event s' started _ hp hc hout
    obtain ⟨hstore, hgrows, hstarted⟩ := law_event hc.store hp hout
    exact ⟨hstore, hstarted, fun _ _ _ hold => hold.grows hgrows⟩
  · intro c i action process s' process' _ hp hc hprocess hout
    obtain ⟨hlaw, hsettings⟩ :=
      law_action hc.store hp hprocess (hc.procs i process hprocess) hout
    refine ⟨hlaw.store, ?_, fun _ _ _ _ hold => hold.grows hlaw.grows⟩
    have hframe := hlaw.frame
    rw [← hsettings] at hframe
    exact hframe

/-! ## Main results -/

/-- In every run of the system in which the frame of a case is the only claimer of its agent
run, the model calls of the run go to the scripted provider of the case, and its handlers run
without live providers. -/
theorem provider_isolated (h : (caseRuns plans).system.Reach Confined c) :
    Isolated plans c.store :=
  fun use huse => ((laws h).store.uses use huse).2

section Scenarios

/-- Where a scenario ends; one that does not replay ends where it starts. -/
def caseEnd (plans : Nat → CasePlan) (permits : CaseRun → CaseLabel → Prop)
    [∀ c l, Decidable (permits c l)] (steps : List CaseLabel) : CaseRun :=
  (caseRuns plans).system.replayEnd permits steps ⟨{}, []⟩

theorem reach_caseEnd (plans : Nat → CasePlan) (permits : CaseRun → CaseLabel → Prop)
    [∀ c l, Decidable (permits c l)] (steps : List CaseLabel) :
    (caseRuns plans).system.Reach permits (caseEnd plans permits steps) := by
  have hinit : (caseRuns plans).system.initial ⟨{}, []⟩ := ⟨rfl, rfl⟩
  exact System.reach_replayEnd (.init hinit) steps

/-- A case with one scenario, on a version that names the fake provider. -/
def crmPlan (_ : Nat) : CasePlan :=
  ⟨1, {}, "fake", some 7, [.scenario "crm_update"]⟩

def testSettings : ProcessSettings := { stuckRunStaleSeconds := 900 }

def liveSettings : ProcessSettings :=
  { stuckRunStaleSeconds := 900, integrationsLiveProvidersEnabled := true,
    agentsLlmProvider := "openai", agentsOpenaiApiKey := "key" }

/-- A case whose run calls its provider, and pauses on a call that needs an approval. -/
def pausedCase : List CaseLabel :=
  let tool := ⟨"crm_update", {}⟩
  [.env (.evaluation testSettings (.startRun 1 0)), .env (.evaluation testSettings (.claimRun 0 0)),
    .env (.evaluation testSettings (.caseTask 0)), .work 0 (.evaluation (.claim 1)),
    .work 0 (.checkProviders 1), .work 0 (.createRun 1), .work 0 (.claimRun 1),
    .work 0 (.prepare none), .work 0 .generate,
    .work 0 (.agent (.callTool ⟨"crm_update", "{}", "f", "agent:a:turn:1:d"⟩)),
    .work 0 (.agent (.checkCall ⟨some tool, true, .enabled, some 2, true, true⟩)),
    .work 0 (.agent .claimExecution), .work 0 (.agent .checkEvaluated),
    .work 0 (.agent (.runPolicyGate (.requireApproval "rule" "Needs approval." "admin" 60) 2)),
    .work 0 (.agent (.pauseRun {} 3)), .work 0 (.complete ⟨true, none, "{}"⟩ 3)]

theorem provider_isolated_paused : Isolated crmPlan (caseEnd crmPlan Confined pausedCase).store :=
  provider_isolated (reach_caseEnd crmPlan Confined pausedCase)

example : (caseEnd crmPlan Confined pausedCase).store.uses =
    [.generate 0 (.scripted 0 ["crm_update"])] := by decide

/-- The call of the paused case is approved, and its run is resumed in a process with other
settings. -/
def resumedCase : List CaseLabel :=
  pausedCase ++
    [.env (.agents liveSettings "fake" (.decide 0 8 "owner" .approve 4 4)),
      .env (.agents liveSettings "fake" (.deliverResume 0)),
      .work 1 (.agent (.claimRunForResume 5)), .work 1 (.agent (.claimResume 6)),
      .work 1 (.agent (.checkResume ⟨some ⟨"crm_update", {}⟩, true, true, .valid⟩)),
      .work 1 (.agent .reserveSlot), .work 1 (.agent .countAttempt),
      .work 1 (.agent .invokeHandler),
      .work 1 (.agent (.handlerEnds (.returns (.dict (.valid (.dumped ⟨"{}", true⟩)))))),
      .work 1 (.agent (.finalize 7)), .work 1 (.prepare none), .work 1 .generate]

end Scenarios

/-- The handler of the resumed case runs with live providers, and the next model call of its
run goes to the configured provider. -/
theorem provider_not_always_isolated :
    ¬ ∀ plans c, (caseRuns plans).system.Reach (fun _ _ => True) c → Isolated plans c.store := by
  intro hall
  have hisolated := hall crmPlan _ (reach_caseEnd crmPlan (fun _ _ => True) resumedCase)
  have huses : .generate 0 (.configured (.openAI "key")) ∈
      (caseEnd crmPlan (fun _ _ => True) resumedCase).store.uses := by decide
  have hcase : (caseEnd crmPlan (fun _ _ => True) resumedCase).store.caseOf 0 = some 0 := by
    decide
  obtain ⟨scenarios, -, hscripted⟩ := hisolated _ huses 0 hcase
  cases hscripted

end SupportPilot.Evaluations
