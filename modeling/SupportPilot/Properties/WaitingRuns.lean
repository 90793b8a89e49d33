import SupportPilot.Properties.ResumeMessages
import SupportPilot.Properties.ApprovalLifecycle

/-!
# What a waiting run waits for

A run pauses when `execute_tool` raises for an approval: after the gate has made its own row
wait, or because the row that carries its key waits already. As long as that row belongs to
the run, the request of its pause is either pending, or resolved and claimed by a resume
message that the sweep publishes again. Runs that share a key share the row, and the run
that did not create it waits for an approval whose messages go to the other one.
-/

namespace SupportPilot

open Library

/-- The call waits for the request of the row, or takes an undecided row to the gate. -/
def Resolution.adopts (existing : ToolExecution) : Resolution → Bool
  | .waiting => true
  | .reset => existing.policyEvaluation.isNone
  | .reused => false

/-- A claim adopts the row of another run, which carries the same key. -/
def adoptsForeign (c : Configuration) : Step → Bool
  | .work i .claimExecution => ((do
    let w ← c.procs[i]?
    match w.point with
    | .claimExecution request tool =>
      let run ← c.store.runs[w.run]?
      let x ← c.store.findExecution run.workspace request.toolKey request.idempotencyKey
      let existing ← c.store.executions[x]?
      let resolution ← (resolveExisting existing request.argumentsFingerprint tool).toOption
      some (existing.agentRun != w.run && resolution.adopts existing)
    | _ => none) : Option Bool).getD false
  | _ => false

/-- A handler raises the executor's own signal for a missing approval. -/
def signalsApproval : Step → Bool
  | .work _ (.handlerEnds behaviour) =>
    match invokeWithTimeout behaviour with
    | .error (.toolError e) => e.cls = .approvalRequired
    | _ => false
  | _ => false

/-- A request is cancelled outside `cancel_agent_run`. -/
def cancelsAlone : Step → Bool
  | .env (.cancelApproval _ _) => true
  | _ => false

/-- No call waits for another run's row. The other two clauses are what the callers of the
executor and of the approval service keep to. -/
def WaitsForOwn (c : Configuration) (l : Step) : Prop :=
  adoptsForeign c l = false ∧ signalsApproval l = false ∧ cancelsAlone l = false

instance (c : Configuration) (l : Step) : Decidable (WaitsForOwn c l) :=
  inferInstanceAs (Decidable (_ ∧ _))

variable {c : Configuration} {i : Nat} {w w' : Worker} {a : WorkerAction} {s s' : Store}
  {p p' : Point} {r x : Nat}

theorem own_of_adopted {request : ToolRequest} {tool : ToolSpec} {run : AgentRun}
    {e : ToolExecution} {resolution : Resolution}
    (h : WaitsForOwn c (.work i .claimExecution)) (hw : c.procs[i]? = some w)
    (hpoint : w.point = .claimExecution request tool) (hrun : c.store.runs[w.run]? = some run)
    (hfind : c.store.findExecution run.workspace request.toolKey request.idempotencyKey = some x)
    (he : c.store.executions[x]? = some e)
    (hresolve : resolveExisting e request.argumentsFingerprint tool = .ok resolution)
    (hadopts : resolution.adopts e = true) : e.agentRun = w.run := by
  simpa [adoptsForeign, hw, hpoint, hrun, hfind, he, hresolve, Except.toOption, hadopts]
    using h.1

/-! ## The signal for an approval -/

theorem afterRefusal_ne_approvalRequired (e : ToolError) :
    Point.afterRefusal e ≠ .approvalRequired x := by
  unfold Point.afterRefusal
  split_ifs <;> nofun

theorem afterToolError_ne_approvalRequired {y : Nat} {e : ToolError}
    (h : e.cls ≠ .approvalRequired) : Point.afterToolError y e ≠ .approvalRequired x := by
  rw [Point.afterToolError, if_neg h]
  exact afterRefusal_ne_approvalRequired e

theorem afterResumeError_ne_approvalRequired (e : ToolError) :
    Point.afterResumeError e ≠ .approvalRequired x := by
  unfold Point.afterResumeError
  split_ifs <;> nofun

/-- The call leaves with the signal for a missing approval. -/
def CallExit.signals : CallExit → Bool
  | .failure _ _ _ e | .raised e => e.cls = .approvalRequired
  | .success _ | .uncaught => false

theorem afterExit_ne_approvalRequired {call : Call} {exit : CallExit} {stored : Bool}
    (h : exit.signals = false) : Point.afterExit call exit stored ≠ .approvalRequired x := by
  unfold Point.afterExit
  split
  · nofun
  · split
    · exact afterResumeError_ne_approvalRequired _
    · exact afterToolError_ne_approvalRequired (by simpa [CallExit.signals] using h)
  · split
    · exact afterResumeError_ne_approvalRequired _
    · exact afterToolError_ne_approvalRequired (by simpa [CallExit.signals] using h)
  · split <;> nofun
  · split <;> nofun

theorem checkResume_signals {row : ToolExecution} {lookup : ResumeLookup} {exit : CallExit}
    (h : checkResume row lookup = .error exit) : exit.signals = false := by
  unfold checkResume at h
  repeat' split at h
  all_goals
    cases h
    try rfl

/-- A call that is left with the signal had a handler that raised it. -/
theorem afterAttempt_signals {policy : RetryPolicy} {attemptCount : Nat}
    {behaviour : HandlerBehaviour} {raised : Raised}
    (h : afterAttempt policy attemptCount behaviour = .raises raised)
    (hsignals : signalsApproval (.work i (.handlerEnds behaviour)) = false) :
    (CallExit.ofRaised raised).signals = false := by
  unfold afterAttempt at h
  cases hinvoke : invokeWithTimeout behaviour with
  | ok output => simp [hinvoke] at h
  | error raised' =>
    cases raised' with
    | uncaught =>
      simp only [hinvoke, AttemptResult.raises.injEq] at h
      rw [← h]
      rfl
    | toolError e =>
      have hcls : e.cls ≠ .approvalRequired := by
        simpa [signalsApproval, hinvoke] using hsignals
      simp only [hinvoke] at h
      split_ifs at h
      · cases h
        simpa [CallExit.ofRaised, CallExit.signals] using hcls
      · cases h
        rfl
      · cases h
        simpa [CallExit.ofRaised, CallExit.signals] using hcls

/-- A claim that raises for an approval has found its row waiting. -/
theorem claimExecution_waiting {request : ToolRequest} {tool : ToolSpec}
    (h : s.claimExecution w request tool = some (s', .approvalRequired x)) :
    ∃ run existing, s.runs[w.run]? = some run ∧
      s.findExecution run.workspace request.toolKey request.idempotencyKey = some x ∧
      s.executions[x]? = some existing ∧
      resolveExisting existing request.argumentsFingerprint tool = .ok .waiting := by
  obtain ⟨run, hrun, h⟩ := Option.bind_eq_some_iff.mp h
  split at h
  · cases h
  · rename_i y hfind
    obtain ⟨existing, hy, h⟩ := Option.bind_eq_some_iff.mp h
    split at h
    · simp only [Option.some.injEq, Prod.mk.injEq] at h
      exact absurd h.2 (afterRefusal_ne_approvalRequired _)
    · rename_i hwaiting
      cases h
      exact ⟨run, existing, hrun, hfind, hy, hwaiting⟩
    · split at h
      · cases h
      · rename_i e hreused
        simp only [Option.some.injEq, Prod.mk.injEq] at h
        exact absurd h.2 (afterToolError_ne_approvalRequired (reusedOutcome_cls hreused))
    · cases h

theorem workStep_claim {request : ToolRequest} {tool : ToolSpec}
    (h : workStep i .claimExecution w s = some (s', w'))
    (hpoint : w.point = .claimExecution request tool) :
    s.claimExecution w request tool = some (s', w'.point) := by
  unfold workStep at h
  split at h
  · simp only [hpoint, workerStep] at h
    obtain ⟨⟨t, q⟩, hout, heq⟩ := Option.map_eq_some_iff.mp h
    cases heq
    exact hout
  · cases h

/-! ## The rows of a worker -/

/-- The row belongs to run `r` and has a request. -/
def Requested (r : Nat) (e : ToolExecution) : Prop :=
  e.agentRun = r ∧ e.approvalRequest.isSome

theorem Requested.keeps {e e' : ToolExecution} (h : RowKeeps e e') (he : Requested r e) :
    Requested r e' := by
  obtain ⟨a, ha⟩ := Option.isSome_iff_exists.mp he.2
  obtain ⟨a', ha', -⟩ := h.approval a ha
  exact ⟨h.agentRun.trans he.1, by rw [ha']; rfl⟩

/-- The row is undecided and belongs to run `r`, or it is past its wait. -/
def Entering (r : Nat) (e : ToolExecution) : Prop :=
  (e.policyEvaluation = none ∧ e.agentRun = r) ∨ Started e

/-- What a worker of run `r` knows about the row that it takes towards its start. -/
def OwnPoint (s : Store) (r : Nat) : Point → Prop
  | .policyCheck call | .policyGate call => RowAt s call.execution (Entering r)
  | .transitionRunning call => RowAt s call.execution Started
  | .leave _ exit => exit.signals = false
  | .approvalRequired x => RowAt s x (Requested r)
  | _ => True

theorem ownPoint_same (h : OwnPoint s r p) (hsame : s'.executions = s.executions) :
    OwnPoint s' r p := by
  unfold OwnPoint RowAt at *
  rw [hsame]
  exact h

theorem ownPoint_of_outside (h : p.outside = true) (hne : ∀ x, p ≠ .approvalRequired x) :
    OwnPoint s r p := by
  cases p with
  | approvalRequired x => exact absurd rfl (hne x)
  | graph | ending | failRun | returned => trivial
  | _ => cases h

theorem started_of_allowed {e e' : ToolExecution} {createdBy : Option Nat} {now : Nat}
    (hI : RowInvariant e) (hnone : e.policyEvaluation = none)
    (hcommit : GateCommit e createdBy now e' none) : Started e' := by
  cases hcommit with
  | allowed =>
    refine ⟨rfl, fun hwaiting => ?_⟩
    have hrequest := hI.waiting hwaiting
    rw [hI.unevaluated hnone] at hrequest
    cases hrequest

theorem ownPoint_workerStep (hI : AllRows (fun _ => RowInvariant) c.store.executions)
    (hp : WaitsForOwn c (.work i a)) (hw : c.procs[i]? = some w)
    (hout : workStep i a w c.store = some (s', w')) (hself : OwnPoint c.store w.run w.point)
    (h : WorkerStep i w c.store a w.point s' w'.point) : OwnPoint s' w.run w'.point := by
  generalize hpt : w.point = q at h hself
  generalize hpt' : w'.point = q' at h
  cases h with
  | vanished => exact ownPoint_same hself (Store.vanish_executions _ _ _)
  | createdRow => exact ⟨_, List.getElem?_concat_length, .inl ⟨rfl, rfl⟩⟩
  | @resetRow request tool run x existing hrun hfind hx hreset =>
    refine rowAt_set hx ?_
    cases hev : existing.policyEvaluation with
    | none =>
      have hadopts : Resolution.reset.adopts existing = true := by
        rw [Resolution.adopts, hev]
        rfl
      have hown := own_of_adopted hp hw hpt hrun hfind hx hreset hadopts
      exact .inl ⟨hev, hown⟩
    | some ev => exact .inr ⟨by simp [ToolExecution.reset, hev], nofun⟩
  | foundWaiting hx hwaiting =>
    have hclaim := workStep_claim hout hpt
    rw [hpt'] at hclaim
    obtain ⟨run, existing, hrun, hfind, hy, hresolve⟩ := claimExecution_waiting hclaim
    have hown := own_of_adopted hp hw hpt hrun hfind hy hresolve rfl
    exact ⟨existing, hy, hown, (hI _ _ hy).waiting (resolveExisting_waiting hresolve)⟩
  | foundEvaluated hx hev =>
    refine ⟨_, hx, (hself.get hx).resolve_left ?_⟩
    rintro ⟨hnone, -⟩
    rw [hnone] at hev
    cases hev
  | foundUnevaluated => exact hself
  | gateAllowed hrun hx hnone hcommit =>
    exact rowAt_set hx (started_of_allowed (hI _ _ hx) hnone hcommit)
  | @gateRaised call row row' run e outcome now hrun hx hnone hcommit =>
    by_cases hcls : e.cls = .approvalRequired
    · rw [Point.afterToolError, if_pos hcls]
      refine rowAt_set hx ?_
      rcases hself.get hx with ⟨-, hown⟩ | hstarted
      · cases hcommit with
        | denied _ _ _ _ _ hne => exact absurd hcls hne
        | approvalRequired => exact ⟨hown, rfl⟩
      · have hev := hstarted.evaluated
        rw [hnone] at hev
        cases hev
    · exact ownPoint_of_outside (Point.afterToolError_outside _ _)
        fun x => afterToolError_ne_approvalRequired hcls
  | refusedCall | refusedClaim | gateInProgress | refusedStart =>
    exact ownPoint_of_outside (Point.afterRefusal_outside _)
      fun x => afterRefusal_ne_approvalRequired _
  | refreshedOther =>
    exact ownPoint_of_outside (Point.afterResumeError_outside _)
      fun x => afterResumeError_ne_approvalRequired _
  | finalized | leftUnfinalized =>
    exact ownPoint_of_outside (Point.afterExit_outside _ _ _)
      fun x => afterExit_ne_approvalRequired hself
  | refusedSlot | exhausted | handlerReturned => rfl
  | handlerRaised hraised => exact afterAttempt_signals (i := i) hraised hp.2.1
  | refusedResume hx hrefused => exact checkResume_signals hrefused
  | resumeClaimedRun => split <;> trivial
  | _ => trivial

/-- Only the gate decides a row. -/
theorem undecided_workerStep (h : WorkerStep i w s a p s' p') :
    AllRows (fun x e' => ∀ e, s.executions[x]? = some e → e.policyEvaluation = none →
      e'.policyEvaluation = none ∨ ∃ call, p = .policyGate call ∧ call.execution = x)
      s'.executions := by
  have hsame : AllRows (fun x e' => ∀ e, s.executions[x]? = some e → e.policyEvaluation = none →
      e'.policyEvaluation = none ∨ ∃ call, p = .policyGate call ∧ call.execution = x)
      s.executions := by
    intro x e' he' e he hnone
    cases he'.symm.trans he
    exact .inl hnone
  have hwrite : ∀ {y : Nat} {f f' : ToolExecution}, s.executions[y]? = some f →
      f'.policyEvaluation = f.policyEvaluation →
      ∀ e, s.executions[y]? = some e → e.policyEvaluation = none →
        f'.policyEvaluation = none ∨ ∃ call, p = .policyGate call ∧ call.execution = y := by
    intro y f f' hf hevaluation e he hnone
    cases hf.symm.trans he
    exact .inl (hevaluation.trans hnone)
  cases h with
  | vanished => rwa [Store.vanish_executions]
  | createdRow => exact hsame.append fun _ _ _ => .inl rfl
  | resetRow hrun hfind hx => exact hsame.set (hwrite hx rfl)
  | gateAllowed | gateRaised => exact hsame.set fun _ _ _ => .inr ⟨_, rfl, rfl⟩
  | startedRow hx => exact hsame.set (hwrite hx rfl)
  | countedAttempt hx => exact hsame.set (hwrite hx rfl)
  | finalized hx hstored =>
    refine hsame.set (hwrite hx ?_)
    obtain ⟨-, ⟨_, -, rfl⟩ | ⟨_, _, _, _, -, rfl⟩⟩ := CallExit.finalize_stored hstored <;> rfl
  | claimedRow hx => exact hsame.set (hwrite hx rfl)
  | _ => exact hsame

theorem cancelApproval_evaluation (e : ToolExecution) (now : Nat) :
    (cancelApprovalForExecution e now).policyEvaluation = e.policyEvaluation := by
  unfold cancelApprovalForExecution
  split
  · rfl
  · split <;> rfl

theorem terminateExecution_evaluation (e : ToolExecution) (code message : String) (now : Nat) :
    (terminateExecution e code message now).policyEvaluation = e.policyEvaluation := by
  unfold terminateExecution
  split <;> rfl

theorem recordDecision_evaluation (e : ToolExecution) (approval : ApprovalRequest)
    (actor : Nat) (decision : ApprovalDecisionValue) (now : Nat) :
    (recordDecision e approval actor decision now).policyEvaluation = e.policyEvaluation := by
  cases decision with
  | approve => rfl
  | reject => exact terminateExecution_evaluation _ _ _ _

/-- No service decides a row. -/
theorem evaluation_serviceStep {event : ServiceEvent} {started : Option Worker}
    (h : ServiceStep s event s' started) :
    AllRows (fun x e' => ∀ e, s.executions[x]? = some e →
      e'.policyEvaluation = e.policyEvaluation) s'.executions := by
  have hsame : AllRows (fun x e' => ∀ e, s.executions[x]? = some e →
      e'.policyEvaluation = e.policyEvaluation) s.executions := by
    intro x e' he' e he
    cases he'.symm.trans he
    rfl
  have hwrite : ∀ {y : Nat} {f f' : ToolExecution}, s.executions[y]? = some f →
      f'.policyEvaluation = f.policyEvaluation →
      ∀ e, s.executions[y]? = some e → f'.policyEvaluation = e.policyEvaluation := by
    intro y f f' hf hevaluation e he
    cases hf.symm.trans he
    exact hevaluation
  cases h with
  | @cancelledRun r now run =>
    refine .map fun x e he => hwrite he ?_
    unfold Store.cancelChildOf cancelChildExecution
    split
    · split
      · exact cancelApproval_evaluation e now
      · rfl
    · rfl
  | @recoveredRun r cutoff now =>
    refine .map fun x e he => hwrite he ?_
    unfold Store.recoverChildOf failInFlightToolExecution
    split
    · split <;> rfl
    · rfl
  | decided hx => exact hsame.set (hwrite hx (recordDecision_evaluation _ _ _ _ _))
  | expired _ hx => exact hsame.set (hwrite hx (terminateExecution_evaluation _ _ _ _))
  | cancelledApproval hx => exact hsame.set (hwrite hx (cancelApproval_evaluation _ _))
  | _ => exact hsame

/-- A step that does not decide the row of a worker on its way to the gate keeps what the
worker knows. -/
theorem ownPoint_keeps (hs : Keeps s s')
    (hundecided : ∀ call e e', p.atGate = some call → s.executions[call.execution]? = some e →
      e.policyEvaluation = none → e.agentRun = r → s'.executions[call.execution]? = some e' →
      e'.policyEvaluation = none)
    (h : OwnPoint s r p) : OwnPoint s' r p := by
  have hentering : ∀ call, p.atGate = some call → RowAt s call.execution (Entering r) →
      RowAt s' call.execution (Entering r) := by
    rintro call hcall ⟨e, he, hrow⟩
    obtain ⟨e', he', hkeeps⟩ := hs.executions _ e he
    refine ⟨e', he', ?_⟩
    rcases hrow with ⟨hnone, hown⟩ | hstarted
    · exact .inl ⟨hundecided call e e' hcall he hnone hown he', hkeeps.agentRun.trans hown⟩
    · exact .inr (hstarted.keeps hkeeps)
  cases p with
  | policyCheck call | policyGate call => exact hentering call rfl h
  | transitionRunning call => exact h.keeps hs fun _ _ hkeeps he => he.keeps hkeeps
  | approvalRequired x => exact h.keeps hs fun _ _ hkeeps he => he.keeps hkeeps
  | leave call exit => exact h
  | _ => trivial

/-- A worker at the gate with an undecided row is the holder of the row's run. -/
theorem ownPoint_gate {call : Call} {e : ToolExecution}
    (h : OwnPoint s w.run w.point) (hpoint : w.point = .policyGate call)
    (he : s.executions[call.execution]? = some e) (hnone : e.policyEvaluation = none) :
    Holds w e.agentRun := by
  rw [hpoint] at h
  rcases h.get he with ⟨-, hown⟩ | hstarted
  · exact ⟨hown.symm, by rw [hpoint]; rfl⟩
  · have hev := hstarted.evaluated
    rw [hnone] at hev
    cases hev

/-! ## The last pause of a waiting run -/

/-- A waiting run has paused on a row of its own that has a request. -/
def PausedOwn (s : Store) : Prop :=
  ∀ r run, s.runs[r]? = some run → run.status = .waitingForApproval →
    ∃ x, pausedOn s r = some x ∧ RowAt s x (Requested r)

/-- A run that waits after a worker's step has waited before, or the step pauses it. -/
theorem paused_workerStep (h : WorkerStep i w s a w.point s' p') {run' : AgentRun}
    (hrun' : s'.runs[r]? = some run') (hwaiting : run'.status = .waitingForApproval) :
    (∃ run, s.runs[r]? = some run ∧ run.status = .waitingForApproval ∧
      pausedOn s' r = pausedOn s r) ∨
      ∃ x, w.point = .approvalRequired x ∧ w.run = r ∧ pausedOn s' r = some x := by
  have hpaused : pausedOn s' r = pausedOn s r ∨
      ∃ x, w.point = .approvalRequired x ∧ w.run = r ∧ pausedOn s' r = some x := by
    rcases recorded_workerStep h with hsame | ⟨event, hnew, hrecords⟩
    · exact .inl (pausedOn_same hsame)
    · generalize hp : w.point = p at hrecords
      cases hrecords with
      | runPaused x =>
        by_cases hr : w.run = r
        · refine .inr ⟨x, rfl, hr, ?_⟩
          simp [pausedOn, hnew, Event.pauseOf, hr]
        · exact .inl (pausedOn_record hnew (if_neg hr))
      | _ => exact .inl (pausedOn_record hnew rfl)
  rcases hpaused with hsame | hpaused
  · rcases runs_workerStep h with hruns | ⟨old, new, hold, hset, hwrite⟩
    · exact .inl ⟨run', hruns ▸ hrun', hwaiting, hsame⟩
    · rw [hset] at hrun'
      rcases getElem?_set_cases hrun' with ⟨rfl, rfl⟩ | ⟨-, hother⟩
      · generalize hp : w.point = p at hwrite
        generalize hh : s'.history = history at hwrite
        cases hwrite with
        | reserve call hstatus => exact .inl ⟨old, hold, hstatus ▸ hwaiting, hsame⟩
        | pause x =>
          refine .inr ⟨x, rfl, rfl, ?_⟩
          simp [pausedOn, hh, Event.pauseOf]
        | resume _ _ _ _ hrunning =>
          rw [hrunning] at hwaiting
          cases hwaiting
        | finish _ _ hterminal =>
          rw [hwaiting] at hterminal
          cases hterminal
      · exact .inl ⟨run', hother, hwaiting, hsame⟩
  · exact .inr hpaused

/-- A service makes no run wait. -/
theorem waiting_serviceStep {event : ServiceEvent} {started : Option Worker}
    (h : ServiceStep s event s' started) {run' : AgentRun} (hrun' : s'.runs[r]? = some run')
    (hwaiting : run'.status = .waitingForApproval) :
    ∃ run, s.runs[r]? = some run ∧ run.status = .waitingForApproval := by
  have hset : ∀ {k : Nat} {old new : AgentRun}, s.runs[k]? = some old →
      (s.runs.set k new)[r]? = some run' → new.status ≠ .waitingForApproval →
      ∃ run, s.runs[r]? = some run ∧ run.status = .waitingForApproval := by
    intro k old new hold hnew hstatus
    rcases getElem?_set_cases hnew with ⟨-, rfl⟩ | ⟨-, hother⟩
    · exact absurd hwaiting hstatus
    · exact ⟨run', hother, hwaiting⟩
  cases h with
  | createdRun =>
    rcases getElem?_concat_cases hrun' with hold | ⟨-, rfl⟩
    · exact ⟨run', hold, hwaiting⟩
    · cases hwaiting
  | claimedRun hold => exact hset hold hrun' nofun
  | cancelledRun hold => exact hset hold hrun' nofun
  | recoveredRun hold hrecovered =>
    obtain ⟨-, -, rfl⟩ := recoverOneStuckRun_some hrecovered
    exact hset hold hrun' nofun
  | _ => exact ⟨run', hrun', hwaiting⟩

theorem pausedOwn_serviceStep {event : ServiceEvent} {started : Option Worker}
    (hs : PausedOwn s) (h : ServiceStep s event s' started) : PausedOwn s' := by
  intro r run' hrun' hwaiting
  obtain ⟨run, hrun, hbefore⟩ := waiting_serviceStep h hrun' hwaiting
  obtain ⟨x, hpaused, hrow⟩ := hs r run hrun hbefore
  exact ⟨x, (pausedOn_serviceStep h r).trans hpaused,
    hrow.keeps (keeps_serviceStep h) fun _ _ hkeeps he => he.keeps hkeeps⟩

theorem pausedOwn_workerStep (hs : PausedOwn s) (hself : OwnPoint s w.run w.point)
    (h : WorkerStep i w s a w.point s' p') : PausedOwn s' := by
  have hkeeps := keeps_workerStep h
  intro r run' hrun' hwaiting
  rcases paused_workerStep h hrun' hwaiting with
    ⟨run, hrun, hbefore, hsame⟩ | ⟨x, hpoint, rfl, hpaused⟩
  · obtain ⟨x, hpaused, hrow⟩ := hs r run hrun hbefore
    exact ⟨x, hsame.trans hpaused, hrow.keeps hkeeps fun _ _ hrow he => he.keeps hrow⟩
  · rw [hpoint] at hself
    exact ⟨x, hpaused, hself.keeps hkeeps fun _ _ hrow he => he.keeps hrow⟩

/-- In every run whose calls wait for their own rows, so do the runs. -/
theorem waitsForOwn (h : RunsWith WaitsForOwn c) :
    c.Annotated PausedOwn fun s w => OwnPoint s w.run w.point := by
  refine Program.annotated_reach ?_ ?_ ?_ h
  · rintro s rfl r run hrun
    simp at hrun
  · intro c event s' started _ _ hc hout
    have hstep := serviceStep_cases hout
    refine ⟨pausedOwn_serviceStep hc.store hstep, fun w hw => ?_, fun j w _ hw => ?_⟩
    · cases hw
      cases hstep <;> trivial
    · refine ownPoint_keeps (keeps_serviceStep hstep) ?_ hw
      intro call e e' _ he hnone _ he'
      exact (evaluation_serviceStep hstep _ e' he' e he).trans hnone
  · intro c i a w s' w' hr hp hc hw hout
    obtain ⟨-, p', alive, hstep, rfl⟩ := workStep_cases hout
    have hreachable := RunsWith.reachable hr
    have hI := (invariants hreachable).store.rows
    have hself := hc.procs i w hw
    have hnext := ownPoint_workerStep hI hp hw hout hself hstep
    refine ⟨pausedOwn_workerStep hc.store hself hstep, hnext, fun j v hji hv hother => ?_⟩
    refine ownPoint_keeps (keeps_workerStep hstep) ?_ hother
    intro call e e' hcall he hnone hown he'
    rcases undecided_workerStep hstep _ e' he' e he hnone with hstill | ⟨gated, hpoint, hx⟩
    · exact hstill
    · -- The other worker at the gate would hold the run of the row too.
      have hholds := ownPoint_gate hself hpoint (hx ▸ he) hnone
      have hactive : v.point.active = true := by
        cases hvp : v.point <;> rw [hvp] at hcall <;> first | rfl | cases hcall
      exact absurd ((holders hreachable).exclusive j i v w e.agentRun hv hw
        ⟨hown.symm, hactive⟩ hholds) hji

/-! ## The requests of live runs -/

/-- A row that `execute_tool` starts does not wait. -/
theorem startsWhenDecided_of_own (hr : RunsWith WaitsForOwn c) (l : Step) (x : Nat) :
    StartsWhenDecided x c l := by
  cases l with
  | env event => rfl
  | work i a =>
    cases a with
    | transitionRunning now =>
      cases hw : c.procs[i]? with
      | none => simp [StartsWhenDecided, startsWaiting, startTarget, hw]
      | some w =>
        cases hpoint : w.point with
        | transitionRunning call =>
          have hself := (waitsForOwn hr).procs i w hw
          rw [hpoint] at hself
          obtain ⟨e, he, hstarted⟩ := hself
          by_cases hx : call.execution = x
          · subst hx
            simp [StartsWhenDecided, startsWaiting, he, hstarted.status]
          · simp [StartsWhenDecided, startsWaiting, startTarget, hw, hpoint, Point.startTarget, hx]
        | _ => simp [StartsWhenDecided, startsWaiting, startTarget, hw, hpoint, Point.startTarget]
    | _ => rfl

theorem coupledRow_of_own (h : RunsWith WaitsForOwn c) {e : ToolExecution}
    (he : c.store.executions[x]? = some e) : CoupledRow e :=
  coupledAt (h.mono fun _ l hr _ => startsWhenDecided_of_own hr l x) x e he rfl

/-- What a request says about the run of its row, and when it was resolved. -/
structure RequestLaw (s : Store) (r : Nat) (a : ApprovalRequest) : Prop where
  cancelled : a.status = .cancelled → Ended s r
  resolvedAt : a.status.resolved = true → a.resolvedAt.isSome

def RequestLaws (s : Store) : Prop :=
  AllRows (fun _ e => ∀ a, e.approvalRequest = some a → RequestLaw s e.agentRun a) s.executions

theorem RequestLaw.keeps {request : ApprovalRequest} (h : RequestLaw s r request)
    (hs : Keeps s s') : RequestLaw s' r request :=
  ⟨fun hcancelled => (h.cancelled hcancelled).keeps hs, h.resolvedAt⟩

theorem requestLaws_workerStep (hI : AllRows (fun _ => RowInvariant) s.executions)
    (hs : RequestLaws s) (h : WorkerStep i w s a p s' p') : RequestLaws s' := by
  refine (rowOrigin_workerStep hI h).imp fun x e' _ horigin request hrequest => ?_
  cases horigin with
  | created hnone => cases hnone.symm.trans hrequest
  | kept he hrun hsame =>
    rw [hrun]
    exact (hs x _ he request (hsame ▸ hrequest)).keeps (keeps_workerStep h)
  | gate _ _ _ _ _ _ _ _ hgate hpending =>
    cases hgate.symm.trans hrequest
    refine ⟨fun hcancelled => ?_, fun hresolved => ?_⟩
    · rw [hpending] at hcancelled
      cases hcancelled
    · rw [hpending] at hresolved
      cases hresolved

/-- The cancellation of a run cancels requests of its own rows only. -/
theorem cancelChild_request (r : Nat) (run : AgentRun) (now : Nat) (e : ToolExecution) :
    (Store.cancelChildOf r run now e).approvalRequest = e.approvalRequest ∨
      e.agentRun = r ∧ ∃ request : ApprovalRequest,
        (Store.cancelChildOf r run now e).approvalRequest =
          some { request with status := .cancelled, resolvedAt := some now } := by
  unfold Store.cancelChildOf cancelChildExecution cancelApprovalForExecution
  split
  · rename_i howner
    split
    · split
      · exact .inl rfl
      · rename_i request hrequest
        split
        · exact .inl rfl
        · exact .inr ⟨howner.1, request, rfl⟩
    · exact .inl rfl
  · exact .inl rfl

theorem recoverChild_request (r now : Nat) (e : ToolExecution) :
    (Store.recoverChildOf r now e).approvalRequest = e.approvalRequest := by
  unfold Store.recoverChildOf failInFlightToolExecution
  split
  · split <;> rfl
  · rfl

theorem requestLaws_serviceStep {event : ServiceEvent} {started : Option Worker}
    (hp : WaitsForOwn c (.env event)) (hs : RequestLaws s)
    (h : ServiceStep s event s' started) : RequestLaws s' := by
  have hkeeps := keeps_serviceStep h
  have hold : AllRows (fun _ e => ∀ a, e.approvalRequest = some a → RequestLaw s' e.agentRun a)
      s.executions := fun x e he a ha => (hs x e he a ha).keeps hkeeps
  cases h with
  | @cancelledRun r now run hrun =>
    refine .map fun x e he request hrequest => ?_
    rw [(rowKeeps_cancelChild e r run now).agentRun]
    rcases cancelChild_request r run now e with hsame | ⟨rfl, cancelled, hcancelled⟩
    · exact hold x e he request (hsame ▸ hrequest)
    · cases hcancelled.symm.trans hrequest
      exact ⟨fun _ => ⟨_, List.getElem?_set_self (List.getElem?_eq_some_iff.mp hrun).1, rfl⟩,
        fun _ => rfl⟩
  | @recoveredRun r cutoff now =>
    refine .map fun x e he request hrequest => ?_
    rw [(rowKeeps_recoverChild e r now).agentRun]
    exact hold x e he request (recoverChild_request r now e ▸ hrequest)
  | decided hx =>
    refine hold.set fun request hrequest => ?_
    rw [recordDecision_request] at hrequest
    cases hrequest
    refine ⟨fun hcancelled => ?_, fun _ => rfl⟩
    cases ‹ApprovalDecisionValue› <;> cases hcancelled
  | expired _ hx =>
    refine hold.set fun request hrequest => ?_
    rw [expire, terminateExecution_request] at hrequest
    cases hrequest
    refine ⟨fun hcancelled => ?_, fun _ => rfl⟩
    cases hcancelled
  | cancelledApproval => cases hp.2.2
  | _ => exact hold

theorem requestLaws (h : RunsWith WaitsForOwn c) : RequestLaws c.store :=
  store_of_steps (fun _ _ h => by simp at h)
    (fun _ _ _ _ _ hp hs hstep => requestLaws_serviceStep hp hs hstep)
    (fun _ _ _ _ _ _ hr _ hs _ _ hstep =>
      requestLaws_workerStep (invariants hr.reachable).store.rows hs hstep) h

/-! ## Resuming a waiting run -/

/-- The steps of a resume message for row `x`, from its delivery to the claim of the run. -/
def messageSteps (c : Configuration) (x now : Nat) : List Step :=
  [.env (.deliverResume x), .work c.procs.length (.claimRunForResume now)]

/-- Once these steps are taken, run `r` is running. -/
def LeadsToRunning (c : Configuration) (r : Nat) (steps : List Step) : Prop :=
  ∃ c', program.system.replay (fun _ _ => True) steps c = some c' ∧
    ∃ run, c'.store.runs[r]? = some run ∧ run.status = .running

/-- A message of a resolved request claims the waiting run of the row. -/
theorem message_claims {e : ToolExecution} {request : ApprovalRequest} {run : AgentRun}
    (hx : x ∈ c.store.resumeMessages) (he : c.store.executions[x]? = some e)
    (hrequest : e.approvalRequest = some request) (hresolved : request.status.resolved = true)
    (hrun : c.store.runs[e.agentRun]? = some run) (hwaiting : run.status = .waitingForApproval)
    (now : Nat) : LeadsToRunning c e.agentRun (messageSteps c x now) := by
  have hdeliver : c.store.deliverResume x =
      some (Worker.resuming e.agentRun x request.status) := by
    simp [Store.deliverResume, hx, he, hrequest, hresolved]
  let w := Worker.resuming e.agentRun x request.status
  let claimed : AgentRun := { run with status := .running, updatedAt := now }
  let resumed := (c.store.setRun e.agentRun claimed).record (.runResumeClaimed e.agentRun x)
  let next : Point := if request.status = .approved then .resumeExecution x else .graph
  have hclaim : c.store.claimRunForResume w x request.status now = some (resumed, next) := by
    simp [Store.claimRunForResume, w, Worker.resuming, hrun, claimRunForResume, hwaiting, claimed,
      resumed, next]
  have hwork : workStep c.procs.length (.claimRunForResume now) w c.store =
      some (resumed, w.goto next) := by
    show ((c.store.claimRunForResume w x request.status now).map fun out =>
      (out.1, w.goto out.2)) = _
    rw [hclaim]
    rfl
  refine ⟨⟨resumed, (c.procs ++ [w]).set c.procs.length (w.goto next)⟩, ?_, claimed,
    List.getElem?_set_self (List.getElem?_eq_some_iff.mp hrun).1, rfl⟩
  simp [messageSteps, System.replay, program, Program.system, Program.step, serviceStep, hdeliver,
    w, hwork]

theorem leadsToRunning_cons {event : ServiceEvent} {s' : Store} {steps : List Step}
    (hstep : serviceStep event c.store = some (s', none))
    (h : LeadsToRunning ⟨s', c.procs⟩ r steps) : LeadsToRunning c r (.env event :: steps) := by
  obtain ⟨c', hreplay, hrun⟩ := h
  refine ⟨c', ?_, hrun⟩
  simp only [System.replay, program, Program.system, Program.step, hstep, Option.map_some,
    Option.toList_none, List.append_nil, if_true, Option.bind_some]
  exact hreplay

/-- The expiry sweep can resolve the pending request of row `x`, and so can whoever may decide
it. Either publishes a message that claims run `r`. -/
structure Answerable (c : Configuration) (r x : Nat) (request : ApprovalRequest) : Prop where
  expiry : ∀ checkedAt now claimedAt, request.expiresAt ≤ checkedAt →
    LeadsToRunning c r (.env (.expire x checkedAt now) :: messageSteps c x claimedAt)
  decision : ∀ actor actorRole decision checkedAt now claimedAt,
    checkedAt < request.expiresAt → request.requestedBy ≠ some actor →
    roleSatisfiesRequirement actorRole request.requiredRole = true →
    LeadsToRunning c r
      (.env (.decide x actor actorRole decision checkedAt now) :: messageSteps c x claimedAt)

/-- Once the request of row `x` was resolved for long enough, the sweep of waiting runs
publishes its message again, and the message claims run `r`. -/
def Reclaimable (c : Configuration) (r x : Nat) (request : ApprovalRequest) : Prop :=
  ∃ resolvedAt, request.resolvedAt = some resolvedAt ∧ ∀ cutoff claimedAt, resolvedAt ≤ cutoff →
    LeadsToRunning c r (.env (.redispatchResume x cutoff) :: messageSteps c x claimedAt)

section Resumption

variable {e e' : ToolExecution} {request request' : ApprovalRequest} {run : AgentRun}

/-- An event that resolves the request of a waiting run leads to its claim. -/
theorem resolution_claims {event : ServiceEvent} (s' : Store)
    (hstep : serviceStep event c.store = some (s', none))
    (hruns : s'.runs = c.store.runs) (hx : x ∈ s'.resumeMessages)
    (he : s'.executions[x]? = some e) (hrequest : e.approvalRequest = some request)
    (hresolved : request.status.resolved = true)
    (hrun : c.store.runs[e.agentRun]? = some run) (hwaiting : run.status = .waitingForApproval)
    (claimedAt : Nat) :
    LeadsToRunning c e.agentRun (.env event :: messageSteps c x claimedAt) := by
  have hclaims := message_claims (c := ⟨s', c.procs⟩) hx he hrequest hresolved
    (hruns ▸ hrun) hwaiting claimedAt
  exact leadsToRunning_cons hstep hclaims

theorem reclaimable (he : c.store.executions[x]? = some e)
    (hrequest : e.approvalRequest = some request) (hresolved : request.status.resolved = true)
    (hsome : request.resolvedAt.isSome) (hrun : c.store.runs[e.agentRun]? = some run)
    (hwaiting : run.status = .waitingForApproval) :
    Reclaimable c e.agentRun x request := by
  obtain ⟨resolvedAt, hat⟩ := Option.isSome_iff_exists.mp hsome
  refine ⟨resolvedAt, hat, fun cutoff claimedAt hcutoff => ?_⟩
  refine resolution_claims (c.store.dispatchResume x) ?_ rfl ?_ he hrequest hresolved hrun
    hwaiting claimedAt
  · simp [serviceStep, Store.redispatchResume, he, hrequest, hrun, hwaiting, hresolved, hat,
      hcutoff]
  · simp

theorem answerable (he : c.store.executions[x]? = some e)
    (hrequest : e.approvalRequest = some request) (hpending : request.status = .pending)
    (hnone : request.decision = none) (hrun : c.store.runs[e.agentRun]? = some run)
    (hwaiting : run.status = .waitingForApproval) : Answerable c e.agentRun x request := by
  have hlt := (List.getElem?_eq_some_iff.mp he).1
  refine ⟨fun checkedAt now claimedAt hexpired => ?_,
    fun actor actorRole decision checkedAt now claimedAt hfresh hself hrole => ?_⟩
  · have hkeeps := rowKeeps_expire hrequest hpending now
    rw [← hkeeps.agentRun] at hrun ⊢
    refine resolution_claims
      ((c.store.setExecution x (expire e request now)).dispatchResume x) ?_ rfl (by simp)
      (List.getElem?_set_self hlt) (terminateExecution_request _ _ _ _) rfl hrun hwaiting
      claimedAt
    simp [serviceStep, Store.expire, he, hrequest, expireStaleApproval, hpending,
      Nat.not_lt.mpr hexpired]
  · have hkeeps := rowKeeps_recordDecision hrequest hpending actor decision now
    rw [← hkeeps.agentRun] at hrun ⊢
    refine resolution_claims
      (((c.store.setExecution x (recordDecision e request actor decision now)).dispatchResume
        x).record (.approvalDecided x actor actorRole decision checkedAt)) ?_ rfl (by simp)
      (List.getElem?_set_self hlt) (recordDecision_request _ _ _ _ _) ?_ hrun hwaiting claimedAt
    · have hdecided : decideApproval e request actor actorRole decision checkedAt now =
          .decided (recordDecision e request actor decision now) := by
        simp [decideApproval, expireIfStale, hpending, hfresh, hself, hrole, hnone]
      simp [serviceStep, Store.decide, he, hrequest, hdecided]
    · cases decision <;> rfl

end Resumption

/-! ## Main results -/

/-- Run `r` has paused on a row of its own. The request of the row is pending while the row
waits for it, and can be answered, or it is resolved and its message claims the run. -/
def WaitsOnOwn (c : Configuration) (r : Nat) : Prop :=
  ∃ x e request, pausedOn c.store r = some x ∧ c.store.executions[x]? = some e ∧
    e.agentRun = r ∧ e.approvalRequest = some request ∧
    ((e.status = .waitingForApproval ∧ request.status = .pending ∧ Answerable c r x request) ∨
      request.status.resolved = true ∧ Reclaimable c r x request)

/-- In every run of the system whose calls wait for their own rows, whatever is lost,
redelivered or interrupted, a waiting run waits for a request of its own that a decision, the
expiry or the sweep still resumes it from. -/
theorem waiting_run_resumable (h : RunsWith WaitsForOwn c) {run : AgentRun}
    (hrun : c.store.runs[r]? = some run) (hwaiting : run.status = .waitingForApproval) :
    WaitsOnOwn c r := by
  obtain ⟨x, hpaused, e, he, rfl, hsome⟩ := (waitsForOwn h).store r run hrun hwaiting
  obtain ⟨request, hrequest⟩ := Option.isSome_iff_exists.mp hsome
  have hlaw := requestLaws h x e he request hrequest
  refine ⟨x, e, request, hpaused, he, rfl, hrequest, ?_⟩
  have hresolves : request.status.resolved = true → _ := fun hresolved =>
    reclaimable he hrequest hresolved (hlaw.resolvedAt hresolved) hrun hwaiting
  cases hstatus : request.status with
  | pending =>
    have hundecided : request.decision = none := by
      have hdecided := (decisions h.reachable x e he request hrequest).decided
      simpa [hstatus] using hdecided
    exact .inl ⟨(coupledRow_of_own h he request hrequest).pending hstatus, rfl,
      answerable he hrequest hstatus hundecided hrun hwaiting⟩
  | approved | rejected | expired => exact .inr ⟨rfl, hresolves (by rw [hstatus]; rfl)⟩
  | cancelled =>
    obtain ⟨run', hrun', hterminal⟩ := hlaw.cancelled hstatus
    cases hrun.symm.trans hrun'
    rw [hwaiting] at hterminal
    cases hterminal

theorem waiting_of_status {s : Store}
    (h : (s.runs[r]?).map (·.status) = some .waitingForApproval) :
    ∃ run, s.runs[r]? = some run ∧ run.status = .waitingForApproval :=
  Option.map_eq_some_iff.mp h

theorem waiting_run_resumable_paused :
    WaitsOnOwn (scenarioEnd WaitsForOwn (answeredRun.take 8)) 0 := by
  obtain ⟨run, hrun, hwaiting⟩ := waiting_of_status
    (s := (scenarioEnd WaitsForOwn (answeredRun.take 8)).store) (r := 0) (by decide)
  exact waiting_run_resumable (runsWith_scenarioEnd WaitsForOwn (answeredRun.take 8)) hrun hwaiting

/-- Two runs are each resumed once and then make the same call, whose key no longer names
the run. The first run pauses on the row of the call, and the second on the first one's row. -/
def sharedPause : List Step :=
  let tool := ⟨"crm_update", {}⟩
  let second := ⟨"crm_update", "{}", "g", "agent:unknown:turn:2:e"⟩
  [.env (.createRun 1 {} (some 5) none (some 7) 0), .env (.claimRun 0 1)] ++
    pausesCall 0 ⟨"crm_update", "{}", "f", "agent:a:turn:1:d"⟩ tool ++ resumesCall 1 0 tool ++
    pausesCall 1 second tool ++
    [.env (.createRun 1 {} (some 6) none (some 7) 0), .env (.claimRun 1 1)] ++
    pausesCall 2 ⟨"crm_update", "{}", "f", "agent:b:turn:1:d"⟩ tool ++ resumesCall 3 2 tool ++
    (claimsCall 3 second tool).take 3 ++ [.work 3 (.pauseRun {} 3)]

/-- The second run waits on the request of the first one's row. -/
theorem waiting_run_not_always_resumable :
    ¬ ∀ c, Reachable c → ∀ r run, c.store.runs[r]? = some run →
      run.status = .waitingForApproval → WaitsOnOwn c r := by
  intro hall
  obtain ⟨run, hrun, hwaiting⟩ := waiting_of_status
    (s := (freeEnd sharedPause).store) (r := 1) (by decide)
  obtain ⟨x, e, request, hpaused, he, hown, -⟩ :=
    hall _ (runsWith_scenarioEnd _ sharedPause) 1 run hrun hwaiting
  have hlast : pausedOn (freeEnd sharedPause).store 1 = some 1 := by decide
  obtain rfl : 1 = x := Option.some.inj (hlast.symm.trans hpaused)
  have howner : ((freeEnd sharedPause).store.executions[1]?).map (·.agentRun) = some 0 := by
    decide
  rw [he, Option.map_some, hown] at howner
  cases howner

end SupportPilot
