import SupportPilot.Runtime.Holders

/-!
# Whose rows the gate decides

A row is owned by the run that created it, while a call of another run can find it by its
key. As long as the owner has not ended, only its own worker can bring the row to the gate:
an unevaluated row of a live run is pending, and a pending row is not reset.
-/

namespace SupportPilot

open Library

/-- Run `r` is in a terminal status. -/
def Ended (s : Store) (r : Nat) : Prop :=
  ∃ run, s.runs[r]? = some run ∧ run.status.terminal = true

theorem Ended.keeps {s s' : Store} {r : Nat} (h : Ended s r) (hs : Keeps s s') : Ended s' r := by
  obtain ⟨run, hrun, hterminal⟩ := h
  obtain ⟨run', hrun', hkeeps⟩ := hs.runs r run hrun
  exact ⟨run', hrun', by rw [hkeeps.status.of_terminal hterminal, hterminal]⟩

/-- A service ends a run by its cancellation or by its recovery. -/
theorem ended_serviceStep {s s' : Store} {event : ServiceEvent} {started : Option Worker}
    (h : ServiceStep s event s' started) {r : Nat} (hrun : ∃ run, s.runs[r]? = some run)
    (hended : Ended s' r) :
    Ended s r ∨ (∃ now, event = .cancelRun r now) ∨
      ∃ cutoff now, event = .recoverRun r cutoff now := by
  obtain ⟨run, hrun⟩ := hrun
  obtain ⟨final, hfinal, hterminal⟩ := hended
  have hset : ∀ {k : Nat} {old new : AgentRun}, s.runs[k]? = some old →
      (s.runs.set k new)[r]? = some final → k ≠ r → Ended s r := by
    intro k old new hold hnew hkr
    rw [List.getElem?_set_ne hkr] at hnew
    exact ⟨final, hnew, hterminal⟩
  cases h with
  | createdRun =>
    cases hfinal.symm.trans (getElem?_append_some hrun _)
    exact .inl ⟨_, hrun, hterminal⟩
  | @claimedRun k now old hold hpending =>
    rcases getElem?_set_cases hfinal with ⟨-, rfl⟩ | ⟨-, hother⟩
    · cases hterminal
    · exact .inl ⟨final, hother, hterminal⟩
  | @cancelledRun k now old hold =>
    by_cases hkr : k = r
    · exact .inr (.inl ⟨now, by rw [hkr]⟩)
    · exact .inl (hset hold hfinal hkr)
  | @recoveredRun k cutoff now old recovered hold =>
    by_cases hkr : k = r
    · exact .inr (.inr ⟨cutoff, now, by rw [hkr]⟩)
    · exact .inl (hset hold hfinal hkr)
  | _ => exact .inl ⟨final, hfinal, hterminal⟩

/-- A worker ends no run but its own, and that only with the final write of its segment. -/
theorem ended_workerStep {i : Nat} {w : Worker} {s s' : Store} {a : WorkerAction}
    {p p' : Point} (h : WorkerStep i w s a p s' p') {r : Nat} (hended : Ended s' r) :
    Ended s r ∨ w.run = r ∧ p.ends = true := by
  obtain ⟨run, hget, hterminal⟩ := hended
  rcases runs_workerStep h with hsame | ⟨old, new, hold, hset, hwrite⟩
  · exact .inl ⟨run, hsame ▸ hget, hterminal⟩
  · rw [hset] at hget
    rcases getElem?_set_cases hget with ⟨rfl, rfl⟩ | ⟨-, hother⟩
    · generalize s'.history = history at hwrite
      cases hwrite with
      | reserve call hstatus => exact .inl ⟨old, hold, hstatus ▸ hterminal⟩
      | pause _ _ _ _ hwaiting => simp [hwaiting, AgentRunStatus.terminal] at hterminal
      | resume _ _ _ _ hrunning => simp [hrunning, AgentRunStatus.terminal] at hterminal
      | finish hends => exact .inr ⟨rfl, hends⟩
    · exact .inl ⟨run, hother, hterminal⟩

/-- A row that the gate has not decided is pending, or its run has ended. -/
def AwaitsGate (s : Store) (e : ToolExecution) : Prop :=
  e.policyEvaluation = none → e.status = .pending ∨ Ended s e.agentRun

/-- The call that is on its way to the gate. -/
def Point.atGate : Point → Option Call
  | .policyCheck call | .policyGate call => some call
  | _ => none

/-- The row at the gate belongs to the worker's run, unless it is decided or its run ended. -/
def GateOwner (s : Store) (w : Worker) : Prop :=
  ∀ call, w.point.atGate = some call → RowAt s call.execution fun e =>
    e.agentRun = w.run ∨ e.policyEvaluation.isSome ∨ Ended s e.agentRun

theorem AwaitsGate.write {s s' : Store} {e e' : ToolExecution} (h : AwaitsGate s e)
    (hs : Keeps s s') (hrow : RowKeeps e e')
    (hpending : e.status = .pending → e'.status = .pending ∨ Ended s' e.agentRun) :
    AwaitsGate s' e' := by
  intro hnone
  rw [hrow.agentRun]
  rcases h (hrow.unevaluated hnone) with hp | hended
  · exact hpending hp
  · exact .inr (hended.keeps hs)

theorem gateOwner_row {s s' : Store} {x r : Nat} (hs : Keeps s s')
    (h : RowAt s x fun e => e.agentRun = r ∨ e.policyEvaluation.isSome ∨ Ended s e.agentRun) :
    RowAt s' x fun e => e.agentRun = r ∨ e.policyEvaluation.isSome ∨ Ended s' e.agentRun := by
  refine h.keeps hs fun e e' hrow he => ?_
  rw [hrow.agentRun]
  refine he.imp_right (Or.imp (fun hev => ?_) fun hended => hended.keeps hs)
  obtain ⟨ev, hev⟩ := Option.isSome_iff_exists.mp hev
  simp [hrow.evaluation ev hev]

theorem awaitsGate_serviceStep {s s' : Store} {event : ServiceEvent} {started : Option Worker}
    (hs : AllRows (fun _ => AwaitsGate s) s.executions)
    (h : ServiceStep s event s' started) : AllRows (fun _ => AwaitsGate s') s'.executions := by
  have hkeeps := keeps_serviceStep h
  have hold : AllRows (fun _ => AwaitsGate s') s.executions := fun x e he =>
    (hs x e he).write hkeeps (.refl e) .inl
  cases h with
  | @cancelledRun r now run hrun hterminal =>
    refine .map fun x e he => (hs x e he).write hkeeps (rowKeeps_cancelChild e r run now) ?_
    intro hpending
    left
    unfold Store.cancelChildOf cancelChildExecution
    rw [if_neg (by simp [hpending] : ¬ e.status = .waitingForApproval), ite_self, hpending]
  | @recoveredRun r cutoff now run recovered hrun hrecovered =>
    obtain ⟨-, -, rfl⟩ := recoverOneStuckRun_some hrecovered
    refine .map fun x e he => (hs x e he).write hkeeps (rowKeeps_recoverChild e r now) ?_
    intro hpending
    unfold Store.recoverChildOf
    split
    · rename_i howner
      right
      rw [howner]
      exact ⟨_, List.getElem?_set_self (List.getElem?_eq_some_iff.mp hrun).1, rfl⟩
    · exact .inl hpending
  | decided hx ha hpending =>
    refine hold.set ((hs _ _ hx).write hkeeps (rowKeeps_recordDecision ha hpending _ _ _) ?_)
    intro hstatus
    exact .inl (by rw [recordDecision_status (by simp [hstatus]), hstatus])
  | expired _ hx ha hpending =>
    refine hold.set ((hs _ _ hx).write hkeeps (rowKeeps_expire ha hpending _) ?_)
    intro hstatus
    exact .inl (by rw [expire, terminateExecution_status (by simp [hstatus]), hstatus])
  | cancelledApproval hx =>
    refine hold.set ((hs _ _ hx).write hkeeps (rowKeeps_cancelApproval _ _) ?_)
    intro hstatus
    exact .inl (by rw [cancelApprovalForExecution_status, hstatus])
  | _ => exact hold

theorem awaitsGate_workerStep {i : Nat} {w : Worker} {s s' : Store} {a : WorkerAction}
    {p p' : Point} (hw : PointInvariant s w.run p)
    (hs : AllRows (fun _ => AwaitsGate s) s.executions) (h : WorkerStep i w s a p s' p') :
    AllRows (fun _ => AwaitsGate s') s'.executions := by
  have hkeeps := keeps_workerStep h
  have hold : AllRows (fun _ => AwaitsGate s') s.executions := fun x e he =>
    (hs x e he).write hkeeps (.refl e) .inl
  have hevaluated : ∀ {e' : ToolExecution}, e'.policyEvaluation.isSome → AwaitsGate s' e' :=
    fun hsome hnone => by simp [hnone] at hsome
  cases h with
  | vanished => rwa [Store.vanish_executions]
  | createdRow => exact hold.append fun _ => .inl rfl
  | resetRow hrun hfind hx => exact hold.set fun _ => .inl rfl
  | gateAllowed hrun hx hnone hcommit =>
    refine hold.set (hevaluated ?_)
    cases hcommit
    rfl
  | gateRaised hrun hx hnone hcommit =>
    refine hold.set (hevaluated ?_)
    cases hcommit <;> rfl
  | startedRow hx =>
    have hsome := hw.1.get hx
    exact hold.set (hevaluated hsome)
  | countedAttempt hx =>
    exact hold.set ((hs _ _ hx).write hkeeps (rowKeeps_countAttempt _ _) .inl)
  | finalized hx hstored =>
    refine hold.set ((hs _ _ hx).write hkeeps (rowKeeps_finalize hstored) fun hpending => ?_)
    have hrunning := (CallExit.finalize_stored hstored).1
    simp [hrunning] at hpending
  | claimedRow hx hwaiting =>
    refine hold.set ((hs _ _ hx).write hkeeps (rowKeeps_start _ _) fun hpending => ?_)
    simp [hwaiting] at hpending
  | _ => exact hold

theorem gateOwner_workerStep {i : Nat} {w : Worker} {s s' : Store} {a : WorkerAction}
    {p p' : Point} (hs : AllRows (fun _ => AwaitsGate s) s.executions)
    (hw : ∀ call, p.atGate = some call → RowAt s call.execution fun e =>
      e.agentRun = w.run ∨ e.policyEvaluation.isSome ∨ Ended s e.agentRun)
    (h : WorkerStep i w s a p s' p') {call : Call} (hcall : p'.atGate = some call) :
    RowAt s' call.execution fun e =>
      e.agentRun = w.run ∨ e.policyEvaluation.isSome ∨ Ended s' e.agentRun := by
  have hkeeps := keeps_workerStep h
  have hout : ∀ {q : Point}, q.outside = true → q.atGate ≠ some call := by
    intro q hq
    cases q <;> first | (intro hsome; cases hsome; done) | cases hq
  cases h with
  | vanished => exact gateOwner_row hkeeps (hw call hcall)
  | createdRow hrun =>
    cases hcall
    exact ⟨_, List.getElem?_concat_length, .inl rfl⟩
  | @resetRow request tool run x existing hrun hfind hx hreset =>
    cases hcall
    obtain ⟨-, hstatus, -⟩ := resolveExisting_reset hreset
    refine rowAt_set hx (.inr ?_)
    cases hev : existing.policyEvaluation with
    | some ev => exact .inl (by simp [ToolExecution.reset, hev])
    | none =>
      rcases hs x existing hx hev with hpending | hended
      · simp [hpending] at hstatus
      · exact .inr (hended.keeps hkeeps)
  | foundUnevaluated =>
    cases hcall
    exact hw _ rfl
  | refusedCall | refusedClaim | gateInProgress | refusedStart =>
    exact absurd hcall (hout (Point.afterRefusal_outside _))
  | gateRaised => exact absurd hcall (hout (Point.afterToolError_outside _ _))
  | refreshedOther => exact absurd hcall (hout (Point.afterResumeError_outside _))
  | leftUnfinalized | finalized => exact absurd hcall (hout (Point.afterExit_outside _ _ _))
  | resumeClaimedRun => split at hcall <;> cases hcall
  | _ => cases hcall

/-- In every run of the system, the gate decides a row of a live run for its own worker. -/
theorem gateOwners {c : Configuration} (h : Reachable c) :
    c.Annotated (fun s => AllRows (fun _ => AwaitsGate s) s.executions) GateOwner := by
  refine annotated_of_steps (fun _ _ h => by simp at h) ?_ ?_ ?_ h
  · intro s s' w hs hw call hcall
    exact gateOwner_row hs (hw call hcall)
  · intro c event s' started _ _ hc hstep
    refine ⟨awaitsGate_serviceStep hc.store hstep, fun w hw call hcall => ?_⟩
    cases hw
    cases hstep <;> cases hcall
  · intro c i w a s' p' hr _ hc hw _ hstep
    exact ⟨awaitsGate_workerStep ((invariants hr).procs i w hw).point hc.store hstep,
      fun alive call hcall => gateOwner_workerStep hc.store (hc.procs i w hw) hstep hcall⟩

/-! ## Where requests and waiting rows come from -/

/-- The row `e'` at `x` after a worker's step: new, written without touching its request, or
sent to wait by the gate. -/
inductive RowOrigin (s : Store) (a : WorkerAction) (p p' : Point) (x : Nat)
    (e' : ToolExecution) : Prop
  | created : e'.approvalRequest = none → e'.status = .pending → RowOrigin s a p p' x e'
  | kept {e : ToolExecution} : s.executions[x]? = some e → e'.agentRun = e.agentRun →
      e'.approvalRequest = e.approvalRequest →
      (e'.status = .waitingForApproval → e.status = .waitingForApproval) →
      RowOrigin s a p p' x e'
  | gate {outcome : PolicyOutcome} {now : Nat} {call : Call} {e : ToolExecution}
      {approval : ApprovalRequest} : a = .runPolicyGate outcome now → outcome.requires = true →
      p = .policyGate call → call.execution = x → p' = .approvalRequired x →
      s.executions[x]? = some e → e.policyEvaluation = none → e'.agentRun = e.agentRun →
      e'.approvalRequest = some approval → approval.status = .pending →
      approval.decision = none → RowOrigin s a p p' x e'

theorem rowOrigin_gate {s : Store} {call : Call} {e e' : ToolExecution}
    {createdBy : Option Nat} {outcome : PolicyOutcome} {now : Nat} {err : ToolError}
    (hI : RowInvariant e) (he : s.executions[call.execution]? = some e)
    (hnone : e.policyEvaluation = none) (hcommit : GateCommit e createdBy now e' (some err))
    (hrequires : err.cls = .approvalRequired → outcome.requires = true) :
    RowOrigin s (.runPolicyGate outcome now) (.policyGate call)
      (.afterToolError call.execution err) call.execution e' := by
  cases hcommit with
  | denied => exact .kept he rfl rfl nofun
  | approvalRequired code reason approval err hsource hpending hcls =>
    rcases hsource with hsome | ⟨-, hpending, hdecision, -⟩
    · cases (hI.unevaluated hnone).symm.trans hsome
    · exact .gate rfl (hrequires hcls) rfl rfl (by rw [Point.afterToolError, if_pos hcls]) he
        hnone rfl rfl hpending hdecision

theorem rowOrigin_workerStep {i : Nat} {w : Worker} {s s' : Store} {a : WorkerAction}
    {p p' : Point} (hI : AllRows (fun _ => RowInvariant) s.executions)
    (h : WorkerStep i w s a p s' p') :
    AllRows (fun x e' => RowOrigin s a p p' x e') s'.executions := by
  have hsame : AllRows (fun x e' => RowOrigin s a p p' x e') s.executions := fun x e he =>
    .kept he rfl rfl id
  cases h with
  | vanished => rwa [Store.vanish_executions]
  | createdRow => exact hsame.append (.created rfl rfl)
  | resetRow hrun hfind hx => exact hsame.set (.kept hx rfl rfl nofun)
  | gateAllowed hrun hx hnone hcommit =>
    refine hsame.set (.kept hx ?_ ?_ ?_) <;> cases hcommit
    · rfl
    · rfl
    · exact id
  | gateRaised hrun hx hnone hcommit hrequires =>
    exact hsame.set (rowOrigin_gate (hI _ _ hx) hx hnone hcommit hrequires)
  | startedRow hx => exact hsame.set (.kept hx rfl rfl nofun)
  | countedAttempt hx => exact hsame.set (.kept hx rfl rfl id)
  | finalized hx hstored =>
    obtain ⟨-, ⟨_, -, rfl⟩ | ⟨status, _, _, _, -, rfl⟩⟩ := CallExit.finalize_stored hstored
    · exact hsame.set (.kept hx rfl rfl nofun)
    · exact hsame.set (.kept hx rfl rfl fun hw => absurd hw status.status_ne_waiting)
  | claimedRow hx => exact hsame.set (.kept hx rfl rfl nofun)
  | _ => exact hsame

/-- A service adds no row and no request, and makes no row wait. -/
def ServiceOrigin (s : Store) (x : Nat) (e' : ToolExecution) : Prop :=
  ∃ e, s.executions[x]? = some e ∧ e'.agentRun = e.agentRun ∧
    (e'.approvalRequest.isSome → e.approvalRequest.isSome) ∧
    (e'.status = .waitingForApproval → e.status = .waitingForApproval)

theorem cancelApprovalForExecution_isSome (e : ToolExecution) (now : Nat) :
    (cancelApprovalForExecution e now).approvalRequest.isSome = e.approvalRequest.isSome := by
  unfold cancelApprovalForExecution
  split
  · rfl
  · rename_i a ha
    split
    · rfl
    · rw [ha]
      rfl

theorem terminateExecution_waiting {e : ToolExecution} {code message : String} {now : Nat}
    (h : (terminateExecution e code message now).status = .waitingForApproval) :
    e.status = .waitingForApproval := by
  by_contra hne
  exact hne (terminateExecution_status hne ▸ h)

theorem rowOrigin_serviceStep {s s' : Store} {event : ServiceEvent} {started : Option Worker}
    (h : ServiceStep s event s' started) : AllRows (ServiceOrigin s) s'.executions := by
  have hsame : AllRows (ServiceOrigin s) s.executions := fun x e he => ⟨e, he, rfl, id, id⟩
  cases h with
  | @cancelledRun r now run =>
    refine .map fun x e he => ⟨e, he, (rowKeeps_cancelChild e r run now).agentRun, ?_⟩
    unfold Store.cancelChildOf cancelChildExecution
    split
    · split
      · exact ⟨fun hsome => by rwa [cancelApprovalForExecution_isSome] at hsome, nofun⟩
      · exact ⟨id, id⟩
    · exact ⟨id, id⟩
  | @recoveredRun r cutoff now =>
    refine .map fun x e he => ⟨e, he, (rowKeeps_recoverChild e r now).agentRun, ?_⟩
    unfold Store.recoverChildOf failInFlightToolExecution
    split
    · split
      · exact ⟨id, nofun⟩
      · exact ⟨id, id⟩
    · exact ⟨id, id⟩
  | decided hx ha hpending =>
    refine hsame.set ⟨_, hx, (rowKeeps_recordDecision ha hpending _ _ _).agentRun,
      fun _ => by simp [ha], fun hwaiting => ?_⟩
    by_contra hne
    exact hne (recordDecision_status hne ▸ hwaiting)
  | expired _ hx ha hpending =>
    exact hsame.set ⟨_, hx, (rowKeeps_expire ha hpending _).agentRun, fun _ => by simp [ha],
      terminateExecution_waiting⟩
  | cancelledApproval hx =>
    refine hsame.set ⟨_, hx, (rowKeeps_cancelApproval _ _).agentRun, ?_, ?_⟩
    · rw [cancelApprovalForExecution_isSome]
      exact id
    · rw [cancelApprovalForExecution_status]
      exact id
  | _ => exact hsame

end SupportPilot
