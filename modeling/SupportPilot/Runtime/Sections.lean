import SupportPilot.Runtime.Ownership

/-!
# What a step does to one row

A row moves through its statuses by a handful of writes. A worker is in the section of a row
from the write that started it to the write, or the omitted write, of its exit.
-/

namespace SupportPilot

open Library

variable {i x : Nat} {w : Worker} {s s' : Store} {a : WorkerAction} {p p' : Point}

/-! ## Writes of one row -/

/-- What a worker's step does to the status and the error code of a row. -/
inductive RowChange (s : Store) (w : Worker) (x : Nat) :
    WorkerAction → Point → Point → ToolExecution → ToolExecution → Prop
  | kept {a : WorkerAction} {p p' : Point} {e e' : ToolExecution} : e'.status = e.status →
      e'.errorCode = e.errorCode → RowChange s w x a p p' e e'
  | reset {request : ToolRequest} {tool : ToolSpec} {p' : Point} {run : AgentRun}
      {e : ToolExecution} : s.runs[w.run]? = some run →
      s.findExecution run.workspace request.toolKey request.idempotencyKey = some x →
      resolveExisting e request.argumentsFingerprint tool = .ok .reset →
      RowChange s w x .claimExecution (.claimExecution request tool) p' e e.reset
  | gated {a : WorkerAction} {p p' : Point} {e e' : ToolExecution} : e.status = .pending →
      RowChange s w x a p p' e e'
  | started {a : WorkerAction} {p p' : Point} {e e' : ToolExecution} :
      e.status = .pending ∨ e.status = .waitingForApproval → e'.status = .running →
      RowChange s w x a p p' e e'
  | finalized {call : Call} {exit : CallExit} {p' : Point} {e e' : ToolExecution} {now : Nat} :
      call.execution = x → p'.outside = true → exit.finalize e now = .stored e' →
      RowChange s w x (.finalize now) (.leave call exit) p' e e'

theorem rowChange_workerStep (h : WorkerStep i w s a p s' p') :
    AllRows (fun x e' => (s.executions.length ≤ x ∧ e'.status = .pending) ∨
      ∃ e, s.executions[x]? = some e ∧ RowChange s w x a p p' e e') s'.executions := by
  have hsame : AllRows (fun x e' => (s.executions.length ≤ x ∧ e'.status = .pending) ∨
      ∃ e, s.executions[x]? = some e ∧ RowChange s w x a p p' e e') s.executions :=
    fun x e he => .inr ⟨e, he, .kept rfl rfl⟩
  cases h with
  | vanished => rwa [Store.vanish_executions]
  | createdRow => exact hsame.append (.inl ⟨Nat.le_refl _, rfl⟩)
  | resetRow hrun hfind hx hreset => exact hsame.set (.inr ⟨_, hx, .reset hrun hfind hreset⟩)
  | gateAllowed hrun hx hnone hcommit =>
    refine hsame.set (.inr ⟨_, hx, .kept ?_ ?_⟩) <;> cases hcommit <;> rfl
  | gateRaised hrun hx hnone hcommit =>
    refine hsame.set (.inr ⟨_, hx, .gated ?_⟩)
    cases hcommit with
    | denied _ _ _ _ hpending => exact hpending
    | approvalRequired _ _ _ _ _ hpending => exact hpending
  | startedRow hx hstatus => exact hsame.set (.inr ⟨_, hx, .started hstatus rfl⟩)
  | countedAttempt hx => exact hsame.set (.inr ⟨_, hx, .kept rfl rfl⟩)
  | finalized hx hstored =>
    exact hsame.set (.inr ⟨_, hx, .finalized rfl (Point.afterExit_outside _ _ _) hstored⟩)
  | claimedRow hx hwaiting => exact hsame.set (.inr ⟨_, hx, .started (.inr hwaiting) rfl⟩)
  | _ => exact hsame

/-- A row is still there after the step, changed as it allows. -/
theorem rowAfter_workerStep {e : ToolExecution} (h : WorkerStep i w s a p s' p')
    (he : s.executions[x]? = some e) : RowAt s' x (RowChange s w x a p p' e) := by
  obtain ⟨e', he', -⟩ := (keeps_workerStep h).executions x e he
  refine ⟨e', he', ?_⟩
  rcases rowChange_workerStep h x e' he' with ⟨hnew, -⟩ | ⟨old, hold, hchange⟩
  · have hlt := (List.getElem?_eq_some_iff.mp he).1
    omega
  · rwa [Option.some.inj (he.symm.trans hold)]

/-- What a service does to the status and the error code of a row: nothing, unless the row
waits, or the sweep fails it. -/
def ServiceChange (e e' : ToolExecution) : Prop :=
  e'.status = e.status ∧ e'.errorCode = e.errorCode ∨ e.status = .waitingForApproval ∨
    (e.status = .pending ∨ e.status = .running) ∧ e'.status = .failed ∧
      e'.errorCode = "stuck_worker_recovered"

theorem terminateExecution_change (e : ToolExecution) (code message : String) (now : Nat) :
    ServiceChange e (terminateExecution e code message now) := by
  by_cases hwaiting : e.status = .waitingForApproval
  · exact .inr (.inl hwaiting)
  · rw [terminateExecution, if_neg hwaiting]
    exact .inl ⟨rfl, rfl⟩

theorem rowChange_serviceStep {event : ServiceEvent} {started : Option Worker}
    (h : ServiceStep s event s' started) :
    AllRows (fun x e' => ∃ e, s.executions[x]? = some e ∧ ServiceChange e e') s'.executions := by
  have hsame : AllRows (fun x e' => ∃ e, s.executions[x]? = some e ∧ ServiceChange e e')
      s.executions := fun x e he => ⟨e, he, .inl ⟨rfl, rfl⟩⟩
  cases h with
  | cancelledRun =>
    refine .map fun x e he => ⟨e, he, ?_⟩
    unfold Store.cancelChildOf cancelChildExecution
    split
    · split
      · rename_i hwaiting
        exact .inr (.inl hwaiting)
      · exact .inl ⟨rfl, rfl⟩
    · exact .inl ⟨rfl, rfl⟩
  | recoveredRun =>
    refine .map fun x e he => ⟨e, he, ?_⟩
    unfold Store.recoverChildOf failInFlightToolExecution
    split
    · split
      · rename_i hflight
        exact .inr (.inr ⟨hflight, rfl, rfl⟩)
      · exact .inl ⟨rfl, rfl⟩
    · exact .inl ⟨rfl, rfl⟩
  | @decided _ _ _ _ _ decision _ _ hx =>
    refine hsame.set ⟨_, hx, ?_⟩
    cases decision with
    | approve => exact .inl ⟨rfl, rfl⟩
    | reject => exact terminateExecution_change _ _ _ _
  | expired _ hx => exact hsame.set ⟨_, hx, terminateExecution_change _ _ _ _⟩
  | cancelledApproval hx =>
    refine hsame.set ⟨_, hx, .inl ⟨cancelApprovalForExecution_status _ _, ?_⟩⟩
    unfold cancelApprovalForExecution
    split
    · rfl
    · split <;> rfl
  | _ => exact hsame

theorem rowAfter_serviceStep {event : ServiceEvent} {started : Option Worker} {e : ToolExecution}
    (h : ServiceStep s event s' started) (he : s.executions[x]? = some e) :
    RowAt s' x (ServiceChange e) := by
  obtain ⟨e', he', -⟩ := (keeps_serviceStep h).executions x e he
  obtain ⟨old, hold, hchange⟩ := rowChange_serviceStep h x e' he'
  refine ⟨e', he', ?_⟩
  rwa [Option.some.inj (he.symm.trans hold)]

/-! ## Sections -/

theorem sectionRow_of_outside {q : Point} (h : q.outside = true) : q.sectionRow ≠ some x := by
  cases q <;> first | (intro hsome; cases hsome; done) | cases h

/-- No service starts a worker in a section. -/
theorem started_outside {event : ServiceEvent} {started : Option Worker}
    (h : ServiceStep s event s' started) (hw : w ∈ started) : w.point.sectionRow ≠ some x := by
  cases hw
  generalize hq : some w = started at h
  cases h <;> cases hq <;> nofun

/-- A worker that is in the section of a row after its step was in it before, or has just
started the row. -/
theorem sectionRow_workerStep (h : WorkerStep i w s a p s' p') (hx : p'.sectionRow = some x) :
    p.sectionRow = some x ∨ RowAt s' x (fun e' => e'.status = .running) ∧
      s'.history = .rowStarted i x :: s.history ∧
      RowAt s x fun e => e.status = .pending ∨ e.status = .waitingForApproval := by
  cases h with
  | vanished => exact .inl hx
  | startedRow hrow hstatus =>
    cases hx
    exact .inr ⟨rowAt_set hrow rfl, rfl, _, hrow, hstatus⟩
  | claimedRow hrow hwaiting =>
    cases hx
    exact .inr ⟨rowAt_set hrow rfl, rfl, _, hrow, .inr hwaiting⟩
  | reservedSlot | refusedSlot | exhausted | countedAttempt | invoked | retried
  | handlerReturned | handlerRaised | checkedResume | refusedResume => exact .inl hx
  | refusedCall | refusedClaim | gateInProgress | refusedStart =>
    exact absurd hx (sectionRow_of_outside (Point.afterRefusal_outside _))
  | gateRaised => exact absurd hx (sectionRow_of_outside (Point.afterToolError_outside _ _))
  | refreshedOther => exact absurd hx (sectionRow_of_outside (Point.afterResumeError_outside _))
  | leftUnfinalized | finalized =>
    exact absurd hx (sectionRow_of_outside (Point.afterExit_outside _ _ _))
  | resumeClaimedRun => split at hx <;> cases hx
  | _ => cases hx

end SupportPilot
