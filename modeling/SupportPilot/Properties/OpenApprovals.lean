import SupportPilot.Properties.ApprovalLifecycle
import SupportPilot.Properties.ResumeMessages

/-!
# Open approvals of ended runs

A row waits for its approval from the commit of the gate to the claim of the resume. The run
pauses in a later transaction than the gate's and resumes in an earlier one than the row's,
and in these two windows the run is `RUNNING` with a waiting child. A writer that ends a run
releases its waiting children only when it finds the run waiting too.
-/

namespace SupportPilot

open Library

/-- A run is ended while a row of it waits for its approval and the run itself does not. -/
def endsWaitingRow (c : Configuration) : Step → Bool
  | .env (.cancelRun r _) => (c.store.runs[r]?).any (·.status == .running) &&
    c.store.executions.any fun e => e.agentRun == r && e.status == .waitingForApproval
  | .env (.recoverRun r _ _) =>
    c.store.executions.any fun e => e.agentRun == r && e.status == .waitingForApproval
  | _ => false

/-- The gate asks for an approval of a row whose run has ended. -/
def gatesAfterEnd (c : Configuration) : Step → Bool
  | .work i (.runPolicyGate outcome _) => outcome.requires && (c.procs[i]?).any fun w =>
    match w.point with
    | .policyGate call => (c.store.executions[call.execution]?).any fun e =>
      (c.store.runs[e.agentRun]?).any (·.status.terminal)
    | _ => false
  | _ => false

/-- `execute_tool` itself starts a row whose request is pending. -/
def startsPending (c : Configuration) : Step → Bool
  | .work i a => (startTarget c i).any fun x =>
    startsWaiting (· = .pending) x c (.work i a)
  | _ => false

/-- None of the windows between the transactions of a pause and a resume is hit. -/
def ClosesApprovals (c : Configuration) (l : Step) : Prop :=
  resumesConsumed c l = false ∧ endsWaitingRow c l = false ∧ gatesAfterEnd c l = false ∧
    startsPending c l = false

instance (c : Configuration) (l : Step) : Decidable (ClosesApprovals c l) :=
  inferInstanceAs (Decidable (_ ∧ _))

theorem startsWhenDecided_of_closes {c : Configuration} {l : Step} (h : ClosesApprovals c l)
    (x : Nat) : StartsWhenDecided x c l := by
  cases l with
  | env event => rfl
  | work i a =>
    have hstarts := h.2.2.2
    cases a with
    | transitionRunning now =>
      by_cases htarget : startTarget c i = some x
      · simpa [startsPending, htarget] using hstarts
      · simp [StartsWhenDecided, startsWaiting, htarget]
    | _ => rfl

variable {c : Configuration} {i : Nat} {w : Worker} {a : WorkerAction} {s' : Store} {p' : Point}

theorem resumesOnce_of_closes (h : RunsWith ClosesApprovals c) : RunsWith ResumesOnce c :=
  h.mono fun _ _ _ hp => hp.1

theorem coupledRow_of_closes (h : RunsWith ClosesApprovals c) {x : Nat} {e : ToolExecution}
    (he : c.store.executions[x]? = some e) : CoupledRow e :=
  coupledAt (h.mono fun _ _ _ hp => startsWhenDecided_of_closes hp x) x e he rfl

/-- The worker of live run `r` is about to pause it on row `x`, or to claim the row. -/
def HeldOpen (c : Configuration) (r x : Nat) : Prop :=
  ¬ Ended c.store r ∧ ∃ (i : Nat) (w : Worker), c.procs[i]? = some w ∧ w.run = r ∧
    (w.point = .approvalRequired x ∨ w.point = .resumeExecution x)

/-- A waiting row is the one its run is paused on, or its worker holds it open. -/
def WaitingInvariant (c : Configuration) : Prop :=
  ∀ (x : Nat) (e : ToolExecution), c.store.executions[x]? = some e →
    e.status = .waitingForApproval →
    PausedAt c.store e.agentRun x ∨ HeldOpen c e.agentRun x

theorem heldOpen_other (hc : Holders c) (hw : c.procs[i]? = some w)
    (h : WorkerStep i w c.store a w.point s' p') (alive : Bool) {j r x : Nat} {v : Worker}
    (hji : j ≠ i) (hlive : ¬ Ended c.store r) (hv : c.procs[j]? = some v) (hvr : v.run = r)
    (hvp : v.point = .approvalRequired x ∨ v.point = .resumeExecution x) :
    HeldOpen ⟨s', c.procs.set i { w with point := p', alive := alive }⟩ r x := by
  have hactive : v.point.active = true := by rcases hvp with hvp | hvp <;> rw [hvp] <;> rfl
  refine ⟨?_, j, v, by rw [List.getElem?_set_ne (Ne.symm hji), hv], hvr, hvp⟩
  rw [Ended, ← hvr, run_unmoved hc hw h hji hv hactive, hvr]
  exact hlive

/-- A worker about to claim its row vanishes there, or starts the row. -/
theorem resumingRow_workerStep {x : Nat} (hpoint : w.point = .resumeExecution x)
    (h : WorkerStep i w c.store a w.point s' p') {e : ToolExecution}
    (he : c.store.executions[x]? = some e) (hwaiting : e.status = .waitingForApproval) :
    (p' = .resumeExecution x ∧ s'.runs = c.store.runs) ∨
      RowAt s' x fun e' => e'.status = .running := by
  rw [hpoint] at h
  cases h with
  | vanished => exact .inl ⟨rfl, Store.vanish_runs _ _ _⟩
  | claimedRow hx => exact .inr (rowAt_set hx rfl)
  | unclaimedRow hx hnot =>
    cases he.symm.trans hx
    exact absurd hwaiting hnot
  | failedRun hcases => rcases hcases with ⟨_, _, -, hp⟩ | ⟨-, hp⟩ <;> cases hp
  | unfinishedRun hcases => rcases hcases with ⟨_, _, _, -, hp⟩ | ⟨_, _, _, -, hp⟩ <;> cases hp

theorem pausedAt_live {s : Store} {r x : Nat} (h : PausedAt s r x) : ¬ Ended s r := by
  obtain ⟨run, hrun, hwaiting, -⟩ := h
  rintro ⟨run', hrun', hterminal⟩
  cases hrun.symm.trans hrun'
  simp [hwaiting, AgentRunStatus.terminal] at hterminal

/-- The gate makes a row wait for the worker of its own live run. -/
theorem gatedRow_workerStep (hr : Reachable c) (hp : ClosesApprovals c (.work i a))
    (hw : c.procs[i]? = some w) (h : WorkerStep i w c.store a w.point s' p') (alive : Bool)
    {outcome : PolicyOutcome} {now : Nat} {call : Call} {e : ToolExecution}
    (ha : a = .runPolicyGate outcome now) (hrequires : outcome.requires = true)
    (hpoint : w.point = .policyGate call) (hp' : p' = .approvalRequired call.execution)
    (he : c.store.executions[call.execution]? = some e) (hnone : e.policyEvaluation = none) :
    HeldOpen ⟨s', c.procs.set i { w with point := p', alive := alive }⟩ e.agentRun
      call.execution := by
  have howner := (gateOwners hr).procs i w hw call (by rw [hpoint]; rfl)
  have hlive : ¬ Ended c.store e.agentRun := by
    rintro ⟨run, hrun, hterminal⟩
    have hopen := hp.2.2.1
    simp [ha, gatesAfterEnd, hrequires, hw, hpoint, he, hrun, hterminal] at hopen
  refine ⟨?_, i, _, List.getElem?_set_self (List.getElem?_eq_some_iff.mp hw).1, ?_, .inl hp'⟩
  · intro hended
    rcases ended_workerStep h hended with hold | ⟨-, hends⟩
    · exact hlive hold
    · rw [hpoint] at hends
      cases hends
  · rcases howner.get he with hsame | hevaluated | hended
    · exact hsame.symm
    · simp [hnone] at hevaluated
    · exact absurd hended hlive

/-- A waiting row of a paused run: the run still waits, or the claim of its resume holds the
row open. -/
theorem pausedRow_workerStep (hr : RunsWith ClosesApprovals c)
    (hp : ClosesApprovals c (.work i a)) (hw : c.procs[i]? = some w)
    (h : WorkerStep i w c.store a w.point s' p') (alive : Bool) {x : Nat} {e : ToolExecution}
    (he : c.store.executions[x]? = some e) (hwaiting : e.status = .waitingForApproval)
    (hpaused : PausedAt c.store e.agentRun x) :
    PausedAt s' e.agentRun x ∨
      HeldOpen ⟨s', c.procs.set i { w with point := p', alive := alive }⟩ e.agentRun x := by
  obtain ⟨run, hget, hstatus, hlast⟩ := hpaused
  rcases waiting_workerStep (holders hr.reachable) hw h hget hstatus with
    ⟨hget', hlast'⟩ | ⟨y, status, now, run', rfl, hclaim, hwr, -, hget', hrunning, hp'⟩
  · exact .inl ⟨run, hget', hstatus, hlast'.trans hlast⟩
  · -- The message is for the row that the run paused on, so its request is decided.
    have hpoint := ((invariants hr.reachable).procs i w hw).point
    rw [hclaim] at hpoint
    have hunconsumed := resumesOnce_unconsumed hp.1 hw hclaim (hwr ▸ hget) hstatus
    have hy := (pauseInvariant (resumesOnce_of_closes hr)).claim hr.reachable hget hstatus
      (hwr ▸ hpoint.1) (hwr ▸ hunconsumed)
    obtain rfl : y = x := Option.some.inj (hy.symm.trans hlast)
    obtain ⟨-, request, hrequest, hresolved⟩ := hpoint.1.get he
    have hcoupled := coupledRow_of_closes hr he request hrequest
    have happroved : status = .approved := by
      have hresolved' := hpoint.2
      cases hs : status with
      | approved => rfl
      | rejected => simp [(hcoupled.rejected (hresolved.trans hs)).1] at hwaiting
      | expired => simp [(hcoupled.expired (hresolved.trans hs)).1] at hwaiting
      | pending | cancelled => simp [hs, ApprovalStatus.resolved] at hresolved'
    refine .inr ⟨?_, i, _, List.getElem?_set_self (List.getElem?_eq_some_iff.mp hw).1, hwr, .inr ?_⟩
    · rintro ⟨final, hfinal, hterminal⟩
      cases hget'.symm.trans hfinal
      simp [hrunning, AgentRunStatus.terminal] at hterminal
    · rw [hp', if_pos happroved]

/-- A row that is held open: its worker still holds it, or the run pauses, or the row starts. -/
theorem heldRow_workerStep (hr : Reachable c) (hw : c.procs[i]? = some w)
    (h : WorkerStep i w c.store a w.point s' p') (alive : Bool) {x : Nat}
    {e : ToolExecution} (he : c.store.executions[x]? = some e)
    (hwaiting : e.status = .waitingForApproval) (hheld : HeldOpen c e.agentRun x) :
    PausedAt s' e.agentRun x ∨
      HeldOpen ⟨s', c.procs.set i { w with point := p', alive := alive }⟩ e.agentRun x ∨
      RowAt s' x fun e' => e'.status = .running := by
  obtain ⟨hlive, j, v, hv, hvr, hvp⟩ := hheld
  by_cases hji : j = i
  · subst hji
    cases hw.symm.trans hv
    have hself : p' = .approvalRequired x ∨ p' = .resumeExecution x →
        s'.runs = c.store.runs →
        HeldOpen ⟨s', c.procs.set j { w with point := p', alive := alive }⟩ e.agentRun x :=
      fun hstay hruns => ⟨by rw [Ended, hruns]; exact hlive, j, _,
        List.getElem?_set_self (List.getElem?_eq_some_iff.mp hw).1, hvr, hstay⟩
    rcases hvp with hvp | hvp
    · rcases pausing_workerStep (holders hr) hw hvp h with ⟨hstay, hruns⟩ | hpaused | hended
      · exact .inr (.inl (hself (.inl hstay) hruns))
      · exact .inl (hvr ▸ hpaused)
      · exact absurd (hvr ▸ hended) hlive
    · rcases resumingRow_workerStep hvp h he hwaiting with ⟨hstay, hruns⟩ | hstarted
      · exact .inr (.inl (hself (.inr hstay) hruns))
      · exact .inr (.inr hstarted)
  · exact .inr (.inl (heldOpen_other (holders hr) hw h alive hji hlive hv hvr hvp))

theorem waitingInvariant_workerStep (hr : RunsWith ClosesApprovals c)
    (hp : ClosesApprovals c (.work i a)) (hc : WaitingInvariant c)
    (hw : c.procs[i]? = some w) (h : WorkerStep i w c.store a w.point s' p') (alive : Bool) :
    WaitingInvariant ⟨s', c.procs.set i { w with point := p', alive := alive }⟩ := by
  intro x e' he' hwaiting'
  have horigin := rowOrigin_workerStep (invariants hr.reachable).store.rows h x e' he'
  generalize hpt : w.point = p at horigin
  cases horigin with
  | created _ hpending => simp [hpending] at hwaiting'
  | gate ha hrequires hgate hx hp' he hnone hrun =>
    subst hx
    rw [hrun]
    exact .inr (gatedRow_workerStep hr.reachable hp hw h alive ha hrequires (hpt.trans hgate)
      hp' he hnone)
  | @kept e he hrun _ hkept =>
    have hwaiting := hkept hwaiting'
    rw [hrun]
    rcases hc x e he hwaiting with hpaused | hheld
    · exact pausedRow_workerStep hr hp hw h alive he hwaiting hpaused
    · rcases heldRow_workerStep hr.reachable hw h alive he hwaiting hheld with
        hpaused | hheld | hstarted
      · exact .inl hpaused
      · exact .inr hheld
      · simp [hstarted.get he'] at hwaiting'

/-- A service that leaves a row of a claimed run waiting does not end the run. -/
theorem live_serviceStep {event : ServiceEvent} {started : Option Worker}
    (hp : ClosesApprovals c (.env event)) (h : ServiceStep c.store event s' started) {x : Nat}
    {e e' : ToolExecution} {run : AgentRun} (he : c.store.executions[x]? = some e)
    (hwaiting : e.status = .waitingForApproval) (he' : s'.executions[x]? = some e')
    (hwaiting' : e'.status = .waitingForApproval)
    (hrun : c.store.runs[e.agentRun]? = some run)
    (hstatus : run.status = .waitingForApproval ∨ run.status = .running) :
    ¬ Ended s' e.agentRun := by
  have hchild : c.store.executions.any
      (fun f => f.agentRun == e.agentRun && f.status == .waitingForApproval) = true :=
    List.any_eq_true.mpr ⟨e, List.mem_of_getElem? he, by simp [hwaiting]⟩
  intro hended
  rcases ended_serviceStep h ⟨run, hrun⟩ hended with
    ⟨run', hrun', hterminal⟩ | ⟨now, rfl⟩ | ⟨cutoff, now, rfl⟩
  · cases hrun.symm.trans hrun'
    rcases hstatus with hs | hs <;> simp [hs, AgentRunStatus.terminal] at hterminal
  · rcases hstatus with hs | hs
    · -- The cancellation of a waiting run cancels its waiting children.
      cases h with
      | cancelledRun hrun' =>
        cases hrun.symm.trans hrun'
        simp only [List.getElem?_map, he, Option.map_some, Option.some.injEq] at he'
        rw [← he', Store.cancelChildOf, if_pos ⟨rfl, hs⟩, cancelChildExecution, if_pos hwaiting]
          at hwaiting'
        cases hwaiting'
      | expired hevent => rcases hevent with ⟨_, _, _, hevent⟩ | hevent <;> cases hevent
    · have hends := hp.2.1
      simp [endsWaitingRow, hrun, hchild, hs] at hends
  · have hends := hp.2.1
    exact absurd hchild (by simpa [endsWaitingRow] using hends)

theorem waitingInvariant_serviceStep {event : ServiceEvent} {started : Option Worker}
    (hr : Reachable c) (hp : ClosesApprovals c (.env event)) (hc : WaitingInvariant c)
    (h : ServiceStep c.store event s' started) :
    WaitingInvariant ⟨s', c.procs ++ started.toList⟩ := by
  intro x e' he' hwaiting'
  obtain ⟨e, he, hrun, -, hkept⟩ := rowOrigin_serviceStep h x e' he'
  have hwaiting := hkept hwaiting'
  rw [hrun]
  rcases hc x e he hwaiting with ⟨run, hget, hstatus, hlast⟩ | ⟨hlive, j, v, hv, hvr, hvp⟩
  · have hlive' := live_serviceStep hp h he hwaiting he' hwaiting' hget (.inl hstatus)
    obtain ⟨run', hget', -⟩ := (keeps_serviceStep h).runs _ _ hget
    rcases runs_serviceStep h hget hget' with rfl | hpending | hterminal
    · exact .inl ⟨run', hget', hstatus, (pausedOn_serviceStep h _).trans hlast⟩
    · simp [hstatus] at hpending
    · exact absurd ⟨run', hget', hterminal⟩ hlive'
  · obtain ⟨run, hget⟩ := ((invariants hr).procs j v hv).run
    have hactive : v.point.active = true := by rcases hvp with hvp | hvp <;> rw [hvp] <;> rfl
    have hrunning : run.status = .running := by
      refine (holders hr).running hv hactive hget ?_
      by_contra hterminal
      exact hlive (hvr ▸ ⟨run, hget, by simpa using hterminal⟩)
    have hlive' := live_serviceStep hp h he hwaiting he' hwaiting' (hvr ▸ hget) (.inr hrunning)
    exact .inr ⟨hlive', j, v, getElem?_append_some hv _, hvr, hvp⟩

theorem waitingInvariant (h : RunsWith ClosesApprovals c) : WaitingInvariant c :=
  configuration_of_steps (fun _ _ he => by simp at he)
    (fun _ _ _ _ hr hp hc hstep => waitingInvariant_serviceStep hr.reachable hp hc hstep)
    (fun _ _ _ _ _ _ alive hr hp hc hw _ hstep =>
      waitingInvariant_workerStep hr hp hc hw hstep alive) h

/-! ## Main results -/

/-- No row of run `r` waits for an approval, and no request of its rows is pending. -/
def ApprovalsClosed (s : Store) (r : Nat) : Prop :=
  AllRows (fun _ e => e.agentRun = r → e.status ≠ .waitingForApproval ∧
    ∀ a, e.approvalRequest = some a → a.status ≠ .pending) s.executions

/-- In every run of the system that hits none of the windows, a run that has ended has no
open approval. -/
theorem approvals_closed_of_ended (h : RunsWith ClosesApprovals c) {r : Nat}
    (hended : Ended c.store r) : ApprovalsClosed c.store r := by
  rintro x e he rfl
  have hnot : e.status ≠ .waitingForApproval := by
    intro hwaiting
    rcases waitingInvariant h x e he hwaiting with hpaused | hheld
    · exact pausedAt_live hpaused hended
    · exact hheld.1 hended
  exact ⟨hnot, fun a ha hpending => hnot ((coupledRow_of_closes h he a ha).pending hpending)⟩

theorem ended_of_status {s : Store} {r : Nat}
    (h : (s.runs[r]?).map (·.status.terminal) = some true) : Ended s r :=
  Option.map_eq_some_iff.mp h

theorem approvals_closed_of_ended_answered :
    ApprovalsClosed (scenarioEnd ClosesApprovals answeredRun).store 0 :=
  approvals_closed_of_ended (runsWith_scenarioEnd ClosesApprovals answeredRun)
    (ended_of_status (by decide))

/-- A run is cancelled after the gate has sent its row to wait, and before it pauses. -/
def cancelledBeforePause : List Step :=
  [.env (.createRun 1 {} (some 5) none (some 7) 0), .env (.claimRun 0 1)] ++
    claimsCall 0 ⟨"crm_update", "{}", "f", "agent:a:turn:1:d"⟩ ⟨"crm_update", {}⟩ ++
    [.work 0 (.runPolicyGate (.requireApproval "rule" "Needs approval." "admin" 60) 2),
      .env (.cancelRun 0 3)]

/-- The cancelled run keeps a waiting row. -/
theorem approvals_not_always_closed :
    ¬ ∀ c, Reachable c → ∀ r, Ended c.store r → ApprovalsClosed c.store r := by
  intro hclosed
  have hend := hclosed _ (runsWith_scenarioEnd _ cancelledBeforePause) 0
    (ended_of_status (by decide))
  have hrow : ((freeEnd cancelledBeforePause).store.executions[0]?).map
      (fun e => (e.agentRun, e.status)) = some (0, .waitingForApproval) := by decide
  obtain ⟨e, he, hrow⟩ := Option.map_eq_some_iff.mp hrow
  simp only [Prod.mk.injEq] at hrow
  exact (hend 0 e he hrow.1).1 hrow.2

end SupportPilot
