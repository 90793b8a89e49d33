import SupportPilot.Runtime.Guarantee

/-!
# Invariants of every run

What holds of an execution row whatever the workers and services do, and what a worker
may rely on at each of its points. Nothing here depends on a condition on the steps, and
the properties of later modules all build on it.
-/

namespace SupportPilot

open Library

/-- The row with this key exists and satisfies `P`. -/
def RowAt (s : Store) (x : Nat) (P : ToolExecution → Prop) : Prop :=
  ∃ e, s.executions[x]? = some e ∧ P e

theorem RowAt.keeps {s s' : Store} {x : Nat} {P Q : ToolExecution → Prop} (h : RowAt s x P)
    (hs : Keeps s s') (hPQ : ∀ e e', RowKeeps e e' → P e → Q e') : RowAt s' x Q := by
  obtain ⟨e, he, hP⟩ := h
  obtain ⟨e', he', hkeeps⟩ := hs.executions x e he
  exact ⟨e', he', hPQ e e' hkeeps hP⟩

theorem RowAt.imp {s : Store} {x : Nat} {P Q : ToolExecution → Prop} (h : RowAt s x P)
    (hPQ : ∀ e, P e → Q e) : RowAt s x Q := by
  obtain ⟨e, he, hP⟩ := h
  exact ⟨e, he, hPQ e hP⟩

theorem RowAt.get {s : Store} {x : Nat} {P : ToolExecution → Prop} {e : ToolExecution}
    (h : RowAt s x P) (he : s.executions[x]? = some e) : P e := by
  obtain ⟨e', he', hP⟩ := h
  rw [he] at he'
  cases he'
  exact hP

theorem rowAt_set {s : Store} {x : Nat} {P : ToolExecution → Prop} {e e' : ToolExecution}
    (he : s.executions[x]? = some e) (hP : P e') : RowAt (s.setExecution x e') x P :=
  ⟨e', by simp [(List.getElem?_eq_some_iff.mp he).1], hP⟩

/-- The gate has decided and the row is past its wait: nothing makes it wait again. -/
structure Started (e : ToolExecution) : Prop where
  evaluated : e.policyEvaluation.isSome
  status : e.status ≠ .waitingForApproval

/-- The row belongs to run `r` and its request was resolved as `status`. -/
def ResolvedFor (r : Nat) (status : ApprovalStatus) (e : ToolExecution) : Prop :=
  e.agentRun = r ∧ ∃ a, e.approvalRequest = some a ∧ a.status = status

theorem Started.keeps {e e' : ToolExecution} (h : RowKeeps e e') (hs : Started e) : Started e' := by
  obtain ⟨ev, hev⟩ := Option.isSome_iff_exists.mp hs.evaluated
  exact ⟨by simp [h.evaluation ev hev], h.waiting hs.evaluated hs.status⟩

theorem ResolvedFor.keeps {r : Nat} {status : ApprovalStatus} (hne : status ≠ .pending)
    {e e' : ToolExecution} (h : RowKeeps e e') (hr : ResolvedFor r status e) :
    ResolvedFor r status e' := by
  obtain ⟨hrun, a, ha, hstatus⟩ := hr
  obtain ⟨a', ha', hkeeps⟩ := h.approval a ha
  refine ⟨h.agentRun.trans hrun, a', ha', ?_⟩
  rw [hkeeps.settled (by rwa [hstatus]), hstatus]

/-! ## Rows -/

/-- The invariant of one execution row. -/
structure RowInvariant (e : ToolExecution) : Prop where
  unevaluated : e.policyEvaluation = none → e.approvalRequest = none
  requested : ∀ ev, e.policyEvaluation = some ev →
    (ev.decision = .requireApproval ↔ e.approvalRequest.isSome)
  denied : ∀ ev, e.policyEvaluation = some ev → ev.decision = .deny →
    e.status = .blockedByPolicy
  waiting : e.status = .waitingForApproval → e.approvalRequest.isSome
  untried : e.policyEvaluation = none ∨ e.status = .waitingForApproval → e.attemptCount = 0

/-- The row's run exists and the row carries the budget of its version. -/
def Owned (s : Store) (e : ToolExecution) : Prop :=
  ∃ run, s.runs[e.agentRun]? = some run ∧ e.agentVersion = run.agentVersion

theorem Owned.keeps {s s' : Store} (h : Rows RunKeeps s.runs s'.runs) {e e' : ToolExecution}
    (hrun : e'.agentRun = e.agentRun) (hversion : e'.agentVersion = e.agentVersion)
    (ho : Owned s e) : Owned s' e' := by
  obtain ⟨run, hget, hv⟩ := ho
  obtain ⟨run', hget', hkeeps⟩ := h _ run hget
  exact ⟨run', by rw [hrun, hget'], by rw [hversion, hv, hkeeps.agentVersion]⟩

theorem rowInvariant_new (r : Nat) (run : AgentRun) (request : ToolRequest) :
    RowInvariant (newExecution r run request) :=
  ⟨fun _ => rfl, fun _ h => by simp [newExecution] at h, fun _ h => by simp [newExecution] at h,
    fun h => by simp [newExecution] at h, fun _ => rfl⟩

/-- A write that leaves the gate's rows alone, and does not touch a denied row, a waiting
row's request or the attempt counter of an untried row. -/
theorem RowInvariant.of_write {e e' : ToolExecution} (h : RowInvariant e)
    (hevaluation : e'.policyEvaluation = e.policyEvaluation)
    (happroval : e'.approvalRequest.isSome = e.approvalRequest.isSome)
    (hblocked : e.status = .blockedByPolicy → e'.status = .blockedByPolicy)
    (hwaiting : e'.status = .waitingForApproval → e.status = .waitingForApproval)
    (hattempts : e'.attemptCount = e.attemptCount) : RowInvariant e' where
  unevaluated hnone := by
    have := h.unevaluated (hevaluation ▸ hnone)
    simpa [this] using happroval
  requested ev hev := by
    rw [happroval]
    exact h.requested ev (hevaluation ▸ hev)
  denied ev hev hdeny := hblocked (h.denied ev (hevaluation ▸ hev) hdeny)
  waiting hw := happroval ▸ h.waiting (hwaiting hw)
  untried hor := by
    rw [hattempts]
    exact h.untried (hor.imp (fun hnone => hevaluation ▸ hnone) hwaiting)

theorem rowInvariant_gate {e e' : ToolExecution} {createdBy : Option Nat} {now : Nat}
    {err : Option ToolError} (h : RowInvariant e) (hnone : e.policyEvaluation = none)
    (hcommit : GateCommit e createdBy now e' err) : RowInvariant e' := by
  have happroval := h.unevaluated hnone
  have huntried := h.untried (.inl hnone)
  have hwaiting : e.status ≠ .waitingForApproval := fun hw => by
    simpa [happroval] using h.waiting hw
  cases hcommit with
  | allowed code reason =>
    refine ⟨nofun, ?_, ?_, fun hw => absurd hw hwaiting, fun _ => huntried⟩
    · rintro ev ⟨⟩
      simp [happroval]
    · rintro ev ⟨⟩ hdeny
      cases hdeny
  | denied evaluation message err hdeny hpending =>
    refine ⟨nofun, ?_, fun _ _ _ => rfl, nofun, fun _ => huntried⟩
    rintro ev ⟨⟩
    simp [happroval, hdeny]
  | approvalRequired code reason approval err hsource hpending =>
    refine ⟨nofun, ?_, ?_, fun _ => rfl, fun _ => huntried⟩
    · rintro ev ⟨⟩
      simp
    · rintro ev ⟨⟩ hdeny
      cases hdeny

theorem rowInvariant_finalize {e e' : ToolExecution} {exit : CallExit} {now : Nat}
    (h : RowInvariant e) (hstored : exit.finalize e now = .stored e') : RowInvariant e' := by
  obtain ⟨hrunning, ⟨output, -, rfl⟩ | ⟨status, code, message, err, -, rfl⟩⟩ :=
    CallExit.finalize_stored hstored
  · exact h.of_write rfl rfl (fun hb => by simp [hrunning] at hb) (fun hw => by cases hw) rfl
  · exact h.of_write rfl rfl (fun hb => by simp [hrunning] at hb)
      (fun hw => absurd hw status.status_ne_waiting) rfl

theorem rowInvariant_terminate {e : ToolExecution} (h : RowInvariant e) (code message : String)
    (now : Nat) : RowInvariant (terminateExecution e code message now) := by
  unfold terminateExecution
  split
  · rename_i hw
    exact h.of_write rfl rfl (fun hb => by simp [hw] at hb) (fun hw => by cases hw) rfl
  · exact h

theorem rowInvariant_resolve {e : ToolExecution} {a : ApprovalRequest} (h : RowInvariant e)
    (ha : e.approvalRequest = some a) (a' : ApprovalRequest) :
    RowInvariant { e with approvalRequest := some a' } :=
  h.of_write rfl (by simp [ha]) (fun hb => hb) (fun hw => hw) rfl

theorem rowInvariant_recordDecision {e : ToolExecution} {a : ApprovalRequest}
    (h : RowInvariant e) (ha : e.approvalRequest = some a) (actor : Nat)
    (decision : ApprovalDecisionValue) (now : Nat) :
    RowInvariant (recordDecision e a actor decision now) := by
  cases decision with
  | approve => exact rowInvariant_resolve h ha _
  | reject => exact rowInvariant_terminate (rowInvariant_resolve h ha _) _ _ now

theorem rowInvariant_cancelApproval {e : ToolExecution} (h : RowInvariant e) (now : Nat) :
    RowInvariant (cancelApprovalForExecution e now) := by
  unfold cancelApprovalForExecution
  split
  · exact h
  · rename_i a ha
    split
    · exact h
    · exact rowInvariant_resolve h ha _

theorem cancelApprovalForExecution_status (e : ToolExecution) (now : Nat) :
    (cancelApprovalForExecution e now).status = e.status := by
  unfold cancelApprovalForExecution
  split
  · rfl
  · split <;> rfl

theorem rowInvariant_cancelChild {e : ToolExecution} (h : RowInvariant e) (r : Nat)
    (run : AgentRun) (now : Nat) : RowInvariant (Store.cancelChildOf r run now e) := by
  unfold Store.cancelChildOf cancelChildExecution
  split
  · split
    · rename_i hw
      refine (rowInvariant_cancelApproval h now).of_write rfl rfl (fun hb => ?_)
        (fun hw => by cases hw) rfl
      rw [cancelApprovalForExecution_status, hw] at hb
      cases hb
    · exact h
  · exact h

theorem rowInvariant_recoverChild {e : ToolExecution} (h : RowInvariant e) (r now : Nat) :
    RowInvariant (Store.recoverChildOf r now e) := by
  unfold Store.recoverChildOf failInFlightToolExecution
  split
  · split
    · rename_i hflight
      exact h.of_write rfl rfl (fun hb => by simp [hb] at hflight) (fun hw => by cases hw) rfl
    · exact h
  · exact h

/-! ## Workers -/

/-- What a worker of run `r` may rely on at its point. -/
def PointInvariant (s : Store) (r : Nat) : Point → Prop
  | .policyCheck call | .policyGate call =>
    RowAt s call.execution (fun _ => True) ∧ call.resumed = false ∧ call.invoked = false ∧
      call.attemptCount ≤ call.tool.retryPolicy.maxRetries
  | .transitionRunning call =>
    RowAt s call.execution (fun e => e.policyEvaluation.isSome) ∧ call.resumed = false ∧
      call.invoked = false ∧ call.attemptCount ≤ call.tool.retryPolicy.maxRetries
  | .reserveSlot call =>
    RowAt s call.execution (fun e => Started e ∧ (call.resumed → ResolvedFor r .approved e)) ∧
      call.invoked = false ∧ call.attemptCount ≤ call.tool.retryPolicy.maxRetries
  | .attempt call =>
    RowAt s call.execution (fun e => Started e ∧ (call.resumed → ResolvedFor r .approved e)) ∧
      call.attemptCount ≤ call.tool.retryPolicy.maxRetries
  | .handler call =>
    RowAt s call.execution (fun e => Started e ∧ (call.resumed → ResolvedFor r .approved e)) ∧
      call.invoked = true
  | .invoke call | .leave call _ =>
    RowAt s call.execution (fun e => Started e ∧ (call.resumed → ResolvedFor r .approved e))
  | .claimRun x status =>
    RowAt s x (ResolvedFor r status) ∧ status.resolved
  | .resumeExecution x => RowAt s x (ResolvedFor r .approved)
  | .resumeChecks x attemptCount =>
    RowAt s x (fun e => Started e ∧ ResolvedFor r .approved e) ∧ attemptCount = 0
  | _ => True

structure WorkerInvariant (s : Store) (w : Worker) : Prop where
  run : ∃ run, s.runs[w.run]? = some run
  point : PointInvariant s w.run w.point

theorem resolved_ne_pending {status : ApprovalStatus} (h : status.resolved) :
    status ≠ .pending := by
  rintro rfl
  cases h

theorem pointInvariant_keeps {s s' : Store} (hs : Keeps s s') {r : Nat} {p : Point}
    (h : PointInvariant s r p) : PointInvariant s' r p := by
  have hstarted : ∀ {x : Nat} {resumed : Bool},
      RowAt s x (fun e => Started e ∧ (resumed → ResolvedFor r .approved e)) →
      RowAt s' x (fun e => Started e ∧ (resumed → ResolvedFor r .approved e)) :=
    fun hrow => hrow.keeps hs fun e e' hk he =>
      ⟨he.1.keeps hk, fun hres => (he.2 hres).keeps (by simp) hk⟩
  cases p with
  | policyCheck call | policyGate call =>
    exact ⟨h.1.keeps hs fun _ _ _ _ => trivial, h.2⟩
  | transitionRunning call =>
    refine ⟨h.1.keeps hs fun e e' hk he => ?_, h.2⟩
    obtain ⟨ev, hev⟩ := Option.isSome_iff_exists.mp he
    simp [hk.evaluation ev hev]
  | reserveSlot call | attempt call | handler call => exact ⟨hstarted h.1, h.2⟩
  | invoke call | leave call exit => exact hstarted h
  | claimRun x status =>
    exact ⟨h.1.keeps hs fun e e' hk he => he.keeps (resolved_ne_pending h.2) hk, h.2⟩
  | resumeExecution x => exact h.keeps hs fun e e' hk he => he.keeps (by simp) hk
  | resumeChecks x attemptCount =>
    exact ⟨h.1.keeps hs fun e e' hk he => ⟨he.1.keeps hk, he.2.keeps (by simp) hk⟩, h.2⟩
  | _ => trivial

theorem workerInvariant_keeps (s s' : Store) (w : Worker) (hs : Keeps s s')
    (h : WorkerInvariant s w) : WorkerInvariant s' w := by
  obtain ⟨run, hrun⟩ := h.run
  obtain ⟨run', hrun', -⟩ := hs.runs _ run hrun
  exact ⟨⟨run', hrun'⟩, pointInvariant_keeps hs h.point⟩

theorem pointInvariant_of_outside {s : Store} {r : Nat} {p : Point} (h : p.outside = true) :
    PointInvariant s r p := by
  cases p <;> trivial

/-! ## Runs -/

structure StoreInvariant (s : Store) : Prop where
  rows : AllRows (fun _ => RowInvariant) s.executions
  owners : AllRows (fun _ => Owned s) s.executions

theorem pointInvariant_step {i : Nat} {w : Worker} {s s' : Store} {a : WorkerAction}
    {p p' : Point} (hI : StoreInvariant s) (hw : PointInvariant s w.run p)
    (h : WorkerStep i w s a p s' p') : PointInvariant s' w.run p' := by
  cases h with
  | vanished => exact pointInvariant_keeps (keeps_vanish i w s) hw
  | createdRow hrun hnone =>
    exact ⟨⟨_, List.getElem?_concat_length, trivial⟩, rfl, rfl, Nat.zero_le _⟩
  | resetRow hrun hfind hx hreset =>
    obtain ⟨-, -, -, hattempts⟩ := resolveExisting_reset hreset
    exact ⟨rowAt_set hx trivial, rfl, rfl, Nat.lt_succ_iff.mp hattempts⟩
  | foundEvaluated hx hev => exact ⟨⟨_, hx, hev⟩, hw.2⟩
  | foundUnevaluated => exact hw
  | gateAllowed hrun hx hnone hcommit =>
    refine ⟨rowAt_set hx ?_, hw.2⟩
    cases hcommit
    rfl
  | startedRow hx hstatus =>
    obtain ⟨hrow, hresumed, hfresh⟩ := hw
    have hevaluated := hrow.get hx
    exact ⟨rowAt_set hx ⟨⟨hevaluated, nofun⟩, by simp [hresumed]⟩, hfresh⟩
  | reservedSlot hrun hx hlt => exact ⟨hw.1, hw.2.2⟩
  | refusedSlot => exact hw.1
  | exhausted => exact hw.1
  | countedAttempt hx hlt =>
    have hrow := hw.1.get hx
    exact rowAt_set hx ⟨⟨hrow.1.evaluated, hrow.1.status⟩, hrow.2⟩
  | invoked => exact ⟨hw, rfl⟩
  | retried hretry => exact ⟨hw.1, afterAttempt_retry hretry⟩
  | handlerReturned => exact hw.1
  | handlerRaised => exact hw.1
  | resumeClaimedRun hrun hwaiting =>
    split
    · rename_i happroved
      subst happroved
      exact hw.1
    · trivial
  | @claimedRow x row now hx hwaiting =>
    have hrow := hw.get hx
    obtain ⟨a, ha, -⟩ := hrow.2
    have hinvariant := hI.rows x row hx
    have hevaluated : row.policyEvaluation.isSome := by
      by_contra hnone
      simp [hinvariant.unevaluated (by simpa using hnone)] at ha
    exact ⟨rowAt_set hx ⟨⟨hevaluated, nofun⟩, hrow⟩, hinvariant.untried (.inr hwaiting)⟩
  | checkedResume htool =>
    exact ⟨hw.1.imp fun e he => ⟨he.1, fun _ => he.2⟩, rfl, by simp [hw.2]⟩
  | refusedResume => exact hw.1.imp fun e he => ⟨he.1, fun _ => he.2⟩
  | refusedCall | refusedClaim | gateInProgress | refusedStart =>
    exact pointInvariant_of_outside (Point.afterRefusal_outside _)
  | gateRaised => exact pointInvariant_of_outside (Point.afterToolError_outside _ _)
  | finalized | leftUnfinalized => exact pointInvariant_of_outside (Point.afterExit_outside _ _ _)
  | refreshedOther => exact pointInvariant_of_outside (Point.afterResumeError_outside _)
  | _ => trivial

theorem rowInvariants_workerStep {i : Nat} {w : Worker} {s s' : Store} {a : WorkerAction}
    {p p' : Point} (hI : AllRows (fun _ => RowInvariant) s.executions)
    (hw : PointInvariant s w.run p) (h : WorkerStep i w s a p s' p') :
    AllRows (fun _ => RowInvariant) s'.executions := by
  cases h with
  | vanished => rwa [Store.vanish_executions]
  | createdRow => exact hI.append (rowInvariant_new _ _ _)
  | resetRow hrun hfind hx hreset =>
    obtain ⟨-, hstatus, -⟩ := resolveExisting_reset hreset
    exact hI.set ((hI _ _ hx).of_write rfl rfl (fun hb => by simp [hb] at hstatus) nofun rfl)
  | gateAllowed hrun hx hnone hcommit => exact hI.set (rowInvariant_gate (hI _ _ hx) hnone hcommit)
  | gateRaised hrun hx hnone hcommit => exact hI.set (rowInvariant_gate (hI _ _ hx) hnone hcommit)
  | startedRow hx hstatus =>
    exact hI.set ((hI _ _ hx).of_write rfl rfl (fun hb => by simp [hb] at hstatus) nofun rfl)
  | @countedAttempt call row hx hlt =>
    have hstarted := (hw.1.get hx).1
    have hrow := hI _ _ hx
    refine hI.set ⟨hrow.unevaluated, hrow.requested, hrow.denied, hrow.waiting, ?_⟩
    rintro (hnone | hwaiting)
    · have hevaluated := hstarted.evaluated
      rw [show row.policyEvaluation = none from hnone] at hevaluated
      cases hevaluated
    · exact absurd hwaiting hstarted.status
  | finalized hx hstored => exact hI.set (rowInvariant_finalize (hI _ _ hx) hstored)
  | claimedRow hx hwaiting =>
    exact hI.set ((hI _ _ hx).of_write rfl rfl (fun hb => by simp [hb] at hwaiting) nofun rfl)
  | _ => exact hI

theorem rowInvariants_serviceStep {s s' : Store} {event : ServiceEvent}
    {started : Option Worker} (hI : AllRows (fun _ => RowInvariant) s.executions)
    (h : ServiceStep s event s' started) : AllRows (fun _ => RowInvariant) s'.executions := by
  cases h with
  | cancelledRun => exact .map fun x e he => rowInvariant_cancelChild (hI x e he) _ _ _
  | recoveredRun => exact .map fun x e he => rowInvariant_recoverChild (hI x e he) _ _
  | decided hx ha => exact hI.set (rowInvariant_recordDecision (hI _ _ hx) ha _ _ _)
  | expired _ hx ha =>
    exact hI.set (rowInvariant_terminate (rowInvariant_resolve (hI _ _ hx) ha _) _ _ _)
  | cancelledApproval hx => exact hI.set (rowInvariant_cancelApproval (hI _ _ hx) _)
  | _ => exact hI

/-- A worker adds at most one row, which its own run owns. -/
theorem executions_workerStep {i : Nat} {w : Worker} {s s' : Store} {a : WorkerAction}
    {p p' : Point} (h : WorkerStep i w s a p s' p') :
    s'.executions.length = s.executions.length ∨
      ∃ run request, s.runs[w.run]? = some run ∧
        s'.executions = s.executions ++ [newExecution w.run run request] := by
  cases h with
  | vanished => exact .inl (by rw [Store.vanish_executions])
  | createdRow hrun => exact .inr ⟨_, _, hrun, rfl⟩
  | resetRow | gateAllowed | gateRaised | startedRow | countedAttempt | finalized | claimedRow =>
    exact .inl List.length_set
  | _ => exact .inl rfl

theorem executions_serviceStep {s s' : Store} {event : ServiceEvent} {started : Option Worker}
    (h : ServiceStep s event s' started) : s'.executions.length = s.executions.length := by
  cases h with
  | cancelledRun | recoveredRun => exact List.length_map _
  | decided | expired | cancelledApproval => exact List.length_set
  | _ => rfl

theorem owners_keeps {s s' : Store} (hI : AllRows (fun _ => Owned s) s.executions)
    (hs : Keeps s s')
    (hnew : ∀ x e', s.executions.length ≤ x → s'.executions[x]? = some e' → Owned s e') :
    AllRows (fun _ => Owned s') s'.executions := by
  intro x e' he'
  rcases hs.executions.back he' with ⟨e, he, hkeeps⟩ | hge
  · exact (hI x e he).keeps hs.runs hkeeps.agentRun hkeeps.agentVersion
  · exact (hnew x e' hge he').keeps hs.runs rfl rfl

theorem storeInvariant_workerStep {i : Nat} {w : Worker} {s s' : Store} {a : WorkerAction}
    {p p' : Point} (hI : StoreInvariant s) (hw : PointInvariant s w.run p)
    (h : WorkerStep i w s a p s' p') : StoreInvariant s' := by
  refine ⟨rowInvariants_workerStep hI.rows hw h,
    owners_keeps hI.owners (keeps_workerStep h) fun x e' hge he' => ?_⟩
  have hlt := (List.getElem?_eq_some_iff.mp he').1
  rcases executions_workerStep h with hlength | ⟨run, request, hrun, hrows⟩
  · omega
  · rw [hrows, List.getElem?_append_right hge] at he'
    obtain rfl : e' = newExecution w.run run request := by
      simpa using List.mem_of_getElem? he'
    exact ⟨run, hrun, rfl⟩

theorem storeInvariant_serviceStep {s s' : Store} {event : ServiceEvent}
    {started : Option Worker} (hI : StoreInvariant s) (h : ServiceStep s event s' started) :
    StoreInvariant s' := by
  refine ⟨rowInvariants_serviceStep hI.rows h,
    owners_keeps hI.owners (keeps_serviceStep h) fun x e' hge he' => ?_⟩
  have hlt := (List.getElem?_eq_some_iff.mp he').1
  have hlength := executions_serviceStep h
  omega

theorem workerInvariant_started {s s' : Store} {event : ServiceEvent} {w : Worker}
    (hI : StoreInvariant s) (h : ServiceStep s event s' (some w)) : WorkerInvariant s' w := by
  have hs := keeps_serviceStep h
  generalize hw : some w = started at h
  cases h with
  | claimedRun hrun hpending =>
    cases hw
    obtain ⟨run', hrun', -⟩ := hs.runs _ _ hrun
    exact ⟨⟨run', hrun'⟩, trivial⟩
  | delivered hx ha hresolved =>
    cases hw
    obtain ⟨run, hrun, -⟩ := hI.owners _ _ hx
    exact ⟨⟨run, hrun⟩, ⟨_, hx, rfl, _, ha, rfl⟩, hresolved⟩
  | _ => cases hw

theorem storeInvariant_empty : StoreInvariant {} :=
  ⟨fun _ _ h => by simp at h, fun _ _ h => by simp at h⟩

/-- The invariants of the store and of every worker hold in every run. -/
theorem invariants {c : Configuration} (h : Reachable c) :
    c.Annotated StoreInvariant WorkerInvariant := by
  refine annotated_of_steps storeInvariant_empty workerInvariant_keeps ?_ ?_ h
  · intro c event s' started _ _ hc hstep
    refine ⟨storeInvariant_serviceStep hc.store hstep, fun w hw => ?_⟩
    cases hw
    exact workerInvariant_started hc.store hstep
  · intro c i w a s' p' _ _ hc hw _ hstep
    have hself := hc.procs i w hw
    have hpoint := pointInvariant_step hc.store hself.point hstep
    refine ⟨storeInvariant_workerStep hc.store hself.point hstep, fun alive => ?_⟩
    obtain ⟨run, hrun⟩ := hself.run
    obtain ⟨run', hrun', -⟩ := (keeps_workerStep hstep).runs _ _ hrun
    exact ⟨⟨run', hrun'⟩, hpoint⟩

end SupportPilot
