import SupportPilot.Runtime.Clearance
import SupportPilot.Runtime.Ownership
import SupportPilot.Runtime.Scenario

/-!
# The life of an approval request

A request and its execution are two rows that six operations write under different guards.
A request binds its execution while it is pending and after it was rejected or has expired;
an approved or cancelled request releases it. A released row is the only kind with a
request that a handler ever runs on.
-/

namespace SupportPilot

open Library

/-! ## Decisions -/

/-- What the decision of a request of row `x` says, and what its recording checked. -/
structure DecisionInvariant (s : Store) (x : Nat) (a : ApprovalRequest) : Prop where
  decided : a.decision.isSome ↔ a.status = .approved ∨ a.status = .rejected
  decision : ∀ d, a.decision = some d → d.decision.status = a.status ∧
    a.requestedBy ≠ some d.decidedBy ∧ ∃ actorRole checkedAt,
      .approvalDecided x d.decidedBy actorRole d.decision checkedAt ∈ s.history ∧
      roleSatisfiesRequirement actorRole a.requiredRole = true ∧ checkedAt < a.expiresAt

def Decisions (s : Store) : Prop :=
  AllRows (fun x e => ∀ a, e.approvalRequest = some a → DecisionInvariant s x a) s.executions

theorem decisionInvariant_fresh {s : Store} {x : Nat} {a : ApprovalRequest}
    (hpending : a.status = .pending) (hnone : a.decision = none) : DecisionInvariant s x a :=
  ⟨by simp [hpending, hnone], fun d hd => by simp [hnone] at hd⟩

theorem DecisionInvariant.mono {s s' : Store} {x : Nat} {a : ApprovalRequest}
    (h : DecisionInvariant s x a) (hs : Keeps s s') : DecisionInvariant s' x a := by
  obtain ⟨recent, hrecent⟩ := hs.history
  refine ⟨h.decided, fun d hd => ?_⟩
  obtain ⟨hstatus, hself, role, checkedAt, hevent, hchecks⟩ := h.decision d hd
  exact ⟨hstatus, hself, role, checkedAt, by simp [hrecent, hevent], hchecks⟩

theorem decisions_workerStep {i : Nat} {w : Worker} {s s' : Store} {a : WorkerAction}
    {p p' : Point} (hI : AllRows (fun _ => RowInvariant) s.executions) (hs : Decisions s)
    (h : WorkerStep i w s a p s' p') : Decisions s' := by
  refine (rowOrigin_workerStep hI h).imp fun x e' _ horigin a ha => ?_
  cases horigin with
  | created hnone => cases hnone.symm.trans ha
  | kept he _ hsame => exact (hs x _ he a (hsame ▸ ha)).mono (keeps_workerStep h)
  | gate _ _ _ _ _ _ _ _ hrequest hpending hdecision =>
    cases hrequest.symm.trans ha
    exact decisionInvariant_fresh hpending hdecision

/-- A request that resolves without a decision had none. -/
theorem DecisionInvariant.resolve {s : Store} {x : Nat} {a : ApprovalRequest}
    {status : ApprovalStatus} {resolvedAt : Option Nat} (h : DecisionInvariant s x a)
    (hpending : a.status = .pending) (hstatus : status = .expired ∨ status = .cancelled) :
    DecisionInvariant s x { a with status := status, resolvedAt := resolvedAt } := by
  have hnone : a.decision = none := by
    simpa [hpending] using h.decided
  refine ⟨?_, fun d hd => by simp [hnone] at hd⟩
  rcases hstatus with rfl | rfl <;> simp [hnone]

theorem cancelApproval_request {s : Store} {x now : Nat} {e : ToolExecution}
    (h : ∀ a, e.approvalRequest = some a → DecisionInvariant s x a) (a : ApprovalRequest)
    (ha : (cancelApprovalForExecution e now).approvalRequest = some a) :
    DecisionInvariant s x a := by
  unfold cancelApprovalForExecution at ha
  split at ha
  · exact h a ha
  · rename_i approval happroval
    split at ha
    · exact h a ha
    · rename_i hpending
      cases ha
      exact (h approval happroval).resolve (by simpa using hpending) (.inr rfl)

theorem decisions_serviceStep {s s' : Store} {event : ServiceEvent} {started : Option Worker}
    (hs : Decisions s) (h : ServiceStep s event s' started) : Decisions s' := by
  have hkeeps := keeps_serviceStep h
  have hold : AllRows (fun x e => ∀ a, e.approvalRequest = some a → DecisionInvariant s' x a)
      s.executions := fun x e he a ha => (hs x e he a ha).mono hkeeps
  cases h with
  | cancelledRun =>
    refine .map fun x e he a ha => ?_
    unfold Store.cancelChildOf cancelChildExecution at ha
    split at ha
    · split at ha
      · exact cancelApproval_request (hold x e he) a ha
      · exact hold x e he a ha
    · exact hold x e he a ha
  | recoveredRun =>
    refine .map fun x e he a ha => hold x e he a ?_
    unfold Store.recoverChildOf failInFlightToolExecution at ha
    split at ha
    · split at ha <;> exact ha
    · exact ha
  | @decided x actor checkedAt now actorRole decision row approval hx happroval hpending hexpiry
      hself hrole hnone =>
    refine hold.set fun a ha => ?_
    rw [recordDecision_request] at ha
    cases ha
    refine ⟨by cases decision <;> simp [ApprovalDecisionValue.status], fun d hd => ?_⟩
    cases hd
    exact ⟨rfl, hself, actorRole, checkedAt, List.mem_cons_self, hrole, hexpiry⟩
  | @expired event x checkedAt now row approval hevent hx happroval hpending hexpiry =>
    refine hold.set fun a ha => ?_
    rw [expire, terminateExecution_request] at ha
    cases ha
    exact (hold x row hx approval happroval).resolve hpending (.inl rfl)
  | cancelledApproval hx => exact hold.set (cancelApproval_request (hold _ _ hx))
  | _ => exact hold

theorem decisions {c : Configuration} (h : Reachable c) : Decisions c.store :=
  store_of_steps (fun _ _ h => by simp at h)
    (fun _ _ _ _ _ _ hs hstep => decisions_serviceStep hs hstep)
    (fun _ _ _ _ _ _ hr _ hs _ _ hstep =>
      decisions_workerStep (invariants hr).store.rows hs hstep) h

/-- Every recorded decision is the one its request carries. -/
def NoPhantomDecision (s : Store) : Prop :=
  ∀ x actor actorRole decision checkedAt,
    .approvalDecided x actor actorRole decision checkedAt ∈ s.history →
    RowAt s x fun e => ∃ a, e.approvalRequest = some a ∧ a.status ≠ .pending ∧
      a.decision = some ⟨decision, actor⟩

theorem noPhantomDecision_keeps {s s' : Store} (hs : NoPhantomDecision s) (hkeeps : Keeps s s')
    {x actor checkedAt : Nat} {actorRole : String} {decision : ApprovalDecisionValue}
    (hevent : .approvalDecided x actor actorRole decision checkedAt ∈ s.history) :
    RowAt s' x fun e => ∃ a, e.approvalRequest = some a ∧ a.status ≠ .pending ∧
      a.decision = some ⟨decision, actor⟩ := by
  refine (hs _ _ _ _ _ hevent).keeps hkeeps fun e e' hrow he => ?_
  obtain ⟨a, ha, hsettled, hdecision⟩ := he
  obtain ⟨a', ha', hkeep⟩ := hrow.approval a ha
  rw [hkeep.settled hsettled] at ha'
  exact ⟨a, ha', hsettled, hdecision⟩

theorem noPhantomDecision {c : Configuration} (h : Reachable c) : NoPhantomDecision c.store := by
  refine store_of_steps (by rintro _ _ _ _ _ ⟨⟩) ?_ ?_ h
  · intro c event s' started _ _ hs hstep x actor actorRole decision checkedAt hevent
    have hkeeps := keeps_serviceStep hstep
    rcases event_serviceStep hstep hevent with hold | hnew
    · exact noPhantomDecision_keeps hs hkeeps hold
    · cases hnew
      cases hstep with
      | undecided | expired => exact noPhantomDecision_keeps hs hkeeps hevent
      | decided hx =>
        exact rowAt_set hx ⟨_, recordDecision_request _ _ _ _ _, by cases decision <;> nofun, rfl⟩
  · intro c i w a s' p' _ _ hs _ _ hstep x actor actorRole decision checkedAt hevent
    rcases event_workerStep hstep hevent with hold | ⟨p, -, hnew⟩
    · exact noPhantomDecision_keeps hs (keeps_workerStep hstep) hold
    · cases hnew

/-! ## The coupling of a request with its execution -/

/-- What the status of a request says about the row that it belongs to. -/
structure Coupled (e : ToolExecution) (a : ApprovalRequest) : Prop where
  pending : a.status = .pending → e.status = .waitingForApproval
  rejected : a.status = .rejected →
    e.status = .approvalTerminated ∧ e.errorCode = "approval_rejected"
  expired : a.status = .expired →
    e.status = .approvalTerminated ∧ e.errorCode = "approval_expired"

/-- The statuses that leave the row alone. -/
def Released (status : ApprovalStatus) : Prop :=
  status = .approved ∨ status = .cancelled

theorem coupled_of_released {e : ToolExecution} {a : ApprovalRequest} (h : Released a.status) :
    Coupled e a := by
  rcases h with h | h <;> exact ⟨by simp [h], by simp [h], by simp [h]⟩

theorem Coupled.released_of_decided {e : ToolExecution} {a : ApprovalRequest} (h : Coupled e a)
    (hdecided : a.status ≠ .pending) (hterminated : e.status ≠ .approvalTerminated) :
    Released a.status := by
  cases hstatus : a.status with
  | pending => exact absurd hstatus hdecided
  | rejected => exact absurd (h.rejected hstatus).1 hterminated
  | expired => exact absurd (h.expired hstatus).1 hterminated
  | approved => exact .inl rfl
  | cancelled => exact .inr rfl

theorem Coupled.released {e : ToolExecution} {a : ApprovalRequest} (h : Coupled e a)
    (hwaiting : e.status ≠ .waitingForApproval) (hterminated : e.status ≠ .approvalTerminated) :
    Released a.status :=
  h.released_of_decided (fun hpending => hwaiting (h.pending hpending)) hterminated

def CoupledRow (e : ToolExecution) : Prop :=
  ∀ a, e.approvalRequest = some a → Coupled e a

/-- A row whose request was released may be written at will. -/
theorem CoupledRow.write {e e' : ToolExecution} (h : CoupledRow e)
    (hrequest : e'.approvalRequest = e.approvalRequest)
    (hwaiting : e.status ≠ .waitingForApproval) (hterminated : e.status ≠ .approvalTerminated) :
    CoupledRow e' := fun a ha =>
  coupled_of_released ((h a (hrequest ▸ ha)).released hwaiting hterminated)

theorem coupledRow_gate {e e' : ToolExecution} {createdBy : Option Nat} {now : Nat}
    {err : Option ToolError} (hI : RowInvariant e) (hnone : e.policyEvaluation = none)
    (hcommit : GateCommit e createdBy now e' err) : CoupledRow e' := by
  have hunrequested := hI.unevaluated hnone
  intro a ha
  cases hcommit with
  | allowed | denied =>
    rw [show e.approvalRequest = some a from ha] at hunrequested
    cases hunrequested
  | approvalRequired code reason approval err hsource =>
    cases ha
    rcases hsource with hsome | ⟨-, hpending, -⟩
    · rw [hsome] at hunrequested
      cases hunrequested
    · exact ⟨fun _ => rfl, by simp [hpending], by simp [hpending]⟩

/-- A pending request that is rejected or expires terminates its row with its own code. -/
theorem coupledRow_terminate {e : ToolExecution} {a : ApprovalRequest} {code message : String}
    {now : Nat} (hwaiting : e.status = .waitingForApproval)
    (hcode : a.status = .rejected ∧ code = "approval_rejected" ∨
      a.status = .expired ∧ code = "approval_expired") :
    CoupledRow (terminateExecution { e with approvalRequest := some a } code message now) := by
  intro b hb
  rw [terminateExecution_request] at hb
  cases hb
  rw [terminateExecution, if_pos (show e.status = .waitingForApproval from hwaiting)]
  rcases hcode with ⟨hstatus, rfl⟩ | ⟨hstatus, rfl⟩ <;>
    exact ⟨by simp [hstatus], by simp [hstatus], by simp [hstatus]⟩

theorem coupledRow_decide {e : ToolExecution} {a : ApprovalRequest} (h : CoupledRow e)
    (ha : e.approvalRequest = some a) (hpending : a.status = .pending) (actor : Nat)
    (decision : ApprovalDecisionValue) (now : Nat) :
    CoupledRow (recordDecision e a actor decision now) := by
  cases decision with
  | approve =>
    intro b hb
    cases hb
    exact coupled_of_released (.inl rfl)
  | reject => exact coupledRow_terminate ((h a ha).pending hpending) (.inl ⟨rfl, rfl⟩)

theorem coupledRow_cancelApproval {e : ToolExecution} (h : CoupledRow e) (now : Nat) :
    CoupledRow (cancelApprovalForExecution e now) := by
  unfold cancelApprovalForExecution
  split
  · exact h
  · split
    · exact h
    · intro b hb
      cases hb
      exact coupled_of_released (.inr rfl)

/-- Whatever request the row had, it is not pending after its cancellation. -/
theorem cancelApprovalForExecution_decided {e : ToolExecution} {now : Nat} {a : ApprovalRequest}
    (ha : (cancelApprovalForExecution e now).approvalRequest = some a) :
    a.status ≠ .pending := by
  unfold cancelApprovalForExecution at ha
  split at ha
  · rename_i hnone
    cases hnone.symm.trans ha
  · rename_i approval happroval
    split at ha
    · rename_i hdecided
      cases happroval.symm.trans ha
      exact hdecided
    · cases ha
      nofun

theorem coupledRow_cancelChild {e : ToolExecution} (h : CoupledRow e) (r : Nat) (run : AgentRun)
    (now : Nat) : CoupledRow (Store.cancelChildOf r run now e) := by
  unfold Store.cancelChildOf cancelChildExecution
  split
  · split
    · rename_i hwaiting
      intro a ha
      have hcoupled := coupledRow_cancelApproval h now a ha
      have hdecided := cancelApprovalForExecution_decided ha
      refine coupled_of_released (hcoupled.released_of_decided hdecided ?_)
      rw [cancelApprovalForExecution_status, hwaiting]
      simp
    · exact h
  · exact h

theorem coupledRow_recoverChild {e : ToolExecution} (h : CoupledRow e) (r now : Nat) :
    CoupledRow (Store.recoverChildOf r now e) := by
  unfold Store.recoverChildOf failInFlightToolExecution
  split
  · split
    · rename_i hflight
      exact h.write rfl (by rintro hw; simp [hw] at hflight) (by rintro hw; simp [hw] at hflight)
    · exact h
  · exact h

/-- Row `x` is coupled, if it exists. -/
def CoupledAt (x : Nat) (s : Store) : Prop :=
  AllRows (fun i e => i = x → CoupledRow e) s.executions

variable {x : Nat}

theorem coupledAt_serviceStep {s s' : Store} {event : ServiceEvent} {started : Option Worker}
    (hs : CoupledAt x s) (h : ServiceStep s event s' started) : CoupledAt x s' := by
  cases h with
  | cancelledRun => exact .map fun i e he hi => coupledRow_cancelChild (hs i e he hi) _ _ _
  | recoveredRun => exact .map fun i e he hi => coupledRow_recoverChild (hs i e he hi) _ _
  | decided hx happroval hpending =>
    exact AllRows.set hs fun hi => coupledRow_decide (hs _ _ hx hi) happroval hpending _ _ _
  | expired _ hx happroval hpending =>
    refine AllRows.set hs fun hi => coupledRow_terminate ?_ (.inr ⟨rfl, rfl⟩)
    exact (hs _ _ hx hi _ happroval).pending hpending
  | cancelledApproval hx =>
    exact AllRows.set hs fun hi => coupledRow_cancelApproval (hs _ _ hx hi) _
  | _ => exact hs

theorem coupledAt_workerStep {c : Configuration} {i : Nat} {w : Worker} {a : WorkerAction}
    {s' : Store} {p' : Point} (hr : Reachable c)
    (hp : StartsWhenDecided x c (.work i a)) (hs : CoupledAt x c.store)
    (hw : c.procs[i]? = some w) (h : WorkerStep i w c.store a w.point s' p') :
    CoupledAt x s' := by
  have hrows := (invariants hr).store.rows
  have hpoint := ((invariants hr).procs i w hw).point
  generalize hpt : w.point = p at h hpoint
  cases h with
  | vanished => rwa [CoupledAt, Store.vanish_executions]
  | createdRow => exact AllRows.append hs fun _ a ha => by simp [newExecution] at ha
  | resetRow hrun hfind hx hreset =>
    obtain ⟨-, hstatus, -⟩ := resolveExisting_reset hreset
    refine AllRows.set hs fun hi => (hs _ _ hx hi).write rfl ?_ ?_
    · rintro hw
      simp [hw] at hstatus
    · rintro hw
      simp [hw] at hstatus
  | gateAllowed hrun hx hnone hcommit =>
    exact AllRows.set hs fun _ => coupledRow_gate (hrows _ _ hx) hnone hcommit
  | gateRaised hrun hx hnone hcommit =>
    exact AllRows.set hs fun _ => coupledRow_gate (hrows _ _ hx) hnone hcommit
  | @startedRow call row now hx hstatus =>
    refine AllRows.set hs fun hi b hb => ?_
    rcases hstatus with hpending | hwaiting
    · exact coupled_of_released
        ((hs _ _ hx hi b hb).released (by simp [hpending]) (by simp [hpending]))
    · have hdecided := startsWaiting_false hp hw hpt hi (hi ▸ hx) hwaiting hb
      exact coupled_of_released
        ((hs _ _ hx hi b hb).released_of_decided (by simpa using hdecided) (by simp [hwaiting]))
  | countedAttempt hx =>
    refine AllRows.set hs fun hi b hb => ?_
    have hcoupled := hs _ _ hx hi b hb
    exact ⟨hcoupled.pending, hcoupled.rejected, hcoupled.expired⟩
  | finalized hx hstored =>
    obtain ⟨hrunning, hrow⟩ := CallExit.finalize_stored hstored
    refine AllRows.set hs fun hi => (hs _ _ hx hi).write ?_ (by simp [hrunning])
      (by simp [hrunning])
    rcases hrow with ⟨_, -, rfl⟩ | ⟨_, _, _, _, -, rfl⟩ <;> rfl
  | claimedRow hx =>
    refine AllRows.set hs fun hi b hb => coupled_of_released (.inl ?_)
    obtain ⟨-, a', ha', hstatus⟩ := hpoint.get hx
    obtain rfl : a' = b := Option.some.inj (ha'.symm.trans hb)
    exact hstatus
  | _ => exact hs

theorem coupledAt {c : Configuration} (h : RunsWith (StartsWhenDecided x) c) :
    CoupledAt x c.store :=
  store_of_steps (fun _ _ h => by simp at h)
    (fun _ _ _ _ _ _ hs hstep => coupledAt_serviceStep hs hstep)
    (fun _ _ _ _ _ _ hr hp hs hw _ hstep =>
      coupledAt_workerStep hr.reachable hp hs hw hstep) h

/-- A row that `execute_tool` starts has a released request, if it has one. -/
theorem startsCleared_released : StartsCleared (StartsWhenDecided x) Released x := by
  intro c i now w call e hr hp hw hpt hx he hstatus
  refine clearedBy_of_start hr.reachable hw hpt hx he hstatus fun a ha => ?_
  rcases hstatus with hpending | hwaiting
  · exact (coupledAt hr x e he rfl a ha).released (by simp [hpending]) (by simp [hpending])
  · have hdecided := startsWaiting_false hp hw hpt hx he hwaiting ha
    exact (coupledAt hr x e he rfl a ha).released_of_decided (by simpa using hdecided)
      (by simp [hwaiting])

/-! ## Main results -/

/-- All that a request and its row say about each other and about the decision. -/
structure ApprovalLaw (s : Store) (x : Nat) (e : ToolExecution) (a : ApprovalRequest) : Prop where
  decision : DecisionInvariant s x a
  recorded : ∀ actor actorRole decision checkedAt,
    .approvalDecided x actor actorRole decision checkedAt ∈ s.history →
    a.decision = some ⟨decision, actor⟩
  coupled : Coupled e a
  unhandled : a.status = .rejected ∨ a.status = .expired →
    ∀ i r first, .handlerStarted i r x first ∉ s.history

/-- A resolved request stays as it is, whatever happens. -/
theorem approval_absorbing {c c' : Configuration} {e : ToolExecution} {a : ApprovalRequest}
    (he : c.store.executions[x]? = some e) (ha : e.approvalRequest = some a)
    (hsettled : a.status ≠ .pending) (hlater : program.system.Later c c') :
    RowAt c'.store x fun e' => e'.approvalRequest = some a := by
  have hkept : ∀ (c : Configuration) (l : Step) (c' : Configuration),
      RowAt c.store x (fun e' => e'.approvalRequest = some a) →
      program.system.step l c = some c' →
      RowAt c'.store x fun e' => e'.approvalRequest = some a := by
    intro c l c' hrow hstep
    refine hrow.keeps (keeps_step hstep) fun f f' hkeeps hf => ?_
    obtain ⟨b, hb, hkeep⟩ := hkeeps.approval a hf
    rw [hkeep.settled hsettled] at hb
    exact hb
  exact hlater.kept hkept ⟨e, he, ha⟩

/-- Over every interleaving in which no other call starts the row of the pending request, a
request obeys its law, and a resolved one never changes again. -/
theorem approval_lifecycle {c : Configuration} (h : RunsWith (StartsWhenDecided x) c)
    {e : ToolExecution} {a : ApprovalRequest} (he : c.store.executions[x]? = some e)
    (ha : e.approvalRequest = some a) :
    ApprovalLaw c.store x e a ∧
      (a.status ≠ .pending → ∀ c', program.system.Later c c' →
        RowAt c'.store x fun e' => e'.approvalRequest = some a) := by
  refine ⟨⟨decisions h.reachable x e he a ha, ?_, coupledAt h x e he rfl a ha, ?_⟩,
    fun hsettled c' hlater => approval_absorbing he ha hsettled hlater⟩
  · intro actor actorRole decision checkedAt hevent
    obtain ⟨b, hb, -, hdecision⟩ :=
      (noPhantomDecision h.reachable x actor actorRole decision checkedAt hevent).get he
    rw [ha] at hb
    cases hb
    exact hdecision
  · intro hstatus i r first hevent
    have hstable : StableStatus Released := stableStatus_of_settled (by simp [Released])
    obtain ⟨ev, hev, -, hrequest⟩ :=
      ((cleared hstable (.inl rfl) startsCleared_released h).store i r first hevent).get he
    have hrow := (invariants h.reachable).store.rows x e he
    obtain ⟨b, hb, hreleased⟩ := hrequest ((hrow.requested ev hev).mpr (by simp [ha]))
    rw [ha] at hb
    cases hb
    rcases hstatus with hstatus | hstatus <;> simp [Released, hstatus] at hreleased

theorem approval_lifecycle_answered :
    ∃ e a, (scenarioEnd (StartsWhenDecided 0) answeredRun).store.executions[0]? = some e ∧
      e.approvalRequest = some a ∧ a.status = .approved ∧
      ApprovalLaw (scenarioEnd (StartsWhenDecided 0) answeredRun).store 0 e a ∧
      ∀ c', program.system.Later (scenarioEnd (StartsWhenDecided 0) answeredRun) c' →
        RowAt c'.store 0 fun e' => e'.approvalRequest = some a := by
  have hend : ((scenarioEnd (StartsWhenDecided 0) answeredRun).store.executions[0]?.bind
      (·.approvalRequest)).map (·.status) = some .approved := by decide
  obtain ⟨a, happroval, hstatus⟩ := Option.map_eq_some_iff.mp hend
  obtain ⟨e, he, ha⟩ := Option.bind_eq_some_iff.mp happroval
  obtain ⟨hlaw, habsorbing⟩ :=
    approval_lifecycle (runsWith_scenarioEnd (StartsWhenDecided 0) answeredRun) he ha
  exact ⟨e, a, he, ha, hstatus, hlaw, habsorbing (by simp [hstatus])⟩

end SupportPilot
