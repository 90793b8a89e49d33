import SupportPilot.Runtime.Clearance
import SupportPilot.Runtime.Scenario

/-!
# The policy gate over whole runs

The gate runs once for a row, and later calls skip it because the row was evaluated. What
keeps a handler behind an approval is then the status of the row alone. Two paths lead
around it: a call that resets a row that was cancelled with its request, and a start by
`execute_tool` of a row that another call has put to wait.
-/

namespace SupportPilot

open Library

/-- Statuses from which a row is started, or may be reset, without another gate. -/
def ToolExecutionStatus.ungated : ToolExecutionStatus → Bool
  | .pending | .running | .succeeded | .failed | .timedOut => true
  | .waitingForApproval | .cancelled | .blockedByPolicy | .approvalTerminated => false

/-- A row with a request is ungated only after an approval. -/
def GatedRow (e : ToolExecution) : Prop :=
  e.status.ungated = true → ∀ a, e.approvalRequest = some a → a.status = .approved

theorem GatedRow.write {e e' : ToolExecution} (h : GatedRow e)
    (hrequest : e'.approvalRequest = e.approvalRequest)
    (hstatus : e'.status.ungated = true → e.status.ungated = true) : GatedRow e' :=
  fun hungated a ha => h (hstatus hungated) a (hrequest ▸ ha)

theorem gatedRow_gate {e e' : ToolExecution} {createdBy : Option Nat} {now : Nat}
    {err : Option ToolError} (hI : RowInvariant e) (hnone : e.policyEvaluation = none)
    (hcommit : GateCommit e createdBy now e' err) : GatedRow e' := by
  have hunrequested := hI.unevaluated hnone
  intro hungated a ha
  cases hcommit with
  | allowed => cases hunrequested.symm.trans ha
  | denied => cases hungated
  | approvalRequired => cases hungated

/-- A row with a pending request is gated, so what resolves the request finds it waiting. -/
theorem GatedRow.pending {e : ToolExecution} {a : ApprovalRequest} (h : GatedRow e)
    (ha : e.approvalRequest = some a) (hpending : a.status = .pending) :
    e.status.ungated = false := by
  by_contra hungated
  have happroved := h (by simpa using hungated) a ha
  simp [hpending] at happroved

theorem gatedRow_terminate {e : ToolExecution} (hgated : e.status.ungated = false)
    (a : Option ApprovalRequest) (code message : String) (now : Nat) :
    GatedRow (terminateExecution { e with approvalRequest := a } code message now) := by
  intro hungated
  unfold terminateExecution at hungated
  split at hungated
  · cases hungated
  · rw [show e.status.ungated = true from hungated] at hgated
    cases hgated

theorem gatedRow_decide {e : ToolExecution} {a : ApprovalRequest} (h : GatedRow e)
    (ha : e.approvalRequest = some a) (hpending : a.status = .pending) (actor : Nat)
    (decision : ApprovalDecisionValue) (now : Nat) :
    GatedRow (recordDecision e a actor decision now) := by
  cases decision with
  | approve =>
    intro _ b hb
    cases hb
    rfl
  | reject => exact gatedRow_terminate (h.pending ha hpending) _ _ _ now

theorem gatedRow_cancelApproval {e : ToolExecution} (h : GatedRow e) (now : Nat) :
    GatedRow (cancelApprovalForExecution e now) := by
  unfold cancelApprovalForExecution
  split
  · exact h
  · rename_i a ha
    split
    · exact h
    · rename_i hpending
      have hgated := h.pending ha (by simpa using hpending)
      intro hungated
      rw [show e.status.ungated = true from hungated] at hgated
      cases hgated

theorem gatedRow_cancelChild {e : ToolExecution} (h : GatedRow e) (r : Nat) (run : AgentRun)
    (now : Nat) : GatedRow (Store.cancelChildOf r run now e) := by
  unfold Store.cancelChildOf cancelChildExecution
  split
  · split
    · nofun
    · exact h
  · exact h

theorem gatedRow_recoverChild {e : ToolExecution} (h : GatedRow e) (r now : Nat) :
    GatedRow (Store.recoverChildOf r now e) := by
  unfold Store.recoverChildOf failInFlightToolExecution
  split
  · split
    · rename_i hflight
      refine h.write rfl fun _ => ?_
      rcases hflight with hpending | hrunning
      · rw [hpending]
        rfl
      · rw [hrunning]
        rfl
    · exact h
  · exact h

/-- Row `x` is gated, if it exists. -/
def GatedAt (x : Nat) (s : Store) : Prop :=
  AllRows (fun i e => i = x → GatedRow e) s.executions

variable {x : Nat}

theorem gatedAt_serviceStep {s s' : Store} {event : ServiceEvent} {started : Option Worker}
    (hs : GatedAt x s) (h : ServiceStep s event s' started) : GatedAt x s' := by
  cases h with
  | cancelledRun => exact .map fun i e he hi => gatedRow_cancelChild (hs i e he hi) _ _ _
  | recoveredRun => exact .map fun i e he hi => gatedRow_recoverChild (hs i e he hi) _ _
  | decided hx happroval hpending =>
    exact AllRows.set hs fun hi => gatedRow_decide (hs _ _ hx hi) happroval hpending _ _ _
  | expired _ hx happroval hpending =>
    exact AllRows.set hs fun hi =>
      gatedRow_terminate ((hs _ _ hx hi).pending happroval hpending) _ _ _ _
  | cancelledApproval hx =>
    exact AllRows.set hs fun hi => gatedRow_cancelApproval (hs _ _ hx hi) _
  | _ => exact hs

theorem gatedAt_workerStep {c : Configuration} {i : Nat} {w : Worker} {a : WorkerAction}
    {s' : Store} {p' : Point} (hr : Reachable c) (hp : KeepsGate x c (.work i a))
    (hs : GatedAt x c.store) (hw : c.procs[i]? = some w)
    (h : WorkerStep i w c.store a w.point s' p') : GatedAt x s' := by
  have hrows := (invariants hr).store.rows
  have hpoint := ((invariants hr).procs i w hw).point
  generalize hpt : w.point = p at h hpoint
  cases h with
  | vanished => rwa [GatedAt, Store.vanish_executions]
  | createdRow => exact AllRows.append hs fun _ _ a ha => by simp [newExecution] at ha
  | resetRow hrun hfind hx hreset =>
    refine AllRows.set hs fun hi _ a ha => ?_
    subst hi
    obtain ⟨-, hfailed | htimedOut | hcancelled, -⟩ := resolveExisting_reset hreset
    · exact hs _ _ hx rfl (by rw [hfailed]; rfl) a ha
    · exact hs _ _ hx rfl (by rw [htimedOut]; rfl) a ha
    · exact keepsGate_reset hp hw hpt hrun hfind hx hreset hcancelled ha
  | gateAllowed hrun hx hnone hcommit =>
    exact AllRows.set hs fun _ => gatedRow_gate (hrows _ _ hx) hnone hcommit
  | gateRaised hrun hx hnone hcommit =>
    exact AllRows.set hs fun _ => gatedRow_gate (hrows _ _ hx) hnone hcommit
  | startedRow hx hstatus =>
    refine AllRows.set hs fun hi _ a ha => ?_
    subst hi
    rcases hstatus with hpending | hwaiting
    · exact hs _ _ hx rfl (by rw [hpending]; rfl) a ha
    · simpa using startsWaiting_false hp.1 hw hpt rfl hx hwaiting ha
  | countedAttempt hx => exact AllRows.set hs fun hi => (hs _ _ hx hi).write rfl fun h => h
  | finalized hx hstored =>
    obtain ⟨hrunning, hrow⟩ := CallExit.finalize_stored hstored
    refine AllRows.set hs fun hi => (hs _ _ hx hi).write ?_ fun _ => by rw [hrunning]; rfl
    rcases hrow with ⟨_, -, rfl⟩ | ⟨_, _, _, _, -, rfl⟩ <;> rfl
  | claimedRow hx =>
    refine AllRows.set hs fun hi _ b hb => ?_
    obtain ⟨-, a', ha', hstatus⟩ := hpoint.get hx
    obtain rfl : a' = b := Option.some.inj (ha'.symm.trans hb)
    exact hstatus
  | _ => exact hs

theorem gatedAt {c : Configuration} (h : RunsWith (KeepsGate x) c) : GatedAt x c.store :=
  store_of_steps (fun _ _ h => by simp at h)
    (fun _ _ _ _ _ _ hs hstep => gatedAt_serviceStep hs hstep)
    (fun _ _ _ _ _ _ hr hp hs hw _ hstep =>
      gatedAt_workerStep hr.reachable hp hs hw hstep) h

def Approved (status : ApprovalStatus) : Prop :=
  status = .approved

theorem stable_approved : StableStatus Approved :=
  stableStatus_of_settled nofun

theorem startsCleared_approved : StartsCleared (KeepsGate x) Approved x := by
  intro c i now w call e hr hp hw hpt hx he hstatus
  refine clearedBy_of_start hr.reachable hw hpt hx he hstatus fun a ha => ?_
  rcases hstatus with hpending | hwaiting
  · exact gatedAt hr x e he rfl (by rw [hpending]; rfl) a ha
  · simpa [Approved] using startsWaiting_false hp.1 hw hpt hx he hwaiting ha

/-! ## Main results -/

/-- The law of the gate for row `x`: evaluated, not denied, and approved where that is
required. -/
def GateLaw (s : Store) (x : Nat) : Prop :=
  RowAt s x (ClearedBy Approved)

/-- No handler runs on a denied row in any run of the system; and in every run in which the
gate of row `x` is kept, none runs on it without the approval that it requires. -/
theorem handler_gated {c : Configuration} {i r : Nat} (hinvokes : Invokes c i r x)
    (h : Reachable c) :
    RowAt c.store x (fun e => ∃ ev, e.policyEvaluation = some ev ∧ ev.decision ≠ .deny) ∧
      (RunsWith (KeepsGate x) c → GateLaw c.store x) := by
  refine ⟨?_, fun hkeeps => ?_⟩
  · have hrow := hinvokes.cleared (fun _ _ _ _ => trivial) trivial startsCleared_evaluated h
    exact hrow.imp fun e he => ⟨he.choose, he.choose_spec.1, he.choose_spec.2.1⟩
  · exact hinvokes.cleared stable_approved rfl startsCleared_approved hkeeps

theorem handler_gated_answered :
    Invokes (scenarioEnd (KeepsGate 0) (answeredRun.take 15)) 1 0 0 ∧
      GateLaw (scenarioEnd (KeepsGate 0) (answeredRun.take 15)).store 0 := by
  have hworker : (scenarioEnd (KeepsGate 0) (answeredRun.take 15)).procs[1]? =
      some ⟨0, .resumed, .running, .invoke ⟨0, ⟨"crm_update", {}⟩, 1, true, false⟩, true⟩ := by
    decide
  have hinvokes : Invokes (scenarioEnd (KeepsGate 0) (answeredRun.take 15)) 1 0 0 :=
    ⟨_, _, hworker, rfl, rfl, rfl, rfl⟩
  have hrun := runsWith_scenarioEnd (KeepsGate 0) (answeredRun.take 15)
  exact ⟨hinvokes, (handler_gated hinvokes hrun.reachable).2 hrun⟩

/-- Two runs of a workspace make the same call in their resumed segments, under the same
key. The first is cancelled while it waits for the approval; the second resets its row. -/
def sharedKey : List Step :=
  let first := ⟨"crm_update", "{}", "f", "agent:a:turn:1:d"⟩
  let other := ⟨"crm_update", "{}", "f", "agent:b:turn:1:d"⟩
  let shared := ⟨"crm_update", "{}", "f", "agent:unknown:turn:2:d"⟩
  let tool := ⟨"crm_update", {}⟩
  [.env (.createRun 1 {} (some 5) none (some 7) 0), .env (.createRun 1 {} (some 6) none (some 7) 0),
    .env (.claimRun 0 1)] ++ pausesCall 0 first tool ++ resumesCall 1 0 tool ++
    pausesCall 1 shared tool ++ [.env (.cancelRun 0 5), .env (.claimRun 1 6)] ++
    pausesCall 2 other tool ++ resumesCall 3 2 tool ++ claimsCall 3 shared tool ++
    [.work 3 (.transitionRunning 8), .work 3 .reserveSlot, .work 3 .countAttempt]

/-- The handler of a row that requires an approval is invoked although its request was
cancelled. -/
theorem handler_not_always_gated :
    ¬ ∀ c, Reachable c → ∀ i r x, Invokes c i r x → GateLaw c.store x := by
  intro hlaw
  have hworker : (freeEnd sharedKey).procs[3]? =
      some ⟨1, .resumed, .running, .invoke ⟨1, ⟨"crm_update", {}⟩, 1, false, false⟩, true⟩ := by
    decide
  have hrow : (freeEnd sharedKey).store.executions[1]?.map (fun e =>
      (e.policyEvaluation.map (·.decision), e.approvalRequest.map (·.status))) =
      some (some .requireApproval, some .cancelled) := by decide
  obtain ⟨e, he, ev, hev, -, happroved⟩ := hlaw _ (runsWith_scenarioEnd _ sharedKey) 3 1 1
    ⟨_, _, hworker, rfl, rfl, rfl, rfl⟩
  simp only [he, hev, Option.map_some, Option.some.injEq, Prod.mk.injEq] at hrow
  obtain ⟨a, ha, hstatus⟩ := happroved hrow.1
  simp [ha, show a.status = .approved from hstatus] at hrow

end SupportPilot
