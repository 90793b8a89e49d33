import SupportPilot.Runtime.Conditions
import SupportPilot.Runtime.Invariants

/-!
# Rows that handlers run on

A handler runs on a row after the row was started, and a started row was evaluated. If
every start by `execute_tool` finds a row whose request, if it has one, is in a good
status, then so is the request of every row that a handler was ever invoked on. A resume
claims a row only for a worker that read an approval, so `approved` is always good.
-/

namespace SupportPilot

open Library

/-- Worker `i` can begin a handler invocation on row `x` on behalf of run `r`. -/
def Invokes (c : Configuration) (i r x : Nat) : Prop :=
  ∃ w call, c.procs[i]? = some w ∧ w.alive = true ∧ w.run = r ∧ w.point = .invoke call ∧
    call.execution = x

/-- The row was evaluated and not denied, and where an approval is required its request is in
a good status. -/
def ClearedBy (good : ApprovalStatus → Prop) (e : ToolExecution) : Prop :=
  ∃ ev, e.policyEvaluation = some ev ∧ ev.decision ≠ .deny ∧
    (ev.decision = .requireApproval → ∃ a, e.approvalRequest = some a ∧ good a.status)

/-- No step takes a request out of the good statuses. -/
def StableStatus (good : ApprovalStatus → Prop) : Prop :=
  ∀ a a', ApprovalKeeps a a' → good a.status → good a'.status

theorem stableStatus_of_settled {good : ApprovalStatus → Prop} (hpending : ¬ good .pending) :
    StableStatus good := by
  intro a a' hkeep hgood
  rw [hkeep.settled fun hp => hpending (hp ▸ hgood)]
  exact hgood

variable {good : ApprovalStatus → Prop} {x : Nat}

theorem ClearedBy.keeps (hstable : StableStatus good) {e e' : ToolExecution} (h : RowKeeps e e')
    (hc : ClearedBy good e) : ClearedBy good e' := by
  obtain ⟨ev, hev, hdeny, happroval⟩ := hc
  refine ⟨ev, h.evaluation ev hev, hdeny, fun hrequire => ?_⟩
  obtain ⟨a, ha, hgood⟩ := happroval hrequire
  obtain ⟨a', ha', hkeep⟩ := h.approval a ha
  exact ⟨a', ha', hstable a a' hkeep hgood⟩

/-- A started row is cleared once its request is known to be in a good status. -/
theorem clearedBy_of_request {e : ToolExecution} (hrow : RowInvariant e)
    (hevaluated : e.policyEvaluation.isSome) (hblocked : e.status ≠ .blockedByPolicy)
    (hgood : ∀ a, e.approvalRequest = some a → good a.status) : ClearedBy good e := by
  obtain ⟨ev, hev⟩ := Option.isSome_iff_exists.mp hevaluated
  refine ⟨ev, hev, fun hdeny => hblocked (hrow.denied ev hev hdeny), fun hrequire => ?_⟩
  obtain ⟨a, ha⟩ := Option.isSome_iff_exists.mp ((hrow.requested ev hev).mp hrequire)
  exact ⟨a, ha, hgood a ha⟩

/-- A handler was invoked on row `x` only after the row was cleared. -/
def HandlersCleared (good : ApprovalStatus → Prop) (x : Nat) (s : Store) : Prop :=
  ∀ i r first, .handlerStarted i r x first ∈ s.history → RowAt s x (ClearedBy good)

/-- A worker that owns the started row `x` found it cleared. -/
def ClearedWorker (good : ApprovalStatus → Prop) (x : Nat) (s : Store) (w : Worker) : Prop :=
  ∀ call, w.point.startedCall = some call → call.execution = x → RowAt s x (ClearedBy good)

/-- Every start of row `x` by `execute_tool` finds it cleared. -/
def StartsCleared (condition : Configuration → Step → Prop) (good : ApprovalStatus → Prop)
    (x : Nat) : Prop :=
  ∀ (c : Configuration) (i now : Nat) (w : Worker) (call : Call) (e : ToolExecution),
    RunsWith condition c → condition c (.work i (.transitionRunning now)) →
    c.procs[i]? = some w → w.point = .transitionRunning call → call.execution = x →
    c.store.executions[x]? = some e → e.status = .pending ∨ e.status = .waitingForApproval →
    ClearedBy good e

/-- A row that `execute_tool` starts is evaluated, and a row to start is not a blocked one. -/
theorem clearedBy_of_start {c : Configuration} {i : Nat} {w : Worker} {call : Call}
    {e : ToolExecution} (hc : Reachable c) (hw : c.procs[i]? = some w)
    (hpoint : w.point = .transitionRunning call) (hx : call.execution = x)
    (he : c.store.executions[x]? = some e)
    (hstatus : e.status = .pending ∨ e.status = .waitingForApproval)
    (hgood : ∀ a, e.approvalRequest = some a → good a.status) : ClearedBy good e := by
  have hevaluated := ((invariants hc).procs i w hw).point
  rw [hpoint] at hevaluated
  refine clearedBy_of_request ((invariants hc).store.rows x e he)
    (hevaluated.1.get (hx ▸ he)) ?_ hgood
  intro hblocked
  simp [hblocked] at hstatus

theorem startsCleared_evaluated : StartsCleared (fun _ _ => True) (fun _ => True) x :=
  fun _ _ _ _ _ _ hr _ hw hpoint hx he hstatus =>
    clearedBy_of_start hr hw hpoint hx he hstatus fun _ _ => trivial

theorem RowAt.cleared {s s' : Store} (hstable : StableStatus good)
    (h : RowAt s x (ClearedBy good)) (hs : Keeps s s') : RowAt s' x (ClearedBy good) :=
  h.keeps hs fun _ _ hrow he => he.keeps hstable hrow

theorem clearedBy_approved (happroved : good .approved) {r : Nat} {e : ToolExecution}
    (hrow : RowInvariant e) (hstarted : Started e) (hresolved : ResolvedFor r .approved e) :
    ClearedBy good e := by
  obtain ⟨ev, hev⟩ := Option.isSome_iff_exists.mp hstarted.evaluated
  obtain ⟨-, a, ha, hstatus⟩ := hresolved
  have hrequire : ev.decision = .requireApproval := (hrow.requested ev hev).mpr (by simp [ha])
  exact ⟨ev, hev, by simp [hrequire], fun _ => ⟨a, ha, hstatus ▸ happroved⟩⟩

theorem clearedWorker_step {condition : Configuration → Step → Prop}
    (hstable : StableStatus good) (happroved : good .approved)
    (hstarts : StartsCleared condition good x) {c : Configuration} {i : Nat} {w : Worker}
    {a : WorkerAction} {s' : Store} {p' : Point} (hr : RunsWith condition c)
    (hp : condition c (.work i a)) (hw : c.procs[i]? = some w)
    (hcleared : ClearedWorker good x c.store w) (h : WorkerStep i w c.store a w.point s' p')
    {call : Call} (hcall : p'.startedCall = some call) (hx : call.execution = x) :
    RowAt s' x (ClearedBy good) := by
  have hs := keeps_workerStep h
  have hI := invariants hr.reachable
  have hpoint := (hI.procs i w hw).point
  rcases startedCall_workerStep h hcall with
    ⟨old, hold, hsame⟩ | ⟨now, row, rfl, hstart, he, hstatus, hset⟩ | ⟨n, hresume, -⟩
  · exact (hcleared old hold (hsame.trans hx)).cleared hstable hs
  · obtain ⟨ev, hev, hrequest⟩ :=
      hstarts c i now w call row hr hp hw hstart hx (hx ▸ he) hstatus
    have hlt := (List.getElem?_eq_some_iff.mp he).1
    refine ⟨row.start now, ?_, ev, hev, hrequest⟩
    rw [hset, ← hx, List.getElem?_set_self hlt]
  · rw [hresume, hx] at hpoint
    obtain ⟨e, he, hstarted, hresolved⟩ := hpoint.1
    have hrow : RowAt c.store x (ClearedBy good) :=
      ⟨e, he, clearedBy_approved happroved (hI.store.rows x e he) hstarted hresolved⟩
    exact hrow.cleared hstable hs

/-- Handlers are only ever invoked on cleared rows. -/
theorem cleared {condition : Configuration → Step → Prop} (hstable : StableStatus good)
    (happroved : good .approved) (hstarts : StartsCleared condition good x) {c : Configuration}
    (h : RunsWith condition c) :
    c.Annotated (HandlersCleared good x) (ClearedWorker good x) := by
  refine annotated_of_steps (by rintro _ _ _ ⟨⟩) ?_ ?_ ?_ h
  · intro s s' w hs hw call hcall hx
    exact (hw call hcall hx).cleared hstable hs
  · intro c event s' started _ _ hc hstep
    refine ⟨fun i r first hevent => ?_, fun w hw call hcall => ?_⟩
    · rcases event_serviceStep hstep hevent with hold | hnew
      · exact (hc.store i r first hold).cleared hstable (keeps_serviceStep hstep)
      · cases hnew
    · cases hw
      cases hstep <;> cases hcall
  · intro c i w a s' p' hr hp hc hw _ hstep
    refine ⟨fun j r first hevent => ?_, fun alive call hcall hx => ?_⟩
    · have hs := keeps_workerStep hstep
      rcases event_workerStep hstep hevent with hold | ⟨p, hpoint, hnew⟩
      · exact (hc.store j r first hold).cleared hstable hs
      · cases hnew with
        | handlerStarted call =>
          exact (hc.procs i w hw call (by rw [hpoint]; rfl) rfl).cleared hstable hs
    · exact clearedWorker_step hstable happroved hstarts hr hp hw (hc.procs i w hw) hstep
        hcall hx

theorem Invokes.cleared {condition : Configuration → Step → Prop} (hstable : StableStatus good)
    (happroved : good .approved) (hstarts : StartsCleared condition good x) {c : Configuration}
    {i r : Nat} (h : RunsWith condition c) (hinvokes : Invokes c i r x) :
    RowAt c.store x (ClearedBy good) := by
  obtain ⟨w, call, hw, -, -, hpoint, hx⟩ := hinvokes
  exact (SupportPilot.cleared hstable happroved hstarts h).procs i w hw call
    (by rw [hpoint]; rfl) hx

end SupportPilot
