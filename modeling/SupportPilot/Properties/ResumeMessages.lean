import SupportPilot.Runtime.Ownership
import SupportPilot.Runtime.Scenario

/-!
# Resume messages and the pause they are for

A resume message names an approval, but the claim that it leads to is keyed on the run.
A run pauses again and again, and messages are redelivered, so a message of an approval
that was consumed before can find its run waiting for a newer one. As long as no such
message reaches a waiting run, every claim is for the pause that it ends.
-/

namespace SupportPilot

open Library

def Event.pauseOf (r : Nat) : Event → Option Nat
  | .runPaused r' x => if r' = r then some x else none
  | _ => none

/-- The execution that run `r` paused on last. -/
def pausedOn (s : Store) (r : Nat) : Option Nat :=
  s.history.findSome? (Event.pauseOf r)

def Event.isResumeOf (r x : Nat) : Event → Bool
  | .runResumeClaimed r' x' => r' == r && x' == x
  | _ => false

/-- Run `r` was resumed for the approval of row `x` before. -/
def consumed (s : Store) (r x : Nat) : Bool :=
  s.history.any (Event.isResumeOf r x)

/-- A message of an approval that was consumed before reaches its run while it waits. -/
def resumesConsumed (c : Configuration) : Step → Bool
  | .work i (.claimRunForResume _) => (c.procs[i]?).any fun w =>
    match w.point with
    | .claimRun x _ => consumed c.store w.run x &&
      (c.store.runs[w.run]?).any (·.status == .waitingForApproval)
    | _ => false
  | _ => false

abbrev ResumesOnce (c : Configuration) (l : Step) : Prop :=
  resumesConsumed c l = false

theorem resumesOnce_unconsumed {c : Configuration} {i now x : Nat} {w : Worker}
    {status : ApprovalStatus} {run : AgentRun}
    (h : ResumesOnce c (.work i (.claimRunForResume now))) (hw : c.procs[i]? = some w)
    (hpoint : w.point = .claimRun x status) (hrun : c.store.runs[w.run]? = some run)
    (hwaiting : run.status = .waitingForApproval) : consumed c.store w.run x = false := by
  simpa [ResumesOnce, resumesConsumed, hw, hpoint, hrun, hwaiting] using h

theorem pausedOn_record {s s' : Store} {event : Event} {r : Nat}
    (hhistory : s'.history = event :: s.history) (hevent : event.pauseOf r = none) :
    pausedOn s' r = pausedOn s r := by
  rw [pausedOn, hhistory, List.findSome?_cons, hevent, pausedOn]

theorem pausedOn_same {s s' : Store} {r : Nat} (hhistory : s'.history = s.history) :
    pausedOn s' r = pausedOn s r := by
  rw [pausedOn, hhistory, pausedOn]

theorem pausedOn_serviceStep {s s' : Store} {event : ServiceEvent} {started : Option Worker}
    (h : ServiceStep s event s' started) (r : Nat) : pausedOn s' r = pausedOn s r := by
  rcases recorded_serviceStep h with hsame | ⟨event, hnew, hrecords⟩
  · exact pausedOn_same hsame
  · exact pausedOn_record hnew (by cases hrecords <;> rfl)

theorem consumed_keeps {s s' : Store} (hs : Keeps s s') {r x : Nat}
    (h : consumed s' r x = false) : consumed s r x = false := by
  obtain ⟨recent, hrecent⟩ := hs.history
  rw [consumed, hrecent, List.any_append, Bool.or_eq_false_iff] at h
  exact h.2

/-! ## Unconsumed requests -/

/-- Run `r` waits for row `x`, which it paused on last. -/
def PausedAt (s : Store) (r x : Nat) : Prop :=
  ∃ run, s.runs[r]? = some run ∧ run.status = .waitingForApproval ∧ pausedOn s r = some x

/-- The worker of run `r` is about to pause it on row `x`. -/
def Pausing (c : Configuration) (r x : Nat) : Prop :=
  ∃ (i : Nat) (w : Worker), c.procs[i]? = some w ∧ w.run = r ∧ w.point = .approvalRequired x

/-- The unconsumed request of a live run is the one that the run is paused on, or that its
worker is about to pause on. -/
def PauseInvariant (c : Configuration) : Prop :=
  ∀ (x : Nat) (e : ToolExecution), c.store.executions[x]? = some e →
    e.approvalRequest.isSome → ¬ Ended c.store e.agentRun →
    consumed c.store e.agentRun x = false →
    PausedAt c.store e.agentRun x ∨ Pausing c e.agentRun x

variable {c : Configuration} {i : Nat} {w : Worker} {a : WorkerAction} {s' : Store} {p' : Point}

/-- While a run waits, only a resume claim of its own moves it or its last pause. -/
theorem waiting_workerStep (hc : Holders c) (hw : c.procs[i]? = some w)
    (h : WorkerStep i w c.store a w.point s' p') {r : Nat} {run : AgentRun}
    (hrun : c.store.runs[r]? = some run) (hwaiting : run.status = .waitingForApproval) :
    (s'.runs[r]? = some run ∧ pausedOn s' r = pausedOn c.store r) ∨
      ∃ y status now run', a = .claimRunForResume now ∧ w.point = .claimRun y status ∧
        w.run = r ∧ s'.history = .runResumeClaimed r y :: c.store.history ∧
        s'.runs[r]? = some run' ∧ run'.status = .running ∧
        p' = if status = .approved then .resumeExecution y else .graph := by
  have hidle : w.run = r → w.point.active = true → False := fun hr hactive =>
    hc.free hrun (.inr hwaiting) hw ⟨hr, hactive⟩
  have hpaused : pausedOn s' r = pausedOn c.store r := by
    rcases recorded_workerStep h with hsame | ⟨event, hnew, hrecords⟩
    · exact pausedOn_same hsame
    · refine pausedOn_record hnew ?_
      generalize hp : w.point = p at hrecords
      cases hrecords with
      | runPaused x =>
        exact if_neg fun hr => hidle hr (by rw [hp]; rfl)
      | _ => rfl
  rcases runs_workerStep h with hsame | ⟨old, new, hold, hset, hwrite⟩
  · exact .inl ⟨hsame ▸ hrun, hpaused⟩
  · by_cases hr : w.run = r
    · right
      generalize hp : w.point = p at hwrite
      generalize hh : s'.history = history at hwrite
      cases hwrite with
      | reserve => exact absurd (by rw [hp]; rfl) (hidle hr)
      | pause => exact absurd (by rw [hp]; rfl) (hidle hr)
      | resume y now status _ hrunning =>
        refine ⟨y, status, now, new, rfl, rfl, hr, by rw [hr], ?_, hrunning, rfl⟩
        rw [hset, ← hr, List.getElem?_set_self (List.getElem?_eq_some_iff.mp hold).1]
      | finish hends =>
        exact absurd (by rw [hp]; cases p <;> first | rfl | cases hends) (hidle hr)
    · exact .inl ⟨by rw [hset, List.getElem?_set_ne hr, hrun], hpaused⟩

/-- A resume claim that finds its run waiting, with an unconsumed message, is for the row that
the run is paused on. -/
theorem PauseInvariant.claim (hr : Reachable c) (hc : PauseInvariant c) {r y : Nat}
    {run : AgentRun} (hrun : c.store.runs[r]? = some run)
    (hwaiting : run.status = .waitingForApproval) {status : ApprovalStatus}
    (hrow : RowAt c.store y (ResolvedFor r status))
    (hunconsumed : consumed c.store r y = false) : pausedOn c.store r = some y := by
  obtain ⟨e, he, rfl, a, ha, -⟩ := hrow
  have hlive : ¬ Ended c.store e.agentRun := by
    rintro ⟨run', hrun', hterminal⟩
    rw [hrun] at hrun'
    cases hrun'
    rw [hwaiting] at hterminal
    cases hterminal
  rcases hc y e he (by simp [ha]) hlive hunconsumed with
    ⟨run', hrun', -, hpaused⟩ | ⟨j, v, hv, hvr, hvp⟩
  · exact hpaused
  · exact absurd ⟨hvr, by rw [hvp]; rfl⟩ ((holders hr).free hrun (.inr hwaiting) hv)

/-- A worker about to pause its run vanishes there, or pauses it, or finds it ended. -/
theorem pausing_workerStep (hc : Holders c) (hw : c.procs[i]? = some w) {x : Nat}
    (hpoint : w.point = .approvalRequired x) (h : WorkerStep i w c.store a w.point s' p') :
    (p' = .approvalRequired x ∧ s'.runs = c.store.runs) ∨ PausedAt s' w.run x ∨
      Ended c.store w.run := by
  have hactive : w.point.active = true := by rw [hpoint]; rfl
  rw [hpoint] at h
  cases h with
  | vanished => exact .inl ⟨rfl, Store.vanish_runs _ _ _⟩
  | pausedRun hrun hrunning =>
    refine .inr (.inl ⟨_, List.getElem?_set_self (List.getElem?_eq_some_iff.mp hrun).1, rfl, ?_⟩)
    simp [pausedOn, Event.pauseOf]
  | unpausedRun hrun hnot =>
    refine .inr (.inr ⟨_, hrun, ?_⟩)
    by_contra hlive
    exact hnot (hc.running hw hactive hrun (by simpa using hlive))
  | failedRun hcases => rcases hcases with ⟨_, _, -, hp⟩ | ⟨-, hp⟩ <;> cases hp
  | unfinishedRun hcases => rcases hcases with ⟨_, _, _, -, hp⟩ | ⟨_, _, _, -, hp⟩ <;> cases hp

theorem pauseInvariant_workerStep (hr : Reachable c) (hp : ResumesOnce c (.work i a))
    (hc : PauseInvariant c) (hw : c.procs[i]? = some w)
    (h : WorkerStep i w c.store a w.point s' p') (alive : Bool) :
    PauseInvariant ⟨s', c.procs.set i { w with point := p', alive := alive }⟩ := by
  have hkeeps := keeps_workerStep h
  have hlt := (List.getElem?_eq_some_iff.mp hw).1
  intro x e' he' hrequest hlive hunconsumed
  have horigin := rowOrigin_workerStep (invariants hr).store.rows h x e' he'
  generalize hpt : w.point = p at horigin
  cases horigin with
  | created hnone => simp [hnone] at hrequest
  | gate _ _ hgate hx hp' he hnone hrun =>
    have howner := (gateOwners hr).procs i w hw _ (by rw [hpt, hgate]; rfl)
    right
    refine ⟨i, _, List.getElem?_set_self hlt, ?_, hp'⟩
    rcases howner.get (hx ▸ he) with hsame | hevaluated | hended
    · exact (hrun.trans hsame).symm
    · simp [hnone] at hevaluated
    · exact absurd (hrun ▸ hended.keeps hkeeps) hlive
  | @kept e he hrun hsame =>
    rw [hrun] at hlive hunconsumed ⊢
    have hlive' : ¬ Ended c.store e.agentRun := fun hended => hlive (hended.keeps hkeeps)
    have hold := consumed_keeps hkeeps hunconsumed
    rcases hc x e he (hsame ▸ hrequest) hlive' hold with
      ⟨run, hget, hwaiting, hpaused⟩ | ⟨j, v, hv, hvr, hvp⟩
    · rcases waiting_workerStep (holders hr) hw h hget hwaiting with
        ⟨hget', hpaused'⟩ | ⟨y, status, now, run', rfl, hclaim, hwr, hhistory, -⟩
      · exact .inl ⟨run, hget', hwaiting, hpaused'.trans hpaused⟩
      · -- The claim consumes the pause, and the request of the pause is the one at `x`.
        have hpoint := ((invariants hr).procs i w hw).point
        rw [hclaim] at hpoint
        have hy := resumesOnce_unconsumed hp hw hclaim (hwr ▸ hget) hwaiting
        have hpausedY := hc.claim hr hget hwaiting (hwr ▸ hpoint.1) (hwr ▸ hy)
        rw [hpaused] at hpausedY
        cases hpausedY
        rw [consumed, hhistory] at hunconsumed
        simp [Event.isResumeOf] at hunconsumed
    · by_cases hji : j = i
      · subst hji
        rw [hw] at hv
        cases hv
        rcases pausing_workerStep (holders hr) hw hvp h with ⟨hstay, -⟩ | hpaused | hended
        · exact .inr ⟨j, _, List.getElem?_set_self hlt, hvr, hstay⟩
        · exact .inl (hvr ▸ hpaused)
        · exact absurd (hvr ▸ hended) hlive'
      · exact .inr ⟨j, v, by rw [List.getElem?_set_ne (Ne.symm hji), hv], hvr, hvp⟩

theorem pauseInvariant_serviceStep {event : ServiceEvent} {started : Option Worker}
    (hc : PauseInvariant c) (h : ServiceStep c.store event s' started) :
    PauseInvariant ⟨s', c.procs ++ started.toList⟩ := by
  have hkeeps := keeps_serviceStep h
  intro x e' he' hrequest hlive hunconsumed
  obtain ⟨e, he, hrun, hrequested, -⟩ := rowOrigin_serviceStep h x e' he'
  rw [hrun] at hlive hunconsumed ⊢
  have hlive' : ¬ Ended c.store e.agentRun := fun hended => hlive (hended.keeps hkeeps)
  rcases hc x e he (hrequested hrequest) hlive' (consumed_keeps hkeeps hunconsumed) with
    ⟨run, hget, hwaiting, hpaused⟩ | ⟨j, v, hv, hvr, hvp⟩
  · obtain ⟨run', hget', -⟩ := hkeeps.runs _ _ hget
    rcases runs_serviceStep h hget hget' with rfl | hpending | hterminal
    · exact .inl ⟨run', hget', hwaiting, (pausedOn_serviceStep h _).trans hpaused⟩
    · rw [hwaiting] at hpending
      cases hpending
    · exact absurd ⟨run', hget', hterminal⟩ hlive
  · exact .inr ⟨j, v, getElem?_append_some hv _, hvr, hvp⟩

theorem pauseInvariant (h : RunsWith ResumesOnce c) : PauseInvariant c :=
  configuration_of_steps (fun _ _ he => by simp at he)
    (fun _ _ _ _ _ _ hc hstep => pauseInvariant_serviceStep hc hstep)
    (fun _ _ _ _ _ _ alive hr hp hc hw _ hstep =>
      pauseInvariant_workerStep hr.reachable hp hc hw hstep alive) h

/-! ## Main results -/

/-- The step moves run `r` from `WAITING_FOR_APPROVAL` to `RUNNING`. -/
def Resumes (c : Configuration) (l : Step) (r : Nat) : Prop :=
  ∃ c' run run', program.system.step l c = some c' ∧ c.store.runs[r]? = some run ∧
    run.status = .waitingForApproval ∧ c'.store.runs[r]? = some run' ∧ run'.status = .running

/-- The message that the step follows is for the row that run `r` is paused on; it was not
consumed before, and the request of the row is resolved. -/
def ResumeLaw (c : Configuration) (l : Step) (r : Nat) : Prop :=
  ∃ i now w x status, l = .work i (.claimRunForResume now) ∧ c.procs[i]? = some w ∧
    w.point = .claimRun x status ∧ pausedOn c.store r = some x ∧ consumed c.store r x = false ∧
    RowAt c.store x fun e => ∃ a, e.approvalRequest = some a ∧ a.status.resolved = true

/-- A run resumes only by the claim of a worker with a resume message of one of its rows. -/
theorem Resumes.claim (hr : Reachable c) {l : Step} {r : Nat} (h : Resumes c l r) :
    ∃ i now w x status run, l = .work i (.claimRunForResume now) ∧ c.procs[i]? = some w ∧
      w.run = r ∧ w.point = .claimRun x status ∧ c.store.runs[r]? = some run ∧
      run.status = .waitingForApproval := by
  obtain ⟨c', run, run', hstep, hrun, hwaiting, hrun', hrunning⟩ := h
  cases l with
  | env event =>
    obtain ⟨s', started, hout, rfl⟩ := Program.step_env hstep
    rcases runs_serviceStep (serviceStep_cases hout) hrun hrun' with rfl | hpending | hterminal
    · simp [hwaiting] at hrunning
    · simp [hwaiting] at hpending
    · rw [hrunning] at hterminal
      cases hterminal
  | work i a =>
    obtain ⟨w, s', w', hw, hout, rfl⟩ := Program.step_work hstep
    obtain ⟨-, p', alive, hcase, rfl⟩ := workStep_cases hout
    rcases waiting_workerStep (holders hr) hw hcase hrun hwaiting with
      ⟨hsame, -⟩ | ⟨x, status, now, -, rfl, hpoint, hwr, -⟩
    · rw [show s'.runs[r]? = some run' from hrun'] at hsame
      cases hsame
      simp [hwaiting] at hrunning
    · exact ⟨i, now, w, x, status, run, rfl, hw, hwr, hpoint, hrun, hwaiting⟩

/-- In every run of the system in which no message of a consumed approval reaches a waiting
run, a run resumes only for its current pause, after the request of that pause resolved. -/
theorem resume_current (h : RunsWith ResumesOnce c) {l : Step} (hl : ResumesOnce c l) {r : Nat}
    (hresumes : Resumes c l r) : ResumeLaw c l r := by
  obtain ⟨i, now, w, x, status, run, rfl, hw, rfl, hpoint, hrun, hwaiting⟩ :=
    hresumes.claim h.reachable
  have hmessage := ((invariants h.reachable).procs i w hw).point
  rw [hpoint] at hmessage
  have hunconsumed := resumesOnce_unconsumed hl hw hpoint hrun hwaiting
  have hpaused := (pauseInvariant h).claim h.reachable hrun hwaiting hmessage.1 hunconsumed
  refine ⟨i, now, w, x, status, rfl, hw, hpoint, hpaused, hunconsumed,
    hmessage.1.imp fun e he => ?_⟩
  obtain ⟨-, a, ha, hstatus⟩ := he
  exact ⟨a, ha, hstatus ▸ hmessage.2⟩

/-- The statuses of a run before and after a step show that the step resumes it. -/
theorem resumes_of_statuses {l : Step} {r : Nat}
    (hbefore : c.store.runs[r]?.map (·.status) = some .waitingForApproval)
    (hafter : ((program.system.step l c).bind (·.store.runs[r]?)).map (·.status) =
      some .running) : Resumes c l r := by
  obtain ⟨run, hrun, hwaiting⟩ := Option.map_eq_some_iff.mp hbefore
  obtain ⟨run', hrun', hrunning⟩ := Option.map_eq_some_iff.mp hafter
  obtain ⟨c', hstep, hget⟩ := Option.bind_eq_some_iff.mp hrun'
  exact ⟨c', run, run', hstep, hrun, hwaiting, hget, hrunning⟩

theorem resume_current_answered :
    ResumeLaw (scenarioEnd ResumesOnce (answeredRun.take 10)) (.work 1 (.claimRunForResume 5))
      0 :=
  resume_current (runsWith_scenarioEnd ResumesOnce (answeredRun.take 10)) (by decide)
    (resumes_of_statuses (by decide) (by decide))

/-- A run that was resumed once waits for the approval of its second call when the message of
the first approval is delivered again. -/
def staleMessage : List Step :=
  let tool := ⟨"crm_update", {}⟩
  [.env (.createRun 1 {} (some 5) none (some 7) 0), .env (.claimRun 0 1)] ++
    pausesCall 0 ⟨"crm_update", "{}", "f", "agent:a:turn:1:d"⟩ tool ++ resumesCall 1 0 tool ++
    pausesCall 1 ⟨"crm_update", "{}", "g", "agent:unknown:turn:2:e"⟩ tool ++
    [.env (.deliverResume 0)]

/-- The stale message resumes the run, whose current request is still pending. -/
theorem resume_not_always_current :
    ¬ ∀ c, Reachable c → ∀ l r, Resumes c l r → ResumeLaw c l r := by
  intro hlaw
  obtain ⟨i, now, w, x, status, -, -, -, hpaused, -, e, he, a, ha, hresolved⟩ :=
    hlaw _ (runsWith_scenarioEnd _ staleMessage) (.work 2 (.claimRunForResume 9)) 0
      (resumes_of_statuses (by decide) (by decide))
  have hlast : pausedOn (freeEnd staleMessage).store 0 = some 1 := by decide
  obtain rfl : 1 = x := Option.some.inj (hlast.symm.trans hpaused)
  have hrequest : ((freeEnd staleMessage).store.executions[1]?.bind (·.approvalRequest)).map
      (·.status) = some .pending := by decide
  simp only [he, ha, Option.bind_some, Option.map_some, Option.some.injEq] at hrequest
  rw [hrequest] at hresolved
  cases hresolved

end SupportPilot
