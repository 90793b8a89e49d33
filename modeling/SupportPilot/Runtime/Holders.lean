import SupportPilot.Runtime.Invariants

/-!
# One worker at a time holds a run

A worker holds its run from the claim that started its segment until it returns. A run is
claimed only out of `PENDING` or `WAITING_FOR_APPROVAL`, and a run in one of these has no
holder, so no two workers ever hold one run. A worker that vanished holds its run for ever.
-/

namespace SupportPilot

open Library

/-- The worker has claimed its run and not returned. -/
def Point.active : Point → Bool
  | .claimRun _ _ | .returned => false
  | _ => true

/-- The worker is about to write the run's final status. -/
def Point.ends : Point → Bool
  | .ending _ | .failRun _ _ => true
  | _ => false

def Holds (w : Worker) (r : Nat) : Prop :=
  w.run = r ∧ w.point.active = true

/-! ## What a worker does to its run -/

/-- The four kinds of write of run `r` by its worker, with the action, the points before and
after it, and the history that it leaves. -/
inductive RunWrite (r : Nat) (history : List Event) :
    WorkerAction → Point → Point → AgentRun → AgentRun → List Event → Prop
  | reserve (call : Call) {run run' : AgentRun} : run'.status = run.status →
      RunWrite r history .reserveSlot (.reserveSlot call) (.attempt call) run run' history
  | pause (x : Nat) (usage : RunUsage) (now : Nat) {run run' : AgentRun} :
      run.status = .running → run'.status = .waitingForApproval →
      RunWrite r history (.pauseRun usage now) (.approvalRequired x) .returned run run'
        (.runPaused r x :: history)
  | resume (x now : Nat) (status : ApprovalStatus) {run run' : AgentRun} :
      run.status = .waitingForApproval → run'.status = .running →
      RunWrite r history (.claimRunForResume now) (.claimRun x status)
        (if status = .approved then .resumeExecution x else .graph) run run'
        (.runResumeClaimed r x :: history)
  | finish {a : WorkerAction} {p : Point} {run run' : AgentRun} : p.ends = true →
      run.status.terminal = false → run'.status.terminal = true →
      RunWrite r history a p .returned run run' history

theorem runs_workerStep {i : Nat} {w : Worker} {s s' : Store} {a : WorkerAction} {p p' : Point}
    (h : WorkerStep i w s a p s' p') :
    s'.runs = s.runs ∨ ∃ run run', s.runs[w.run]? = some run ∧
      s'.runs = s.runs.set w.run run' ∧
      RunWrite w.run s.history a p p' run run' s'.history := by
  cases h with
  | vanished => exact .inl (Store.vanish_runs s i w)
  | reservedSlot hrun => exact .inr ⟨_, _, hrun, rfl, .reserve _ rfl⟩
  | pausedRun hrun hrunning => exact .inr ⟨_, _, hrun, rfl, .pause _ _ _ hrunning rfl⟩
  | resumeClaimedRun hrun hwaiting => exact .inr ⟨_, _, hrun, rfl, .resume _ _ _ hwaiting rfl⟩
  | handedOffRun hrun _ hcompleted =>
    obtain ⟨hrunning, _, _, -, rfl, -⟩ := completeRunAsHandoff_some hcompleted
    exact .inr ⟨_, _, hrun, rfl, .finish rfl (by rw [hrunning]; rfl) rfl⟩
  | completedRun hrun hcompleted =>
    obtain ⟨hrunning, _, rfl, -⟩ := completeRun_some hcompleted
    exact .inr ⟨_, _, hrun, rfl, .finish rfl (by rw [hrunning]; rfl) rfl⟩
  | budgetExceededRun hrun hexceeded =>
    obtain ⟨hterminal, rfl⟩ := budgetExceededRun_some hexceeded
    exact .inr ⟨_, _, hrun, rfl, .finish rfl hterminal rfl⟩
  | failedRun hpoint hrun hfailed =>
    obtain ⟨hterminal, rfl⟩ := failRun_some hfailed
    refine .inr ⟨_, _, hrun, rfl, .finish ?_ hterminal rfl⟩
    rcases hpoint with ⟨_, _, -, rfl⟩ | ⟨-, rfl⟩ <;> rfl
  | _ => exact .inl rfl

/-- A worker that holds its run after a step held it before, or has just resumed it. -/
theorem active_workerStep {i : Nat} {w : Worker} {s s' : Store} {a : WorkerAction}
    {p p' : Point} (h : WorkerStep i w s a p s' p') (hp' : p'.active = true) :
    p.active = true ∨ ∃ x status run run', p = .claimRun x status ∧
      s.runs[w.run]? = some run ∧ run.status = .waitingForApproval ∧
      s'.runs = s.runs.set w.run run' ∧ run'.status = .running := by
  cases h with
  | vanished => exact .inl hp'
  | resumeClaimedRun hrun hwaiting =>
    exact .inr ⟨_, _, _, _, rfl, hrun, hwaiting, rfl, rfl⟩
  | alreadyResumedRun => cases hp'
  | failedRun => cases hp'
  | unfinishedRun => cases hp'
  | _ => exact .inl rfl

/-! ## Exclusion -/

/-- The run was claimed and is not waiting: it runs or has ended. -/
def Claimed (s : Store) (r : Nat) : Prop :=
  ∃ run, s.runs[r]? = some run ∧ run.status ≠ .pending ∧ run.status ≠ .waitingForApproval

structure Holders (c : Configuration) : Prop where
  exclusive : Program.Exclusive Holds c
  claimed : ∀ (i : Nat) (w : Worker), c.procs[i]? = some w →
    w.point.active = true → Claimed c.store w.run

theorem Claimed.of_set {s s' : Store} {r k : Nat} {run run' : AgentRun} (h : Claimed s r)
    (hrun : s.runs[k]? = some run) (hruns : s'.runs = s.runs.set k run')
    (hstatus : k = r → run'.status ≠ .pending ∧ run'.status ≠ .waitingForApproval) :
    Claimed s' r := by
  by_cases hkr : k = r
  · subst hkr
    exact ⟨run', by rw [hruns, List.getElem?_set_self (List.getElem?_eq_some_iff.mp hrun).1],
      hstatus rfl⟩
  · obtain ⟨other, hother, hclaimed⟩ := h
    exact ⟨other, by rw [hruns, List.getElem?_set_ne hkr, hother], hclaimed⟩

theorem Claimed.same {s s' : Store} {r : Nat} (h : Claimed s r) (hruns : s'.runs = s.runs) :
    Claimed s' r := by
  rw [Claimed, hruns]
  exact h

/-- A run that waits for its claim is held by nobody. -/
theorem Holders.free {c : Configuration} (h : Holders c) {r : Nat} {run : AgentRun}
    (hrun : c.store.runs[r]? = some run)
    (hstatus : run.status = .pending ∨ run.status = .waitingForApproval) {j : Nat} {w : Worker}
    (hw : c.procs[j]? = some w) : ¬ Holds w r := by
  rintro ⟨rfl, hactive⟩
  obtain ⟨run', hrun', hpending, hwaiting⟩ := h.claimed j w hw hactive
  rw [hrun] at hrun'
  cases hrun'
  rcases hstatus with hs | hs
  · exact hpending hs
  · exact hwaiting hs

/-- A service that makes a run wait for its claim again would need a holder; there is none. -/
theorem claimed_serviceStep {s s' : Store} {event : ServiceEvent} {started : Option Worker}
    (h : ServiceStep s event s' started) {r : Nat} (hr : Claimed s r) : Claimed s' r := by
  cases h with
  | createdRun =>
    obtain ⟨run, hrun, hclaimed⟩ := hr
    exact ⟨run, getElem?_append_some hrun _, hclaimed⟩
  | claimedRun hrun => exact hr.of_set hrun rfl fun _ => ⟨nofun, nofun⟩
  | cancelledRun hrun => exact hr.of_set hrun rfl fun _ => ⟨nofun, nofun⟩
  | recoveredRun hrun hrecovered =>
    obtain ⟨-, -, rfl⟩ := recoverOneStuckRun_some hrecovered
    exact hr.of_set hrun rfl fun _ => ⟨nofun, nofun⟩
  | _ => exact hr

theorem holders_serviceStep {c : Configuration} {s' : Store} {event : ServiceEvent}
    {started : Option Worker} (hc : Holders c) (h : ServiceStep c.store event s' started) :
    Holders ⟨s', c.procs ++ started.toList⟩ := by
  have hnew : ∀ w ∈ started, w.point.active = true →
      (∀ (j : Nat) (m : Worker), c.procs[j]? = some m → ¬ Holds m w.run) ∧ Claimed s' w.run := by
    intro w hw hactive
    cases hw
    generalize hq : some w = started' at h
    cases h with
    | claimedRun hrun hpending =>
      cases hq
      exact ⟨fun j m hm => hc.free hrun (.inl hpending) hm, _,
        List.getElem?_set_self (List.getElem?_eq_some_iff.mp hrun).1, by simp, by simp⟩
    | delivered =>
      cases hq
      cases hactive
    | _ => cases hq
  refine ⟨Program.exclusive_append hc.exclusive fun w hw r hr j m hm => ?_,
    fun i w hw hactive => ?_⟩
  · obtain ⟨rfl, hactive⟩ := hr
    exact (hnew w hw hactive).1 j m hm
  · rcases Program.proc_append hw with hold | hstarted
    · exact claimed_serviceStep h (hc.claimed i w hold hactive)
    · exact (hnew w hstarted hactive).2

/-- A worker's step leaves the run of every other holder alone. -/
theorem run_unmoved {c : Configuration} (hc : Holders c) {i : Nat} {w : Worker}
    {a : WorkerAction} {s' : Store} {p' : Point} (hw : c.procs[i]? = some w)
    (h : WorkerStep i w c.store a w.point s' p') {j : Nat} {m : Worker} (hj : j ≠ i)
    (hm : c.procs[j]? = some m) (hactive : m.point.active = true) :
    s'.runs[m.run]? = c.store.runs[m.run]? := by
  rcases runs_workerStep h with hsame | ⟨run, run', hrun, hset, hwrite⟩
  · rw [hsame]
  · rw [hset]
    refine List.getElem?_set_ne fun hrunEq => ?_
    -- Only an active worker or one that resumes writes its run, and `m` holds that run.
    generalize hp : w.point = p at hwrite
    generalize s'.history = history at hwrite
    have hbusy : w.point.active = true → False := fun hw' =>
      hj (hc.exclusive j i m w m.run hm hw ⟨rfl, hactive⟩ ⟨hrunEq, hw'⟩)
    cases hwrite with
    | reserve => exact hbusy (by rw [hp]; rfl)
    | pause => exact hbusy (by rw [hp]; rfl)
    | resume x now status hwaiting =>
      exact hc.free hrun (.inr hwaiting) hm ⟨hrunEq.symm, hactive⟩
    | finish hends => exact hbusy (by rw [hp]; cases p <;> first | rfl | cases hends)

/-- The worker itself keeps its run claimed for as long as it holds it. -/
theorem claimed_self {i : Nat} {w : Worker} {s s' : Store} {a : WorkerAction} {p p' : Point}
    (hold : p.active = true → Claimed s w.run) (h : WorkerStep i w s a p s' p')
    (hactive : p'.active = true) : Claimed s' w.run := by
  rcases active_workerStep h hactive with hp | ⟨x, status, run, run', -, hrun, -, hset, hrunning⟩
  · have hclaimed := hold hp
    rcases runs_workerStep h with hsame | ⟨run, run', hrun, hset, hwrite⟩
    · exact hclaimed.same hsame
    · generalize s'.history = history at hwrite
      cases hwrite with
      | reserve call hstatus =>
        obtain ⟨other, hother, hne⟩ := hclaimed
        rw [hrun] at hother
        cases hother
        exact Claimed.of_set ⟨run, hrun, hne⟩ hrun hset fun _ => by rw [hstatus]; exact hne
      | pause => cases hactive
      | resume => cases hp
      | finish => cases hactive
  · refine ⟨run', ?_, by simp [hrunning], by simp [hrunning]⟩
    rw [hset, List.getElem?_set_self (List.getElem?_eq_some_iff.mp hrun).1]

theorem holders_workerStep {c : Configuration} (hc : Holders c) {i : Nat} {w : Worker}
    {a : WorkerAction} {s' : Store} {p' : Point} {alive : Bool} (hw : c.procs[i]? = some w)
    (h : WorkerStep i w c.store a w.point s' p') :
    Holders ⟨s', c.procs.set i { w with point := p', alive := alive }⟩ := by
  refine ⟨Program.exclusive_set hc.exclusive hw fun r hr => ?_, fun j m hm hactive => ?_⟩
  · obtain ⟨rfl, hactive⟩ := hr
    rcases active_workerStep h hactive with hold | ⟨x, status, run, run', -, hrun, hwaiting, -⟩
    · exact .inl ⟨rfl, hold⟩
    · exact .inr fun j m _ hm => hc.free hrun (.inr hwaiting) hm
  · rcases getElem?_set_cases hm with ⟨rfl, rfl⟩ | ⟨hji, hother⟩
    · have hself : Claimed s' w.run := claimed_self (hc.claimed j w hw) h hactive
      exact hself
    · obtain ⟨run, hrun, hclaimed⟩ := hc.claimed j m hother hactive
      exact ⟨run, (run_unmoved hc hw h hji hother hactive).trans hrun, hclaimed⟩

/-- In every run of the system, a run has at most one holder, and none while it waits for a
claim. -/
theorem holders {c : Configuration} (h : Reachable c) : Holders c :=
  configuration_of_steps ⟨fun i j l m k hl => by simp at hl, fun i w hw => by simp at hw⟩
    (fun _ _ _ _ _ _ hc hstep => holders_serviceStep hc hstep)
    (fun _ _ _ _ _ _ _ _ _ hc hw _ hstep => holders_workerStep hc hw hstep) h

/-- The holder of a run that has not ended finds it running. -/
theorem Holders.running {c : Configuration} (h : Holders c) {i : Nat} {w : Worker}
    (hw : c.procs[i]? = some w) (hactive : w.point.active = true) {run : AgentRun}
    (hrun : c.store.runs[w.run]? = some run) (hterminal : run.status.terminal = false) :
    run.status = .running := by
  obtain ⟨run', hrun', hpending, hwaiting⟩ := h.claimed i w hw hactive
  rw [hrun] at hrun'
  cases hrun'
  cases hstatus : run.status <;> simp_all [AgentRunStatus.terminal]

/-- Services do not touch a claimed run but to end it. -/
theorem runs_serviceStep {s s' : Store} {event : ServiceEvent} {started : Option Worker}
    (h : ServiceStep s event s' started) {r : Nat} {run run' : AgentRun}
    (hrun : s.runs[r]? = some run) (hrun' : s'.runs[r]? = some run') :
    run' = run ∨ run.status = .pending ∨ run'.status.terminal = true := by
  have hset : ∀ {k : Nat} {old new : AgentRun}, s.runs[k]? = some old →
      (s.runs.set k new)[r]? = some run' →
      old.status = .pending ∨ new.status.terminal = true →
      run' = run ∨ run.status = .pending ∨ run'.status.terminal = true := by
    intro k old new hold hnew hstatus
    rcases getElem?_set_cases hnew with ⟨rfl, rfl⟩ | ⟨-, hother⟩
    · cases hold.symm.trans hrun
      exact .inr hstatus
    · cases hother.symm.trans hrun
      exact .inl rfl
  cases h with
  | createdRun =>
    cases hrun'.symm.trans (getElem?_append_some hrun _)
    exact .inl rfl
  | claimedRun hold hpending => exact hset hold hrun' (.inl hpending)
  | cancelledRun hold => exact hset hold hrun' (.inr rfl)
  | recoveredRun hold hrecovered =>
    obtain ⟨-, -, rfl⟩ := recoverOneStuckRun_some hrecovered
    exact hset hold hrun' (.inr rfl)
  | reusedRun | delivered | redispatched | undecided | decided | expired | cancelledApproval =>
    rw [show s.runs[r]? = some run' from hrun'] at hrun
    cases hrun
    exact .inl rfl

end SupportPilot
