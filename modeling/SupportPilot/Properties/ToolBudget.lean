import SupportPilot.Runtime.Invariants
import SupportPilot.Runtime.Scenario

/-!
# The tool-call budget of a run

The reservation is one conditional update right before the handler section, and it is
the only writer of the counter. So the counter weighs the same as the executions that
started, however the other writers of the run row interleave.
-/

namespace SupportPilot

open Library

/-- A slot is reserved and the handler it was reserved for has not been invoked yet. -/
def Point.holdsSlot : Point → Bool
  | .attempt call | .invoke call => !call.invoked
  | _ => false

def Worker.startsFor (r : Nat) (w : Worker) : Bool :=
  w.run == r && w.point.holdsSlot

def Event.invokesFor (r : Nat) : Event → Bool
  | .handlerStarted _ r' _ first => r' == r && first
  | _ => false

/-- The calls of run `r` that invoked their handler, each counted at its first attempt. -/
def invokedExecutions (s : Store) (r : Nat) : Nat :=
  s.history.countP (Event.invokesFor r)

/-- The handler-invoking executions of run `r` that started: the handler was invoked, or the
worker is between the reservation and the invocation. -/
def startedExecutions (c : Configuration) (r : Nat) : Nat :=
  invokedExecutions c.store r + c.procs.countP (Worker.startsFor r)

/-- The persisted counter, 0 for a run that does not exist. -/
def toolCallCount (s : Store) (r : Nat) : Nat :=
  (s.runs[r]?.map (·.toolCallCount)).getD 0

theorem toolCallCount_of_row {s : Store} {r : Nat} {run : AgentRun}
    (h : s.runs[r]? = some run) : toolCallCount s r = run.toolCallCount := by
  simp [toolCallCount, h]

theorem toolCallCount_set {s s' : Store} {k r : Nat} {run run' : AgentRun}
    (hrun : s.runs[k]? = some run) (hruns : s'.runs = s.runs.set k run')
    (hcount : run'.toolCallCount = run.toolCallCount) :
    toolCallCount s' r = toolCallCount s r := by
  rw [toolCallCount, toolCallCount, hruns, List.getElem?_set]
  split
  · rename_i hkr
    subst hkr
    rw [if_pos (List.getElem?_eq_some_iff.mp hrun).1, hrun]
    exact hcount
  · rfl

theorem invokedExecutions_record {s s' : Store} {event : Event}
    (hhistory : s'.history = event :: s.history) (r : Nat) :
    invokedExecutions s' r = invokedExecutions s r + (event.invokesFor r).toNat := by
  rw [invokedExecutions, hhistory, List.countP_cons, invokedExecutions]
  cases event.invokesFor r <;> rfl

/-- The step records nothing, or an event that is not an invocation. -/
def QuietHistory (s s' : Store) : Prop :=
  s'.history = s.history ∨
    ∃ event : Event, s'.history = event :: s.history ∧ ∀ r, event.invokesFor r = false

theorem QuietHistory.invokedExecutions {s s' : Store} (h : QuietHistory s s') (r : Nat) :
    invokedExecutions s' r = invokedExecutions s r := by
  rcases h with hsame | ⟨event, hnew, hevent⟩
  · rw [SupportPilot.invokedExecutions, hsame, SupportPilot.invokedExecutions]
  · rw [invokedExecutions_record hnew, hevent]
    rfl

/-- What a step of a worker of run `k` does to the accounts of run `r`: the counter and the
executions that started change by the same amount. -/
def Balanced (k : Nat) (s s' : Store) (p p' : Point) (r : Nat) : Prop :=
  toolCallCount s' r + invokedExecutions s r + (k == r && p.holdsSlot).toNat =
    toolCallCount s r + invokedExecutions s' r + (k == r && p'.holdsSlot).toNat

theorem holdsSlot_of_outside {p : Point} (h : p.outside = true) : p.holdsSlot = false := by
  cases p <;> first | rfl | cases h

/-- A step that touches neither account, between points that hold no slot or the same one. -/
theorem balanced_of_idle {k : Nat} {s s' : Store} {p p' : Point} {r : Nat}
    (hruns : s'.runs = s.runs) (hquiet : QuietHistory s s')
    (hslot : p.holdsSlot = p'.holdsSlot) : Balanced k s s' p p' r := by
  rw [Balanced, hquiet.invokedExecutions, hslot, toolCallCount, hruns, toolCallCount]

/-- A step that writes one run other than in its counter. -/
theorem balanced_of_write {k r : Nat} {s s' : Store} {p p' : Point} {run run' : AgentRun}
    (hrun : s.runs[k]? = some run) (hruns : s'.runs = s.runs.set k run')
    (hcount : run'.toolCallCount = run.toolCallCount) (hquiet : QuietHistory s s')
    (hslot : p.holdsSlot = p'.holdsSlot) : Balanced k s s' p p' r := by
  rw [Balanced, hquiet.invokedExecutions, hslot, toolCallCount_set hrun hruns hcount]

theorem balanced_vanish (i : Nat) (w : Worker) (s : Store) (p : Point) (r : Nat) :
    Balanced w.run s (s.vanish i w) p p r := by
  unfold Store.vanish
  split
  · split
    · exact balanced_of_idle rfl (.inr ⟨_, rfl, fun _ => rfl⟩) rfl
    · exact balanced_of_idle rfl (.inl rfl) rfl
  · exact balanced_of_idle rfl (.inl rfl) rfl

/-- The reservation moves one unit into the counter and one into the slots held. -/
theorem balanced_reserve {k r : Nat} {s s' : Store} {call : Call} {run : AgentRun}
    (hrun : s.runs[k]? = some run)
    (hruns : s'.runs = s.runs.set k { run with toolCallCount := run.toolCallCount + 1 })
    (hhistory : s'.history = s.history) (hfresh : call.invoked = false) :
    Balanced k s s' (.reserveSlot call) (.attempt call) r := by
  have hlt := (List.getElem?_eq_some_iff.mp hrun).1
  rw [Balanced, QuietHistory.invokedExecutions (.inl hhistory)]
  by_cases hkr : k = r
  · subst hkr
    have hnew : toolCallCount s' k = run.toolCallCount + 1 :=
      toolCallCount_of_row (by rw [hruns, List.getElem?_set_self hlt])
    rw [hnew, toolCallCount_of_row hrun]
    simp only [Point.holdsSlot, hfresh, beq_self_eq_true, Bool.and_false, Bool.and_true,
      Bool.not_false, Bool.toNat_false, Bool.toNat_true]
    omega
  · have hsame : toolCallCount s' r = toolCallCount s r := by
      rw [toolCallCount, hruns, List.getElem?_set_ne hkr, toolCallCount]
    have hother : (k == r) = false := by simpa using hkr
    simp [hsame, hother]

/-- The first invocation turns a held slot into an invoked execution. -/
theorem balanced_invoke {i k x r : Nat} {s s' : Store} {call : Call} (hruns : s'.runs = s.runs)
    (hhistory : s'.history = .handlerStarted i k x (!call.invoked) :: s.history) :
    Balanced k s s' (.invoke call) (.handler { call with invoked := true }) r := by
  rw [Balanced, invokedExecutions_record hhistory, toolCallCount, hruns, toolCallCount]
  simp [Event.invokesFor, Point.holdsSlot, Nat.add_assoc]

theorem balanced_workerStep {i : Nat} {w : Worker} {s s' : Store} {a : WorkerAction}
    {p p' : Point} (hw : PointInvariant s w.run p) (h : WorkerStep i w s a p s' p') (r : Nat) :
    Balanced w.run s s' p p' r := by
  cases h with
  | vanished => exact balanced_vanish i w s p r
  | refusedCall | refusedClaim | gateInProgress | refusedStart =>
    exact balanced_of_idle rfl (.inl rfl)
      (holdsSlot_of_outside (Point.afterRefusal_outside _)).symm
  | gateRaised =>
    exact balanced_of_idle rfl (.inl rfl)
      (holdsSlot_of_outside (Point.afterToolError_outside _ _)).symm
  | refreshedOther =>
    exact balanced_of_idle rfl (.inl rfl)
      (holdsSlot_of_outside (Point.afterResumeError_outside _)).symm
  | leftUnfinalized =>
    exact balanced_of_idle rfl (.inl rfl)
      (holdsSlot_of_outside (Point.afterExit_outside _ _ _)).symm
  | finalized =>
    exact balanced_of_idle rfl (.inr ⟨_, rfl, fun _ => rfl⟩)
      (holdsSlot_of_outside (Point.afterExit_outside _ _ _)).symm
  | startedRow | claimedRow | handlerReturned | handlerRaised =>
    exact balanced_of_idle rfl (.inr ⟨_, rfl, fun _ => rfl⟩) rfl
  | reservedSlot hrun => exact balanced_reserve hrun rfl rfl hw.2.1
  | exhausted hle =>
    have hattempts := hw.2
    omega
  | invoked => exact balanced_invoke rfl rfl
  | retried =>
    exact balanced_of_idle rfl (.inr ⟨_, rfl, fun _ => rfl⟩) (by simp [Point.holdsSlot, hw.2])
  | pausedRun hrun =>
    exact balanced_of_write hrun rfl rfl (.inr ⟨_, rfl, fun _ => rfl⟩) rfl
  | resumeClaimedRun hrun =>
    exact balanced_of_write hrun rfl rfl (.inr ⟨_, rfl, fun _ => rfl⟩) (by split <;> rfl)
  | handedOffRun hrun _ hcompleted =>
    obtain ⟨-, _, _, -, rfl, -⟩ := completeRunAsHandoff_some hcompleted
    exact balanced_of_write hrun rfl rfl (.inl rfl) rfl
  | completedRun hrun hcompleted =>
    obtain ⟨-, _, rfl, -⟩ := completeRun_some hcompleted
    exact balanced_of_write hrun rfl rfl (.inl rfl) rfl
  | budgetExceededRun hrun hexceeded =>
    obtain ⟨-, rfl⟩ := budgetExceededRun_some hexceeded
    exact balanced_of_write hrun rfl rfl (.inl rfl) rfl
  | failedRun hpoint hrun hfailed =>
    obtain ⟨-, rfl⟩ := failRun_some hfailed
    rcases hpoint with ⟨_, _, -, rfl⟩ | ⟨-, rfl⟩ <;>
      exact balanced_of_write hrun rfl rfl (.inl rfl) rfl
  | unfinishedRun hpoint =>
    rcases hpoint with ⟨_, _, _, -, rfl⟩ | ⟨_, _, _, -, rfl⟩ <;>
      exact balanced_of_idle rfl (.inl rfl) rfl
  | _ => exact balanced_of_idle rfl (.inl rfl) rfl

/-! ## Every run of the system -/

theorem startedExecutions_set {c : Configuration} {i r : Nat} {w : Worker} {s' : Store}
    {p' : Point} {alive : Bool} (hw : c.procs[i]? = some w)
    (hbalanced : Balanced w.run c.store s' w.point p' r)
    (hc : startedExecutions c r = toolCallCount c.store r) :
    startedExecutions ⟨s', c.procs.set i { w with point := p', alive := alive }⟩ r =
      toolCallCount s' r := by
  have hcount : (c.procs.set i { w with point := p', alive := alive }).countP
      (Worker.startsFor r) + (w.run == r && w.point.holdsSlot).toNat =
      c.procs.countP (Worker.startsFor r) + (w.run == r && p'.holdsSlot).toNat := countP_set hw
  simp only [Balanced] at hbalanced
  simp only [startedExecutions] at hc ⊢
  omega

theorem toolCallCount_append {s s' : Store} {run : AgentRun} (hruns : s'.runs = s.runs ++ [run])
    (hcount : run.toolCallCount = 0) (r : Nat) : toolCallCount s' r = toolCallCount s r := by
  rw [toolCallCount, toolCallCount, hruns]
  rcases Nat.lt_or_ge r s.runs.length with hlt | hge
  · rw [List.getElem?_append_left hlt]
  · rw [List.getElem?_append_right hge, List.getElem?_eq_none hge]
    cases hr : r - s.runs.length with
    | zero => simp [hcount]
    | succ n => simp

/-- Services neither count nor invoke, and start their workers without a slot. -/
theorem toolCallCount_serviceStep {s s' : Store} {event : ServiceEvent}
    {started : Option Worker} (h : ServiceStep s event s' started) (r : Nat) :
    toolCallCount s' r = toolCallCount s r ∧
      invokedExecutions s' r = invokedExecutions s r ∧
      started.toList.countP (Worker.startsFor r) = 0 := by
  cases h with
  | createdRun => exact ⟨toolCallCount_append rfl rfl r, rfl, rfl⟩
  | claimedRun hrun =>
    exact ⟨toolCallCount_set hrun rfl rfl, QuietHistory.invokedExecutions
      (.inr ⟨_, rfl, fun _ => rfl⟩) r, by simp [Worker.startsFor, Worker.claimed, Point.holdsSlot]⟩
  | delivered =>
    exact ⟨rfl, rfl, by simp [Worker.startsFor, Worker.resuming, Point.holdsSlot]⟩
  | cancelledRun hrun => exact ⟨toolCallCount_set hrun rfl rfl, rfl, rfl⟩
  | recoveredRun hrun hrecovered =>
    obtain ⟨-, -, rfl⟩ := recoverOneStuckRun_some hrecovered
    exact ⟨toolCallCount_set hrun rfl rfl, rfl, rfl⟩
  | decided =>
    exact ⟨rfl, QuietHistory.invokedExecutions (.inr ⟨_, rfl, fun _ => rfl⟩) r, rfl⟩
  | _ => exact ⟨rfl, rfl, rfl⟩

/-- Every counter weighs what the started executions of its run weigh. -/
def Accounted (c : Configuration) : Prop :=
  ∀ r, startedExecutions c r = toolCallCount c.store r

theorem accounted {c : Configuration} (h : Reachable c) : Accounted c := by
  refine configuration_of_steps (fun _ => rfl) ?_ ?_ h
  · intro c event s' started _ _ hc hstep r
    obtain ⟨hcount, hinvoked, hnew⟩ := toolCallCount_serviceStep hstep r
    have hold := hc r
    simp only [startedExecutions, List.countP_append] at hold ⊢
    omega
  · intro c i w a s' p' alive hr _ hc hw _ hstep r
    have hpoint := ((invariants hr).procs i w hw).point
    exact startedExecutions_set hw (balanced_workerStep hpoint hstep r) (hc r)

/-- Both entry points pass the limit of the run's own version to the reservation. -/
theorem slotLimit_eq {s : Store} {r : Nat} {call : Call} {run : AgentRun} {row : ToolExecution}
    (hI : StoreInvariant s) (hw : PointInvariant s r (.reserveSlot call))
    (hrun : s.runs[r]? = some run) (hx : s.executions[call.execution]? = some row) :
    Store.slotLimit call run row = run.agentVersion.maxToolCalls := by
  unfold Store.slotLimit
  split
  · rename_i hresumed
    obtain ⟨howner, -⟩ := (hw.1.get hx).2 hresumed
    obtain ⟨owner, hget, hversion⟩ := hI.owners _ _ hx
    rw [howner, hrun] at hget
    cases hget
    rw [hversion]
  · rfl

def WithinBudget (s : Store) : Prop :=
  AllRows (fun _ run => run.toolCallCount ≤ run.agentVersion.maxToolCalls) s.runs

theorem WithinBudget.write {s s' : Store} {k : Nat} {run run' : AgentRun} (hs : WithinBudget s)
    (hrun : s.runs[k]? = some run) (hruns : s'.runs = s.runs.set k run')
    (hcount : run'.toolCallCount = run.toolCallCount)
    (hversion : run'.agentVersion = run.agentVersion) : WithinBudget s' := by
  rw [WithinBudget, hruns]
  refine AllRows.set hs ?_
  rw [hcount, hversion]
  exact hs k run hrun

theorem withinBudget_workerStep {i : Nat} {w : Worker} {s s' : Store} {a : WorkerAction}
    {p p' : Point} (hI : StoreInvariant s) (hw : PointInvariant s w.run p)
    (hs : WithinBudget s) (h : WorkerStep i w s a p s' p') : WithinBudget s' := by
  cases h with
  | vanished => rwa [WithinBudget, Store.vanish_runs]
  | reservedSlot hrun hx hlt =>
    rw [slotLimit_eq hI hw hrun hx] at hlt
    exact AllRows.set hs hlt
  | pausedRun hrun => exact hs.write hrun rfl rfl rfl
  | resumeClaimedRun hrun => exact hs.write hrun rfl rfl rfl
  | handedOffRun hrun _ hcompleted =>
    obtain ⟨-, _, _, -, rfl, -⟩ := completeRunAsHandoff_some hcompleted
    exact hs.write hrun rfl rfl rfl
  | completedRun hrun hcompleted =>
    obtain ⟨-, _, rfl, -⟩ := completeRun_some hcompleted
    exact hs.write hrun rfl rfl rfl
  | budgetExceededRun hrun hexceeded =>
    obtain ⟨-, rfl⟩ := budgetExceededRun_some hexceeded
    exact hs.write hrun rfl rfl rfl
  | failedRun _ hrun hfailed =>
    obtain ⟨-, rfl⟩ := failRun_some hfailed
    exact hs.write hrun rfl rfl rfl
  | _ => exact hs

theorem withinBudget_serviceStep {s s' : Store} {event : ServiceEvent}
    {started : Option Worker} (hs : WithinBudget s) (h : ServiceStep s event s' started) :
    WithinBudget s' := by
  cases h with
  | createdRun => exact AllRows.append hs (Nat.zero_le _)
  | claimedRun hrun => exact hs.write hrun rfl rfl rfl
  | cancelledRun hrun => exact hs.write hrun rfl rfl rfl
  | recoveredRun hrun hrecovered =>
    obtain ⟨-, -, rfl⟩ := recoverOneStuckRun_some hrecovered
    exact hs.write hrun rfl rfl rfl
  | _ => exact hs

theorem withinBudget {c : Configuration} (h : Reachable c) : WithinBudget c.store :=
  store_of_steps (fun _ _ h => by simp at h)
    (fun _ _ _ _ _ _ hs hstep => withinBudget_serviceStep hs hstep)
    (fun _ i w _ _ _ hr _ hs hw _ hstep =>
      withinBudget_workerStep (invariants hr).store ((invariants hr).procs i w hw).point hs
        hstep) h

/-! ## Calls without a slot -/

/-- The points of a call, from its request on, at which it holds no slot. -/
def Point.slotless : Point → Bool
  | .toolCall _ | .claimExecution _ _ | .policyCheck _ | .policyGate _ | .transitionRunning _
  | .reserveSlot _ | .resumeExecution _ | .resumeRefresh _ | .resumeChecks _ _ => true
  | .leave call _ => !call.invoked
  | _ => false

def Event.startsHandler : Event → Bool
  | .handlerStarted .. => true
  | _ => false

/-- How often a handler was invoked, over all runs and attempts. -/
def handlerInvocations (s : Store) : Nat :=
  s.history.countP Event.startsHandler

theorem slotless_step {i : Nat} {w : Worker} {s s' : Store} {a : WorkerAction} {p p' : Point}
    (hw : PointInvariant s w.run p) (hp : p.slotless = true) (h : WorkerStep i w s a p s' p') :
    (∃ call, p = .reserveSlot call ∧ p' = .attempt call) ∨
      (p'.slotless = true ∨ p'.outside = true) ∧ s'.runs = s.runs ∧
        handlerInvocations s' = handlerInvocations s := by
  cases h with
  | reservedSlot => exact .inl ⟨_, rfl, rfl⟩
  | vanished =>
    refine .inr ⟨.inl hp, ?_⟩
    unfold Store.vanish
    split
    · split <;> exact ⟨rfl, rfl⟩
    · exact ⟨rfl, rfl⟩
  | refusedCall | refusedClaim | gateInProgress | refusedStart =>
    exact .inr ⟨.inr (Point.afterRefusal_outside _), rfl, rfl⟩
  | gateRaised => exact .inr ⟨.inr (Point.afterToolError_outside _ _), rfl, rfl⟩
  | refreshedOther => exact .inr ⟨.inr (Point.afterResumeError_outside _), rfl, rfl⟩
  | leftUnfinalized | finalized =>
    exact .inr ⟨.inr (Point.afterExit_outside _ _ _), rfl, rfl⟩
  | refusedSlot => exact .inr ⟨.inl (by simp [Point.slotless, hw.2.1]), rfl, rfl⟩
  | foundWaiting | replayed | gateFailed | refreshedSucceeded => exact .inr ⟨.inr rfl, rfl, rfl⟩
  | checkedCall | createdRow | resetRow | foundEvaluated | foundUnevaluated | gateAllowed
  | startedRow | claimedRow | unclaimedRow | checkedResume | refusedResume =>
    exact .inr ⟨.inl rfl, rfl, rfl⟩
  | failedRun hpoint =>
    rcases hpoint with ⟨_, _, -, rfl⟩ | ⟨-, rfl⟩ <;> cases hp
  | unfinishedRun hpoint =>
    rcases hpoint with ⟨_, _, _, -, rfl⟩ | ⟨_, _, _, -, rfl⟩ <;> cases hp
  | _ => cases hp

/-! ## Main results -/

/-- In every run of the system the counter of an agent run is the number of its
handler-invoking executions that started, within the limit of its version; and a call that
is refused, denied, waiting, replayed or out of slots changes no counter and invokes no
handler on its way. -/
theorem toolCallCount_exact {c : Configuration} (h : Reachable c) :
    (∀ r run, c.store.runs[r]? = some run →
      run.toolCallCount = startedExecutions c r ∧
        run.toolCallCount ≤ run.agentVersion.maxToolCalls) ∧
      ∀ i a c' w w', program.system.step (.work i a) c = some c' → c.procs[i]? = some w →
        c'.procs[i]? = some w' → w.point.slotless = true →
        (∃ call, w.point = .reserveSlot call ∧ w'.point = .attempt call) ∨
          (w'.point.slotless = true ∨ w'.point.outside = true) ∧
            c'.store.runs = c.store.runs ∧
            handlerInvocations c'.store = handlerInvocations c.store := by
  refine ⟨fun r run hrun => ⟨?_, withinBudget h r run hrun⟩, ?_⟩
  · rw [accounted h, toolCallCount_of_row hrun]
  · intro i a c' w w' hstep hw hw' hslotless
    obtain ⟨v, s', v', hv, hout, rfl⟩ := Program.step_work hstep
    obtain ⟨-, p', alive', hcase, rfl⟩ := workStep_cases hout
    rw [hw] at hv
    cases hv
    have hlt := (List.getElem?_eq_some_iff.mp hw).1
    rw [List.getElem?_set_self hlt] at hw'
    cases hw'
    exact slotless_step ((invariants h).procs i w hw).point hslotless hcase

theorem toolCallCount_exact_answered :
    ∃ run, (freeEnd answeredRun).store.runs[0]? = some run ∧
      run.toolCallCount = startedExecutions (freeEnd answeredRun) 0 ∧
      startedExecutions (freeEnd answeredRun) 0 = 1 ∧
      run.toolCallCount ≤ run.agentVersion.maxToolCalls := by
  obtain ⟨run, hrun⟩ : ∃ run, (freeEnd answeredRun).store.runs[0]? = some run :=
    Option.isSome_iff_exists.mp (by decide)
  obtain ⟨hcount, hlimit⟩ :=
    (toolCallCount_exact (runsWith_scenarioEnd _ answeredRun)).1 0 run hrun
  exact ⟨run, hrun, hcount, by decide, hlimit⟩

end SupportPilot
