import SupportPilot.Runtime.Clearance
import SupportPilot.Runtime.Ownership
import SupportPilot.Runtime.Scenario

/-!
# Handlers of ended runs

The status of a run is read before a tool call, and from there to the handler nothing reads
it again. A cancellation or a recovery that commits in between ends the run under a call
that goes on to its handler. The first segment probes for a cancellation before each call,
and no segment probes for the other terminal statuses.
-/

namespace SupportPilot

open Library

/-- The worker is on the way to a handler, or in one that may be retried. -/
def Point.mayInvoke : Point → Bool
  | .toolCall _ | .claimExecution _ _ | .policyCheck _ | .policyGate _ | .transitionRunning _
  | .reserveSlot _ | .attempt _ | .invoke _ | .handler _ | .resumeExecution _
  | .resumeChecks _ _ => true
  | _ => false

theorem active_of_mayInvoke {p : Point} (h : p.mayInvoke = true) : p.active = true := by
  cases p <;> first | rfl | cases h

/-- A tool call starts although its run has ended, and the probe lets it pass. -/
def callsAfterEnd (c : Configuration) : Step → Bool
  | .work i (.callTool _) => (c.procs[i]?).any fun w =>
    (c.store.runs[w.run]?).any fun run => run.status.terminal &&
      !(w.segment == .main && run.status == .cancelled)
  | _ => false

/-- A live worker of run `r` is on the way to a handler. -/
def calling (c : Configuration) (r : Nat) : Bool :=
  c.procs.any fun w => w.alive && w.run == r && w.point.mayInvoke

/-- A cancellation or a recovery ends the run of a worker on the way to a handler. -/
def endsDuringCall (c : Configuration) : Step → Bool
  | .env (.cancelRun r _) => calling c r
  | .env (.recoverRun r _ _) => calling c r
  | _ => false

def CallsWhileLive (c : Configuration) (l : Step) : Prop :=
  callsAfterEnd c l = false ∧ endsDuringCall c l = false

instance (c : Configuration) (l : Step) : Decidable (CallsWhileLive c l) :=
  inferInstanceAs (Decidable (_ ∧ _))

/-- A live worker on the way to a handler has a run that has not ended. -/
def LiveCalls (c : Configuration) : Prop :=
  ∀ (i : Nat) (w : Worker), c.procs[i]? = some w → w.alive = true → w.point.mayInvoke = true →
    ¬ Ended c.store w.run

variable {c : Configuration} {i : Nat} {w : Worker} {a : WorkerAction} {s' : Store} {p' : Point}

theorem calling_of_worker {r : Nat} (hw : c.procs[i]? = some w) (halive : w.alive = true)
    (hrun : w.run = r) (hcall : w.point.mayInvoke = true) : calling c r = true := by
  rw [calling, List.any_eq_true]
  exact ⟨w, List.mem_of_getElem? hw, by simp [halive, hrun, hcall]⟩

/-- The ways to a point on the way to a handler. -/
theorem mayInvoke_workerStep {s : Store} {p : Point} (h : WorkerStep i w s a p s' p')
    (hp' : p'.mayInvoke = true) :
    p.mayInvoke = true ∨
      (∃ request run, a = .callTool request ∧ s.runs[w.run]? = some run ∧ s' = s ∧
        (w.segment = .main → run.status ≠ .cancelled)) ∨
      ∃ run, s'.runs[w.run]? = some run ∧ run.status = .running := by
  have hout : ∀ {q : Point}, q.outside = true → q.mayInvoke = false := by
    intro q hq
    cases q <;> first | rfl | cases hq
  cases h with
  | vanished => exact .inl hp'
  | calledTool hrun hprobe => exact .inr (.inl ⟨_, _, rfl, hrun, rfl, hprobe⟩)
  | resumeClaimedRun hrun =>
    exact .inr (.inr ⟨_, List.getElem?_set_self (List.getElem?_eq_some_iff.mp hrun).1, rfl⟩)
  | refreshedOther => rw [hout (Point.afterResumeError_outside _)] at hp'; cases hp'
  | leftUnfinalized | finalized =>
    rw [hout (Point.afterExit_outside _ _ _)] at hp'
    cases hp'
  | refusedCall | checkedCall | createdRow | resetRow | refusedClaim | foundEvaluated
  | foundUnevaluated | gateAllowed | gateRaised | gateInProgress | startedRow | refusedStart
  | reservedSlot | countedAttempt | invoked | retried | claimedRow | checkedResume =>
    exact .inl rfl
  | _ => cases hp'

/-- A worker does not end its run and go on with its call. -/
theorem ended_before {s : Store} {p : Point} (h : WorkerStep i w s a p s' p')
    (hp' : p'.mayInvoke = true) (hended : Ended s' w.run) : Ended s w.run := by
  obtain ⟨final, hfinal, hterminal⟩ := hended
  rcases runs_workerStep h with hsame | ⟨run, run', hrun, hset, hwrite⟩
  · exact ⟨final, hsame ▸ hfinal, hterminal⟩
  · rw [hset, List.getElem?_set_self (List.getElem?_eq_some_iff.mp hrun).1] at hfinal
    cases hfinal
    generalize s'.history = history at hwrite
    cases hwrite with
    | reserve call hstatus => exact ⟨run, hrun, hstatus ▸ hterminal⟩
    | resume x now status hwaiting hrunning =>
      rw [hrunning] at hterminal
      cases hterminal
    | pause => cases hp'
    | finish => cases hp'

theorem callsWhileLive_probed {request : ToolRequest} {run : AgentRun}
    (hp : CallsWhileLive c (.work i (.callTool request))) (hw : c.procs[i]? = some w)
    (hrun : c.store.runs[w.run]? = some run)
    (hprobe : w.segment = .main → run.status ≠ .cancelled) : ¬ Ended c.store w.run := by
  rintro ⟨run', hrun', hterminal⟩
  rw [hrun] at hrun'
  cases hrun'
  have hpass := hp.1
  simp only [callsAfterEnd, hw, Option.any_some, hrun, hterminal, Bool.true_and,
    Bool.not_eq_false', Bool.and_eq_true, beq_iff_eq] at hpass
  exact hprobe hpass.1 hpass.2

theorem liveCalls_workerStep (hr : Reachable c) (hp : CallsWhileLive c (.work i a))
    (hc : LiveCalls c) (hw : c.procs[i]? = some w) (halive : w.alive = true)
    (h : WorkerStep i w c.store a w.point s' p') (alive : Bool) :
    LiveCalls ⟨s', c.procs.set i { w with point := p', alive := alive }⟩ := by
  intro j m hm hmalive hcall hended
  rcases getElem?_set_cases hm with ⟨rfl, rfl⟩ | ⟨hji, hother⟩
  · have hbefore : Ended c.store w.run := ended_before h hcall hended
    rcases mayInvoke_workerStep h hcall with
      hold | ⟨request, run, rfl, hrun, -, hprobe⟩ | ⟨run, hrun, hrunning⟩
    · exact hc j w hw halive hold hbefore
    · exact callsWhileLive_probed hp hw hrun hprobe hbefore
    · obtain ⟨final, hfinal, hterminal⟩ := hended
      cases hrun.symm.trans hfinal
      rw [hrunning] at hterminal
      cases hterminal
  · have hsame := run_unmoved (holders hr) hw h hji hother (active_of_mayInvoke hcall)
    obtain ⟨final, hfinal, hterminal⟩ := hended
    exact hc j m hother hmalive hcall ⟨final, hsame ▸ hfinal, hterminal⟩

theorem liveCalls_serviceStep {event : ServiceEvent} {started : Option Worker}
    (hr : Reachable c) (hp : CallsWhileLive c (.env event)) (hc : LiveCalls c)
    (h : ServiceStep c.store event s' started) : LiveCalls ⟨s', c.procs ++ started.toList⟩ := by
  intro j m hm hmalive hcall hended
  rcases Program.proc_append hm with hold | hnew
  · have hbusy := calling_of_worker hold hmalive rfl hcall
    rcases ended_serviceStep h ((invariants hr).procs j m hold).run hended with
      hbefore | ⟨now, rfl⟩ | ⟨cutoff, now, rfl⟩
    · exact hc j m hold hmalive hcall hbefore
    · exact absurd hp.2 (by simp [endsDuringCall, hbusy])
    · exact absurd hp.2 (by simp [endsDuringCall, hbusy])
  · generalize hq : started = started' at h
    rw [hnew] at hq
    cases h <;> cases hq <;> cases hcall

theorem liveCalls (h : RunsWith CallsWhileLive c) : LiveCalls c :=
  configuration_of_steps (fun i w hw => by simp at hw)
    (fun _ _ _ _ hr hp hc hstep => liveCalls_serviceStep hr.reachable hp hc hstep)
    (fun _ _ _ _ _ _ alive hr hp hc hw halive hstep =>
      liveCalls_workerStep hr.reachable hp hc hw halive hstep alive) h

/-! ## Main results -/

/-- In every run of the system in which no run ends under a call and no call starts for an
ended run, no handler invocation begins for a run that has ended. -/
theorem handler_of_live_run (h : RunsWith CallsWhileLive c) {r x : Nat}
    (hinvokes : Invokes c i r x) : ¬ Ended c.store r := by
  obtain ⟨w, call, hw, halive, rfl, hpoint, -⟩ := hinvokes
  exact liveCalls h i w hw halive (by rw [hpoint]; rfl)

theorem handler_of_live_run_answered :
    Invokes (scenarioEnd CallsWhileLive (answeredRun.take 15)) 1 0 0 ∧
      ¬ Ended (scenarioEnd CallsWhileLive (answeredRun.take 15)).store 0 := by
  have hworker : (scenarioEnd CallsWhileLive (answeredRun.take 15)).procs[1]? =
      some ⟨0, .resumed, .running, .invoke ⟨0, ⟨"crm_update", {}⟩, 1, true, false⟩, true⟩ := by
    decide
  have hinvokes : Invokes (scenarioEnd CallsWhileLive (answeredRun.take 15)) 1 0 0 :=
    ⟨_, _, hworker, rfl, rfl, rfl, rfl⟩
  exact ⟨hinvokes, handler_of_live_run (runsWith_scenarioEnd CallsWhileLive _) hinvokes⟩

/-- A run is cancelled between the reservation of its slot and the handler. -/
def cancelledCall : List Step :=
  let tool := ⟨"crm_update", {}⟩
  [.env (.createRun 1 {} (some 5) none (some 7) 0), .env (.claimRun 0 1)] ++
    claimsCall 0 ⟨"crm_update", "{}", "f", "agent:a:turn:1:d"⟩ tool ++
    [.work 0 (.runPolicyGate (.allow "rule" "Allowed.") 2), .work 0 (.transitionRunning 3),
      .work 0 .reserveSlot, .work 0 .countAttempt, .env (.cancelRun 0 4)]

/-- The handler of the cancelled run is invoked all the same. -/
theorem handler_not_always_of_live_run :
    ¬ ∀ c, Reachable c → ∀ i r x, Invokes c i r x → ¬ Ended c.store r := by
  intro hlaw
  have hworker : (freeEnd cancelledCall).procs[0]? =
      some ⟨0, .main, .running, .invoke ⟨0, ⟨"crm_update", {}⟩, 1, false, false⟩, true⟩ := by
    decide
  have hstatus : (freeEnd cancelledCall).store.runs[0]?.map (·.status) = some .cancelled := by
    decide
  obtain ⟨run, hrun, hcancelled⟩ := Option.map_eq_some_iff.mp hstatus
  exact hlaw _ (runsWith_scenarioEnd _ cancelledCall) 0 0 0
    ⟨_, _, hworker, rfl, rfl, rfl, rfl⟩ ⟨run, hrun, by rw [hcancelled]; rfl⟩

end SupportPilot
