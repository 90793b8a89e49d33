import SupportPilot.Runtime.Invariants
import SupportPilot.Runtime.Scenario

/-!
# The life of an agent run

Nine writers change the status of a run under four different guards. Their joint effect is
that a run is claimed once, follows its automaton into at most one terminal status, and
produces its one message for the customer in the step that ends it.
-/

namespace SupportPilot

open Library

def Event.isClaimOf (r : Nat) : Event → Bool
  | .runClaimed r' => r' == r
  | _ => false

/-- How often run `r` was claimed out of `PENDING`. -/
def claims (s : Store) (r : Nat) : Nat :=
  s.history.countP (Event.isClaimOf r)

/-- The messages created for run `r`. -/
def outputMessages (s : Store) (r : Nat) : Nat :=
  s.messages.countP fun m => m.agentRun == r

/-- The run ended with something to say to the customer. -/
def AgentRun.responded (run : AgentRun) : Bool :=
  run.status = .handedOff ||
    run.status = .succeeded && run.conversation.isSome && run.finalResponse ≠ ""

theorem not_responded_of_not_terminal {run : AgentRun} (h : run.status.terminal = false) :
    run.responded = false := by
  cases hs : run.status <;> simp_all [AgentRun.responded, AgentRunStatus.terminal]

/-- What the history and the message table say about one run. -/
structure LifeInvariant (s : Store) (r : Nat) (run : AgentRun) : Prop where
  claimed : claims s r ≤ 1
  pending : run.status = .pending → claims s r = 0
  outputs : outputMessages s r = if run.responded then 1 else 0
  output : run.outputMessage.isSome = run.responded

/-- Nothing speaks of a run before it exists. -/
def Unborn (s : Store) : Prop :=
  ∀ r, s.runs.length ≤ r → claims s r = 0 ∧ outputMessages s r = 0

/-- A write that neither answers the customer nor returns the run to `PENDING`. -/
theorem LifeInvariant.write {s s' : Store} {r : Nat} {run run' : AgentRun}
    (h : LifeInvariant s r run) (hclaims : claims s' r = claims s r)
    (hmessages : outputMessages s' r = outputMessages s r)
    (hstatus : run.status.Step run'.status) (hresponded : run'.responded = run.responded)
    (houtput : run'.outputMessage = run.outputMessage) : LifeInvariant s' r run' where
  claimed := hclaims ▸ h.claimed
  pending hp := hclaims ▸ h.pending (AgentRunStatus.Step.to_pending (hp ▸ hstatus))
  outputs := by rw [hmessages, hresponded, h.outputs]
  output := by rw [houtput, hresponded, h.output]

theorem LifeInvariant.same {s s' : Store} {r : Nat} {run : AgentRun} (h : LifeInvariant s r run)
    (hclaims : claims s' r = claims s r)
    (hmessages : outputMessages s' r = outputMessages s r) : LifeInvariant s' r run :=
  h.write hclaims hmessages (.stay _) rfl rfl

/-- Both completions: the message table and the run row change together. -/
theorem LifeInvariant.completed {s s' : Store} {r : Nat} {run : AgentRun}
    {status : AgentRunStatus} {finalResponse : String} {usage : RunUsage}
    {outputMessage : Option Nat} {now : Nat} {message : Option Message}
    (h : LifeInvariant s r run) (hrunning : run.status = .running)
    (hterminal : status.terminal = true) (hclaims : claims s' r = claims s r)
    (hmessages : s'.messages = s.messages ++ message.toList)
    (hmessage : ∀ m ∈ message, m.agentRun = r)
    (hresponded : (SupportPilot.completed run status finalResponse usage outputMessage
      now).responded = message.isSome)
    (houtput : outputMessage.isSome = message.isSome) :
    LifeInvariant s' r (SupportPilot.completed run status finalResponse usage outputMessage
      now) where
  claimed := hclaims ▸ h.claimed
  pending hp := by
    rw [show status = .pending from hp] at hterminal
    cases hterminal
  outputs := by
    have hold := h.outputs
    rw [not_responded_of_not_terminal (by rw [hrunning]; rfl)] at hold
    rw [outputMessages] at hold ⊢
    rw [hmessages, List.countP_append, hold, hresponded]
    cases message with
    | none => rfl
    | some m => simp [hmessage m rfl]
  output := by rw [hresponded, ← houtput]; rfl

/-! ## Every step -/

structure LifeTable (s : Store) : Prop where
  runs : AllRows (LifeInvariant s) s.runs
  unborn : Unborn s

/-- The history and the messages say the same of run `r` in both stores. -/
def SameLife (s s' : Store) (r : Nat) : Prop :=
  claims s' r = claims s r ∧ outputMessages s' r = outputMessages s r

theorem sameLife_record {s s' : Store} {event : Event} {r : Nat}
    (hhistory : s'.history = event :: s.history) (hevent : event.isClaimOf r = false)
    (hmessages : s'.messages = s.messages) : SameLife s s' r := by
  refine ⟨?_, by rw [outputMessages, hmessages, outputMessages]⟩
  rw [claims, hhistory, List.countP_cons_of_neg (by simp [hevent]), claims]

theorem LifeTable.same {s s' : Store} (h : LifeTable s) (hruns : s'.runs = s.runs)
    (hsame : ∀ r, SameLife s s' r) : LifeTable s' where
  runs := by
    rw [hruns]
    exact h.runs.imp fun r run _ hrun => hrun.same (hsame r).1 (hsame r).2
  unborn r hr := by
    rw [(hsame r).1, (hsame r).2]
    exact h.unborn r (hruns ▸ hr)

/-- A step that writes run `r` only has to answer for that run. -/
theorem LifeTable.set {s s' : Store} {r : Nat} {run run' : AgentRun} (h : LifeTable s)
    (hrun : s.runs[r]? = some run) (hruns : s'.runs = s.runs.set r run')
    (hothers : ∀ i, i ≠ r → SameLife s s' i)
    (hself : LifeInvariant s r run → LifeInvariant s' r run') : LifeTable s' where
  runs := by
    rw [hruns]
    refine .set_of_ne (fun i other hne hi => ?_) (hself (h.runs r run hrun))
    exact (h.runs i other hi).same (hothers i hne).1 (hothers i hne).2
  unborn i hi := by
    have hlt := (List.getElem?_eq_some_iff.mp hrun).1
    rw [hruns, List.length_set] at hi
    obtain ⟨hclaims, hmessages⟩ := hothers i (by omega)
    rw [hclaims, hmessages]
    exact h.unborn i hi

theorem LifeTable.write {s s' : Store} {r : Nat} {run run' : AgentRun} (h : LifeTable s)
    (hrun : s.runs[r]? = some run) (hruns : s'.runs = s.runs.set r run')
    (hsame : ∀ i, SameLife s s' i) (hstatus : run.status.Step run'.status)
    (hresponded : run'.responded = run.responded)
    (houtput : run'.outputMessage = run.outputMessage) : LifeTable s' :=
  h.set hrun hruns (fun i _ => hsame i)
    fun hlife => hlife.write (hsame r).1 (hsame r).2 hstatus hresponded houtput

theorem LifeTable.complete {s s' : Store} {r : Nat} {run : AgentRun} {status : AgentRunStatus}
    {finalResponse : String} {usage : RunUsage} {outputMessage : Option Nat} {now : Nat}
    {message : Option Message} (h : LifeTable s) (hrun : s.runs[r]? = some run)
    (hruns : s'.runs =
      s.runs.set r (SupportPilot.completed run status finalResponse usage outputMessage now))
    (hhistory : s'.history = s.history) (hmessages : s'.messages = s.messages ++ message.toList)
    (hmessage : ∀ m ∈ message, m.agentRun = r) (hrunning : run.status = .running)
    (hterminal : status.terminal = true)
    (hanswer : run.outputMessage = none →
      (SupportPilot.completed run status finalResponse usage outputMessage now).responded =
        message.isSome ∧ outputMessage.isSome = message.isSome) : LifeTable s' := by
  have hclaims : ∀ i, claims s' i = claims s i := fun i => by rw [claims, hhistory, claims]
  refine h.set hrun hruns (fun i hne => ⟨hclaims i, ?_⟩) fun hlife => ?_
  · rw [outputMessages, hmessages, List.countP_append, outputMessages]
    cases message with
    | none => rfl
    | some m => simp [hmessage m rfl, Ne.symm hne]
  · have hsilent := hlife.output
    rw [not_responded_of_not_terminal (by rw [hrunning]; rfl)] at hsilent
    obtain ⟨hresponded, houtput⟩ := hanswer (by simpa using hsilent)
    exact hlife.completed hrunning hterminal (hclaims r) hmessages hmessage hresponded houtput

theorem sameLife_refl (s : Store) (r : Nat) : SameLife s s r := ⟨rfl, rfl⟩

/-- A final step without an answer, from a status without one. -/
theorem responded_of_finish {run run' : AgentRun} (hrun : run.status.terminal = false)
    (hrun' : run'.status ≠ .handedOff ∧ run'.status ≠ .succeeded) :
    run'.responded = run.responded := by
  rw [not_responded_of_not_terminal hrun]
  simp [AgentRun.responded, hrun'.1, hrun'.2]

theorem lifeTable_workerStep {i : Nat} {w : Worker} {s s' : Store} {a : WorkerAction}
    {p p' : Point} (hs : LifeTable s) (h : WorkerStep i w s a p s' p') : LifeTable s' := by
  cases h with
  | vanished =>
    unfold Store.vanish
    split
    · split
      · exact hs.same rfl fun r => sameLife_record rfl rfl rfl
      · exact hs
    · exact hs
  | startedRow | invoked | retried | handlerReturned | handlerRaised | finalized | claimedRow =>
    exact hs.same rfl fun r => sameLife_record rfl rfl rfl
  | createdRow | resetRow | gateAllowed | gateRaised | countedAttempt =>
    exact hs.same rfl fun r => sameLife_refl s r
  | reservedSlot hrun => exact hs.write hrun rfl (fun r => sameLife_refl s r) (.stay _) rfl rfl
  | pausedRun hrun hrunning =>
    refine hs.write hrun rfl (fun r => sameLife_record rfl rfl rfl) (hrunning ▸ .pause) ?_ rfl
    rw [not_responded_of_not_terminal rfl, not_responded_of_not_terminal (by rw [hrunning]; rfl)]
  | resumeClaimedRun hrun hwaiting =>
    refine hs.write hrun rfl (fun r => sameLife_record rfl rfl rfl) (hwaiting ▸ .resume) ?_ rfl
    rw [not_responded_of_not_terminal rfl, not_responded_of_not_terminal (by rw [hwaiting]; rfl)]
  | handedOffRun hrun hconversation hcompleted =>
    obtain ⟨hrunning, conversation, outputMessage, -, rfl, hmessage⟩ :=
      completeRunAsHandoff_some hcompleted
    refine hs.complete hrun rfl rfl rfl ?_ hrunning rfl ?_
    · rcases hmessage with ⟨rfl, -⟩ | ⟨rfl, -⟩
      · nofun
      · rintro m ⟨⟩
        rfl
    · intro hnone
      rcases hmessage with ⟨rfl, hsome, hsame⟩ | ⟨rfl, rfl, -⟩
      · rw [← hsame, hnone] at hsome
        cases hsome
      · exact ⟨rfl, rfl⟩
  | completedRun hrun hcompleted =>
    obtain ⟨hrunning, outputMessage, rfl, hmessage⟩ := completeRun_some hcompleted
    refine hs.complete hrun rfl rfl rfl ?_ hrunning rfl ?_
    · rcases hmessage with ⟨rfl, -⟩ | ⟨conversation, -, -, -, rfl, -⟩
      · nofun
      · rintro m ⟨⟩
        rfl
    · intro hnone
      rcases hmessage with ⟨rfl, rfl, hquiet⟩ | ⟨conversation, hconv, hresponse, -, rfl, rfl⟩
      · refine ⟨?_, by simp [hnone]⟩
        rcases hquiet with hconv | hempty | hsome
        · simp [AgentRun.responded, completed, hconv]
        · simp [AgentRun.responded, completed, hempty]
        · simp [hnone] at hsome
      · simp [AgentRun.responded, completed, hconv, hresponse]
  | budgetExceededRun hrun hexceeded =>
    obtain ⟨hterminal, rfl⟩ := budgetExceededRun_some hexceeded
    exact hs.write hrun rfl (fun r => sameLife_refl s r) (.finish hterminal rfl)
      (responded_of_finish hterminal (by simp)) rfl
  | failedRun _ hrun hfailed =>
    obtain ⟨hterminal, rfl⟩ := failRun_some hfailed
    exact hs.write hrun rfl (fun r => sameLife_refl s r) (.finish hterminal rfl)
      (responded_of_finish hterminal (by simp)) rfl
  | _ => exact hs

/-- A new run has no history yet. -/
theorem lifeTable_createRun {s : Store} (hs : LifeTable s) {run : AgentRun}
    (hpending : run.status = .pending) (hsilent : run.outputMessage = none) :
    LifeTable { s with runs := s.runs ++ [run] } := by
  obtain ⟨hclaims, hmessages⟩ := hs.unborn s.runs.length le_rfl
  have hresponded : run.responded = false :=
    not_responded_of_not_terminal (by rw [hpending]; rfl)
  have hnew : LifeInvariant { s with runs := s.runs ++ [run] } s.runs.length run := by
    refine ⟨?_, fun _ => hclaims, ?_, ?_⟩
    · exact hclaims.le.trans (Nat.zero_le 1)
    · rw [hresponded]
      exact hmessages
    · rw [hresponded, hsilent]
      rfl
  refine ⟨AllRows.append (fun i other hi => ?_) hnew, fun r hr => ?_⟩
  · exact (hs.runs i other hi).same rfl rfl
  · exact hs.unborn r (by simp at hr; omega)

/-- The claim is the first one, because the run was pending. -/
theorem lifeTable_claimRun {s : Store} {r now : Nat} {run : AgentRun} (hs : LifeTable s)
    (hrun : s.runs[r]? = some run) (hpending : run.status = .pending) :
    LifeTable ((s.setRun r { run with
      status := .running, startedAt := some now, updatedAt := now }).record (.runClaimed r)) := by
  refine hs.set hrun rfl (fun i hne => sameLife_record rfl ?_ rfl) fun hlife => ?_
  · simp [Event.isClaimOf, Ne.symm hne]
  · have hresponded : run.responded = false :=
      not_responded_of_not_terminal (by rw [hpending]; rfl)
    have hfirst : claims ((s.setRun r { run with
        status := .running, startedAt := some now, updatedAt := now }).record
        (.runClaimed r)) r = 1 := by
      have hzero := hlife.pending hpending
      rw [claims] at hzero ⊢
      simp [Event.isClaimOf, hzero]
    refine ⟨hfirst.le, nofun, ?_, ?_⟩
    · rw [not_responded_of_not_terminal rfl, ← hresponded]
      exact hlife.outputs
    · rw [not_responded_of_not_terminal rfl, ← hresponded]
      exact hlife.output

theorem lifeTable_serviceStep {s s' : Store} {event : ServiceEvent} {started : Option Worker}
    (hs : LifeTable s) (h : ServiceStep s event s' started) : LifeTable s' := by
  cases h with
  | createdRun => exact lifeTable_createRun hs rfl rfl
  | claimedRun hrun hpending => exact lifeTable_claimRun hs hrun hpending
  | cancelledRun hrun hterminal =>
    exact hs.write hrun rfl (fun r => sameLife_refl s r) (.finish hterminal rfl)
      (responded_of_finish hterminal (by simp)) rfl
  | recoveredRun hrun hrecovered =>
    obtain ⟨hrunning, -, rfl⟩ := recoverOneStuckRun_some hrecovered
    exact hs.write hrun rfl (fun r => sameLife_refl s r) (finish_of_running hrunning rfl)
      (responded_of_finish (by rw [hrunning]; rfl) (by simp)) rfl
  | decided => exact hs.same rfl fun r => sameLife_record rfl rfl rfl
  | redispatched | expired | cancelledApproval => exact hs.same rfl fun r => sameLife_refl s r
  | _ => exact hs

theorem lifeTable_empty : LifeTable {} :=
  ⟨fun _ _ h => by simp at h, fun _ _ => ⟨rfl, rfl⟩⟩

theorem lifeTable {c : Configuration} (h : Reachable c) : LifeTable c.store :=
  store_of_steps lifeTable_empty
    (fun _ _ _ _ _ _ hs hstep => lifeTable_serviceStep hs hstep)
    (fun _ _ _ _ _ _ _ _ hs _ _ hstep => lifeTable_workerStep hs hstep) h

/-! ## Main results -/

def HasStatus (r : Nat) (status : AgentRunStatus) (c : Configuration) : Prop :=
  ∃ run, c.store.runs[r]? = some run ∧ run.status = status

theorem terminal_kept {r : Nat} {status : AgentRunStatus} (hterminal : status.terminal = true)
    {c c' : Configuration} (hlater : program.system.Later c c') (hc : HasStatus r status c) :
    HasStatus r status c' := by
  refine hlater.kept ?_ hc
  rintro c l c' ⟨run, hrun, rfl⟩ hstep
  obtain ⟨run', hrun', hkeeps⟩ := (keeps_step hstep).runs r run hrun
  exact ⟨run', hrun', hkeeps.status.of_terminal hterminal⟩

/-- In every run of the system an agent run was claimed at most once and has its one message
exactly when it ended with something to say; each further step follows its automaton, and
nothing moves it out of a terminal status. -/
theorem agentRun_life {c : Configuration} (h : Reachable c) {r : Nat} {run : AgentRun}
    (hrun : c.store.runs[r]? = some run) :
    claims c.store r ≤ 1 ∧
      outputMessages c.store r = (if run.responded then 1 else 0) ∧
      (∀ l c', program.system.step l c = some c' →
        ∃ run', c'.store.runs[r]? = some run' ∧ run.status.Step run'.status) ∧
      (run.status.terminal = true → ∀ c', program.system.Later c c' →
        HasStatus r run.status c') := by
  have hlife := (lifeTable h).runs r run hrun
  refine ⟨hlife.claimed, hlife.outputs, fun l c' hstep => ?_, fun hterminal c' hlater => ?_⟩
  · obtain ⟨run', hrun', hkeeps⟩ := (keeps_step hstep).runs r run hrun
    exact ⟨run', hrun', hkeeps.status⟩
  · exact terminal_kept hterminal hlater ⟨run, hrun, rfl⟩

theorem agentRun_life_answered :
    ∃ run, (freeEnd answeredRun).store.runs[0]? = some run ∧ run.status = .succeeded ∧
      claims (freeEnd answeredRun).store 0 ≤ 1 ∧
      outputMessages (freeEnd answeredRun).store 0 = (if run.responded then 1 else 0) ∧
      ∀ c', program.system.Later (freeEnd answeredRun) c' → HasStatus 0 .succeeded c' := by
  obtain ⟨run, hrun⟩ : ∃ run, (freeEnd answeredRun).store.runs[0]? = some run :=
    Option.isSome_iff_exists.mp (by decide)
  have hend : (freeEnd answeredRun).store.runs[0]?.map (·.status) = some .succeeded := by decide
  have hstatus : run.status = .succeeded := by simpa [hrun] using hend
  obtain ⟨hclaims, houtputs, -, hfinal⟩ :=
    agentRun_life (runsWith_scenarioEnd _ answeredRun) hrun
  rw [hstatus] at hfinal
  exact ⟨run, hrun, hstatus, hclaims, houtputs, hfinal rfl⟩

end SupportPilot
