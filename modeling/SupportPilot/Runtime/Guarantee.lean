import SupportPilot.Library.Table
import SupportPilot.Runtime.Steps

/-!
# What no step takes back

`Keeps` is the guarantee that every step of every service and worker gives to all the
others: rows keep their identity, an evaluation is never replaced, a resolved approval
and a terminal run are final, and the history only grows. An assertion about a worker is
stable when it survives `Keeps`.
-/

namespace SupportPilot

open Library

/-- A resolved request is final, and a pending one keeps what it was created with. -/
structure ApprovalKeeps (a a' : ApprovalRequest) : Prop where
  settled : a.status ≠ .pending → a' = a
  requestedBy : a'.requestedBy = a.requestedBy
  requiredRole : a'.requiredRole = a.requiredRole
  argumentsFingerprint : a'.argumentsFingerprint = a.argumentsFingerprint
  expiresAt : a'.expiresAt = a.expiresAt

theorem ApprovalKeeps.refl (a : ApprovalRequest) : ApprovalKeeps a a :=
  ⟨fun _ => rfl, rfl, rfl, rfl, rfl⟩

/-- What a row says about the logical invocation that it records. -/
structure RowIdentity (e e' : ToolExecution) : Prop where
  agentRun : e'.agentRun = e.agentRun
  agentVersion : e'.agentVersion = e.agentVersion
  workspace : e'.workspace = e.workspace
  toolDefinition : e'.toolDefinition = e.toolDefinition
  idempotencyKey : e'.idempotencyKey = e.idempotencyKey
  argumentsFingerprint : e'.argumentsFingerprint = e.argumentsFingerprint

theorem RowIdentity.refl (e : ToolExecution) : RowIdentity e e := ⟨rfl, rfl, rfl, rfl, rfl, rfl⟩

structure RowKeeps (e e' : ToolExecution) : Prop extends RowIdentity e e' where
  evaluation : ∀ ev, e.policyEvaluation = some ev → e'.policyEvaluation = some ev
  approval : ∀ a, e.approvalRequest = some a →
    ∃ a', e'.approvalRequest = some a' ∧ ApprovalKeeps a a'
  waiting : e.policyEvaluation.isSome → e.status ≠ .waitingForApproval →
    e'.status ≠ .waitingForApproval

theorem RowKeeps.unevaluated {e e' : ToolExecution} (h : RowKeeps e e')
    (hnone : e'.policyEvaluation = none) : e.policyEvaluation = none := by
  by_contra hsome
  obtain ⟨ev, hev⟩ := Option.ne_none_iff_exists'.mp hsome
  cases (h.evaluation ev hev).symm.trans hnone

structure RunKeeps (run run' : AgentRun) : Prop where
  workspace : run'.workspace = run.workspace
  agentVersion : run'.agentVersion = run.agentVersion
  conversation : run'.conversation = run.conversation
  createdBy : run'.createdBy = run.createdBy
  status : run.status.Step run'.status

structure Keeps (s s' : Store) : Prop where
  runs : Rows RunKeeps s.runs s'.runs
  executions : Rows RowKeeps s.executions s'.executions
  history : ∃ recent, s'.history = recent ++ s.history

theorem RowKeeps.refl (e : ToolExecution) : RowKeeps e e :=
  ⟨.refl e, fun _ h => h, fun a h => ⟨a, h, .refl a⟩, fun _ h => h⟩

theorem RunKeeps.refl (run : AgentRun) : RunKeeps run run :=
  ⟨rfl, rfl, rfl, rfl, .stay _⟩

theorem Keeps.refl (s : Store) : Keeps s s :=
  ⟨.refl .refl _, .refl .refl _, [], rfl⟩

/-! ## Writes of one execution row -/

/-- A write that leaves the gate's rows alone and does not make the row wait. -/
theorem RowKeeps.of_write {e e' : ToolExecution} (hidentity : RowIdentity e e')
    (hevaluation : e'.policyEvaluation = e.policyEvaluation)
    (happroval : e'.approvalRequest = e.approvalRequest)
    (hstatus : e'.status = .waitingForApproval → e.status = .waitingForApproval) :
    RowKeeps e e' :=
  ⟨hidentity, fun ev h => by rw [hevaluation, h],
    fun a h => ⟨a, by rw [happroval, h], .refl a⟩, fun _ hne hw => hne (hstatus hw)⟩

theorem rowKeeps_reset (e : ToolExecution) : RowKeeps e e.reset :=
  .of_write ⟨rfl, rfl, rfl, rfl, rfl, rfl⟩ rfl rfl fun h => by cases h

theorem rowKeeps_start (e : ToolExecution) (now : Nat) : RowKeeps e (e.start now) :=
  .of_write ⟨rfl, rfl, rfl, rfl, rfl, rfl⟩ rfl rfl fun h => by cases h

theorem rowKeeps_countAttempt (e : ToolExecution) (n : Nat) :
    RowKeeps e { e with attemptCount := n } :=
  .of_write ⟨rfl, rfl, rfl, rfl, rfl, rfl⟩ rfl rfl fun h => h

theorem rowKeeps_gate {e e' : ToolExecution} {createdBy : Option Nat} {now : Nat}
    {err : Option ToolError} (hnone : e.policyEvaluation = none)
    (h : GateCommit e createdBy now e' err) : RowKeeps e e' := by
  cases h with
  | allowed code reason =>
    exact ⟨⟨rfl, rfl, rfl, rfl, rfl, rfl⟩, fun ev h => by simp [hnone] at h,
      fun a h => ⟨a, h, .refl a⟩,
      fun h => by simp [hnone] at h⟩
  | denied evaluation message err =>
    exact ⟨⟨rfl, rfl, rfl, rfl, rfl, rfl⟩, fun ev h => by simp [hnone] at h,
      fun a h => ⟨a, h, .refl a⟩,
      fun h => by simp [hnone] at h⟩
  | approvalRequired code reason approval err happroval =>
    refine ⟨⟨rfl, rfl, rfl, rfl, rfl, rfl⟩, fun ev h => by simp [hnone] at h, ?_,
      fun h => by simp [hnone] at h⟩
    intro a ha
    refine ⟨approval, rfl, ?_⟩
    rcases happroval with hsome | ⟨hnone', -⟩
    · rw [ha] at hsome
      cases hsome
      exact .refl _
    · rw [ha] at hnone'
      cases hnone'

theorem rowKeeps_finalize {e e' : ToolExecution} {exit : CallExit} {now : Nat}
    (h : exit.finalize e now = .stored e') : RowKeeps e e' := by
  obtain ⟨hrunning, ⟨output, -, rfl⟩ | ⟨status, code, message, err, -, rfl⟩⟩ :=
    CallExit.finalize_stored h
  · exact .of_write ⟨rfl, rfl, rfl, rfl, rfl, rfl⟩ rfl rfl fun h => by cases h
  · exact .of_write ⟨rfl, rfl, rfl, rfl, rfl, rfl⟩ rfl rfl fun h =>
      absurd h status.status_ne_waiting

theorem ApprovalKeeps.trans {a b c : ApprovalRequest} (hab : ApprovalKeeps a b)
    (hbc : ApprovalKeeps b c) : ApprovalKeeps a c where
  settled h := by
    have hb := hab.settled h
    rw [hbc.settled (by rwa [hb]), hb]
  requestedBy := hbc.requestedBy.trans hab.requestedBy
  requiredRole := hbc.requiredRole.trans hab.requiredRole
  argumentsFingerprint := hbc.argumentsFingerprint.trans hab.argumentsFingerprint
  expiresAt := hbc.expiresAt.trans hab.expiresAt

theorem RowKeeps.trans {e f g : ToolExecution} (hef : RowKeeps e f) (hfg : RowKeeps f g) :
    RowKeeps e g where
  agentRun := hfg.agentRun.trans hef.agentRun
  agentVersion := hfg.agentVersion.trans hef.agentVersion
  workspace := hfg.workspace.trans hef.workspace
  toolDefinition := hfg.toolDefinition.trans hef.toolDefinition
  idempotencyKey := hfg.idempotencyKey.trans hef.idempotencyKey
  argumentsFingerprint := hfg.argumentsFingerprint.trans hef.argumentsFingerprint
  evaluation ev h := hfg.evaluation ev (hef.evaluation ev h)
  approval a h := by
    obtain ⟨b, hb, hab⟩ := hef.approval a h
    obtain ⟨c, hc, hbc⟩ := hfg.approval b hb
    exact ⟨c, hc, hab.trans hbc⟩
  waiting hsome hne := by
    obtain ⟨ev, hev⟩ := Option.isSome_iff_exists.mp hsome
    exact hfg.waiting (by simp [hef.evaluation ev hev]) (hef.waiting hsome hne)

/-- The resolution of a pending request, as a write of its row. -/
theorem rowKeeps_resolve {e : ToolExecution} {a : ApprovalRequest}
    (ha : e.approvalRequest = some a) (hpending : a.status = .pending)
    (status : ApprovalStatus) (resolvedAt : Option Nat) (decision : Option ApprovalDecision) :
    RowKeeps e { e with
      approvalRequest := some { a with
        status := status
        resolvedAt := resolvedAt
        decision := decision } } := by
  refine ⟨⟨rfl, rfl, rfl, rfl, rfl, rfl⟩, fun _ h => h, fun b hb => ⟨_, rfl, ?_⟩, fun _ h => h⟩
  rw [ha] at hb
  cases hb
  exact ⟨fun hne => absurd hpending hne, rfl, rfl, rfl, rfl⟩

theorem rowKeeps_terminate (e : ToolExecution) (code message : String) (now : Nat) :
    RowKeeps e (terminateExecution e code message now) := by
  unfold terminateExecution
  split
  · exact .of_write ⟨rfl, rfl, rfl, rfl, rfl, rfl⟩ rfl rfl fun h => by cases h
  · exact .refl e

theorem rowKeeps_expire {e : ToolExecution} {a : ApprovalRequest}
    (ha : e.approvalRequest = some a) (hpending : a.status = .pending) (now : Nat) :
    RowKeeps e (expire e a now) :=
  (rowKeeps_resolve ha hpending .expired (some now) a.decision).trans
    (rowKeeps_terminate _ _ _ now)

theorem rowKeeps_recordDecision {e : ToolExecution} {a : ApprovalRequest}
    (ha : e.approvalRequest = some a) (hpending : a.status = .pending) (actor : Nat)
    (decision : ApprovalDecisionValue) (now : Nat) :
    RowKeeps e (recordDecision e a actor decision now) := by
  have hresolve := rowKeeps_resolve ha hpending decision.status (some now)
    (some ⟨decision, actor⟩)
  cases decision with
  | approve => exact hresolve
  | reject => exact hresolve.trans (rowKeeps_terminate _ _ _ now)

theorem rowKeeps_cancelApproval (e : ToolExecution) (now : Nat) :
    RowKeeps e (cancelApprovalForExecution e now) := by
  unfold cancelApprovalForExecution
  split
  · exact .refl e
  · rename_i a ha
    split
    · exact .refl e
    · rename_i hpending
      exact rowKeeps_resolve ha (by simpa using hpending) .cancelled (some now) a.decision

theorem rowKeeps_cancelChild (e : ToolExecution) (r : Nat) (run : AgentRun) (now : Nat) :
    RowKeeps e (Store.cancelChildOf r run now e) := by
  unfold Store.cancelChildOf cancelChildExecution
  split
  · split
    · exact (rowKeeps_cancelApproval e now).trans
        (.of_write ⟨rfl, rfl, rfl, rfl, rfl, rfl⟩ rfl rfl fun h => by cases h)
    · exact .refl e
  · exact .refl e

theorem rowKeeps_recoverChild (e : ToolExecution) (r now : Nat) :
    RowKeeps e (Store.recoverChildOf r now e) := by
  unfold Store.recoverChildOf failInFlightToolExecution
  split
  · split
    · exact .of_write ⟨rfl, rfl, rfl, rfl, rfl, rfl⟩ rfl rfl fun h => by cases h
    · exact .refl e
  · exact .refl e

/-! ## Writes of one run -/

theorem runKeeps_reserve (run : AgentRun) (n : Nat) :
    RunKeeps run { run with toolCallCount := n } :=
  ⟨rfl, rfl, rfl, rfl, .stay _⟩

/-- A step out of `RUNNING` into a terminal status. -/
theorem finish_of_running {run : AgentRun} (hrunning : run.status = .running)
    {status : AgentRunStatus} (hterminal : status.terminal = true) : run.status.Step status :=
  .finish (by rw [hrunning]; rfl) hterminal

/-! ## Every step -/

theorem Keeps.of_execution {s s' : Store} (hruns : s'.runs = s.runs)
    (hexecutions : Rows RowKeeps s.executions s'.executions)
    (hhistory : ∃ recent, s'.history = recent ++ s.history) : Keeps s s' :=
  ⟨hruns ▸ .refl .refl _, hexecutions, hhistory⟩

theorem Keeps.of_run {s s' : Store} (hruns : Rows RunKeeps s.runs s'.runs)
    (hexecutions : s'.executions = s.executions)
    (hhistory : ∃ recent, s'.history = recent ++ s.history) : Keeps s s' :=
  ⟨hruns, hexecutions ▸ .refl .refl _, hhistory⟩

theorem keeps_vanish (i : Nat) (w : Worker) (s : Store) : Keeps s (s.vanish i w) := by
  unfold Store.vanish
  split
  · split
    · exact .of_run (.refl .refl _) rfl ⟨[_], rfl⟩
    · exact .refl s
  · exact .refl s

theorem keeps_workerStep {i : Nat} {w : Worker} {s s' : Store} {a : WorkerAction} {p p' : Point}
    (h : WorkerStep i w s a p s' p') : Keeps s s' := by
  cases h with
  | vanished => exact keeps_vanish i w s
  | createdRow _ _ => exact .of_execution rfl (.append .refl _ _) ⟨[], rfl⟩
  | resetRow _ _ hx _ => exact .of_execution rfl (.set .refl hx (rowKeeps_reset _)) ⟨[], rfl⟩
  | gateAllowed _ hx hnone hcommit =>
    exact .of_execution rfl (.set .refl hx (rowKeeps_gate hnone hcommit)) ⟨[], rfl⟩
  | gateRaised _ hx hnone hcommit =>
    exact .of_execution rfl (.set .refl hx (rowKeeps_gate hnone hcommit)) ⟨[], rfl⟩
  | startedRow hx _ => exact .of_execution rfl (.set .refl hx (rowKeeps_start _ _)) ⟨[_], rfl⟩
  | reservedSlot hrun _ _ => exact .of_run (.set .refl hrun (runKeeps_reserve _ _)) rfl ⟨[], rfl⟩
  | countedAttempt hx _ =>
    exact .of_execution rfl (.set .refl hx (rowKeeps_countAttempt _ _)) ⟨[], rfl⟩
  | invoked => exact .of_run (.refl .refl _) rfl ⟨[_], rfl⟩
  | retried _ => exact .of_run (.refl .refl _) rfl ⟨[_], rfl⟩
  | handlerReturned _ => exact .of_run (.refl .refl _) rfl ⟨[_], rfl⟩
  | handlerRaised _ => exact .of_run (.refl .refl _) rfl ⟨[_], rfl⟩
  | finalized hx hstored =>
    exact .of_execution rfl (.set .refl hx (rowKeeps_finalize hstored)) ⟨[_], rfl⟩
  | pausedRun hrun hrunning =>
    exact .of_run (.set .refl hrun ⟨rfl, rfl, rfl, rfl, hrunning ▸ .pause⟩) rfl ⟨[_], rfl⟩
  | handedOffRun hrun _ hcompleted =>
    obtain ⟨hrunning, conversation, outputMessage, -, rfl, -⟩ :=
      completeRunAsHandoff_some hcompleted
    exact .of_run (.set .refl hrun
      ⟨rfl, rfl, rfl, rfl, finish_of_running hrunning rfl⟩) rfl ⟨[], rfl⟩
  | completedRun hrun hcompleted =>
    obtain ⟨hrunning, outputMessage, rfl, -⟩ := completeRun_some hcompleted
    exact .of_run (.set .refl hrun
      ⟨rfl, rfl, rfl, rfl, finish_of_running hrunning rfl⟩) rfl ⟨[], rfl⟩
  | budgetExceededRun hrun hexceeded =>
    obtain ⟨hterminal, rfl⟩ := budgetExceededRun_some hexceeded
    exact .of_run (.set .refl hrun ⟨rfl, rfl, rfl, rfl, .finish hterminal rfl⟩) rfl ⟨[], rfl⟩
  | failedRun _ hrun hfailed =>
    obtain ⟨hterminal, rfl⟩ := failRun_some hfailed
    exact .of_run (.set .refl hrun ⟨rfl, rfl, rfl, rfl, .finish hterminal rfl⟩) rfl ⟨[], rfl⟩
  | resumeClaimedRun hrun hwaiting =>
    exact .of_run (.set .refl hrun ⟨rfl, rfl, rfl, rfl, hwaiting ▸ .resume⟩) rfl ⟨[_], rfl⟩
  | claimedRow hx _ => exact .of_execution rfl (.set .refl hx (rowKeeps_start _ _)) ⟨[_], rfl⟩
  | _ => exact .refl s

theorem keeps_serviceStep {s s' : Store} {event : ServiceEvent} {started : Option Worker}
    (h : ServiceStep s event s' started) : Keeps s s' := by
  cases h with
  | createdRun => exact .of_run (.append .refl _ _) rfl ⟨[], rfl⟩
  | claimedRun hrun hpending =>
    exact .of_run (.set .refl hrun ⟨rfl, rfl, rfl, rfl, hpending ▸ .claim⟩) rfl ⟨[_], rfl⟩
  | cancelledRun hrun hterminal =>
    exact ⟨.set .refl hrun ⟨rfl, rfl, rfl, rfl, .finish hterminal rfl⟩,
      .map (fun e => rowKeeps_cancelChild e _ _ _) _, [], rfl⟩
  | recoveredRun hrun hrecovered =>
    obtain ⟨hrunning, -, rfl⟩ := recoverOneStuckRun_some hrecovered
    exact ⟨.set .refl hrun ⟨rfl, rfl, rfl, rfl, finish_of_running hrunning rfl⟩,
      .map (fun e => rowKeeps_recoverChild e _ _) _, [], rfl⟩
  | redispatched => exact .of_run (.refl .refl _) rfl ⟨[], rfl⟩
  | decided hx happroval hpending =>
    exact .of_execution rfl (.set .refl hx (rowKeeps_recordDecision happroval hpending _ _ _))
      ⟨[_], rfl⟩
  | expired _ hx happroval hpending =>
    exact .of_execution rfl (.set .refl hx (rowKeeps_expire happroval hpending _)) ⟨[], rfl⟩
  | cancelledApproval hx =>
    exact .of_execution rfl (.set .refl hx (rowKeeps_cancelApproval _ _)) ⟨[], rfl⟩
  | _ => exact .refl s

/-! ## The proof rule of the development -/

/-- A configuration of workers over the store, and its labels. -/
abbrev Configuration := Config Worker Store
abbrev Step := Label ServiceEvent WorkerAction

/-- Configurations of runs whose steps all meet a condition. -/
abbrev RunsWith (condition : Configuration → Step → Prop) (c : Configuration) : Prop :=
  program.system.Reach condition c

/-- Configurations of any run. -/
abbrev Reachable (c : Configuration) : Prop := RunsWith (fun _ _ => True) c

theorem RunsWith.reachable {condition : Configuration → Step → Prop} {c : Configuration}
    (h : RunsWith condition c) : Reachable c :=
  h.mono fun _ _ _ _ => trivial

theorem keeps_step {c c' : Configuration} {l : Step} (h : program.system.step l c = some c') :
    Keeps c.store c'.store := by
  cases l with
  | env event =>
    obtain ⟨s', started, hout, rfl⟩ := Program.step_env h
    exact keeps_serviceStep (serviceStep_cases hout)
  | work i a =>
    obtain ⟨w, s', w', -, hout, rfl⟩ := Program.step_work h
    obtain ⟨-, p', alive', hstep, -⟩ := workStep_cases hout
    exact keeps_workerStep hstep

/-- An invariant of the store and a stable assertion about workers hold in every run when
every step establishes them. -/
theorem annotated_of_steps {condition : Configuration → Step → Prop} {I : Store → Prop}
    {A : Store → Worker → Prop} (hinit : I {})
    (hstable : ∀ s s' w, Keeps s s' → A s w → A s' w)
    (hservice : ∀ (c : Configuration) (event : ServiceEvent) (s' : Store)
      (started : Option Worker), RunsWith condition c → condition c (.env event) →
      c.Annotated I A → ServiceStep c.store event s' started →
      I s' ∧ ∀ w ∈ started, A s' w)
    (hworker : ∀ (c : Configuration) (i : Nat) (w : Worker) (a : WorkerAction) (s' : Store)
      (p' : Point), RunsWith condition c → condition c (.work i a) → c.Annotated I A →
      c.procs[i]? = some w → w.alive → WorkerStep i w c.store a w.point s' p' →
      I s' ∧ ∀ alive, A s' { w with point := p', alive := alive })
    {c : Configuration} (h : RunsWith condition c) : c.Annotated I A := by
  refine Program.annotated_reach (fun s hs => hs ▸ hinit) ?_ ?_ h
  · intro c event s' started hr hp hc hout
    have hstep := serviceStep_cases hout
    obtain ⟨hI, hstarted⟩ := hservice c event s' started hr hp hc hstep
    exact ⟨hI, hstarted, fun j w _ hw => hstable _ _ w (keeps_serviceStep hstep) hw⟩
  · intro c i a w s' w' hr hp hc hw hout
    obtain ⟨halive, p', alive, hstep, rfl⟩ := workStep_cases hout
    obtain ⟨hI, hself⟩ := hworker c i w a s' p' hr hp hc hw halive hstep
    exact ⟨hI, hself alive, fun j v _ _ hv => hstable _ _ v (keeps_workerStep hstep) hv⟩

/-- The rule for an invariant of the store alone. -/
theorem store_of_steps {condition : Configuration → Step → Prop} {I : Store → Prop}
    (hinit : I {})
    (hservice : ∀ (c : Configuration) (event : ServiceEvent) (s' : Store)
      (started : Option Worker), RunsWith condition c → condition c (.env event) →
      I c.store → ServiceStep c.store event s' started → I s')
    (hworker : ∀ (c : Configuration) (i : Nat) (w : Worker) (a : WorkerAction) (s' : Store)
      (p' : Point), RunsWith condition c → condition c (.work i a) → I c.store →
      c.procs[i]? = some w → w.alive → WorkerStep i w c.store a w.point s' p' → I s')
    {c : Configuration} (h : RunsWith condition c) : I c.store := by
  have hc : c.Annotated I (fun _ _ => True) :=
    annotated_of_steps hinit (fun _ _ _ _ _ => trivial)
      (fun c event s' started hr hp hc hstep =>
        ⟨hservice c event s' started hr hp hc.store hstep, fun _ _ => trivial⟩)
      (fun c i w a s' p' hr hp hc hw halive hstep =>
        ⟨hworker c i w a s' p' hr hp hc.store hw halive hstep, fun _ => trivial⟩) h
  exact hc.store

/-- The rule for an invariant that compares the workers with the store. -/
theorem configuration_of_steps {condition : Configuration → Step → Prop}
    {J : Configuration → Prop} (hinit : J ⟨{}, []⟩)
    (hservice : ∀ (c : Configuration) (event : ServiceEvent) (s' : Store)
      (started : Option Worker), RunsWith condition c → condition c (.env event) → J c →
      ServiceStep c.store event s' started → J ⟨s', c.procs ++ started.toList⟩)
    (hworker : ∀ (c : Configuration) (i : Nat) (w : Worker) (a : WorkerAction) (s' : Store)
      (p' : Point) (alive : Bool), RunsWith condition c → condition c (.work i a) → J c →
      c.procs[i]? = some w → w.alive → WorkerStep i w c.store a w.point s' p' →
      J ⟨s', c.procs.set i { w with point := p', alive := alive }⟩)
    {c : Configuration} (h : RunsWith condition c) : J c := by
  refine h.invariant (fun c hc => ?_) fun c l c' hr hJ hp hstep => ?_
  · obtain ⟨s, procs⟩ := c
    obtain ⟨rfl, rfl⟩ : s = {} ∧ procs = [] := hc
    exact hinit
  · cases l with
    | env event =>
      obtain ⟨s', started, hout, rfl⟩ := Program.step_env hstep
      exact hservice c event s' started hr hp hJ (serviceStep_cases hout)
    | work i a =>
      obtain ⟨w, s', w', hw, hout, rfl⟩ := Program.step_work hstep
      obtain ⟨halive, p', alive', hcase, rfl⟩ := workStep_cases hout
      exact hworker c i w a s' p' alive' hr hp hJ hw halive hcase

end SupportPilot
