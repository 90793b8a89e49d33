import SupportPilot.Runtime.Policies
import SupportPilot.Runtime.Scenario
import SupportPilot.Runtime.Sections

/-!
# Retries after an unknown outcome

A retry policy names the error codes that leave the provider's outcome unknown, and a row
that carries one of them is never reset. The recovery sweep writes a code of its own on the
rows of a vanished worker, and the executor's timeout is named only by policies that list
it, so a later call can reset such a row and invoke its handler again.
-/

namespace SupportPilot

open Library

/-! ## Conditions -/

/-- A later call with the key of row `x` resets it although its last attempt timed out, or the
sweep failed it. -/
def resetsUnknown (x : Nat) (c : Configuration) : Step → Bool
  | .work i .claimExecution => resetTarget c i == some x &&
    (c.store.executions[x]?).any fun e =>
      e.status == .timedOut || e.errorCode == "stuck_worker_recovered"
  | _ => false

def RefusesUnknown (key : String) (policy : RetryPolicy) (x : Nat) (c : Configuration)
    (l : Step) : Prop :=
  keepsPolicy key policy c l = true ∧ resetsUnknown x c l = false

instance (key : String) (policy : RetryPolicy) (x : Nat) (c : Configuration) (l : Step) :
    Decidable (RefusesUnknown key policy x c l) :=
  inferInstanceAs (Decidable (_ ∧ _))

variable {key : String} {policy : RetryPolicy} {c c' : Configuration} {i x : Nat} {w : Worker}
  {s s' : Store} {a : WorkerAction} {p p' : Point}

theorem resetsUnknown_reset {request : ToolRequest} {tool : ToolSpec} {run : AgentRun}
    {e : ToolExecution} (h : resetsUnknown x c (.work i .claimExecution) = false)
    (hw : c.procs[i]? = some w) (hpoint : w.point = .claimExecution request tool)
    (hrun : c.store.runs[w.run]? = some run)
    (hfind : c.store.findExecution run.workspace request.toolKey request.idempotencyKey = some x)
    (he : c.store.executions[x]? = some e)
    (hreset : resolveExisting e request.argumentsFingerprint tool = .ok .reset) :
    e.status ≠ .timedOut ∧ e.errorCode ≠ "stuck_worker_recovered" := by
  simpa [resetsUnknown, resetTarget, hw, hpoint, hrun, hfind, he, hreset, Except.toOption] using h

/-! ## One section at a time -/

/-- The row runs, or the sweep has failed it. -/
def Held (e : ToolExecution) : Prop :=
  e.status = .running ∨ e.status = .failed ∧ e.errorCode = "stuck_worker_recovered"

/-- Row `x` has at most one section, and is held while it has one. A worker that vanished in
its section stays in it. -/
structure OneSection (x : Nat) (c : Configuration) : Prop where
  exclusive : Program.Exclusive (fun w (_ : Unit) => w.point.sectionRow = some x) c
  held : ∀ (i : Nat) (w : Worker), c.procs[i]? = some w → w.point.sectionRow = some x →
    RowAt c.store x Held

/-- A row in a section is not written by others, but for the sweep. -/
theorem held_workerStep (hp : resetsUnknown x c (.work i a) = false) (hc : OneSection x c)
    (hw : c.procs[i]? = some w) (h : WorkerStep i w c.store a w.point s' p') {j : Nat}
    {m : Worker} (hm : c.procs[j]? = some m) (hx : m.point.sectionRow = some x)
    (hout : j = i → p'.sectionRow = some x) : RowAt s' x Held := by
  obtain ⟨e, he, hheld⟩ := hc.held j m hm hx
  refine (rowAfter_workerStep h he).imp fun e' hchange => ?_
  generalize hpt : w.point = p at hchange
  cases hchange with
  | kept hstatus hcode =>
    unfold Held at hheld ⊢
    rwa [hstatus, hcode]
  | reset hrun hfind hreset =>
    -- Of the statuses that are reset, only the sweep's code is left, and that is refused.
    obtain ⟨-, hstatus, -⟩ := resolveExisting_reset hreset
    have hcode := (resetsUnknown_reset hp hw hpt hrun hfind he hreset).2
    rcases hheld with hrunning | ⟨-, hstuck⟩
    · simp [hrunning] at hstatus
    · exact absurd hstuck hcode
  | gated hpending => simp [Held, hpending] at hheld
  | started hstatus => rcases hstatus with hs | hs <;> simp [Held, hs] at hheld
  | finalized hcall hleft =>
    have hself : w.point.sectionRow = some x := by
      rw [hpt, ← hcall]
      rfl
    have hji := hc.exclusive j i m w () hm hw hx hself
    exact absurd (hout hji) (sectionRow_of_outside hleft)

theorem held_serviceStep {event : ServiceEvent} {started : Option Worker} {e : ToolExecution}
    (h : ServiceStep s event s' started) (he : s.executions[x]? = some e) (hheld : Held e) :
    RowAt s' x Held := by
  refine (rowAfter_serviceStep h he).imp fun e' hchange => ?_
  rcases hchange with ⟨hstatus, hcode⟩ | hwaiting | ⟨-, hfailed, hstuck⟩
  · unfold Held at hheld ⊢
    rwa [hstatus, hcode]
  · simp [Held, hwaiting] at hheld
  · exact .inr ⟨hfailed, hstuck⟩

theorem oneSection_workerStep (hp : resetsUnknown x c (.work i a) = false)
    (hc : OneSection x c) (hw : c.procs[i]? = some w)
    (h : WorkerStep i w c.store a w.point s' p') (alive : Bool) :
    OneSection x ⟨s', c.procs.set i { w with point := p', alive := alive }⟩ := by
  have hlt := (List.getElem?_eq_some_iff.mp hw).1
  constructor
  · refine Program.exclusive_set hc.exclusive hw fun _ hx => ?_
    rcases sectionRow_workerStep h hx with hold | ⟨-, -, e, he, hstatus⟩
    · exact .inl hold
    · right
      intro j m _ hm hmx
      have hheld := (hc.held j m hm hmx).get he
      rcases hstatus with hs | hs <;> simp [Held, hs] at hheld
  · intro j m hm hx
    rcases getElem?_set_cases hm with ⟨rfl, rfl⟩ | ⟨hji, hother⟩
    · rcases sectionRow_workerStep h hx with hold | ⟨hstarted, -⟩
      · exact held_workerStep hp hc hw h hw hold fun _ => hx
      · exact hstarted.imp fun e hrunning => .inl hrunning
    · exact held_workerStep hp hc hw h hother hx fun hsame => absurd hsame hji

theorem oneSection_serviceStep {event : ServiceEvent} {started : Option Worker}
    (hc : OneSection x c) (h : ServiceStep c.store event s' started) :
    OneSection x ⟨s', c.procs ++ started.toList⟩ := by
  constructor
  · exact Program.exclusive_append hc.exclusive fun w hw _ hx => absurd hx (started_outside h hw)
  · intro j m hm hx
    rcases Program.proc_append hm with hold | hnew
    · obtain ⟨e, he, hheld⟩ := hc.held j m hold hx
      exact held_serviceStep h he hheld
    · exact absurd hx (started_outside h hnew)

theorem oneSection (h : RunsWith (RefusesUnknown key policy x) c) : OneSection x c :=
  configuration_of_steps
    ⟨fun _ _ _ _ _ hl => by simp at hl, fun _ _ hw => by simp at hw⟩
    (fun _ _ _ _ _ _ hc hstep => oneSection_serviceStep hc hstep)
    (fun _ _ _ _ _ _ alive _ hp hc hw _ hstep =>
      oneSection_workerStep hp.2 hc hw hstep alive) h


/-! ## Unknown outcomes -/

/-- An invocation on row `x` ended with an unknown outcome: the timeout of the executor, an
ambiguous code of the policy, or a worker that vanished. -/
def Event.unknownOutcome (policy : RetryPolicy) (x : Nat) : Event → Bool
  | .handlerEnded _ y (.error (.toolError e)) =>
    y == x && (e.cls == .timeout || decide (e.code ∈ policy.ambiguousOutcomeErrorCodes))
  | .workerVanished _ y => y == x
  | _ => false

/-- The row is not reset any more: it runs without a worker that could go on, or carries what
says that its outcome is unknown. -/
def UnknownRow (policy : RetryPolicy) (e : ToolExecution) : Prop :=
  e.status = .running ∨ e.status = .timedOut ∨ e.status = .failed ∧
    (e.errorCode ∈ policy.ambiguousOutcomeErrorCodes ∨ e.errorCode = "stuck_worker_recovered")

/-- The exit finalizes its row with an unknown outcome. -/
def UnknownExit (policy : RetryPolicy) : CallExit → Prop
  | .failure .timedOut _ _ _ => True
  | .failure .failed code _ _ => code ∈ policy.ambiguousOutcomeErrorCodes
  | _ => False

/-- After an unknown outcome, no live worker in the section of row `x` can invoke its handler. -/
structure Sealed (policy : RetryPolicy) (x : Nat) (c : Configuration) : Prop where
  row : RowAt c.store x (UnknownRow policy)
  leaving : ∀ (i : Nat) (w : Worker), c.procs[i]? = some w → w.alive = true →
    w.point.sectionRow = some x → ∃ call exit, w.point = .leave call exit ∧
      UnknownExit policy exit

theorem UnknownRow.of_held {e : ToolExecution} (h : Held e) : UnknownRow policy e :=
  h.imp_right fun hfailed => .inr ⟨hfailed.1, .inr hfailed.2⟩

theorem UnknownRow.finalize {exit : CallExit} {e e' : ToolExecution} {now : Nat}
    (hexit : UnknownExit policy exit) (h : exit.finalize e now = .stored e') :
    UnknownRow policy e' := by
  obtain ⟨-, ⟨_, rfl, -⟩ | ⟨status, code, message, err, rfl, rfl⟩⟩ := CallExit.finalize_stored h
  · cases hexit
  · cases status with
    | failed => exact .inr (.inr ⟨rfl, .inl hexit⟩)
    | timedOut => exact .inr (.inl rfl)

/-- What the loop does with an unknown outcome: it leaves, as the codes are not retryable. -/
theorem afterAttempt_unknown
    (hdisjoint : ∀ code ∈ policy.ambiguousOutcomeErrorCodes, code ∉ policy.retryableErrorCodes)
    {n : Nat} {b : HandlerBehaviour} {e : ToolError}
    (hresult : invokeWithTimeout b = .error (.toolError e))
    (hunknown : e.cls = .timeout ∨ e.code ∈ policy.ambiguousOutcomeErrorCodes) :
    afterAttempt policy n b = .raises (.toolError e) ∧
      UnknownExit policy (.ofRaised (.toolError e)) := by
  unfold afterAttempt
  rw [hresult]
  by_cases htimeout : e.cls = .timeout
  · simp [htimeout, CallExit.ofRaised, UnknownExit]
  · have hcode := hunknown.resolve_left htimeout
    simp [htimeout, hdisjoint _ hcode, CallExit.ofRaised, UnknownExit, hcode]

theorem unknownRow_not_waiting {e : ToolExecution} (h : UnknownRow policy e) :
    ¬ (e.status = .pending ∨ e.status = .waitingForApproval) := by
  rintro (hs | hs) <;> simp [UnknownRow, hs] at h

/-- The row, if it exists, is one of the tool of this key. -/
def KeyAt (key : String) (x : Nat) (s : Store) : Prop :=
  ∀ e, s.executions[x]? = some e → e.toolDefinition = key

theorem KeyAt.before (h : KeyAt key x s') (hs : Keeps s s') : KeyAt key x s := by
  intro e he
  obtain ⟨e', he', hrow⟩ := hs.executions x e he
  rw [← hrow.toolDefinition]
  exact h e' he'

theorem sealedRow_workerStep (hkey : KeyAt key x c.store)
    (hp : resetsUnknown x c (.work i a) = false) (hcarries : CarriesPolicy key policy c.store w)
    (hc : Sealed policy x c) (hw : c.procs[i]? = some w) (halive : w.alive = true)
    (h : WorkerStep i w c.store a w.point s' p') : RowAt s' x (UnknownRow policy) := by
  obtain ⟨e, he, hunknown⟩ := hc.row
  refine (rowAfter_workerStep h he).imp fun e' hchange => ?_
  generalize hpt : w.point = p at hchange
  cases hchange with
  | kept hstatus hcode =>
    unfold UnknownRow at hunknown ⊢
    rwa [hstatus, hcode]
  | reset hrun hfind hreset =>
    -- The policy refuses its own codes, and the condition the other two.
    obtain ⟨-, hstatus, hcode, -⟩ := resolveExisting_reset hreset
    obtain ⟨htimedOut, hstuck⟩ := resetsUnknown_reset hp hw hpt hrun hfind he hreset
    obtain ⟨-, f, hf, -, htool, -⟩ := Store.findExecution_some hfind
    cases he.symm.trans hf
    rw [hcarries.claim _ _ hpt (htool.symm.trans (hkey e he))] at hcode
    rcases hunknown with hrunning | htimeout | ⟨-, hambiguous | hsweep⟩
    · simp [hrunning] at hstatus
    · exact absurd htimeout htimedOut
    · exact absurd hambiguous hcode
    · exact absurd hsweep hstuck
  | gated hpending => exact absurd (.inl hpending) (unknownRow_not_waiting hunknown)
  | started hstatus => exact absurd hstatus (unknownRow_not_waiting hunknown)
  | finalized hcall _ hstored =>
    obtain ⟨call, exit, hleave, hexit⟩ := hc.leaving i w hw halive (by rw [hpt, ← hcall]; rfl)
    cases hpt.symm.trans hleave
    exact .finalize hexit hstored

theorem leaving_workerStep (hc : Sealed policy x c) (hw : c.procs[i]? = some w)
    (halive : w.alive = true) (h : WorkerStep i w c.store a w.point s' p')
    (hx : p'.sectionRow = some x) :
    ∃ call exit, p' = .leave call exit ∧ UnknownExit policy exit := by
  rcases sectionRow_workerStep h hx with hold | ⟨-, -, e, he, hstatus⟩
  · obtain ⟨call, exit, hleave, hexit⟩ := hc.leaving i w hw halive hold
    rw [hleave] at h
    cases h with
    | vanished => exact ⟨call, exit, rfl, hexit⟩
    | finalized | leftUnfinalized =>
      exact absurd hx (sectionRow_of_outside (Point.afterExit_outside _ _ _))
    | failedRun | unfinishedRun => cases hx
  · exact absurd hstatus (unknownRow_not_waiting (hc.row.get he))

theorem sealed_workerStep (hkey : KeyAt key x c.store)
    (hp : resetsUnknown x c (.work i a) = false) (hcarries : CarriesPolicy key policy c.store w)
    (hc : Sealed policy x c) (hw : c.procs[i]? = some w) (halive : w.alive = true)
    (h : WorkerStep i w c.store a w.point s' p') (alive : Bool) :
    Sealed policy x ⟨s', c.procs.set i { w with point := p', alive := alive }⟩ := by
  refine ⟨sealedRow_workerStep hkey hp hcarries hc hw halive h, fun j m hm hmalive hx => ?_⟩
  rcases getElem?_set_cases hm with ⟨rfl, rfl⟩ | ⟨-, hother⟩
  · exact leaving_workerStep hc hw halive h hx
  · exact hc.leaving j m hother hmalive hx

theorem sealed_serviceStep {event : ServiceEvent} {started : Option Worker}
    (hc : Sealed policy x c) (h : ServiceStep c.store event s' started) :
    Sealed policy x ⟨s', c.procs ++ started.toList⟩ := by
  obtain ⟨e, he, hunknown⟩ := hc.row
  refine ⟨(rowAfter_serviceStep h he).imp fun e' hchange => ?_, fun j m hm hmalive hx => ?_⟩
  · rcases hchange with ⟨hstatus, hcode⟩ | hwaiting | ⟨-, hfailed, hstuck⟩
    · unfold UnknownRow at hunknown ⊢
      rwa [hstatus, hcode]
    · exact absurd (.inr hwaiting) (unknownRow_not_waiting hunknown)
    · exact .inr (.inr ⟨hfailed, .inr hstuck⟩)
  · rcases Program.proc_append hm with hold | hnew
    · exact hc.leaving j m hold hmalive hx
    · exact absurd hx (started_outside h hnew)

/-! ## Histories -/

theorem unknownOutcome_handlerEnded {y : Nat} {result : Except Raised ToolOutput}
    (h : (Event.handlerEnded i y result).unknownOutcome policy x = true) :
    y = x ∧ ∃ e, result = .error (.toolError e) ∧
      (e.cls = .timeout ∨ e.code ∈ policy.ambiguousOutcomeErrorCodes) := by
  cases result with
  | ok => cases h
  | error r =>
    cases r with
    | uncaught => cases h
    | toolError e =>
      simp only [Event.unknownOutcome, Bool.and_eq_true, beq_iff_eq, Bool.or_eq_true,
        decide_eq_true_eq] at h
      exact ⟨h.1, e, rfl, h.2⟩

theorem sectionRow_of_startedCall {call : Call} (h : p.startedCall = some call) :
    p.sectionRow = some call.execution := by
  cases p <;> cases h <;> rfl

/-- A step records an unknown outcome of row `x` only from the section of the row, and then its
worker vanishes or leaves with what it knows. -/
theorem unknown_workerStep
    (hdisjoint : ∀ code ∈ policy.ambiguousOutcomeErrorCodes, code ∉ policy.retryableErrorCodes)
    (hkey : KeyAt key x c.store) (hcarries : CarriesPolicy key policy c.store w)
    (h : WorkerStep i w c.store a w.point s' p')
    (hnew : s'.history.any (Event.unknownOutcome policy x) = true) :
    c.store.history.any (Event.unknownOutcome policy x) = true ∨
      p'.sectionRow = some x ∧ (a = .vanish ∨
        ∃ call exit, p' = .leave call exit ∧ UnknownExit policy exit) := by
  have hended : ∀ {call : Call} {b : HandlerBehaviour}, w.point = .handler call →
      ((Event.handlerEnded i call.execution (invokeWithTimeout b) ::
        c.store.history).any (Event.unknownOutcome policy x)) = true →
      c.store.history.any (Event.unknownOutcome policy x) = true ∨ call.execution = x ∧
        ∃ e, afterAttempt call.tool.retryPolicy call.attemptCount b = .raises (.toolError e) ∧
          UnknownExit policy (.ofRaised (.toolError e)) := by
    intro call b hpoint hany
    rw [List.any_cons, Bool.or_eq_true] at hany
    rcases hany with hhead | hold
    · obtain ⟨hx, e, hresult, hunknown⟩ := unknownOutcome_handlerEnded hhead
      obtain ⟨row, hrow, hpolicy⟩ := hcarries.call call (by rw [hpoint]; rfl)
      rw [hpolicy (hkey row (hx ▸ hrow))]
      exact .inr ⟨hx, e, afterAttempt_unknown hdisjoint hresult hunknown⟩
    · exact .inl hold
  generalize hpt : w.point = p at h
  cases h with
  | vanished =>
    unfold Store.vanish at hnew
    split at hnew
    · rename_i call hcall
      split at hnew
      · rw [Store.record, List.any_cons, Bool.or_eq_true] at hnew
        rcases hnew with hhead | hold
        · right
          have hx : call.execution = x := by simpa [Event.unknownOutcome] using hhead
          exact ⟨by rw [← hpt, sectionRow_of_startedCall hcall, hx], .inl rfl⟩
        · exact .inl hold
      · exact .inl hnew
    · exact .inl hnew
  | retried hretry =>
    rcases hended hpt hnew with hold | ⟨-, e, hraises, -⟩
    · exact .inl hold
    · cases hretry.symm.trans hraises
  | handlerReturned hreturns =>
    rcases hended hpt hnew with hold | ⟨-, e, hraises, -⟩
    · exact .inl hold
    · cases hreturns.symm.trans hraises
  | handlerRaised hraised =>
    rcases hended hpt hnew with hold | ⟨hx, e, hraises, hunknown⟩
    · exact .inl hold
    · cases hraised.symm.trans hraises
      exact .inr ⟨by rw [← hx]; rfl, .inr ⟨_, _, rfl, hunknown⟩⟩
  | _ => exact .inl hnew

/-- No handler of row `x` is invoked after one of its invocations ended with an unknown
outcome. The history is newest first. -/
def NoneAfterUnknown (policy : RetryPolicy) (x : Nat) (history : List Event) : Prop :=
  history.Pairwise fun later earlier =>
    later.invokesOn x = true → earlier.unknownOutcome policy x = false

/-- The invariant of the runs that keep the condition. -/
structure Unrepeated (policy : RetryPolicy) (x : Nat) (c : Configuration) : Prop where
  history : NoneAfterUnknown policy x c.store.history
  seals : c.store.history.any (Event.unknownOutcome policy x) = true → Sealed policy x c

/-- A handler of a sealed row is not invoked. -/
theorem history_workerStep (hc : Unrepeated policy x c) (hw : c.procs[i]? = some w)
    (halive : w.alive = true) (h : WorkerStep i w c.store a w.point s' p') :
    NoneAfterUnknown policy x s'.history := by
  rcases recorded_workerStep h with hsame | ⟨event, hnew, hrecords⟩
  · exact hsame ▸ hc.history
  · rw [hnew]
    refine List.pairwise_cons.mpr ⟨fun earlier hearlier hinvokes => ?_, hc.history⟩
    by_contra hunknown
    have hsealed := hc.seals (List.any_eq_true.mpr ⟨earlier, hearlier, by simpa using hunknown⟩)
    generalize hpt : w.point = p at hrecords
    cases hrecords with
    | handlerStarted call =>
      have hx : call.execution = x := by simpa [Event.invokesOn] using hinvokes
      obtain ⟨_, _, hleave, -⟩ := hsealed.leaving i w hw halive (by rw [hpt, ← hx]; rfl)
      cases hpt.symm.trans hleave
    | _ => cases hinvokes

theorem history_serviceStep {event : ServiceEvent} {started : Option Worker}
    (hc : NoneAfterUnknown policy x s.history) (h : ServiceStep s event s' started) :
    NoneAfterUnknown policy x s'.history ∧
      (s'.history.any (Event.unknownOutcome policy x) = true →
        s.history.any (Event.unknownOutcome policy x) = true) := by
  rcases recorded_serviceStep h with hsame | ⟨event, hnew, hrecords⟩
  · rw [hsame]
    exact ⟨hc, id⟩
  · rw [hnew]
    refine ⟨List.pairwise_cons.mpr ⟨fun _ _ hinvokes => ?_, hc⟩, fun hany => ?_⟩
    · cases hrecords <;> cases hinvokes
    · cases hrecords <;> exact hany

theorem workStep_vanish {w' : Worker} (h : workStep i .vanish w s = some (s', w')) :
    w'.alive = false := by
  unfold workStep at h
  split at h
  · cases h
    rfl
  · cases h

/-- What a step that records an unknown outcome leaves: the section of its row is the worker's
own, and the worker is gone or on its way out. -/
theorem sealed_of_unknown {w' : Worker} (hc : OneSection x c) (hw : c.procs[i]? = some w')
    (hx : w'.point.sectionRow = some x)
    (hleaving : w'.alive = true → ∃ call exit, w'.point = .leave call exit ∧
      UnknownExit policy exit) : Sealed policy x c := by
  refine ⟨(hc.held i w' hw hx).imp fun _ => .of_held, fun j m hm hmalive hmx => ?_⟩
  obtain rfl := hc.exclusive i j w' m () hw hm hx hmx
  cases hw.symm.trans hm
  exact hleaving hmalive

theorem unrepeated
    (hdisjoint : ∀ code ∈ policy.ambiguousOutcomeErrorCodes, code ∉ policy.retryableErrorCodes)
    (h : RunsWith (RefusesUnknown key policy x) c) (hkey : KeyAt key x c.store) :
    Unrepeated policy x c := by
  induction h with
  | @init c hinit =>
    have hhistory : c.store.history = [] := by rw [show c.store = {} from hinit.1]
    refine ⟨by rw [hhistory]; exact List.Pairwise.nil, fun hany => ?_⟩
    rw [hhistory] at hany
    cases hany
  | @step c c' l hr hp hstep ih =>
    have hkey' := hkey.before (keeps_step hstep)
    have hc := ih hkey'
    have hsection := oneSection (.step hr hp hstep)
    cases l with
    | env event =>
      obtain ⟨s', started, hout, rfl⟩ := Program.step_env hstep
      obtain ⟨hhistory, hold⟩ := history_serviceStep hc.history (serviceStep_cases hout)
      exact ⟨hhistory,
        fun hany => sealed_serviceStep (hc.seals (hold hany)) (serviceStep_cases hout)⟩
    | work i a =>
      obtain ⟨w, s', w', hw, hout, rfl⟩ := Program.step_work hstep
      obtain ⟨halive, p', alive, hcase, hw'⟩ := workStep_cases hout
      have hcarries := carriesPolicy (fun _ _ h => h.1) hr hw
      refine ⟨history_workerStep hc hw halive hcase, fun hany => ?_⟩
      rcases unknown_workerStep hdisjoint hkey' hcarries hcase hany with hold | ⟨hx, hends⟩
      · rw [hw']
        exact sealed_workerStep hkey' hp.2 hcarries (hc.seals hold) hw halive hcase alive
      · refine sealed_of_unknown hsection
          (List.getElem?_set_self (List.getElem?_eq_some_iff.mp hw).1) (by rw [hw']; exact hx)
          fun hstill => ?_
        rcases hends with rfl | hleaves
        · rw [workStep_vanish hout] at hstill
          cases hstill
        · rw [hw']
          exact hleaves

/-! ## Main results -/

/-- For every policy whose ambiguous codes are not retryable, and in every run in which no call
resets the row after a timeout or a sweep: after an invocation ended with an unknown outcome,
no handler is invoked on the row. -/
theorem no_handler_after_unknown
    (hdisjoint : ∀ code ∈ policy.ambiguousOutcomeErrorCodes, code ∉ policy.retryableErrorCodes)
    (h : RunsWith (RefusesUnknown key policy x) c)
    (hx : RowAt c.store x fun e => e.toolDefinition = key) {later earlier : List Event}
    {event : Event} (hhistory : c.store.history = later ++ event :: earlier)
    (hunknown : event.unknownOutcome policy x = true) :
    ∀ i r first, .handlerStarted i r x first ∉ later := by
  intro i r first hstarted
  have hpairwise := (unrepeated hdisjoint h fun e he => hx.get he).history
  rw [hhistory] at hpairwise
  have hnone := (List.pairwise_append.mp hpairwise).2.2 _ hstarted event List.mem_cons_self
  rw [hnone (by simp [Event.invokesOn])] at hunknown
  cases hunknown

def writeRetryableCodes : List String :=
  ["integration_rate_limited", "integration_temporarily_unavailable"]

def calendarAmbiguousOutcomeCodes : List String :=
  ["integration_timeout", "integration_malformed_response", "tool_timeout"]

def calendarBookingPolicy : RetryPolicy := ⟨2, writeRetryableCodes, calendarAmbiguousOutcomeCodes⟩

def calendarBookingTool : ToolSpec := ⟨"calendar.create_booking", calendarBookingPolicy⟩

def bookingRequest : ToolRequest :=
  ⟨"calendar.create_booking", "{}", "f", "agent:unknown:turn:2:d"⟩

/-- A booking whose handler is running. -/
def startedBooking : List Step :=
  [.env (.createRun 1 {} (some 5) none (some 7) 0), .env (.claimRun 0 1)] ++
    claimsCall 0 bookingRequest calendarBookingTool ++
    [.work 0 (.runPolicyGate (.allow "rule" "Allowed.") 2), .work 0 (.transitionRunning 3),
      .work 0 .reserveSlot, .work 0 .countAttempt, .work 0 .invokeHandler]

/-- A later run makes the call with the same key. -/
def repeatsBooking : List Step :=
  [.env (.createRun 1 {} (some 6) none (some 7) 7), .env (.claimRun 1 8)] ++
    claimsCall 1 bookingRequest calendarBookingTool

abbrev RefusesBooking : Configuration → Step → Prop :=
  RefusesUnknown "calendar.create_booking" calendarBookingPolicy 0

/-- The booking times out, and the same call is made again: its policy refuses it. -/
def timedOutBooking : Configuration :=
  scenarioEnd RefusesBooking
    (startedBooking ++ [.work 0 (.handlerEnds .timesOut), .work 0 (.finalize 4)] ++
      repeatsBooking.take 5)

theorem no_handler_after_unknown_timedOut :
    ¬ ∃ i r first, Event.handlerStarted i r 0 first ∈ [.runClaimed 1, .rowFinalized 0 0] := by
  have hrow : (timedOutBooking.store.executions[0]?).map (·.toolDefinition) =
      some "calendar.create_booking" := by decide
  have hhistory : timedOutBooking.store.history = [.runClaimed 1, .rowFinalized 0 0] ++
      .handlerEnded 0 0 (.error (.toolError (.raise .timeout))) ::
        [.handlerStarted 0 0 0 true, .rowStarted 0 0, .runClaimed 0] := by decide
  rintro ⟨i, r, first, hmem⟩
  exact no_handler_after_unknown (by decide) (runsWith_scenarioEnd RefusesBooking _)
    (Option.map_eq_some_iff.mp hrow) hhistory (by decide) i r first hmem

/-- The worker of the booking vanishes in its handler, the sweep recovers its run, and the same
call is made again. -/
def vanishedBooking : List Step :=
  startedBooking ++ [.work 0 .vanish, .env (.recoverRun 0 5 6)] ++ repeatsBooking ++
    [.work 1 (.transitionRunning 9), .work 1 .reserveSlot, .work 1 .countAttempt,
      .work 1 .invokeHandler]

abbrev KeepsBookingPolicy (c : Configuration) (l : Step) : Prop :=
  keepsPolicy "calendar.create_booking" calendarBookingPolicy c l = true

/-- The handler of the booking is invoked a second time. -/
theorem handler_again_after_unknown :
    ¬ ∀ (key : String) (policy : RetryPolicy) (x : Nat) (c : Configuration)
        (later earlier : List Event) (event : Event),
        (∀ code ∈ policy.ambiguousOutcomeErrorCodes, code ∉ policy.retryableErrorCodes) →
        RunsWith (fun c l => keepsPolicy key policy c l = true) c →
        RowAt c.store x (fun e => e.toolDefinition = key) →
        c.store.history = later ++ event :: earlier →
        event.unknownOutcome policy x = true →
        ∀ i r first, .handlerStarted i r x first ∉ later := by
  intro hnone
  have hrow : ((scenarioEnd KeepsBookingPolicy vanishedBooking).store.executions[0]?).map
      (·.toolDefinition) = some "calendar.create_booking" := by decide
  have hhistory : (scenarioEnd KeepsBookingPolicy vanishedBooking).store.history =
      [.handlerStarted 1 1 0 true, .rowStarted 1 0, .runClaimed 1] ++ .workerVanished 0 0 ::
        [.handlerStarted 0 0 0 true, .rowStarted 0 0, .runClaimed 0] := by decide
  exact hnone _ _ 0 _ _ _ _ (by decide) (runsWith_scenarioEnd KeepsBookingPolicy vanishedBooking)
    (Option.map_eq_some_iff.mp hrow) hhistory (by decide) 1 1 true (by decide)

end SupportPilot
