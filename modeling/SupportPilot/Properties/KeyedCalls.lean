import SupportPilot.Runtime.Keys
import SupportPilot.Runtime.Policies
import SupportPilot.Runtime.Scenario

/-!
# Calls that share an idempotency key

As long as no sweep fails the row of a key, the row has one holder at a time: the worker that
created, reset or resumed it, until it leaves. So the counter that the holder carries in
memory is the one of the row, and it counts the invocations of all callers.
-/

namespace SupportPilot

open Library

variable {c c' : Configuration} {i j x : Nat} {w m : Worker} {s s' : Store} {a : WorkerAction}
  {p p' : Point} {e : ToolExecution} {key : String} {policy : RetryPolicy}

/-! ## Holders -/

/-- The row that a worker has claimed and not left, with the attempts it counts in memory. -/
def Point.holding : Point → Option (Nat × Nat)
  | .policyCheck call | .policyGate call | .transitionRunning call | .reserveSlot call
  | .attempt call | .invoke call | .handler call | .leave call _ =>
    some (call.execution, call.attemptCount)
  | .resumeChecks x attemptCount => some (x, attemptCount)
  | _ => none

theorem holding_of_outside {q : Point} (h : q.outside = true) : q.holding = none := by
  cases q <;> first | rfl | cases h

/-- A held row is `PENDING` before the section and `RUNNING` in it, with the holder's count. -/
def HeldAs (p : Point) (n : Nat) (e : ToolExecution) : Prop :=
  e.attemptCount = n ∧ e.status = if p.sectionRow.isSome then .running else .pending

theorem HeldAs.busy {n : Nat} (h : HeldAs p n e) : e.status = .pending ∨ e.status = .running := by
  rw [h.2]
  split
  · exact .inr rfl
  · exact .inl rfl

/-- The sweep of row `x`'s own run. -/
def sweeps (x : Nat) (c : Configuration) : Step → Bool
  | .env (.recoverRun r _ _) => (c.store.executions[x]?).any (·.agentRun == r)
  | _ => false

/-- The registry keeps the policy of the tool, and no sweep fails the row. -/
def Unswept (key : String) (policy : RetryPolicy) (x : Nat) (c : Configuration) (l : Step) :
    Prop :=
  keepsPolicy key policy c l = true ∧ sweeps x c l = false

instance (key : String) (policy : RetryPolicy) (x : Nat) (c : Configuration) (l : Step) :
    Decidable (Unswept key policy x c l) :=
  inferInstanceAs (Decidable (_ ∧ _))

/-- A row after a step of its holder, or after the step that made its worker the holder. -/
theorem holding_workerStep (h : WorkerStep i w s a p s' p') {n' : Nat}
    (hx : p'.holding = some (x, n')) :
    (∃ n, p.holding = some (x, n) ∧ (RowAt s x (HeldAs p n) → RowAt s' x (HeldAs p' n'))) ∨
      RowAt s' x (HeldAs p' n') ∧ ∀ e, s.executions[x]? = some e →
        e.status ≠ .pending ∧ e.status ≠ .running := by
  have hsame : ∀ {n : Nat}, RowAt s x (HeldAs p n) → p.sectionRow.isSome = p'.sectionRow.isSome →
      n = n' → s'.executions = s.executions → RowAt s' x (HeldAs p' n') := by
    rintro n ⟨e, he, hheld⟩ hsection rfl hrows
    refine ⟨e, hrows ▸ he, ?_⟩
    unfold HeldAs at hheld ⊢
    rwa [← hsection]
  cases h with
  | vanished =>
    refine .inl ⟨n', hx, fun hrow => hsame hrow rfl rfl ?_⟩
    rw [Store.vanish_executions]
  | createdRow =>
    cases hx
    refine .inr ⟨⟨_, List.getElem?_concat_length, rfl, rfl⟩, fun e he => ?_⟩
    have hlt : s.executions.length < s.executions.length := (List.getElem?_eq_some_iff.mp he).1
    omega
  | resetRow hrun hfind hrow hreset =>
    cases hx
    refine .inr ⟨rowAt_set hrow ⟨rfl, rfl⟩, fun e he => ?_⟩
    cases hrow.symm.trans he
    obtain ⟨-, hstatus, -⟩ := resolveExisting_reset hreset
    rcases hstatus with hs | hs | hs <;> simp [hs]
  | foundEvaluated | foundUnevaluated | reservedSlot | refusedSlot | exhausted | invoked | retried
  | handlerReturned | handlerRaised | checkedResume | refusedResume =>
    cases hx
    exact .inl ⟨_, rfl, fun hrow => hsame hrow rfl rfl rfl⟩
  | gateAllowed hrun hrow hnone hcommit =>
    cases hx
    refine .inl ⟨_, rfl, fun hheld => rowAt_set hrow ?_⟩
    have hold := hheld.get hrow
    cases hcommit
    exact hold
  | startedRow hrow =>
    cases hx
    refine .inl ⟨_, rfl, fun hheld => rowAt_set hrow ?_⟩
    exact ⟨(hheld.get hrow).1, rfl⟩
  | countedAttempt hrow =>
    cases hx
    refine .inl ⟨_, rfl, fun hheld => rowAt_set hrow ?_⟩
    exact ⟨rfl, (hheld.get hrow).2⟩
  | claimedRow hrow hwaiting =>
    cases hx
    refine .inr ⟨rowAt_set hrow ⟨rfl, rfl⟩, fun e he => ?_⟩
    cases hrow.symm.trans he
    simp [hwaiting]
  | refusedCall | refusedClaim | gateInProgress | refusedStart =>
    simp [holding_of_outside (Point.afterRefusal_outside _)] at hx
  | gateRaised => simp [holding_of_outside (Point.afterToolError_outside _ _)] at hx
  | refreshedOther => simp [holding_of_outside (Point.afterResumeError_outside _)] at hx
  | leftUnfinalized | finalized =>
    simp [holding_of_outside (Point.afterExit_outside _ _ _)] at hx
  | resumeClaimedRun => split at hx <;> cases hx
  | _ => cases hx

/-- Nobody else writes a row that is claimed. -/
theorem foreign_workerStep (h : WorkerStep i w s a p s' p') (he : s.executions[x]? = some e)
    (hbusy : e.status = .pending ∨ e.status = .running) (hforeign : ∀ n, p.holding ≠ some (x, n)) :
    s'.executions[x]? = some e := by
  have hother : ∀ {y : Nat} {row : ToolExecution}, y ≠ x →
      (s.executions.set y row)[x]? = some e := by
    intro y row hne
    rw [List.getElem?_set_ne hne, he]
  have hclaimed : ∀ {call : Call}, p.holding = some (call.execution, call.attemptCount) →
      call.execution ≠ x := by
    rintro call hholding rfl
    exact hforeign _ hholding
  cases h with
  | vanished => rwa [Store.vanish_executions]
  | createdRow =>
    exact getElem?_append_some he _
  | resetRow hrun hfind hrow hreset =>
    refine hother ?_
    rintro rfl
    cases hrow.symm.trans he
    obtain ⟨-, hstatus, -⟩ := resolveExisting_reset hreset
    rcases hbusy with hb | hb <;> simp [hb] at hstatus
  | claimedRow hrow hwaiting =>
    refine hother ?_
    rintro rfl
    cases hrow.symm.trans he
    rcases hbusy with hb | hb <;> simp [hb] at hwaiting
  | gateAllowed | gateRaised | startedRow | countedAttempt | finalized =>
    exact hother (hclaimed rfl)
  | _ => exact he

/-- A service writes nothing but the request of a row that does not wait, unless it sweeps it. -/
theorem settled_serviceStep {event : ServiceEvent} {started : Option Worker}
    (h : ServiceStep s event s' started) (he : s.executions[x]? = some e)
    (hwaiting : e.status ≠ .waitingForApproval) :
    RowAt s' x fun e' => (∃ request, e' = { e with approvalRequest := request }) ∨
      (e.status = .pending ∨ e.status = .running) ∧
        ∃ cutoff now, event = .recoverRun e.agentRun cutoff now := by
  have hset : ∀ {y : Nat} {row row' : ToolExecution}, s.executions[y]? = some row →
      (row.status ≠ .waitingForApproval →
        ∃ request, row' = { row with approvalRequest := request }) →
      RowAt (s.setExecution y row') x fun e' =>
        (∃ request, e' = { e with approvalRequest := request }) ∨
          (e.status = .pending ∨ e.status = .running) ∧
            ∃ cutoff now, event = .recoverRun e.agentRun cutoff now := by
    intro y row row' hrow hkeep
    by_cases hyx : y = x
    · subst hyx
      cases hrow.symm.trans he
      exact rowAt_set he (.inl (hkeep hwaiting))
    · exact ⟨e, by simp [List.getElem?_set_ne hyx, he], .inl ⟨_, rfl⟩⟩
  have hterminate : ∀ (row : ToolExecution) (request : ApprovalRequest) (code message : String)
      (now : Nat), row.status ≠ .waitingForApproval →
      ∃ request', terminateExecution { row with approvalRequest := some request } code message
        now = { row with approvalRequest := request' } := by
    intro row request code message now hw
    exact ⟨some request, by rw [terminateExecution, if_neg hw]⟩
  cases h with
  | @cancelledRun r now run =>
    refine ⟨Store.cancelChildOf r run now e, by simp [he], .inl ⟨e.approvalRequest, ?_⟩⟩
    unfold Store.cancelChildOf cancelChildExecution
    rw [if_neg hwaiting, ite_self]
  | @recoveredRun r cutoff now run recovered =>
    refine ⟨Store.recoverChildOf r now e, by simp [he], ?_⟩
    unfold Store.recoverChildOf failInFlightToolExecution
    split
    · rename_i hrun
      split
      · rename_i hflight
        exact .inr ⟨hflight, cutoff, now, hrun ▸ rfl⟩
      · exact .inl ⟨_, rfl⟩
    · exact .inl ⟨_, rfl⟩
  | @decided _ _ _ _ _ decision _ _ hrow =>
    refine hset hrow fun hw => ?_
    cases decision with
    | approve => exact ⟨_, rfl⟩
    | reject => exact hterminate _ _ _ _ _ hw
  | expired _ hrow => exact hset hrow fun hw => hterminate _ _ _ _ _ hw
  | cancelledApproval hrow =>
    refine hset hrow fun _ => ?_
    unfold cancelApprovalForExecution
    split
    · exact ⟨_, rfl⟩
    · split <;> exact ⟨_, rfl⟩
  | _ => exact ⟨e, he, .inl ⟨_, rfl⟩⟩

/-- So a claimed row stays claimed and counts the same attempts, if it is not swept. -/
theorem foreign_serviceStep {event : ServiceEvent} {started : Option Worker}
    (h : ServiceStep s event s' started) (he : s.executions[x]? = some e)
    (hbusy : e.status = .pending ∨ e.status = .running)
    (hsweep : ∀ cutoff now, event ≠ .recoverRun e.agentRun cutoff now) :
    RowAt s' x fun e' => e'.status = e.status ∧ e'.attemptCount = e.attemptCount := by
  have hwaiting : e.status ≠ .waitingForApproval := by
    rintro hw
    rcases hbusy with hb | hb <;> cases hw.symm.trans hb
  refine (settled_serviceStep h he hwaiting).imp ?_
  rintro e' (⟨request, rfl⟩ | ⟨-, cutoff, now, hevent⟩)
  · exact ⟨rfl, rfl⟩
  · exact absurd hevent (hsweep cutoff now)

/-! ## One holder at a time -/

/-- At most one worker holds row `x`, and the row is as its holder believes. A worker that
vanished keeps what it held. -/
structure OneHolder (x : Nat) (c : Configuration) : Prop where
  exclusive : Program.Exclusive (fun w (_ : Unit) => ∃ n, w.point.holding = some (x, n)) c
  held : ∀ (i : Nat) (w : Worker) (n : Nat), c.procs[i]? = some w →
    w.point.holding = some (x, n) → RowAt c.store x (HeldAs w.point n)

theorem oneHolder_workerStep (hc : OneHolder x c) (hw : c.procs[i]? = some w)
    (h : WorkerStep i w c.store a w.point s' p') (alive : Bool) :
    OneHolder x ⟨s', c.procs.set i { w with point := p', alive := alive }⟩ := by
  have hlt := (List.getElem?_eq_some_iff.mp hw).1
  constructor
  · refine Program.exclusive_set hc.exclusive hw fun _ hx => ?_
    obtain ⟨n', hx⟩ := hx
    rcases holding_workerStep h hx with ⟨n, hold, -⟩ | ⟨-, hfree⟩
    · exact .inl ⟨n, hold⟩
    · right
      rintro j m - hm ⟨n, hmx⟩
      obtain ⟨e, he, hheld⟩ := hc.held j m n hm hmx
      obtain ⟨hpending, hrunning⟩ := hfree e he
      exact hheld.busy.elim hpending hrunning
  · intro j m n hm hx
    rcases getElem?_set_cases hm with ⟨rfl, rfl⟩ | ⟨hji, hother⟩
    · rcases holding_workerStep h hx with ⟨n₀, hold, hrow⟩ | ⟨hrow, -⟩
      · exact hrow (hc.held j w n₀ hw hold)
      · exact hrow
    · obtain ⟨e, he, hheld⟩ := hc.held j m n hother hx
      refine ⟨e, foreign_workerStep h he hheld.busy fun k hk => ?_, hheld⟩
      exact hji (hc.exclusive j i m w () hother hw ⟨n, hx⟩ ⟨k, hk⟩)

theorem started_holdsNone {event : ServiceEvent} {started : Option Worker}
    (h : ServiceStep s event s' started) (hw : w ∈ started) : w.point.holding = none := by
  cases hw
  generalize hq : some w = started at h
  cases h <;> cases hq <;> rfl

theorem oneHolder_serviceStep {event : ServiceEvent} {started : Option Worker}
    (hp : sweeps x c (.env event) = false) (hc : OneHolder x c)
    (h : ServiceStep c.store event s' started) :
    OneHolder x ⟨s', c.procs ++ started.toList⟩ := by
  constructor
  · refine Program.exclusive_append hc.exclusive fun w hw _ hx => ?_
    obtain ⟨n, hx⟩ := hx
    cases (started_holdsNone h hw).symm.trans hx
  · intro j m n hm hx
    rcases Program.proc_append hm with hold | hnew
    · obtain ⟨e, he, hheld⟩ := hc.held j m n hold hx
      refine (foreign_serviceStep h he hheld.busy ?_).imp ?_
      · rintro cutoff now rfl
        simp [sweeps, he] at hp
      · rintro e' ⟨hstatus, hcount⟩
        exact ⟨hcount.trans hheld.1, hstatus.trans hheld.2⟩
    · cases (started_holdsNone h hnew).symm.trans hx

theorem oneHolder (h : RunsWith (Unswept key policy x) c) : OneHolder x c :=
  configuration_of_steps
    ⟨fun _ _ _ _ _ hw => by simp at hw, fun _ _ _ hw => by simp at hw⟩
    (fun _ _ _ _ _ hp hc hstep => oneHolder_serviceStep hp.2 hc hstep)
    (fun _ _ _ _ _ _ alive _ _ hc hw _ hstep => oneHolder_workerStep hc hw hstep alive) h

/-! ## Invocations -/

/-- How often a handler was invoked on row `x`, over all callers. -/
def invocations (s : Store) (x : Nat) : Nat :=
  s.history.countP (Event.invokesOn x)

/-- The attempts that row `x` counts. -/
def attempts (s : Store) (x : Nat) : Nat :=
  ((s.executions[x]?).map (·.attemptCount)).getD 0

/-- The worker has counted an attempt on row `x` that it has not invoked yet. -/
def Point.invokes (x : Nat) : Point → Bool
  | .invoke call => call.execution == x
  | _ => false

theorem attempts_of_row (he : s.executions[x]? = some e) : attempts s x = e.attemptCount := by
  simp [attempts, he]

theorem attempts_set {y : Nat} {row row' : ToolExecution} (hrow : s.executions[y]? = some row)
    (hcount : y = x → row'.attemptCount = row.attemptCount) :
    attempts (s.setExecution y row') x = attempts s x := by
  by_cases hyx : y = x
  · subst hyx
    have hlt := (List.getElem?_eq_some_iff.mp hrow).1
    have hafter : (s.setExecution y row').executions[y]? = some row' := by simp [hlt]
    rw [attempts_of_row hafter, attempts_of_row hrow, hcount rfl]
  · simp [attempts, List.getElem?_set_ne hyx]

theorem invokes_of_outside {q : Point} (h : q.outside = true) : q.invokes x = false := by
  cases q <;> first | rfl | cases h

/-- Every attempt that a step counts is invoked already or by the same worker next. -/
def Tallied (x : Nat) (s : Store) (p : Point) (s' : Store) (p' : Point) : Prop :=
  invocations s' x + (p'.invokes x).toNat + attempts s x =
    invocations s x + (p.invokes x).toNat + attempts s' x

theorem tallied_of_quiet (hhistory : invocations s' x = invocations s x)
    (hattempts : attempts s' x = attempts s x) (hp : p.invokes x = false)
    (hp' : p'.invokes x = false) : Tallied x s p s' p' := by
  rw [Tallied, hhistory, hattempts, hp, hp']

theorem tallied_workerStep (hheld : ∀ n, p.holding = some (x, n) → RowAt s x (HeldAs p n))
    (h : WorkerStep i w s a p s' p') : Tallied x s p s' p' := by
  cases h with
  | vanished =>
    have hrows : attempts (s.vanish i w) x = attempts s x := by
      rw [attempts, attempts, Store.vanish_executions]
    have hhistory : invocations (s.vanish i w) x = invocations s x := by
      unfold Store.vanish
      split
      · split <;> rfl
      · rfl
    rw [Tallied, hrows, hhistory]
  | createdRow =>
    refine tallied_of_quiet rfl ?_ rfl rfl
    rcases Nat.lt_trichotomy x s.executions.length with hlt | rfl | hgt
    · simp [attempts, List.getElem?_append_left hlt]
    · simp [attempts, newExecution]
    · rw [attempts, attempts, List.getElem?_eq_none (by simp; omega),
        List.getElem?_eq_none (by omega)]
  | resetRow hrun hfind hrow => exact tallied_of_quiet rfl (attempts_set hrow fun _ => rfl) rfl rfl
  | gateAllowed hrun hrow hnone hcommit =>
    refine tallied_of_quiet rfl (attempts_set hrow fun _ => ?_) rfl rfl
    cases hcommit
    rfl
  | gateRaised hrun hrow hnone hcommit =>
    refine tallied_of_quiet rfl (attempts_set hrow fun _ => ?_) rfl
      (invokes_of_outside (Point.afterToolError_outside _ _))
    cases hcommit <;> rfl
  | startedRow hrow => exact tallied_of_quiet rfl (attempts_set hrow fun _ => rfl) rfl rfl
  | claimedRow hrow => exact tallied_of_quiet rfl (attempts_set hrow fun _ => rfl) rfl rfl
  | finalized hrow hstored =>
    refine tallied_of_quiet rfl (attempts_set hrow fun _ => ?_) rfl
      (invokes_of_outside (Point.afterExit_outside _ _ _))
    obtain ⟨-, ⟨output, -, rfl⟩ | ⟨status, code, message, err, -, rfl⟩⟩ :=
      CallExit.finalize_stored hstored <;> rfl
  | @countedAttempt call row hrow hlt =>
    by_cases hx : call.execution = x
    · have hcount : row.attemptCount = call.attemptCount :=
        ((hheld call.attemptCount (by simp [Point.holding, hx])).get (hx ▸ hrow)).1
      have hbefore : attempts s x = call.attemptCount := by
        rw [attempts_of_row (hx ▸ hrow), hcount]
      have hafter : attempts (s.setExecution call.execution
          { row with attemptCount := call.attemptCount + 1 }) x = call.attemptCount + 1 := by
        have hlen := (List.getElem?_eq_some_iff.mp hrow).1
        rw [hx] at hlen
        simp [attempts, hx, hlen]
      rw [Tallied, hbefore, hafter]
      simp [invocations, Point.invokes, hx]
      omega
    · refine tallied_of_quiet rfl (attempts_set hrow fun heq => absurd heq hx) rfl ?_
      simp [Point.invokes, hx]
  | @invoked call =>
    have hattempts : attempts (s.record (.handlerStarted i w.run call.execution
        (!call.invoked))) x = attempts s x := rfl
    rw [Tallied, hattempts]
    by_cases hx : call.execution = x
    · simp [invocations, Point.invokes, Event.invokesOn, hx]
    · simp [invocations, Point.invokes, Event.invokesOn, hx]
  | refusedCall | refusedClaim | gateInProgress | refusedStart =>
    exact tallied_of_quiet rfl rfl rfl (invokes_of_outside (Point.afterRefusal_outside _))
  | refreshedOther =>
    exact tallied_of_quiet rfl rfl rfl (invokes_of_outside (Point.afterResumeError_outside _))
  | leftUnfinalized =>
    exact tallied_of_quiet rfl rfl rfl (invokes_of_outside (Point.afterExit_outside _ _ _))
  | resumeClaimedRun => exact tallied_of_quiet rfl rfl rfl (by split <;> rfl)
  | failedRun hpoint =>
    rcases hpoint with ⟨_, _, -, rfl⟩ | ⟨-, rfl⟩ <;> exact tallied_of_quiet rfl rfl rfl rfl
  | unfinishedRun hpoint =>
    rcases hpoint with ⟨_, _, _, -, rfl⟩ | ⟨_, _, _, -, rfl⟩ <;>
      exact tallied_of_quiet rfl rfl rfl rfl
  | _ => exact tallied_of_quiet rfl rfl rfl rfl

/-- The attempts of the row are its invocations and the one that a worker is about to make. -/
def Counted (x : Nat) (c : Configuration) : Prop :=
  invocations c.store x + c.procs.countP (fun w => w.point.invokes x) = attempts c.store x

/-- No row of the tool counts more attempts than the policy allows. -/
def WithinPolicy (key : String) (policy : RetryPolicy) (s : Store) : Prop :=
  AllRows (fun _ e => e.toolDefinition = key → e.attemptCount ≤ policy.maxRetries + 1)
    s.executions

theorem started_invokesNone {event : ServiceEvent} {started : Option Worker}
    (h : ServiceStep s event s' started) :
    started.toList.countP (fun w => w.point.invokes x) = 0 := by
  cases h <;> rfl

/-- A write that counts no attempt keeps a row within the policy. -/
theorem WithinPolicy.write {y : Nat} {row row' : ToolExecution} (hs : WithinPolicy key policy s)
    (hrow : s.executions[y]? = some row) (htool : row'.toolDefinition = row.toolDefinition)
    (hcount : row'.attemptCount = row.attemptCount) :
    WithinPolicy key policy (s.setExecution y row') := by
  refine AllRows.set hs ?_
  rw [htool, hcount]
  exact hs y row hrow

theorem terminateExecution_attempts (row : ToolExecution) (code message : String) (now : Nat) :
    (terminateExecution row code message now).attemptCount = row.attemptCount := by
  unfold terminateExecution
  split <;> rfl

theorem cancelApproval_attempts (row : ToolExecution) (now : Nat) :
    (cancelApprovalForExecution row now).attemptCount = row.attemptCount := by
  unfold cancelApprovalForExecution
  split
  · rfl
  · split <;> rfl

/-- Services count no attempt. -/
theorem attempts_serviceStep {event : ServiceEvent} {started : Option Worker}
    (h : ServiceStep s event s' started) : attempts s' x = attempts s x := by
  have hmap : ∀ {f : ToolExecution → ToolExecution}, (∀ e, (f e).attemptCount = e.attemptCount) →
      attempts { s with executions := s.executions.map f } x = attempts s x := by
    intro f hf
    simp [attempts, Function.comp_def, hf]
  cases h with
  | cancelledRun =>
    refine hmap fun e => ?_
    unfold Store.cancelChildOf cancelChildExecution
    split
    · split
      · exact cancelApproval_attempts _ _
      · rfl
    · rfl
  | recoveredRun =>
    refine hmap fun e => ?_
    unfold Store.recoverChildOf failInFlightToolExecution
    split
    · split <;> rfl
    · rfl
  | @decided _ _ _ _ _ decision _ _ hrow =>
    refine attempts_set hrow fun _ => ?_
    cases decision with
    | approve => rfl
    | reject => exact terminateExecution_attempts _ _ _ _
  | expired _ hrow => exact attempts_set hrow fun _ => terminateExecution_attempts _ _ _ _
  | cancelledApproval hrow => exact attempts_set hrow fun _ => cancelApproval_attempts _ _
  | _ => rfl

theorem withinPolicy_keeps (hs : WithinPolicy key policy s) (hkeeps : Keeps s s')
    (hlength : s'.executions.length = s.executions.length)
    (hcount : ∀ y, attempts s' y = attempts s y) : WithinPolicy key policy s' := by
  intro y e' he' htool
  rcases hkeeps.executions.back he' with ⟨e, he, hrow⟩ | hnew
  · have hsame := hcount y
    rw [attempts_of_row he', attempts_of_row he] at hsame
    rw [hsame]
    exact hs y e he (hrow.toolDefinition.symm.trans htool)
  · have hlt := (List.getElem?_eq_some_iff.mp he').1
    omega

theorem withinPolicy_workerStep (hs : WithinPolicy key policy s)
    (hcarries : CarriesPolicy key policy s w) (h : WorkerStep i w s a w.point s' p') :
    WithinPolicy key policy s' := by
  generalize hpt : w.point = p at h
  cases h with
  | vanished => rwa [WithinPolicy, Store.vanish_executions]
  | createdRow => exact AllRows.append hs fun _ => Nat.zero_le _
  | resetRow hrun hfind hrow => exact hs.write hrow rfl rfl
  | gateAllowed hrun hrow hnone hcommit =>
    cases hcommit
    exact hs.write hrow rfl rfl
  | gateRaised hrun hrow hnone hcommit => cases hcommit <;> exact hs.write hrow rfl rfl
  | startedRow hrow => exact hs.write hrow rfl rfl
  | claimedRow hrow => exact hs.write hrow rfl rfl
  | finalized hrow hstored =>
    obtain ⟨-, ⟨output, -, rfl⟩ | ⟨status, code, message, err, -, rfl⟩⟩ :=
      CallExit.finalize_stored hstored <;> exact hs.write hrow rfl rfl
  | @countedAttempt call row hrow hlt =>
    refine AllRows.set hs fun htool => ?_
    have hpolicy := (hcarries.call call (by rw [hpt]; rfl)).get hrow htool
    rw [hpolicy] at hlt
    exact hlt
  | _ => exact hs

theorem counted (h : RunsWith (Unswept key policy x) c) : Counted x c := by
  have hinit : Counted x ⟨{}, []⟩ := rfl
  refine configuration_of_steps hinit ?_ ?_ h
  · intro c event s' started _ _ hc hstep
    have hnew := started_invokesNone (x := x) hstep
    have hhistory : invocations s' x = invocations c.store x := by
      cases hstep <;> rfl
    have hrow := attempts_serviceStep (x := x) hstep
    simp only [Counted, List.countP_append] at hc ⊢
    omega
  · intro c i w a s' p' alive hr _ hc hw _ hstep
    have hheld := (oneHolder hr).held i w
    have htallied := tallied_workerStep (fun n => hheld n hw) hstep
    have hcount : (c.procs.set i { w with point := p', alive := alive }).countP
        (fun w => w.point.invokes x) + (w.point.invokes x).toNat =
        c.procs.countP (fun w => w.point.invokes x) + (p'.invokes x).toNat := countP_set hw
    simp only [Tallied] at htallied
    simp only [Counted] at hc ⊢
    omega

theorem withinPolicy (h : RunsWith (Unswept key policy x) c) :
    WithinPolicy key policy c.store := by
  refine store_of_steps (fun _ _ he => by simp at he) ?_ ?_ h
  · intro c event s' started _ _ hs hstep
    exact withinPolicy_keeps hs (keeps_serviceStep hstep) (length_serviceStep hstep) fun y =>
      attempts_serviceStep hstep
  · intro c i w a s' p' hr _ hs hw _ hstep
    exact withinPolicy_workerStep hs (carriesPolicy (fun _ _ hp => hp.1) hr hw) hstep

/-! ## Succeeded rows -/

/-- No step takes the result of a succeeded row back. -/
theorem succeeded_workerStep (h : WorkerStep i w s a p s' p') (he : s.executions[x]? = some e)
    (hsucceeded : e.status = .succeeded) :
    RowAt s' x fun e' => e'.status = .succeeded ∧ e'.resultRedacted = e.resultRedacted := by
  have hset : ∀ {y : Nat} {row row' : ToolExecution}, s.executions[y]? = some row →
      (row.status = .succeeded → row'.status = .succeeded ∧
        row'.resultRedacted = row.resultRedacted) →
      RowAt (s.setExecution y row') x
        fun e' => e'.status = .succeeded ∧ e'.resultRedacted = e.resultRedacted := by
    intro y row row' hrow hkeep
    by_cases hyx : y = x
    · subst hyx
      cases hrow.symm.trans he
      exact rowAt_set he (hkeep hsucceeded)
    · exact ⟨e, by simp [List.getElem?_set_ne hyx, he], hsucceeded, rfl⟩
  cases h with
  | vanished => exact ⟨e, by rw [Store.vanish_executions, he], hsucceeded, rfl⟩
  | createdRow =>
    exact ⟨e, getElem?_append_some he _, hsucceeded, rfl⟩
  | resetRow hrun hfind hrow hreset =>
    obtain ⟨-, hstatus, -⟩ := resolveExisting_reset hreset
    exact hset hrow fun hs => by simp [hs] at hstatus
  | gateAllowed hrun hrow hnone hcommit =>
    cases hcommit
    exact hset hrow fun hs => ⟨hs, rfl⟩
  | gateRaised hrun hrow hnone hcommit =>
    refine hset hrow fun hs => ?_
    cases hcommit with
    | denied _ _ _ _ hpending => cases hs.symm.trans hpending
    | approvalRequired _ _ _ _ _ hpending => cases hs.symm.trans hpending
  | startedRow hrow hstatus => exact hset hrow fun hs => by simp [hs] at hstatus
  | claimedRow hrow hwaiting => exact hset hrow fun hs => by simp [hs] at hwaiting
  | countedAttempt hrow => exact hset hrow fun hs => ⟨hs, rfl⟩
  | finalized hrow hstored =>
    have hrunning := (CallExit.finalize_stored hstored).1
    exact hset hrow fun hs => by simp [hs] at hrunning
  | _ => exact ⟨e, he, hsucceeded, rfl⟩

theorem succeeded_serviceStep {event : ServiceEvent} {started : Option Worker}
    (h : ServiceStep s event s' started) (he : s.executions[x]? = some e)
    (hsucceeded : e.status = .succeeded) :
    RowAt s' x fun e' => e'.status = .succeeded ∧ e'.resultRedacted = e.resultRedacted := by
  refine (settled_serviceStep h he (by simp [hsucceeded])).imp ?_
  rintro e' (⟨request, rfl⟩ | ⟨hbusy, -⟩)
  · exact ⟨hsucceeded, rfl⟩
  · rcases hbusy with hb | hb <;> cases hsucceeded.symm.trans hb

/-- A succeeded row keeps its result, and nobody invokes its handler again. -/
theorem succeeded_step {l : Step} (hr : RunsWith (Unswept key policy x) c)
    (he : c.store.executions[x]? = some e) (hsucceeded : e.status = .succeeded)
    (hstep : program.system.step l c = some c') :
    (RowAt c'.store x fun e' => e'.status = .succeeded ∧ e'.resultRedacted = e.resultRedacted) ∧
      invocations c'.store x = invocations c.store x := by
  cases l with
  | env event =>
    obtain ⟨s', started, hout, rfl⟩ := Program.step_env hstep
    have hcase := serviceStep_cases hout
    exact ⟨succeeded_serviceStep hcase he hsucceeded, by cases hcase <;> rfl⟩
  | work i a =>
    obtain ⟨w, s', w', hw, hout, rfl⟩ := Program.step_work hstep
    obtain ⟨halive, p', alive', hcase, rfl⟩ := workStep_cases hout
    refine ⟨succeeded_workerStep hcase he hsucceeded, ?_⟩
    have hnone : ∀ n, w.point.holding ≠ some (x, n) := by
      intro n hx
      have hbusy := (((oneHolder hr).held i w n hw hx).get he).busy
      rcases hbusy with hb | hb <;> cases hsucceeded.symm.trans hb
    generalize hpt : w.point = p at hcase hnone
    cases hcase with
    | vanished =>
      unfold Store.vanish
      split
      · split <;> rfl
      · rfl
    | @invoked call =>
      have hne : call.execution ≠ x := by
        rintro rfl
        exact hnone _ rfl
      simp [invocations, Event.invokesOn, hne]
    | _ => rfl

theorem succeeded_later (hr : RunsWith (Unswept key policy x) c)
    (he : c.store.executions[x]? = some e) (hsucceeded : e.status = .succeeded)
    (h : (program.system.startedAt c).Reach (Unswept key policy x) c') :
    (RowAt c'.store x fun e' => e'.status = .succeeded ∧ e'.resultRedacted = e.resultRedacted) ∧
      invocations c'.store x = invocations c.store x := by
  let I : Configuration → Prop := fun t => RunsWith (Unswept key policy x) t ∧
    (RowAt t.store x fun e' => e'.status = .succeeded ∧ e'.resultRedacted = e.resultRedacted) ∧
      invocations t.store x = invocations c.store x
  have hI : I c' := by
    refine System.Reach.continued h ⟨hr, ⟨e, he, hsucceeded, rfl⟩, rfl⟩ ?_
    rintro t l t' ⟨hreach, ⟨e', he', hstatus, hresult⟩, hcount⟩ hp hstep
    obtain ⟨hrow, hsame⟩ := succeeded_step hreach he' hstatus hstep
    exact ⟨.step hreach hp hstep, hrow.imp fun e'' hkept => ⟨hkept.1, hkept.2.trans hresult⟩,
      hsame.trans hcount⟩
  exact hI.2

/-! ## Main results -/

/-- Worker `i` comes to the claim with a request that carries the key of row `e`. -/
structure Claims (c : Configuration) (i : Nat) (w : Worker) (e : ToolExecution)
    (request : ToolRequest) : Prop where
  worker : c.procs[i]? = some w
  alive : w.alive = true
  point : ∃ tool, w.point = .claimExecution request tool
  run : ∃ run, c.store.runs[w.run]? = some run ∧ run.workspace = e.workspace
  toolKey : request.toolKey = e.toolDefinition
  idempotencyKey : request.idempotencyKey = e.idempotencyKey

/-- The step writes nothing and takes its worker to the point `q`. -/
def Answers (c : Configuration) (i : Nat) (w : Worker) (a : WorkerAction) (q : Point) : Prop :=
  program.system.step (.work i a) c = some ⟨c.store, c.procs.set i (w.goto q)⟩

/-- What holds of the row `e` with a key, whoever calls with the key and however the calls
interleave. -/
structure KeyedRow (policy : RetryPolicy) (x : Nat) (e : ToolExecution) (c : Configuration) :
    Prop where
  unique : ∀ y e', c.store.executions[y]? = some e' → SameKey e e' → y = x
  conflict : ∀ i w request, Claims c i w e request →
    request.argumentsFingerprint ≠ e.argumentsFingerprint →
    Answers c i w .claimExecution (.afterRefusal (.raise .idempotencyConflict))
  replayed : e.status = .succeeded → reusedOutcome e = .ok e.resultRedacted ∧
    (∀ i w request, Claims c i w e request →
      request.argumentsFingerprint = e.argumentsFingerprint →
        Answers c i w .claimExecution .graph) ∧
    ∀ i w, c.procs[i]? = some w → w.alive = true →
      (∀ now, w.point = .resumeExecution x → Answers c i w (.claimResume now) (.resumeRefresh x)) ∧
      (w.point = .resumeRefresh x → Answers c i w .refreshExecution .graph)
  settled : e.status = .succeeded → ∀ c',
    (program.system.startedAt c).Reach (Unswept e.toolDefinition policy x) c' →
    (RowAt c'.store x fun e' => e'.status = .succeeded ∧ e'.resultRedacted = e.resultRedacted) ∧
      invocations c'.store x = invocations c.store x
  holder : ∀ (i : Nat) (w : Worker) n, c.procs[i]? = some w → w.point.holding = some (x, n) →
    HeldAs w.point n e ∧
      ∀ (j : Nat) (m : Worker) k, c.procs[j]? = some m → m.point.holding = some (x, k) → j = i
  refused : e.status = .pending ∨ e.status = .running →
    (∀ i w request, Claims c i w e request →
      request.argumentsFingerprint = e.argumentsFingerprint →
      Answers c i w .claimExecution (.afterRefusal (.raise .executionInProgress))) ∧
    ∀ i w, c.procs[i]? = some w → w.alive = true →
      (∀ now, w.point = .resumeExecution x → Answers c i w (.claimResume now) (.resumeRefresh x)) ∧
      (w.point = .resumeRefresh x → ∃ err, Answers c i w .refreshExecution (.afterResumeError err))
  bounded : invocations c.store x ≤ policy.maxRetries + 1

theorem answers_workerStep {q : Point} (hw : c.procs[i]? = some w) (halive : w.alive = true)
    (hvanish : a ≠ .vanish) (hstep : workerStep i w c.store a w.point = some (c.store, q)) :
    Answers c i w a q := by
  have hwork : workStep i a w c.store = some (c.store, w.goto q) := by
    unfold workStep
    rw [if_pos halive]
    cases a <;> first | exact absurd rfl hvanish | simp [hstep]
  show (c.procs[i]?).bind _ = _
  rw [hw, Option.bind_some]
  show (workStep i a w c.store).map _ = _
  rw [hwork]
  rfl

theorem Claims.finds {request : ToolRequest} (h : Claims c i w e request) (hr : Reachable c)
    (he : c.store.executions[x]? = some e) (hkey : e.idempotencyKey ≠ "") :
    ∃ run, c.store.runs[w.run]? = some run ∧
      c.store.findExecution run.workspace request.toolKey request.idempotencyKey = some x := by
  obtain ⟨run, hrun, hworkspace⟩ := h.run
  refine ⟨run, hrun, ?_⟩
  rw [hworkspace, h.toolKey, h.idempotencyKey]
  cases hfind : c.store.findExecution e.workspace e.toolDefinition e.idempotencyKey with
  | none => exact absurd rfl (Store.findExecution_none hfind hkey he rfl rfl)
  | some y =>
    obtain ⟨-, e', he', hsame⟩ := Store.findExecution_some hfind
    rw [uniqueKeys hr y x e' e he' he (hsame.2.2 ▸ hkey) hsame]

/-- A claim that the row answers without a write. -/
theorem Claims.answers {request : ToolRequest} {q : Point} (h : Claims c i w e request)
    (hr : Reachable c) (he : c.store.executions[x]? = some e) (hkey : e.idempotencyKey ≠ "")
    (hanswer : ∀ tool, (match resolveExisting e request.argumentsFingerprint tool with
      | .error err => q = .afterRefusal err
      | .ok .reused => e.status = .succeeded ∧ q = .graph
      | _ => False)) : Answers c i w .claimExecution q := by
  obtain ⟨tool, hpoint⟩ := h.point
  obtain ⟨run, hrun, hfind⟩ := h.finds hr he hkey
  refine answers_workerStep h.worker h.alive (by simp) ?_
  rw [hpoint]
  show c.store.claimExecution w request tool = _
  have hresolved := hanswer tool
  rw [Store.claimExecution, hrun, Option.bind_eq_bind, Option.bind_some, hfind]
  simp only [he, Option.bind_eq_bind, Option.bind_some]
  cases hcase : resolveExisting e request.argumentsFingerprint tool with
  | error err =>
    rw [hcase] at hresolved
    rw [hresolved]
  | ok resolution =>
    rw [hcase] at hresolved
    cases resolution with
    | reused =>
      obtain ⟨hsucceeded, rfl⟩ := hresolved
      simp [reusedOutcome, hsucceeded]
    | waiting | reset => exact hresolved.elim

/-- A resume that does not find its row waiting claims nothing. -/
theorem answers_claimResume {now : Nat} (hw : c.procs[i]? = some w) (halive : w.alive = true)
    (he : c.store.executions[x]? = some e) (hwaiting : e.status ≠ .waitingForApproval)
    (hpoint : w.point = .resumeExecution x) :
    Answers c i w (.claimResume now) (.resumeRefresh x) := by
  refine answers_workerStep hw halive (by simp) ?_
  rw [hpoint]
  show c.store.claimResume i x now = _
  simp [Store.claimResume, he, claimResume, hwaiting]

theorem answers_refresh {q : Point} (hw : c.procs[i]? = some w) (halive : w.alive = true)
    (hpoint : w.point = .resumeRefresh x) (hrefresh : c.store.refreshExecution x = some q) :
    Answers c i w .refreshExecution q := by
  refine answers_workerStep hw halive (by simp) ?_
  rw [hpoint]
  show (c.store.refreshExecution x).map _ = _
  rw [hrefresh]
  rfl

/-- In every run without a sweep of the row, a row with a non-blank key is the only one of its
key, refuses other arguments and all callers but its holder, replays its result once it has
succeeded, and is tried at most as often as the retry policy of its tool says. -/
theorem keyedRow (h : RunsWith (Unswept e.toolDefinition policy x) c)
    (he : c.store.executions[x]? = some e) (hkey : e.idempotencyKey ≠ "") :
    KeyedRow policy x e c := by
  have hr : Reachable c := h.mono fun _ _ _ _ => trivial
  constructor
  · intro y e' he' hsame
    exact (uniqueKeys hr x y e e' he he' hkey hsame).symm
  · intro i w request hclaims hother
    refine hclaims.answers hr he hkey fun tool => ?_
    simp [resolveExisting, Ne.symm hother]
  · intro hsucceeded
    refine ⟨by simp [reusedOutcome, hsucceeded], ?_, fun i w hw halive => ⟨?_, ?_⟩⟩
    · intro i w request hclaims hsame
      refine hclaims.answers hr he hkey fun tool => ?_
      simp [resolveExisting, hsame, hsucceeded]
    · exact fun now hpoint => answers_claimResume hw halive he (by simp [hsucceeded]) hpoint
    · intro hpoint
      exact answers_refresh hw halive hpoint (by simp [Store.refreshExecution, he, hsucceeded])
  · exact fun hsucceeded c' hlater => succeeded_later h he hsucceeded hlater
  · intro i w n hw hx
    refine ⟨((oneHolder h).held i w n hw hx).get he, fun j m k hm hmx => ?_⟩
    exact (oneHolder h).exclusive j i m w () hm hw ⟨k, hmx⟩ ⟨n, hx⟩
  · intro hbusy
    have hwaiting : e.status ≠ .waitingForApproval := by
      rintro hs
      rcases hbusy with hb | hb <;> cases hs.symm.trans hb
    refine ⟨?_, fun i w hw halive => ⟨?_, fun hpoint => ?_⟩⟩
    · intro i w request hclaims hsame
      refine hclaims.answers hr he hkey fun tool => ?_
      rcases hbusy with hb | hb <;> simp [resolveExisting, hsame, hb]
    · exact fun now hpoint => answers_claimResume hw halive he hwaiting hpoint
    · rcases hbusy with hb | hb
      · exact ⟨_, answers_refresh hw halive hpoint (by simp [Store.refreshExecution, he, hb]; rfl)⟩
      · exact ⟨_, answers_refresh hw halive hpoint (by simp [Store.refreshExecution, he, hb]; rfl)⟩
  · have hcounted := counted h
    have hpolicy := withinPolicy h x e he rfl
    rw [Counted, attempts_of_row he] at hcounted
    omega

theorem keyedRow_answered :
    ∃ e, (scenarioEnd (Unswept "crm_update" {} 0) answeredRun).store.executions[0]? = some e ∧
      e.status = .succeeded ∧
      KeyedRow {} 0 e (scenarioEnd (Unswept "crm_update" {} 0) answeredRun) := by
  have hrow : ((scenarioEnd (Unswept "crm_update" {} 0) answeredRun).store.executions[0]?).map
      (fun e => (e.toolDefinition, e.idempotencyKey, e.status)) =
        some ("crm_update", "agent:a:turn:1:d", .succeeded) := by decide
  obtain ⟨e, he, hfields⟩ := Option.map_eq_some_iff.mp hrow
  simp only [Prod.mk.injEq] at hfields
  obtain ⟨htool, hkey, hstatus⟩ := hfields
  refine ⟨e, he, hstatus, keyedRow ?_ he (by simp [hkey])⟩
  rw [htool]
  exact runsWith_scenarioEnd _ answeredRun

end SupportPilot
