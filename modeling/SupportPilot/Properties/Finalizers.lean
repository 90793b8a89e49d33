import SupportPilot.Runtime.Conditions
import SupportPilot.Runtime.Scenario
import SupportPilot.Runtime.Sections

/-!
# Who finalizes a row

The finalizers look at the status of the row and not at who started it. So a row is
finalized by the caller that started it last as long as no call resets the row while a
worker that started it has not left it yet.
-/

namespace SupportPilot

open Library

/-- The caller of the most recent transition of row `x` to `RUNNING`. -/
def lastStarter (x : Nat) : List Event → Option Nat
  | [] => none
  | .rowStarted i y :: earlier => if y = x then some i else lastStarter x earlier
  | _ :: earlier => lastStarter x earlier

/-- Every finalization of row `x` was made by the caller that had started it last. -/
def FinalizedByStarter (x : Nat) (history : List Event) : Prop :=
  ∀ i earlier, .rowFinalized i x :: earlier <:+ history → lastStarter x earlier = some i

/-! ## Condition -/

/-- A live worker is in the section of row `x`. -/
def held (c : Configuration) (x : Nat) : Bool :=
  c.procs.any fun w => w.alive && w.point.sectionRow == some x

/-- A later call with the key of row `x` resets it while a live worker has not left it. -/
def resetsHeld (x : Nat) (c : Configuration) : Step → Bool
  | .work i .claimExecution => resetTarget c i == some x && held c x
  | _ => false

def ResetsFree (x : Nat) (c : Configuration) (l : Step) : Prop := resetsHeld x c l = false

instance (x : Nat) (c : Configuration) (l : Step) : Decidable (ResetsFree x c l) :=
  inferInstanceAs (Decidable (_ = _))

variable {c : Configuration} {i j x : Nat} {w m : Worker} {s s' : Store} {a : WorkerAction}
  {p p' : Point} {e : ToolExecution}

theorem resetsFree_reset {request : ToolRequest} {tool : ToolSpec} {run : AgentRun}
    (h : ResetsFree x c (.work i .claimExecution)) (hw : c.procs[i]? = some w)
    (hpoint : w.point = .claimExecution request tool) (hrun : c.store.runs[w.run]? = some run)
    (hfind : c.store.findExecution run.workspace request.toolKey request.idempotencyKey = some x)
    (he : c.store.executions[x]? = some e)
    (hreset : resolveExisting e request.argumentsFingerprint tool = .ok .reset)
    (hm : c.procs[j]? = some m) (halive : m.alive = true) : m.point.sectionRow ≠ some x := by
  intro hx
  have htarget : resetTarget c i = some x := by
    simp [resetTarget, hw, hpoint, hrun, hfind, he, hreset, Except.toOption]
  have hheld : held c x = true :=
    List.any_eq_true.mpr ⟨m, List.mem_of_getElem? hm, by simp [halive, hx]⟩
  simp [ResetsFree, resetsHeld, htarget, hheld] at h

/-! ## Sections of live workers -/

/-- The row has left its claim and its wait. -/
def Underway (e : ToolExecution) : Prop :=
  e.status ≠ .pending ∧ e.status ≠ .waitingForApproval

/-- A live worker in the section of row `x` started it last, and the row is underway. -/
structure Fenced (x : Nat) (c : Configuration) : Prop where
  underway : ∀ (i : Nat) (w : Worker), c.procs[i]? = some w → w.alive = true →
    w.point.sectionRow = some x → RowAt c.store x Underway
  starter : ∀ (i : Nat) (w : Worker), c.procs[i]? = some w → w.alive = true →
    w.point.sectionRow = some x → lastStarter x c.store.history = some i
  finalized : FinalizedByStarter x c.store.history

theorem underway_of_stored {exit : CallExit} {now : Nat} {e' : ToolExecution}
    (h : exit.finalize e now = .stored e') : Underway e' := by
  obtain ⟨-, ⟨output, -, rfl⟩ | ⟨status, code, message, err, -, rfl⟩⟩ :=
    CallExit.finalize_stored h
  · exact ⟨nofun, nofun⟩
  · cases status <;> exact ⟨nofun, nofun⟩

theorem underway_workerStep (hp : ResetsFree x c (.work i a)) (hc : Fenced x c)
    (hw : c.procs[i]? = some w) (h : WorkerStep i w c.store a w.point s' p')
    (hm : c.procs[j]? = some m) (halive : m.alive = true) (hx : m.point.sectionRow = some x) :
    RowAt s' x Underway := by
  obtain ⟨e, he, hunderway⟩ := hc.underway j m hm halive hx
  refine (rowAfter_workerStep h he).imp fun e' hchange => ?_
  generalize hpt : w.point = p at hchange
  cases hchange with
  | kept hstatus => rwa [Underway, hstatus]
  | reset hrun hfind hreset =>
    exact absurd hx (resetsFree_reset hp hw hpt hrun hfind he hreset hm halive)
  | gated hpending => exact absurd hpending hunderway.1
  | started hstatus => rcases hstatus with hs | hs <;> simp [Underway, hs] at hunderway
  | finalized _ _ hstored => exact underway_of_stored hstored

theorem lastStarter_cons {event : Event} (h : ∀ k, event ≠ .rowStarted k x)
    (earlier : List Event) : lastStarter x (event :: earlier) = lastStarter x earlier := by
  cases event with
  | rowStarted k y =>
    have hy : y ≠ x := fun hy => h k (by rw [hy])
    rw [lastStarter, if_neg hy]
  | _ => rfl

/-- A worker that records a start starts a row that is not underway, and enters its section. -/
theorem started_workerStep (h : WorkerStep i w s a p s' p') {k : Nat}
    (hnew : s'.history = .rowStarted k x :: s.history) :
    k = i ∧ p'.sectionRow = some x ∧ RowAt s x fun e => ¬ Underway e := by
  have hnot : ∀ {row : ToolExecution},
      row.status = .pending ∨ row.status = .waitingForApproval → ¬ Underway row := by
    rintro row (hs | hs) ⟨hpending, hwaiting⟩
    · exact hpending hs
    · exact hwaiting hs
  cases h with
  | vanished =>
    unfold Store.vanish at hnew
    split at hnew
    · split at hnew <;> simp at hnew
    · simp at hnew
  | startedRow hy hstatus =>
    simp only [Store.record, List.cons.injEq, Event.rowStarted.injEq] at hnew
    obtain ⟨⟨rfl, rfl⟩, -⟩ := hnew
    exact ⟨rfl, rfl, _, hy, hnot hstatus⟩
  | claimedRow hy hwaiting =>
    simp only [Store.record, List.cons.injEq, Event.rowStarted.injEq] at hnew
    obtain ⟨⟨rfl, rfl⟩, -⟩ := hnew
    exact ⟨rfl, rfl, _, hy, hnot (.inr hwaiting)⟩
  | _ => simp at hnew

/-- A row that is underway is not started, so its last starter stays. -/
theorem lastStarter_workerStep (h : WorkerStep i w s a w.point s' p')
    (hrow : RowAt s x Underway) : lastStarter x s'.history = lastStarter x s.history := by
  rcases recorded_workerStep h with hsame | ⟨event, hnew, -⟩
  · rw [hsame]
  · rw [hnew]
    refine lastStarter_cons (fun k hk => ?_) _
    obtain ⟨-, -, e, he, hnot⟩ := started_workerStep h (hk ▸ hnew)
    exact hnot (hrow.get he)

theorem lastStarter_serviceStep {event : ServiceEvent} {started : Option Worker}
    (h : ServiceStep s event s' started) :
    lastStarter x s'.history = lastStarter x s.history := by
  rcases recorded_serviceStep h with hsame | ⟨e, hnew, hrecords⟩
  · rw [hsame]
  · rw [hnew]
    exact lastStarter_cons (by cases hrecords <;> nofun) _

theorem fenced_workerStep (hp : ResetsFree x c (.work i a)) (hc : Fenced x c)
    (hw : c.procs[i]? = some w) (halive : w.alive = true)
    (h : WorkerStep i w c.store a w.point s' p') (alive : Bool) :
    Fenced x ⟨s', c.procs.set i { w with point := p', alive := alive }⟩ := by
  have hkept : ∀ {j : Nat} {m : Worker}, c.procs[j]? = some m → m.alive = true →
      m.point.sectionRow = some x →
      RowAt s' x Underway ∧ lastStarter x s'.history = some j := by
    intro j m hm hlive hx
    refine ⟨underway_workerStep hp hc hw h hm hlive hx, ?_⟩
    rw [lastStarter_workerStep h (hc.underway j m hm hlive hx)]
    exact hc.starter j m hm hlive hx
  have hsections : ∀ {j : Nat} {m : Worker},
      (c.procs.set i { w with point := p', alive := alive })[j]? = some m → m.alive = true →
      m.point.sectionRow = some x →
      RowAt s' x Underway ∧ lastStarter x s'.history = some j := by
    intro j m hm hlive hx
    rcases getElem?_set_cases hm with ⟨rfl, rfl⟩ | ⟨-, hother⟩
    · rcases sectionRow_workerStep h hx with hold | ⟨hrunning, hnew, -⟩
      · exact hkept hw halive hold
      · refine ⟨hrunning.imp fun e hstatus => ?_, ?_⟩
        · simp [Underway, hstatus]
        · rw [hnew, lastStarter, if_pos rfl]
    · exact hkept hother hlive hx
  refine ⟨fun j m hm hlive hx => (hsections hm hlive hx).1,
    fun j m hm hlive hx => (hsections hm hlive hx).2, ?_⟩
  intro k earlier hsuffix
  rcases recorded_workerStep h with hsame | ⟨event, hnew, hrecords⟩
  · exact hc.finalized k earlier (hsame ▸ hsuffix)
  · rw [hnew, List.suffix_cons_iff] at hsuffix
    rcases hsuffix with hhead | hold
    · obtain ⟨rfl, rfl⟩ := List.cons.inj hhead
      -- the finalizer acts from the section of the row
      generalize hpt : w.point = p at hrecords
      cases hrecords with
      | rowFinalized call exit => exact hc.starter i w hw halive (by rw [hpt]; rfl)
    · exact hc.finalized k earlier hold

theorem fenced_serviceStep {event : ServiceEvent} {started : Option Worker} (hc : Fenced x c)
    (h : ServiceStep c.store event s' started) : Fenced x ⟨s', c.procs ++ started.toList⟩ := by
  have hsections : ∀ {j : Nat} {m : Worker}, (c.procs ++ started.toList)[j]? = some m →
      m.alive = true → m.point.sectionRow = some x → c.procs[j]? = some m := by
    intro j m hm _ hx
    rcases Program.proc_append hm with hold | hnew
    · exact hold
    · exact absurd hx (started_outside h hnew)
  constructor
  · intro j m hm hlive hx
    obtain ⟨e, he, hunderway⟩ := hc.underway j m (hsections hm hlive hx) hlive hx
    refine (rowAfter_serviceStep h he).imp fun e' hchange => ?_
    rcases hchange with ⟨hstatus, -⟩ | hwaiting | ⟨-, hfailed, -⟩
    · rwa [Underway, hstatus]
    · exact absurd hwaiting hunderway.2
    · simp [Underway, hfailed]
  · intro j m hm hlive hx
    rw [lastStarter_serviceStep h]
    exact hc.starter j m (hsections hm hlive hx) hlive hx
  · intro k earlier hsuffix
    rcases recorded_serviceStep h with hsame | ⟨event, hnew, hrecords⟩
    · exact hc.finalized k earlier (hsame ▸ hsuffix)
    · rw [hnew, List.suffix_cons_iff] at hsuffix
      rcases hsuffix with hhead | hold
      · obtain ⟨rfl, rfl⟩ := List.cons.inj hhead
        cases hrecords
      · exact hc.finalized k earlier hold

/-! ## Main results -/

/-- In every run in which no call resets a row that a live worker has not left, the caller that
finalizes the row is the one that started it last. -/
theorem finalized_by_lastStarter (h : RunsWith (ResetsFree x) c) :
    FinalizedByStarter x c.store.history := by
  have hc : Fenced x c := configuration_of_steps
    ⟨fun _ _ hw => by simp at hw, fun _ _ hw => by simp at hw, fun _ _ hs => by simp at hs⟩
    (fun _ _ _ _ _ _ hc hstep => fenced_serviceStep hc hstep)
    (fun _ _ _ _ _ _ alive _ hp hc hw halive hstep =>
      fenced_workerStep hp hc hw halive hstep alive) h
  exact hc.finalized

theorem finalized_by_lastStarter_answered :
    .rowFinalized 1 0 ∈ (scenarioEnd (ResetsFree 0) answeredRun).store.history ∧
      FinalizedByStarter 0 (scenarioEnd (ResetsFree 0) answeredRun).store.history :=
  ⟨by decide, finalized_by_lastStarter (runsWith_scenarioEnd (ResetsFree 0) answeredRun)⟩

/-- A resumed run is slow in its second call when the sweep recovers it. A second resumed run
makes the same call under the same key and starts the row again, and then the first worker's
handler returns. -/
def slowCall : List Step :=
  let first := ⟨"crm_update", "{}", "f", "agent:a:turn:1:d"⟩
  let other := ⟨"crm_update", "{}", "f", "agent:b:turn:1:d"⟩
  let shared := ⟨"crm_sync", "{}", "f", "agent:unknown:turn:2:d"⟩
  let update := ⟨"crm_update", {}⟩
  let sync := ⟨"crm_sync", { maxRetries := 1 }⟩
  [.env (.createRun 1 {} (some 5) none (some 7) 0), .env (.createRun 1 {} (some 6) none (some 7) 0),
    .env (.claimRun 0 1)] ++ pausesCall 0 first update ++ resumesCall 1 0 update ++
    claimsCall 1 shared sync ++
    [.work 1 (.runPolicyGate (.allow "rule" "Allowed.") 8), .work 1 (.transitionRunning 8),
      .work 1 .reserveSlot, .work 1 .countAttempt, .work 1 .invokeHandler,
      .env (.recoverRun 0 20 30), .env (.claimRun 1 31)] ++
    pausesCall 2 other update ++ resumesCall 3 2 update ++ claimsCall 3 shared sync ++
    [.work 3 (.transitionRunning 32),
      .work 1 (.handlerEnds (.returns (.dict (.valid (.dumped ⟨"{}", true⟩))))),
      .work 1 (.finalize 33)]

/-- The first worker writes its result over the attempt of the second. -/
theorem not_always_finalized_by_lastStarter :
    ¬ ∀ c, Reachable c → ∀ x, FinalizedByStarter x c.store.history := by
  intro hlaw
  have hlast : (freeEnd slowCall).store.history.head? = some (.rowFinalized 1 1) := by decide
  have hstarter : lastStarter 1 (freeEnd slowCall).store.history.tail = some 3 := by decide
  have hfinal := hlaw _ (runsWith_scenarioEnd _ slowCall) 1 1
    (freeEnd slowCall).store.history.tail
  rw [List.head?_eq_some_iff] at hlast
  obtain ⟨earlier, hearlier⟩ := hlast
  rw [hearlier] at hfinal hstarter
  rw [List.tail_cons] at hstarter
  cases hstarter.symm.trans (hfinal (List.suffix_refl _))

end SupportPilot
