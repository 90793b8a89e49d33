import SupportPilot.ChannelIngress.Progress
import SupportPilot.Properties.InboundEvents

/-!
# No accepted event is lost

A claimed event is out of the reach of the sweep, so it depends on its worker. If no worker
vanishes with an event and none inserts a customer that another one has just committed, every
open event can still be finished; otherwise an event can be stuck in `PROCESSING` for ever, or
fail because of an event processed beside it.
-/

namespace SupportPilot.ChannelIngress

open Library

variable {lower : String → String} {cfg : IngressSettings} {s s' : Store} {c c' : Ingress}
  {i j d : Nat} {e e' event : InboundChannelEvent} {endpoint : ChannelEndpoint} {w w' : Worker}
  {p : Submission} {a : IngressAction} {point : WorkerPoint} {l : IngressLabel}

/-! ## Faults -/

/-- The process has claimed an event that is still `PROCESSING`. -/
def Store.held (s : Store) : Option Proc → Bool
  | some (.worker w) => w.point.claimed && (s.events[w.event]?).any (·.status = .processing)
  | _ => false

/-- The lookup of the worker's customer would find one now. -/
def Store.overtaken (s : Store) : Option Proc → Bool
  | some (.worker w) => (s.events[w.event]?).any fun event =>
      (s.endpoints[event.endpoint]?).any fun endpoint =>
        (s.findCustomer endpoint.workspace (lookupKey endpoint event)).isSome
  | _ => false

/-- No worker vanishes with its event, and none inserts a customer that is there by now. -/
def Undisturbed (c : Ingress) : IngressLabel → Prop
  | .work i .vanish => c.store.held c.procs[i]? = false
  | .work i .createCustomer => c.store.overtaken c.procs[i]? = false
  | _ => True

instance (c : Ingress) (l : IngressLabel) : Decidable (Undisturbed c l) := by
  unfold Undisturbed
  split <;> infer_instance

theorem held_of_claimed (hw : c.procs[i]? = some (.worker w)) (hclaimed : w.point.claimed = true)
    (he : c.store.events[w.event]? = some e) (hstatus : e.status = .processing) :
    c.store.held c.procs[i]? = true := by
  simp only [Store.held, hw, hclaimed, he, hstatus, Option.any_some, Bool.true_and, decide_true]

theorem Overtaken.overtaken (h : Overtaken c.store w a) (hw : c.procs[i]? = some (.worker w)) :
    a = .createCustomer ∧ c.store.overtaken c.procs[i]? = true := by
  obtain ⟨ha, -, event, endpoint, hreads, hfound⟩ := h
  refine ⟨ha, ?_⟩
  simp only [Store.overtaken, hw, hreads.eventRow, hreads.endpointRow, Option.any_some, hfound]

/-! ## The event of a worker -/

/-- What a step of a worker does to its event, and to its hold of it. -/
inductive Moves (w : Worker) (e : InboundChannelEvent) :
    IngressAction → InboundChannelEvent → WorkerPoint → Prop
  | kept {a : IngressAction} {point : WorkerPoint} : point.claimed = w.point.claimed →
      Moves w e a e point
  | vanished : Moves w e .vanish e .vanished
  | claimed {a : IngressAction} {e' : InboundChannelEvent} : e.status = .received →
      e'.status = .processing → Moves w e a e' .identity
  | finished {a : IngressAction} {e' : InboundChannelEvent} {point : WorkerPoint} :
      w.point.claimed = true → e'.status = .processed ∨ e'.status = .failed →
      Moves w e a e' point

theorem WorkerStep.moves (h : WorkerStep lower s i w a s' point)
    (he : s.events[w.event]? = some e) :
    ∃ e', s'.events[w.event]? = some e' ∧ Moves w e a e' point := by
  have hlt := (List.getElem?_eq_some_iff.mp he).1
  have hkept : s'.events = s.events → point.claimed = w.point.claimed →
      ∃ e', s'.events[w.event]? = some e' ∧ Moves w e a e' point := by
    intro hevents hclaimed
    exact ⟨e, by rw [hevents, he], .kept hclaimed⟩
  cases h with
  | claimed hw hevent hstatus =>
    rw [he] at hevent
    cases hevent
    exact ⟨_, List.getElem?_set_self hlt, .claimed hstatus rfl⟩
  | returned hw => exact hkept rfl (by rw [hw]; rfl)
  | rolledBack hin => exact hkept rfl (claimed_of_inTransaction hin).symm
  | vanished => exact ⟨e, he, .vanished⟩
  | @markedFailed now code hw =>
    have hevents : (s.markEventFailed w.event code now).events = _ := modify_eq_set he
    rw [hevents]
    exact ⟨_, List.getElem?_set_self hlt, .finished (by rw [hw]; rfl) (.inr rfl)⟩
  | delivered hw hreads hdeliver =>
    obtain ⟨k, n, hdelivered⟩ := deliver_ok hdeliver
    rw [Store.release, hdelivered.events, modify_eq_set he]
    exact ⟨_, List.getElem?_set_self hlt, .finished (by rw [hw]; rfl) (.inl rfl)⟩
  | foundConversation hw =>
    refine hkept rfl ?_
    rcases hw with hw | hw <;> rw [hw] <;> rfl
  | foundCustomer hw => exact hkept rfl (by rw [hw]; rfl)
  | missingCustomer hw => exact hkept rfl (by rw [hw]; rfl)
  | insertedCustomer hw => exact hkept rfl (by rw [hw]; rfl)
  | missingConversation hw => exact hkept rfl (by rw [hw]; rfl)
  | freshConversation hw => exact hkept rfl (by rw [hw]; rfl)
  | insertedConversation hw => exact hkept rfl (by rw [hw]; rfl)

/-- The other events are left alone. -/
theorem WorkerEffect.other (h : WorkerEffect lower s w a s' point) (hd : d ≠ w.event) :
    s'.events[d]? = s.events[d]? := by
  cases h with
  | quiet hevents => rw [hevents]
  | claimed => exact List.getElem?_set_ne (Ne.symm hd)
  | delivered hin hdelivered =>
    rw [Store.release, hdelivered.events, List.getElem?_modify_ne _ _ (Ne.symm hd)]
  | markedFailed => exact List.getElem?_modify_ne _ _ (Ne.symm hd)

/-- A submission adds at most an event that is `RECEIVED`. -/
theorem SubmissionStep.event_cases {q : SubmissionPoint} (h : SubmissionStep s p a s' q)
    (he : s'.events[d]? = some e) : s.events[d]? = some e ∨ e.status = .received := by
  cases h with
  | @inserted now published =>
    have hcases : AllRows (fun d e => s.events[d]? = some e ∨ e.status = .received)
        (s.events ++ [newEvent p.endpoint p.canonical p.payloadDigest now]) :=
      AllRows.append (fun _ _ hold => .inl hold) (.inr rfl)
    exact hcases d e he
  | missing => exact .inl he
  | resolved => exact .inl he
  | refused => exact .inl he

/-! ## Claimed events have a worker -/

/-- Every event in `PROCESSING` has a worker that can still finish it. -/
def Attended (c : Ingress) : Prop :=
  ∀ (d : Nat) (e : InboundChannelEvent), c.store.events[d]? = some e → e.status = .processing →
    ∃ (i : Nat) (w : Worker), c.procs[i]? = some (.worker w) ∧ w.point.claimed = true ∧
      w.event = d

theorem Attended.afterWorker (hc : Attended c) (hw : c.procs[i]? = some (.worker w))
    (h : WorkerStep lower c.store i w a s' point)
    (hvanish : a = .vanish → c.store.held c.procs[i]? = false) :
    Attended ⟨s', c.procs.set i (.worker { w with point := point })⟩ := by
  have hlt := (List.getElem?_eq_some_iff.mp hw).1
  intro d e' he' hstatus
  have hbound : d < s'.events.length := (List.getElem?_eq_some_iff.mp he').1
  rw [h.effect.events.2] at hbound
  obtain ⟨e, he⟩ : ∃ e, c.store.events[d]? = some e := ⟨_, List.getElem?_eq_getElem hbound⟩
  -- the worker that held the event before the step, if it is another one, still holds it
  have hother : ∀ {j : Nat} {w' : Worker}, j ≠ i → c.procs[j]? = some (.worker w') →
      w'.point.claimed = true → w'.event = d →
      ∃ (j : Nat) (w' : Worker), (c.procs.set i (.worker { w with point := point }))[j]? =
        some (.worker w') ∧ w'.point.claimed = true ∧ w'.event = d := by
    intro j w' hji hw' hclaimed hsame
    exact ⟨j, w', by rw [List.getElem?_set_ne (Ne.symm hji), hw'], hclaimed, hsame⟩
  by_cases hd : d = w.event
  · subst hd
    obtain ⟨e'', he'', hmoves⟩ := h.moves he
    obtain rfl : e' = e'' := Option.some.inj (he'.symm.trans he'')
    cases hmoves with
    | kept hkept =>
      obtain ⟨j, w', hw', hclaimed, hsame⟩ := hc _ _ he hstatus
      by_cases hji : j = i
      · subst hji
        rw [hw] at hw'
        cases hw'
        exact ⟨j, _, List.getElem?_set_self hlt, hkept.trans hclaimed, rfl⟩
      · exact hother hji hw' hclaimed hsame
    | vanished =>
      obtain ⟨j, w', hw', hclaimed, hsame⟩ := hc _ _ he hstatus
      by_cases hji : j = i
      · subst hji
        rw [hw] at hw'
        cases hw'
        have hheld := held_of_claimed hw hclaimed he hstatus
        rw [hvanish rfl] at hheld
        cases hheld
      · exact hother hji hw' hclaimed hsame
    | claimed => exact ⟨i, _, List.getElem?_set_self hlt, rfl, rfl⟩
    | finished _ hfinished =>
      rw [hstatus] at hfinished
      rcases hfinished with hno | hno <;> cases hno
  · rw [h.effect.other hd] at he'
    obtain ⟨j, w', hw', hclaimed, hsame⟩ := hc d e' he' hstatus
    refine hother ?_ hw' hclaimed hsame
    rintro rfl
    rw [hw] at hw'
    cases hw'
    exact hd hsame.symm

theorem Attended.step (hc : Attended c)
    (hvanish : ∀ i, l = .work i .vanish → c.store.held c.procs[i]? = false)
    (hstep : (ingress lower cfg).system.step l c = some c') : Attended c' := by
  cases l with
  | env label =>
    obtain ⟨s', started, hout, rfl⟩ := Program.step_env hstep
    obtain ⟨henv, -⟩ := ingressStep_cases hout
    intro d e he hstatus
    obtain ⟨j, w, hw, hclaimed, hsame⟩ := hc d e (henv.events ▸ he) hstatus
    exact ⟨j, w, getElem?_append_some hw _, hclaimed, hsame⟩
  | work i a =>
    obtain ⟨proc, s', proc', hproc, hout, rfl⟩ := Program.step_work hstep
    rcases work_cases hout with ⟨p, point, rfl, rfl, hcase⟩ | ⟨w, point, rfl, rfl, hcase⟩
    · intro d e he hstatus
      rcases hcase.event_cases he with hold | hreceived
      · obtain ⟨j, w, hw, hclaimed, hsame⟩ := hc d e hold hstatus
        refine ⟨j, w, ?_, hclaimed, hsame⟩
        rw [List.getElem?_set_ne, hw]
        rintro rfl
        rw [hproc] at hw
        cases hw
      · rw [hstatus] at hreceived
        cases hreceived
    · exact hc.afterWorker hproc hcase fun ha => hvanish i (by rw [ha])

/-! ## Open events can be finished -/

/-- An event that has been claimed is never `RECEIVED` again. -/
def TakenUp (c : Ingress) (d : Nat) : Prop :=
  ∃ e, c.store.events[d]? = some e ∧ e.status ≠ .received

theorem TakenUp.step (h : TakenUp c d) (hstep : (ingress lower cfg).system.step l c = some c') :
    TakenUp c' d := by
  obtain ⟨e, he, hstatus⟩ := h
  cases l with
  | env label =>
    obtain ⟨s', started, hout, rfl⟩ := Program.step_env hstep
    obtain ⟨henv, -⟩ := ingressStep_cases hout
    exact ⟨e, henv.events ▸ he, hstatus⟩
  | work i a =>
    obtain ⟨proc, s', proc', hproc, hout, rfl⟩ := Program.step_work hstep
    rcases work_cases hout with ⟨p, point, rfl, rfl, hcase⟩ | ⟨w, point, rfl, rfl, hcase⟩
    · obtain ⟨e', he', hsame⟩ : ∃ e', s'.events[d]? = some e' ∧ e' = e := by
        cases hcase with
        | inserted => exact ⟨e, getElem?_append_some he _, rfl⟩
        | _ => exact ⟨e, he, rfl⟩
      exact ⟨e', he', hsame ▸ hstatus⟩
    · by_cases hd : d = w.event
      · subst hd
        obtain ⟨e', he', hmoves⟩ := hcase.moves he
        refine ⟨e', he', ?_⟩
        cases hmoves with
        | kept => exact hstatus
        | vanished => exact hstatus
        | claimed hreceived => exact absurd hreceived hstatus
        | finished _ hfinished => rcases hfinished with h | h <;> rw [h] <;> nofun
      · exact ⟨e, by rw [hcase.effect.other hd, he], hstatus⟩

/-- An event that is open can be picked up by a sweep or is with its worker, and runs without
faults finish it. -/
structure Recoverable (lower : String → String) (cfg : IngressSettings) (c : Ingress) (d : Nat)
    (e : InboundChannelEvent) : Prop where
  swept : e.status = .received → ∃ batchSize, ∀ now,
    e.receivedAt + cfg.sweepStaleSeconds * 1000000 ≤ now →
    d ∈ c.store.recoverStuckInboundEvents cfg (some batchSize) now
  finished : ∃ c', ((ingress lower cfg).system.startedAt c).Reach (FaultFree cfg) c' ∧
    ∃ e', c'.store.events[d]? = some e' ∧ (e'.status = .processed ∨ e'.status = .failed)

/-- Every event that is neither `PROCESSED` nor `FAILED` can still be finished. -/
def NoEventLost (lower : String → String) (cfg : IngressSettings) (c : Ingress) : Prop :=
  ∀ (d : Nat) (e : InboundChannelEvent), c.store.events[d]? = some e → e.status ≠ .processed →
    e.status ≠ .failed → Recoverable lower cfg c d e

theorem Attended.continued (h : (ingress lower cfg).system.Reach (fun _ _ => True) c)
    (hc : Attended c)
    (hreach : ((ingress lower cfg).system.startedAt c).Reach (FaultFree cfg) c') :
    (ingress lower cfg).system.Reach (fun _ _ => True) c' ∧ Attended c' := by
  refine System.Reach.continued
    (I := fun t => (ingress lower cfg).system.Reach (fun _ _ => True) t ∧ Attended t)
    hreach ⟨h, hc⟩ fun t l t' ht hp hstep => ?_
  refine ⟨.step ht.1 trivial hstep, ht.2.step ?_ hstep⟩
  rintro i rfl
  cases hp

/-- Once its event is claimed, runs without faults finish it. -/
theorem finished_of_takenUp (h : (ingress lower cfg).system.Reach (fun _ _ => True) c)
    (hc : Attended c) (hd : TakenUp c d) :
    ∃ c', ((ingress lower cfg).system.startedAt c).Reach (FaultFree cfg) c' ∧
      ∃ e', c'.store.events[d]? = some e' ∧ (e'.status = .processed ∨ e'.status = .failed) := by
  obtain ⟨c', hreach, ⟨e', he', hstatus⟩, hidle⟩ :
      ∃ c', ((ingress lower cfg).system.startedAt c).Reach (FaultFree cfg) c' ∧
        TakenUp c' d ∧ Idle c' :=
    reaches_idle h hd fun _ _ _ _ ht _ hstep => ht.step hstep
  have hattended : Attended c' := (hc.continued h hreach).2
  refine ⟨c', hreach, e', he', ?_⟩
  cases hopen : e'.status with
  | received => exact absurd hopen hstatus
  | processing =>
    obtain ⟨i, w, hw, hclaimed, -⟩ := hattended d e' he' hopen
    rw [hidle i w hw] at hclaimed
    cases hclaimed
  | processed => exact .inl rfl
  | failed => exact .inr rfl

theorem Attended.noEventLost (h : (ingress lower cfg).system.Reach (fun _ _ => True) c)
    (hc : Attended c) : NoEventLost lower cfg c := by
  intro d e he hprocessed hfailed
  refine ⟨fun hstatus => ⟨_, fun now => mem_recoverStuckInboundEvents he hstatus⟩, ?_⟩
  by_cases hstatus : e.status = .received
  · obtain ⟨t, ht, htaken⟩ : ∃ t, ((ingress lower cfg).system.startedAt c).Reach (FaultFree cfg) t ∧
        TakenUp t d := by
      obtain ⟨t, ht, hstore, -⟩ := claims_received lower cfg he hstatus
      refine ⟨t, ht, { e with status := .processing, processingStartedAt := some 0 }, ?_, nofun⟩
      rw [hstore]
      exact List.getElem?_set_self (List.getElem?_eq_some_iff.mp he).1
    obtain ⟨hreach, hattended⟩ := hc.continued h ht
    obtain ⟨c', hc', hfinished⟩ := finished_of_takenUp hreach hattended htaken
    exact ⟨c', ht.trans hc', hfinished⟩
  · exact finished_of_takenUp h hc ⟨e, he, hstatus⟩

/-! ## Events without a worker -/

/-- An event is in `PROCESSING` and no worker holds it. -/
def Abandoned (c : Ingress) (d : Nat) : Prop :=
  ∃ e, c.store.events[d]? = some e ∧ e.status = .processing ∧
    ∀ (i : Nat) (w : Worker), c.procs[i]? = some (.worker w) → w.point.claimed = true →
      w.event ≠ d

theorem Abandoned.step (h : Abandoned c d)
    (hstep : (ingress lower cfg).system.step l c = some c') : Abandoned c' d := by
  obtain ⟨e, he, hstatus, hnone⟩ := h
  cases l with
  | env label =>
    obtain ⟨s', started, hout, rfl⟩ := Program.step_env hstep
    obtain ⟨henv, hstarted⟩ := ingressStep_cases hout
    refine ⟨e, henv.events ▸ he, hstatus, fun i w hw hclaimed => ?_⟩
    rcases Program.proc_append hw with hold | hnew
    · exact hnone i w hold hclaimed
    · have hfresh : w.point = .start := hstarted (.worker w) hnew
      rw [hfresh] at hclaimed
      cases hclaimed
  | work j a =>
    obtain ⟨proc, s', proc', hproc, hout, rfl⟩ := Program.step_work hstep
    have hlt := (List.getElem?_eq_some_iff.mp hproc).1
    rcases work_cases hout with ⟨p, point, rfl, rfl, hcase⟩ | ⟨w, point, rfl, rfl, hcase⟩
    · refine ⟨e, ?_, hstatus, fun i w hw => ?_⟩
      · cases hcase with
        | inserted => exact getElem?_append_some he _
        | _ => exact he
      · rcases getElem?_set_cases hw with ⟨-, heq⟩ | ⟨-, hother⟩
        · cases heq
        · exact hnone i w hother
    · by_cases hd : d = w.event
      · subst hd
        have hfree : w.point.claimed = false := by
          simpa using fun hclaimed => hnone j w hproc hclaimed rfl
        obtain ⟨e', he', hmoves⟩ := hcase.moves he
        have hown : e' = e ∧ point.claimed = false := by
          cases hmoves with
          | kept hkept => exact ⟨rfl, hkept.trans hfree⟩
          | vanished => exact ⟨rfl, rfl⟩
          | claimed hreceived =>
            rw [hstatus] at hreceived
            cases hreceived
          | finished hclaimed =>
            rw [hfree] at hclaimed
            cases hclaimed
        refine ⟨e, hown.1 ▸ he', hstatus, fun i w' hw' hclaimed => ?_⟩
        rcases getElem?_set_cases hw' with ⟨-, heq⟩ | ⟨-, hother⟩
        · cases heq
          rw [hown.2] at hclaimed
          cases hclaimed
        · exact hnone i w' hother hclaimed
      · refine ⟨e, by rw [hcase.effect.other hd, he], hstatus, fun i w' hw' hclaimed => ?_⟩
        rcases getElem?_set_cases hw' with ⟨-, heq⟩ | ⟨-, hother⟩
        · cases heq
          exact Ne.symm hd
        · exact hnone i w' hother hclaimed

/-- Whatever happens later, an abandoned event is never finished. -/
theorem Abandoned.lost (h : Abandoned c d) : ¬ NoEventLost lower cfg c := by
  intro hlaw
  obtain ⟨e, he, hstatus, -⟩ := id h
  have hrecoverable := hlaw d e he (by rw [hstatus]; nofun) (by rw [hstatus]; nofun)
  obtain ⟨c', hreach, e', he', hfinished⟩ := hrecoverable.finished
  have hkept : Abandoned c' d :=
    System.Reach.continued (I := fun t => Abandoned t d) hreach h fun _ _ _ ht _ hstep =>
      ht.step hstep
  obtain ⟨e'', he'', hprocessing, -⟩ := hkept
  rw [he'] at he''
  cases he''
  rw [hprocessing] at hfinished
  rcases hfinished with hno | hno <;> cases hno

/-! ## Main results -/

theorem WorkerStep.raced (h : WorkerStep lower s i w a s' point) :
    s'.raced = s.raced ∨ Overtaken s w a := by
  cases h with
  | rolledBack _ hraced => exact hraced.imp id And.right
  | delivered _ _ hdeliver =>
    obtain ⟨k, n, hdelivered⟩ := deliver_ok hdeliver
    exact .inl hdelivered.raced
  | _ => exact .inl rfl

theorem attended (h : (ingress lower cfg).system.Reach Undisturbed c) :
    Attended c ∧ c.store.raced = [] := by
  refine System.Reach.invariant (I := fun c => Attended c ∧ c.store.raced = []) ?_ ?_ h
  · rintro ⟨t, procs⟩ ⟨rfl, rfl⟩
    refine ⟨fun d e he => ?_, rfl⟩
    simp at he
  · intro c l c' _ hc hp hstep
    refine ⟨hc.1.step (fun i hl => by rw [hl] at hp; exact hp) hstep, ?_⟩
    cases l with
    | env label =>
      obtain ⟨s', started, hout, rfl⟩ := Program.step_env hstep
      obtain ⟨henv, -⟩ := ingressStep_cases hout
      exact henv.raced.trans hc.2
    | work i a =>
      obtain ⟨proc, s', proc', hproc, hout, rfl⟩ := Program.step_work hstep
      rcases work_cases hout with ⟨p, point, rfl, rfl, hcase⟩ | ⟨w, point, rfl, rfl, hcase⟩
      · cases hcase <;> exact hc.2
      · rcases hcase.raced with hsame | hovertaken
        · exact hsame.trans hc.2
        · obtain ⟨rfl, hfound⟩ := hovertaken.overtaken hproc
          have hno : c.store.overtaken c.procs[i]? = false := hp
          rw [hfound] at hno
          cases hno

/-- In every undisturbed run, whatever was accepted and is open can be swept or is with its
worker, and can be finished; and no event has failed on a customer inserted beside it. -/
theorem no_event_lost (lower : String → String) (cfg : IngressSettings)
    (h : (ingress lower cfg).system.Reach Undisturbed c) :
    NoEventLost lower cfg c ∧ c.store.raced = [] :=
  ⟨(attended h).1.noEventLost (h.mono fun _ _ _ _ => trivial), (attended h).2⟩

theorem no_event_lost_claimed :
    NoEventLost String.toLower {} (ingressEnd Undisturbed claimedEvent) ∧
      (ingressEnd Undisturbed claimedEvent).store.events.map (·.status) = [.processing] :=
  ⟨(no_event_lost String.toLower {} (reaches_ingressEnd Undisturbed claimedEvent)).1, by decide⟩

/-- A worker vanishes after its claim. -/
def abandonedEvent : List IngressLabel := claimedEvent ++ [.work 1 .vanish]

/-- The process holds no event. -/
def holdsNone : Proc → Bool
  | .submission _ => true
  | .worker w => !w.point.claimed

theorem abandoned_event : Abandoned (ingressEnd (fun _ _ => True) abandonedEvent) 0 := by
  have hevent : (ingressEnd (fun _ _ => True) abandonedEvent).store.events[0]?.map (·.status) =
      some .processing := by decide
  obtain ⟨e, he, hstatus⟩ := Option.map_eq_some_iff.mp hevent
  refine ⟨e, he, hstatus, fun i w hw hclaimed => ?_⟩
  have hall : (ingressEnd (fun _ _ => True) abandonedEvent).procs.all holdsNone = true := by
    decide
  have hfree := List.all_eq_true.mp hall _ (List.mem_of_getElem? hw)
  simp [holdsNone, hclaimed] at hfree

/-- The first two events of one customer are claimed and find no customer; the second one
inserts its own after the first one has committed. -/
def racedEvents : List IngressLabel :=
  [.env (.createEndpoint
      { id := .replicate 0, workspace := 1, channel := .genericWebhook }),
    .env (.receiveWebhook 0 { eventId := "evt-1", sender := "cust-1", body := "hi" } "digest-1"),
    .env (.receiveWebhook 0 { eventId := "evt-2", sender := "cust-1", body := "ho" } "digest-2"),
    .work 0 .lookup, .work 0 (.insert 1 true), .work 1 .lookup, .work 1 (.insert 1 true),
    .env (.task 0), .env (.task 1), .work 2 (.claim 2), .work 3 (.claim 2),
    .work 2 .resolveIdentity, .work 3 .resolveIdentity, .work 2 .createCustomer,
    .work 2 .findConversation, .work 2 .createConversation, .work 2 (.deliver 3 true),
    .work 3 .createCustomer, .work 3 (.markFailed 4)]

/-- A worker that vanishes after its claim loses the event, and an event can fail because
another event of its customer was processed beside it. -/
theorem events_lost_or_raced :
    (¬ ∀ (lower : String → String) (cfg : IngressSettings) (c : Ingress),
        (ingress lower cfg).system.Reach (fun _ _ => True) c → NoEventLost lower cfg c) ∧
      ¬ ∀ (lower : String → String) (cfg : IngressSettings) (c : Ingress),
        (ingress lower cfg).system.Reach (fun _ _ => True) c → c.store.raced = [] := by
  constructor
  · intro hlaw
    exact abandoned_event.lost
      (hlaw String.toLower {} _ (reaches_ingressEnd (fun _ _ => True) abandonedEvent))
  · intro hlaw
    have hraced : (ingressEnd (fun _ _ => True) racedEvents).store.raced = [1] := by
      decide +kernel
    have hnone := hlaw String.toLower {} _ (reaches_ingressEnd (fun _ _ => True) racedEvents)
    exact absurd (hnone.symm.trans hraced) nofun

end SupportPilot.ChannelIngress
