import SupportPilot.ChannelIngress.Steps

/-!
# Events, their holders, and what is written for them

The invariant between the table of events, the messages and runs that point to them, and the
workers that have claimed them.
-/

namespace SupportPilot.ChannelIngress

open Library

/-! ## What a step does to the events -/

/-- The columns of an event that no step after its insertion writes. -/
def SameEvent (row row' : InboundChannelEvent) : Prop :=
  row'.endpoint = row.endpoint ∧ row'.providerEventId = row.providerEventId ∧
    row'.payloadDigest = row.payloadDigest ∧ row'.providerThreadId = row.providerThreadId ∧
    row'.subject = row.subject ∧ row'.externalIdentity = row.externalIdentity

theorem SameEvent.refl (row : InboundChannelEvent) : SameEvent row row :=
  ⟨rfl, rfl, rfl, rfl, rfl, rfl⟩

/-- The tables that the processing transaction writes besides the event. -/
def Store.persisted (s : Store) :
    List Customer × List Conversation × List ChatSession × List CustomerMessage × List AgentRun :=
  (s.customers, s.conversations, s.sessions, s.messages, s.runs)

/-- A step of a worker on events and written tables: most steps leave both alone. -/
inductive WorkerEffect (lower : String → String) (s : Store) (w : Worker) :
    IngressAction → Store → WorkerPoint → Prop
  | quiet {a : IngressAction} {s' : Store} {q : WorkerPoint} : s'.events = s.events →
      s'.persisted = s.persisted → (q.claimed = true → w.point.inTransaction = true) →
      WorkerEffect lower s w a s' q
  | claimed {now : Nat} {event : InboundChannelEvent} : s.events[w.event]? = some event →
      event.status = .received → w.point.claimed = false →
      WorkerEffect lower s w (.claim now)
        (s.setEvent w.event { event with status := .processing, processingStartedAt := some now })
        .identity
  | delivered {now : Nat} {dispatched : Bool} {event : InboundChannelEvent}
      {endpoint : ChannelEndpoint} {customer : CustomerRef} {conversation : ConversationRef}
      {s' : Store} {i k n : Nat} : w.point.inTransaction = true →
      Delivered lower s s' w.event endpoint event customer conversation now k n →
      WorkerEffect lower s w (.deliver now dispatched) (s'.release i)
        (if dispatched then .processed else .failing "processing_failed")
  | markedFailed {now : Nat} {code : String} : w.point = .failing code →
      WorkerEffect lower s w (.markFailed now) (s.markEventFailed w.event code now) .failed

variable {lower : String → String} {cfg : IngressSettings} {s s' : Store} {c c' : Ingress}
  {i d : Nat} {e event : InboundChannelEvent} {endpoint : ChannelEndpoint} {w w' : Worker}
  {p p' : Submission} {a : IngressAction} {q : WorkerPoint} {l : IngressLabel}

theorem WorkerStep.effect (h : WorkerStep lower s i w a s' q) : WorkerEffect lower s w a s' q := by
  cases h with
  | claimed hw hevent hstatus => exact .claimed hevent hstatus (by rw [hw]; rfl)
  | returned => exact .quiet rfl rfl nofun
  | rolledBack hin => exact .quiet rfl rfl fun _ => hin
  | markedFailed hw => exact .markedFailed hw
  | vanished => exact .quiet rfl rfl nofun
  | foundCustomer hw => exact .quiet rfl rfl fun _ => by rw [hw]; rfl
  | missingCustomer hw => exact .quiet rfl rfl fun _ => by rw [hw]; rfl
  | insertedCustomer hw => exact .quiet rfl rfl fun _ => by rw [hw]; rfl
  | foundConversation hw =>
    refine .quiet rfl rfl fun _ => ?_
    rcases hw with hw | hw <;> rw [hw] <;> rfl
  | missingConversation hw => exact .quiet rfl rfl fun _ => by rw [hw]; rfl
  | freshConversation hw => exact .quiet rfl rfl fun _ => by rw [hw]; rfl
  | insertedConversation hw => exact .quiet rfl rfl fun _ => by rw [hw]; rfl
  | delivered hw hreads hdeliver =>
    obtain ⟨k, n, hdelivered⟩ := deliver_ok hdeliver
    exact .delivered (by rw [hw]; rfl) hdelivered

theorem WorkerEffect.events (h : WorkerEffect lower s w a s' q) :
    Rows SameEvent s.events s'.events ∧ s'.events.length = s.events.length := by
  cases h with
  | quiet hevents =>
    rw [hevents]
    exact ⟨.refl .refl _, rfl⟩
  | claimed hevent => exact ⟨.set .refl hevent ⟨rfl, rfl, rfl, rfl, rfl, rfl⟩, List.length_set⟩
  | delivered hin hdelivered =>
    show Rows SameEvent s.events _ ∧ _
    rw [Store.release, hdelivered.events]
    exact ⟨Rows.modify .refl (fun _ => ⟨rfl, rfl, rfl, rfl, rfl, rfl⟩) _ _, List.length_modify ..⟩
  | markedFailed =>
    exact ⟨Rows.modify .refl (fun _ => ⟨rfl, rfl, rfl, rfl, rfl, rfl⟩) _ _, List.length_modify ..⟩

/-! ## Messages and runs of an event -/

def MessageOf (s : Store) (d m : Nat) : Prop :=
  ∃ row, s.messages[m]? = some row ∧ row.inboundEvent = d

def RunOf (s : Store) (m r : Nat) : Prop :=
  ∃ run, s.runs[r]? = some run ∧ run.triggerMessage = some m

/-- Nothing has been written for an event. -/
structure Untouched (s : Store) (d : Nat) (e : InboundChannelEvent) : Prop where
  message : e.message = none
  conversation : e.conversation = none
  messages : ∀ m, ¬ MessageOf s d m

/-- An event has exactly one message, which has exactly one run, and both are linked. -/
structure LinkedTo (s : Store) (d : Nat) (e : InboundChannelEvent) (m r : Nat)
    (row : CustomerMessage) (run : AgentRun) : Prop where
  message : e.message = some m
  conversation : e.conversation = some row.conversation
  messageRow : s.messages[m]? = some row
  event : row.inboundEvent = d
  runRow : s.runs[r]? = some run
  trigger : run.triggerMessage = some m
  runConversation : run.conversation = some row.conversation
  onlyMessage : ∀ m', MessageOf s d m' → m' = m
  onlyRun : ∀ r', RunOf s m r' → r' = r

def Linked (s : Store) (d : Nat) (e : InboundChannelEvent) : Prop :=
  ∃ m r row run, LinkedTo s d e m r row run

def EventLaw (s : Store) (d : Nat) (e : InboundChannelEvent) : Prop :=
  match e.status with
  | .received | .processing => Untouched s d e
  | .processed => Linked s d e
  | .failed => Untouched s d e ∨ Linked s d e

/-- Messages point to events, and runs to messages. -/
structure Bounded (s : Store) : Prop where
  messages : ∀ d m, MessageOf s d m → d < s.events.length
  runs : ∀ m r, RunOf s m r → m < s.messages.length

/-- Two stores with the same messages and runs obey the same laws. -/
theorem EventLaw.congr (hmessages : s'.messages = s.messages) (hruns : s'.runs = s.runs)
    (h : EventLaw s d e) : EventLaw s' d e := by
  have hmessage : ∀ d m, MessageOf s' d m = MessageOf s d m := by
    intro d m
    simp only [MessageOf, hmessages]
  have hrun : ∀ m r, RunOf s' m r = RunOf s m r := by
    intro m r
    simp only [RunOf, hruns]
  have huntouched : Untouched s d e → Untouched s' d e := fun ⟨hm, hc, hno⟩ =>
    ⟨hm, hc, fun m => by rw [hmessage]; exact hno m⟩
  have hlinked : Linked s d e → Linked s' d e := fun ⟨m, r, row, run, hl⟩ =>
    ⟨m, r, row, run, hl.message, hl.conversation, hmessages ▸ hl.messageRow, hl.event,
      hruns ▸ hl.runRow,
      hl.trigger, hl.runConversation, fun m' => by rw [hmessage]; exact hl.onlyMessage m',
      fun r' => by rw [hrun]; exact hl.onlyRun r'⟩
  unfold EventLaw at h ⊢
  split at h
  · exact huntouched h
  · exact huntouched h
  · exact hlinked h
  · exact h.imp huntouched hlinked

theorem laws_congr {events : List InboundChannelEvent} (h : AllRows (EventLaw s) events)
    (hmessages : s'.messages = s.messages) (hruns : s'.runs = s.runs) :
    AllRows (EventLaw s') events :=
  h.imp fun _ _ _ hlaw => hlaw.congr hmessages hruns

/-! ## The commit of one event -/

section Commit

variable {row : CustomerMessage} {run : AgentRun} {d₀ : Nat}

/-- A message of one event and its run are added. -/
structure Adds (s s' : Store) (d₀ : Nat) (row : CustomerMessage) (run : AgentRun) : Prop where
  messages : s'.messages = s.messages ++ [row]
  event : row.inboundEvent = d₀
  runs : s'.runs = s.runs ++ [run]
  trigger : run.triggerMessage = some s.messages.length
  conversation : run.conversation = some row.conversation

theorem Adds.messageOf {m : Nat} (h : Adds s s' d₀ row run) (hm : MessageOf s' d m) :
    MessageOf s d m ∨ (m = s.messages.length ∧ d = d₀) := by
  obtain ⟨row', hrow', hd⟩ := hm
  rw [h.messages] at hrow'
  rcases getElem?_concat_cases hrow' with hold | ⟨hlast, rfl⟩
  · exact .inl ⟨row', hold, hd⟩
  · exact .inr ⟨hlast, hd.symm.trans h.event⟩

theorem Adds.runOf {m r : Nat} (h : Adds s s' d₀ row run) (hr : RunOf s' m r) :
    RunOf s m r ∨ (r = s.runs.length ∧ m = s.messages.length) := by
  obtain ⟨run', hrun', hm⟩ := hr
  rw [h.runs] at hrun'
  rcases getElem?_concat_cases hrun' with hold | ⟨hlast, rfl⟩
  · exact .inl ⟨run', hold, hm⟩
  · rw [h.trigger] at hm
    exact .inr ⟨hlast, (Option.some.inj hm).symm⟩

/-- The other events keep their messages and runs. -/
theorem Adds.eventLaw (h : Adds s s' d₀ row run) (hd : d ≠ d₀) (hlaw : EventLaw s d e) :
    EventLaw s' d e := by
  have hmessage : ∀ m, MessageOf s' d m → MessageOf s d m := by
    intro m hm
    rcases h.messageOf hm with hold | ⟨-, hsame⟩
    · exact hold
    · exact absurd hsame hd
  have huntouched : Untouched s d e → Untouched s' d e := fun ⟨hm, hc, hno⟩ =>
    ⟨hm, hc, fun m hof => hno m (hmessage m hof)⟩
  have hlinked : Linked s d e → Linked s' d e := by
    rintro ⟨m, r, row', run', hl⟩
    have hm := (List.getElem?_eq_some_iff.mp hl.messageRow).1
    have hr := (List.getElem?_eq_some_iff.mp hl.runRow).1
    refine ⟨m, r, row', run', hl.message, hl.conversation, ?_, hl.event, ?_, hl.trigger,
      hl.runConversation, fun m' hof => hl.onlyMessage m' (hmessage m' hof), fun r' hof => ?_⟩
    · rw [h.messages]
      exact getElem?_append_some hl.messageRow _
    · rw [h.runs]
      exact getElem?_append_some hl.runRow _
    · rcases h.runOf hof with hold | ⟨-, hlast⟩
      · exact hl.onlyRun r' hold
      · omega
  unfold EventLaw at hlaw ⊢
  split at hlaw
  · exact huntouched hlaw
  · exact huntouched hlaw
  · exact hlinked hlaw
  · exact hlaw.imp huntouched hlinked

/-- The event itself becomes linked. -/
theorem Adds.linked (h : Adds s s' d₀ row run) (hs : Bounded s)
    (hnone : ∀ m, ¬ MessageOf s d₀ m) (hmessage : e.message = some s.messages.length)
    (hconversation : e.conversation = some row.conversation) : Linked s' d₀ e := by
  refine ⟨s.messages.length, s.runs.length, row, run, hmessage, hconversation, ?_, h.event, ?_,
    h.trigger, h.conversation, fun m hm => ?_, fun r hr => ?_⟩
  · rw [h.messages, List.getElem?_concat_length]
  · rw [h.runs, List.getElem?_concat_length]
  · rcases h.messageOf hm with hold | ⟨hlast, -⟩
    · exact absurd hold (hnone m)
    · exact hlast
  · rcases h.runOf hr with hold | ⟨hlast, -⟩
    · exact absurd (hs.runs _ r hold) (Nat.lt_irrefl _)
    · exact hlast

theorem Adds.bounded (h : Adds s s' d₀ row run) (hs : Bounded s)
    (hlength : s'.events.length = s.events.length) (hd : d₀ < s.events.length) : Bounded s' := by
  constructor
  · intro d m hm
    rw [hlength]
    rcases h.messageOf hm with hold | ⟨-, rfl⟩
    · exact hs.messages d m hold
    · exact hd
  · intro m r hr
    rw [h.messages, List.length_append, List.length_singleton]
    rcases h.runOf hr with hold | ⟨-, hlast⟩
    · have hlt := hs.runs m r hold
      omega
    · omega

end Commit

theorem Delivered.adds {customer : CustomerRef} {conversation : ConversationRef} {now k n : Nat}
    (h : Delivered lower s s' d endpoint event customer conversation now k n) (hs : Bounded s) :
    ∃ row run, Adds s s' d row run ∧ row.conversation = n := by
  obtain ⟨row, hmessages, hevent, hconversation⟩ := h.messages
  have hnone : s.runs.any (·.triggerMessage = some s.messages.length) = false := by
    rw [List.any_eq_false]
    intro run hrun htrigger
    obtain ⟨r, hr⟩ := List.mem_iff_getElem?.mp hrun
    exact absurd (hs.runs _ r ⟨run, hr, of_decide_eq_true htrigger⟩) (Nat.lt_irrefl _)
  have hruns := h.runs
  rw [hnone] at hruns
  exact ⟨row, _, ⟨hmessages, hevent, hruns, rfl, by rw [hconversation]; rfl⟩, hconversation⟩

/-! ## Events and their holders -/

/-- The status that a worker at some point has given its event. -/
def Fits : WorkerPoint → InboundChannelEventStatus → Prop
  | .failing _, status => status = .processing ∨ status = .processed
  | _, status => status = .processing

/-- What holds between events, messages and runs, and the workers that hold events. -/
structure Accounted (c : Ingress) : Prop where
  unique : UniqueIndex InboundChannelEvent.uniqueKey c.store.events
  laws : AllRows (EventLaw c.store) c.store.events
  bounded : Bounded c.store
  held : ∀ (i : Nat) (w : Worker), c.procs[i]? = some (.worker w) → w.point.claimed = true →
    ∃ e, c.store.events[w.event]? = some e ∧ Fits w.point e.status
  exclusive : ∀ (i j : Nat) (w w' : Worker), c.procs[i]? = some (.worker w) →
    c.procs[j]? = some (.worker w') → w.point.claimed = true → w'.point.claimed = true →
    w.event = w'.event → i = j

theorem SameEvent.uniqueKey {row row' : InboundChannelEvent} (h : SameEvent row row') :
    row'.uniqueKey = row.uniqueKey := by
  rw [InboundChannelEvent.uniqueKey, InboundChannelEvent.uniqueKey, h.1, h.2.1]

theorem findEvent_none {k : Nat} {providerEventId : String}
    (h : s.findEvent k providerEventId = none) (hd : s.events[d]? = some e) :
    ¬ (e.endpoint = k ∧ e.providerEventId = providerEventId) := by
  have hnone := List.findIdx?_eq_none_iff.mp h e (List.mem_of_getElem? hd)
  simpa using hnone

theorem findEvent_some {k : Nat} {providerEventId : String}
    (h : s.findEvent k providerEventId = some d) (hd : s.events[d]? = some e) :
    e.endpoint = k ∧ e.providerEventId = providerEventId := by
  obtain ⟨hlt, hp, -⟩ := List.findIdx?_eq_some_iff_getElem.mp h
  obtain ⟨hlt', rfl⟩ := List.getElem?_eq_some_iff.mp hd
  simpa using hp

/-- The environment and the submissions leave events and holders as they are. -/
theorem Accounted.same {procs : List Proc} (hc : Accounted c)
    (hevents : s'.events = c.store.events) (hmessages : s'.messages = c.store.messages)
    (hruns : s'.runs = c.store.runs)
    (hprocs : ∀ (i : Nat) (w : Worker), procs[i]? = some (.worker w) → w.point.claimed = true →
      c.procs[i]? = some (.worker w)) : Accounted ⟨s', procs⟩ := by
  constructor
  · rw [hevents]
    exact hc.unique
  · rw [hevents]
    exact laws_congr hc.laws hmessages hruns
  · constructor
    · intro d m ⟨row, hrow, hd⟩
      rw [hevents]
      exact hc.bounded.messages d m ⟨row, hmessages ▸ hrow, hd⟩
    · intro m r ⟨run, hrun, hm⟩
      rw [hmessages]
      exact hc.bounded.runs m r ⟨run, hruns ▸ hrun, hm⟩
  · intro i w hw hclaimed
    rw [hevents]
    exact hc.held i w (hprocs i w hw hclaimed) hclaimed
  · intro i j w w' hw hw' hclaimed hclaimed'
    exact hc.exclusive i j w w' (hprocs i w hw hclaimed) (hprocs j w' hw' hclaimed') hclaimed
      hclaimed'

theorem Accounted.afterEnv {started : Option Proc} (hc : Accounted c) (h : EnvStep c.store s')
    (hstarted : ∀ proc ∈ started, proc.fresh c.store) :
    Accounted ⟨s', c.procs ++ started.toList⟩ := by
  refine hc.same h.events h.messages h.runs fun i w hw hclaimed => ?_
  rcases Program.proc_append hw with hold | hnew
  · exact hold
  · have hstart : w.point = .start := hstarted (.worker w) hnew
    rw [hstart] at hclaimed
    cases hclaimed

theorem Accounted.afterSubmission {point : SubmissionPoint} (hc : Accounted c)
    (h : SubmissionStep c.store p a s' point) :
    Accounted ⟨s', c.procs.set i (.submission { p with point := point })⟩ := by
  have hprocs : ∀ (j : Nat) (w : Worker),
      (c.procs.set i (.submission { p with point := point }))[j]? = some (.worker w) →
      c.procs[j]? = some (.worker w) := by
    intro j w hw
    rcases getElem?_set_cases hw with ⟨-, heq⟩ | ⟨-, hother⟩
    · cases heq
    · exact hother
  cases h with
  | missing => exact hc.same rfl rfl rfl fun j w hw _ => hprocs j w hw
  | resolved => exact hc.same rfl rfl rfl fun j w hw _ => hprocs j w hw
  | refused => exact hc.same rfl rfl rfl fun j w hw _ => hprocs j w hw
  | @inserted now published _ _ hnone =>
    have hkeep : ∀ {d : Nat} {e : InboundChannelEvent}, c.store.events[d]? = some e →
        (c.store.events ++ [newEvent p.endpoint p.canonical p.payloadDigest now])[d]? =
          some e := fun he => getElem?_append_some he _
    constructor
    · refine hc.unique.append fun key hkey e he hsame => ?_
      obtain ⟨d, hd⟩ := List.mem_iff_getElem?.mp he
      have heq := Option.some.inj (hsame.trans hkey.symm)
      exact findEvent_none hnone hd (Prod.mk.inj heq)
    · apply AllRows.append
      · exact laws_congr hc.laws rfl rfl
      exact ⟨rfl, rfl, fun m hm => absurd (hc.bounded.messages _ m hm) (Nat.lt_irrefl _)⟩
    · refine ⟨fun d m hm => ?_, hc.bounded.runs⟩
      have hlt := hc.bounded.messages d m hm
      simp only [List.length_append, List.length_singleton]
      omega
    · intro j w hw hclaimed
      obtain ⟨e, he, hfits⟩ := hc.held j w (hprocs j w hw) hclaimed
      exact ⟨e, hkeep he, hfits⟩
    · intro j k w w' hw hw'
      exact hc.exclusive j k w w' (hprocs j w hw) (hprocs k w' hw')

/-- What a step of a worker owes to the events of the other workers and to its own. -/
theorem Accounted.worker (hc : Accounted c) (hw : c.procs[i]? = some (.worker w))
    (hevents : Rows SameEvent c.store.events s'.events)
    (hlength : s'.events.length = c.store.events.length)
    (hlaws : AllRows (EventLaw s') s'.events) (hbounded : Bounded s')
    (hothers : ∀ (j : Nat) (w' : Worker), j ≠ i → c.procs[j]? = some (.worker w') →
      w'.point.claimed = true → s'.events[w'.event]? = c.store.events[w'.event]?)
    (hself : q.claimed = true → (∃ e, s'.events[w.event]? = some e ∧ Fits q e.status) ∧
      ∀ (j : Nat) (w' : Worker), j ≠ i → c.procs[j]? = some (.worker w') →
        w'.point.claimed = true → w'.event ≠ w.event) :
    Accounted ⟨s', c.procs.set i (.worker { w with point := q })⟩ := by
  have hlt := (List.getElem?_eq_some_iff.mp hw).1
  have hprocs : ∀ (j : Nat) (w' : Worker),
      (c.procs.set i (.worker { w with point := q }))[j]? = some (.worker w') →
      (j = i ∧ w' = { w with point := q }) ∨ (j ≠ i ∧ c.procs[j]? = some (.worker w')) := by
    intro j w' hw'
    rcases getElem?_set_cases hw' with ⟨hji, heq⟩ | hother
    · exact .inl ⟨hji, Proc.worker.inj heq⟩
    · exact .inr hother
  refine ⟨hc.unique.rows hevents hlength fun _ _ => SameEvent.uniqueKey, hlaws, hbounded, ?_, ?_⟩
  · intro j w' hw' hclaimed
    rcases hprocs j w' hw' with ⟨rfl, rfl⟩ | ⟨hji, hold⟩
    · exact (hself hclaimed).1
    · show ∃ e, s'.events[w'.event]? = some e ∧ _
      rw [hothers j w' hji hold hclaimed]
      exact hc.held j w' hold hclaimed
  · intro j k w₁ w₂ hw₁ hw₂ hclaimed₁ hclaimed₂ hsame
    rcases hprocs j w₁ hw₁ with ⟨rfl, rfl⟩ | ⟨hji, hold₁⟩ <;>
      rcases hprocs k w₂ hw₂ with ⟨rfl, rfl⟩ | ⟨hki, hold₂⟩
    · rfl
    · exact absurd hsame.symm ((hself hclaimed₁).2 k w₂ hki hold₂ hclaimed₂)
    · exact absurd hsame ((hself hclaimed₂).2 j w₁ hji hold₁ hclaimed₁)
    · exact hc.exclusive j k w₁ w₂ hold₁ hold₂ hclaimed₁ hclaimed₂ hsame

theorem claimed_of_inTransaction {point : WorkerPoint} (h : point.inTransaction = true) :
    point.claimed = true := by
  cases point <;> first | exact h | cases h

theorem fits_processing (point : WorkerPoint) : Fits point .processing := by
  cases point <;> first | rfl | exact .inl rfl

/-- Inside the transaction the event is `PROCESSING`. -/
theorem Accounted.processing (hc : Accounted c) (hw : c.procs[i]? = some (.worker w))
    (hin : w.point.inTransaction = true) :
    ∃ e, c.store.events[w.event]? = some e ∧ e.status = .processing := by
  obtain ⟨e, he, hfits⟩ := hc.held i w hw (claimed_of_inTransaction hin)
  refine ⟨e, he, ?_⟩
  generalize w.point = point at hin hfits
  cases point <;> first | exact hfits | cases hin

/-- No other worker has claimed the event of a worker that has. -/
theorem Accounted.alone (hc : Accounted c) (hw : c.procs[i]? = some (.worker w))
    (hclaimed : w.point.claimed = true) (j : Nat) (w' : Worker) (hji : j ≠ i)
    (hw' : c.procs[j]? = some (.worker w')) (hclaimed' : w'.point.claimed = true) :
    w'.event ≠ w.event :=
  fun hsame => hji (hc.exclusive j i w' w hw' hw hclaimed' hclaimed hsame)

theorem Accounted.afterWorker (hc : Accounted c) (hw : c.procs[i]? = some (.worker w))
    (h : WorkerEffect lower c.store w a s' q) :
    Accounted ⟨s', c.procs.set i (.worker { w with point := q })⟩ := by
  obtain ⟨hrows, hlength⟩ := h.events
  cases h with
  | quiet hevents hpersisted hin =>
    have hmessages : s'.messages = c.store.messages := congrArg (·.2.2.2.1) hpersisted
    have hruns : s'.runs = c.store.runs := congrArg (·.2.2.2.2) hpersisted
    have hsame : Accounted ⟨s', c.procs⟩ := hc.same hevents hmessages hruns fun _ _ hw _ => hw
    refine hc.worker hw hrows hlength hsame.laws hsame.bounded (fun _ _ _ _ _ => by rw [hevents])
      fun hclaimed => ⟨?_, hc.alone hw (claimed_of_inTransaction (hin hclaimed))⟩
    obtain ⟨e, he, hprocessing⟩ := hc.processing hw (hin hclaimed)
    refine ⟨e, by rw [hevents, he], ?_⟩
    rw [hprocessing]
    exact fits_processing q
  | @claimed now event hevent hstatus hfree =>
    have hlaw := hc.laws _ _ hevent
    simp only [EventLaw, hstatus] at hlaw
    have hlt := (List.getElem?_eq_some_iff.mp hevent).1
    -- whoever has claimed an event has moved it out of `RECEIVED`
    have hother : ∀ (j : Nat) (w' : Worker), c.procs[j]? = some (.worker w') →
        w'.point.claimed = true → w'.event ≠ w.event := by
      intro j w' hw' hclaimed hsame
      obtain ⟨e, he, hfits⟩ := hc.held j w' hw' hclaimed
      rw [hsame, hevent] at he
      cases he
      generalize w'.point = point at hclaimed hfits
      cases point <;> simp [Fits, hstatus] at hfits
    refine hc.worker hw hrows hlength ?_ ?_ ?_ fun _ => ⟨?_, fun j w' _ => hother j w'⟩
    · apply AllRows.set
      · exact laws_congr hc.laws rfl rfl
      exact ⟨hlaw.message, hlaw.conversation, hlaw.messages⟩
    · exact ⟨fun d m hm => hlength ▸ hc.bounded.messages d m hm, hc.bounded.runs⟩
    · exact fun j w' _ hw' hclaimed =>
        List.getElem?_set_ne (Ne.symm (hother j w' hw' hclaimed))
    · exact ⟨_, List.getElem?_set_self hlt, rfl⟩
  | @delivered now dispatched event endpoint customer conversation s' i₀ k n hin hdelivered =>
    obtain ⟨e, he, hprocessing⟩ := hc.processing hw hin
    obtain ⟨row, run, hadds, hconversation⟩ := hdelivered.adds hc.bounded
    have hlt := (List.getElem?_eq_some_iff.mp he).1
    have hlaw := hc.laws _ _ he
    simp only [EventLaw, hprocessing] at hlaw
    have hevents : (s'.release i₀).events = _ := hdelivered.events
    rw [modify_eq_set he] at hevents
    have hadds' : Adds c.store (s'.release i₀) w.event row run :=
      ⟨hadds.messages, hadds.event, hadds.runs, hadds.trigger, hadds.conversation⟩
    refine hc.worker hw hrows hlength ?_ ?_ ?_ fun _ =>
      ⟨?_, hc.alone hw (claimed_of_inTransaction hin)⟩
    · rw [hevents]
      refine AllRows.set_of_ne (fun d e' hd he' => hadds'.eventLaw hd (hc.laws d e' he')) ?_
      exact hadds'.linked hc.bounded hlaw.messages rfl (congrArg some hconversation.symm)
    · exact hadds'.bounded hc.bounded hlength hlt
    · intro j w' hji hw' hclaimed
      rw [hevents, List.getElem?_set_ne]
      exact Ne.symm (hc.alone hw (claimed_of_inTransaction hin) j w' hji hw' hclaimed)
    · rw [hevents]
      refine ⟨_, List.getElem?_set_self hlt, ?_⟩
      cases dispatched with
      | true => contradiction
      | false => exact .inr rfl
  | @markedFailed now code hpoint =>
    have hclaimed : w.point.claimed = true := by rw [hpoint]; rfl
    obtain ⟨e, he, hfits⟩ := hc.held i w hw hclaimed
    rw [hpoint] at hfits
    have hlt := (List.getElem?_eq_some_iff.mp he).1
    have hlaw := hc.laws _ _ he
    have hevents : (c.store.markEventFailed w.event code now).events = _ := modify_eq_set he
    refine hc.worker hw hrows hlength ?_ ?_ ?_ nofun
    · rw [hevents]
      apply AllRows.set
      · exact laws_congr hc.laws rfl rfl
      rcases hfits with hstatus | hstatus
      · simp only [EventLaw, hstatus] at hlaw
        exact .inl ⟨hlaw.message, hlaw.conversation, hlaw.messages⟩
      · simp only [EventLaw, hstatus] at hlaw
        obtain ⟨m, r, row, run, hl⟩ := hlaw
        exact .inr ⟨m, r, row, run, hl.message, hl.conversation, hl.messageRow, hl.event,
          hl.runRow, hl.trigger, hl.runConversation, hl.onlyMessage, hl.onlyRun⟩
    · exact ⟨fun d m hm => hlength ▸ hc.bounded.messages d m hm, hc.bounded.runs⟩
    · intro j w' hji hw' hclaimed'
      rw [hevents, List.getElem?_set_ne]
      exact Ne.symm (hc.alone hw hclaimed j w' hji hw' hclaimed')

theorem accounted {permits : Ingress → IngressLabel → Prop}
    (h : (ingress lower cfg).system.Reach permits c) : Accounted c := by
  refine System.Reach.invariant ?_ ?_ h
  · rintro ⟨t, procs⟩ ⟨rfl, rfl⟩
    constructor
    · exact .nil _
    · intro d e he
      simp at he
    · constructor
      · rintro d m ⟨row, hrow, -⟩
        simp at hrow
      · rintro m r ⟨run, hrun, -⟩
        simp at hrun
    · intro i w hw
      simp at hw
    · intro i j w w' hw
      simp at hw
  · intro c l c' _ hc _ hstep
    cases l with
    | env label =>
      obtain ⟨s', started, hout, rfl⟩ := Program.step_env hstep
      obtain ⟨henv, hstarted⟩ := ingressStep_cases hout
      exact hc.afterEnv henv hstarted
    | work i a =>
      obtain ⟨proc, s', proc', hproc, hout, rfl⟩ := Program.step_work hstep
      rcases work_cases hout with ⟨p, point, rfl, rfl, hcase⟩ | ⟨w, point, rfl, rfl, hcase⟩
      · exact hc.afterSubmission hcase
      · exact hc.afterWorker hproc hcase.effect

end SupportPilot.ChannelIngress
