import SupportPilot.ChannelIngress.Progress
import SupportPilot.ChannelIngress.Resolutions

/-!
# Ordinary events are processed

An event whose content and endpoint give no reason to refuse it ends `PROCESSED` when it is
processed while no other transaction is in flight.
-/

namespace SupportPilot.ChannelIngress

open Library

variable {lower : String → String} {cfg : IngressSettings} {s s' : Store} {c c' : Ingress}
  {i d : Nat} {e event : InboundChannelEvent} {endpoint : ChannelEndpoint} {w : Worker}
  {key : UniqueKey}

/-- The event can be accepted by every table and by the agent, and its keys are stored as they
are looked up. -/
structure Ordinary (lower : String → String) (endpoint : ChannelEndpoint)
    (event : InboundChannelEvent) : Prop where
  channel : endpoint.channel ≠ .webChat
  policy : endpoint.unknownCustomerPolicy = .create
  published : endpoint.agentVersionPublished = true
  body : strip event.body ≠ ""
  customer : (newCustomer lower endpoint event).accepted = true
  fitting : Fitting event
  identity : strip (lookupKey endpoint event) = lookupKey endpoint event
  thread : strip (threadKey endpoint event) = threadKey endpoint event

/-! ## Statements of one worker -/

/-- Statements of one worker without faults. -/
def Advances (lower : String → String) (i : Nat) : Store × Worker → Store × Worker → Prop :=
  Relation.ReflTransGen fun x y =>
    ∃ a, IngressAction.faultless a = true ∧ workerStep lower i a x.2 x.1 = some y

theorem Advances.one {a : IngressAction} {y : Store × Worker} (hfaultless : a.faultless = true)
    (h : workerStep lower i a w s = some y) : Advances lower i (s, w) y :=
  .single ⟨a, hfaultless, h⟩

/-- What one worker does is a continuation of the program. -/
theorem Advances.reach {x y : Store × Worker} (h : Advances lower i x y)
    (cfg : IngressSettings) (hx : c.store = x.1) (hw : c.procs[i]? = some (.worker x.2)) :
    ∃ c', ((ingress lower cfg).system.startedAt c).Reach (FaultFree cfg) c' ∧ c'.store = y.1 ∧
      c'.procs[i]? = some (.worker y.2) := by
  induction h with
  | refl => exact ⟨c, .init rfl, hx, hw⟩
  | @tail y z _ hlast ih =>
    obtain ⟨c', hreach, hstore, hw'⟩ := ih
    obtain ⟨a, hfaultless, hstep⟩ := hlast
    rw [← hstore] at hstep
    have hp : FaultFree cfg c' (.work i a) := hfaultless
    refine ⟨⟨z.1, c'.procs.set i (.worker z.2)⟩, .step hreach hp (step_worker cfg hw' hstep),
      rfl, ?_⟩
    exact List.getElem?_set_self (List.getElem?_eq_some_iff.mp hw').1

/-- Only the worker itself has keys in flight. -/
def HoldsAlone (s : Store) (i : Nat) : Prop :=
  ∀ j key, j ≠ i → (j, key) ∉ s.reserved

theorem HoldsAlone.reserve (h : HoldsAlone s i) (key : UniqueKey) :
    HoldsAlone (s.reserve i key) i := by
  intro j key' hji hmem
  rcases mem_reserve.mp hmem with hold | hnew
  · exact h j key' hji hold
  · cases hnew
    exact hji rfl

theorem HoldsAlone.release (h : HoldsAlone s i) : (s.release i).reserved = [] := by
  refine List.filter_eq_nil_iff.mpr fun entry hmem hne => ?_
  exact h entry.1 entry.2 (of_decide_eq_true hne) hmem

/-- The keys in flight may differ. -/
def SameRows (s s' : Store) : Prop := ∃ reserved, s' = { s with reserved := reserved }

theorem SameRows.reads (h : SameRows s s') (hreads : Reads s w event endpoint)
    (point : WorkerPoint) :
    Reads s' { w with point := point } event endpoint := by
  obtain ⟨reserved, rfl⟩ := h
  exact ⟨hreads.eventRow, hreads.endpointRow⟩

theorem advances_identity (hreads : Reads s w event endpoint)
    (hordinary : Ordinary lower endpoint event) (halone : HoldsAlone s i)
    (hpoint : w.point = .identity) :
    ∃ s' customer, Advances lower i (s, w) (s', { w with point := .conversation customer }) ∧
      SameRows s s' ∧ HoldsAlone s' i := by
  have hlookup : s.findCustomer endpoint.workspace (channelIdentityKey endpoint.channel
      event.externalIdentity) = s.findCustomer endpoint.workspace (lookupKey endpoint event) := rfl
  cases hfound : s.findCustomer endpoint.workspace (lookupKey endpoint event) with
  | some k =>
    refine ⟨s, .existing k, .one (a := .resolveIdentity) rfl ?_, ⟨_, rfl⟩, halone⟩
    apply workerStep_process hreads
    simp only [processStep, hpoint, if_true, hlookup, hfound]
  | none =>
    have hmissing : Advances lower i (s, w) (s, { w with point := .createCustomer }) := by
      apply Advances.one (a := .resolveIdentity) rfl
      apply workerStep_process hreads
      simp only [processStep, hpoint, if_true, hlookup, hfound, hordinary.policy]
      rfl
    have hkey : channelIdentityKey endpoint.channel event.externalIdentity =
        lookupKey endpoint event := rfl
    have hinsert : Advances lower i (s, { w with point := .createCustomer })
        (s.reserve i (customerKey endpoint event),
          { w with point := .conversation .inserted }) := by
      have hreads' : Reads s { w with point := .createCustomer } event endpoint :=
        ⟨hreads.eventRow, hreads.endpointRow⟩
      apply Advances.one (a := .createCustomer) rfl
      apply workerStep_process hreads'
      have hfree := reservedByOther_eq_false fun j hji => halone j (customerKey endpoint event) hji
      rw [customerKey, hordinary.identity] at hfree ⊢
      simp only [processStep, if_true, createCustomerStep, hordinary.customer,
        newCustomer_externalId, hkey, hordinary.identity, hfound, Store.insertUnique, hfree]
      rfl
    exact ⟨_, .inserted, hmissing.trans hinsert, ⟨_, rfl⟩, halone.reserve _⟩

theorem advances_conversation {customer : CustomerRef} (hreads : Reads s w event endpoint)
    (hordinary : Ordinary lower endpoint event) (halone : HoldsAlone s i)
    (hpoint : w.point = .conversation customer) :
    ∃ s' conversation, Advances lower i (s, w)
        (s', { w with point := .deliver customer conversation }) ∧
      SameRows s s' ∧ HoldsAlone s' i := by
  have hkey : threadExternalId endpoint event.providerThreadId = threadKey endpoint event := rfl
  have hreads' : Reads s { w with point := .createConversation customer } event endpoint :=
    ⟨hreads.eventRow, hreads.endpointRow⟩
  have haccepted : (newConversation endpoint event 0).accepted = true :=
    newConversation_accepted hordinary.fitting
  by_cases hthread : event.providerThreadId = ""
  · have hmissing : Advances lower i (s, w)
        (s, { w with point := .createConversation customer }) := by
      apply Advances.one (a := .findConversation) rfl
      apply workerStep_process hreads
      simp only [processStep, hpoint, findConversationStep, if_pos hthread]
    have hinsert : Advances lower i (s, { w with point := .createConversation customer })
        (s, { w with point := .deliver customer .inserted }) := by
      apply Advances.one (a := .createConversation) rfl
      apply workerStep_process hreads'
      simp only [processStep, createConversationStep, haccepted, newConversation_externalId,
        if_pos hthread]
      rfl
    exact ⟨s, .inserted, hmissing.trans hinsert, ⟨_, rfl⟩, halone⟩
  · cases hfound : s.findConversation endpoint.workspace (threadKey endpoint event) with
    | some q =>
      obtain ⟨row, hrow, -⟩ := findConversation_some hfound
      refine ⟨s, .existing q row, .one (a := .findConversation) rfl ?_, ⟨_, rfl⟩, halone⟩
      apply workerStep_process hreads
      simp only [processStep, hpoint, findConversationStep, if_neg hthread, hkey, hfound,
        Option.bind_some, hrow]
    | none =>
      have hmissing : Advances lower i (s, w)
          (s, { w with point := .createConversation customer }) := by
        apply Advances.one (a := .findConversation) rfl
        apply workerStep_process hreads
        simp only [processStep, hpoint, findConversationStep, if_neg hthread, hkey, hfound]
      have hinsert : Advances lower i (s, { w with point := .createConversation customer })
          (s.reserve i (conversationKey endpoint event),
            { w with point := .deliver customer .inserted }) := by
        apply Advances.one (a := .createConversation) rfl
        apply workerStep_process hreads'
        have hfree :=
          reservedByOther_eq_false fun j hji => halone j (conversationKey endpoint event) hji
        rw [conversationKey, hordinary.thread] at hfree ⊢
        simp only [processStep, createConversationStep, haccepted, newConversation_externalId,
          if_neg hthread, hkey, hordinary.thread, hfound, Store.insertUnique, hfree]
        rfl
      exact ⟨_, .inserted, hmissing.trans hinsert, ⟨_, rfl⟩, halone.reserve _⟩

/-- Nothing in the commit of an ordinary event raises. -/
theorem deliver_ordinary (hordinary : Ordinary lower endpoint event) (d : Nat)
    (customer : CustomerRef) (conversation : ConversationRef) (now : Nat) :
    ∃ s', s.deliver lower d endpoint event customer conversation now = .ok s' := by
  have hconclude : ∀ (t : Store) (k q : Nat) (read : Conversation),
      ∃ s', t.conclude d endpoint event k q read now = .ok s' := by
    intro t k q read
    have hlink : t.linkChatSession endpoint event q k = some t := by
      rw [Store.linkChatSession, if_pos (.inl hordinary.channel)]
    have hstart : ∀ (u : Store) (m : Nat), u.startSupportAgentRun endpoint q m event.body now =
        some (u.createAgentRun endpoint q m now) := by
      intro u m
      rw [Store.startSupportAgentRun, if_neg hordinary.body, hordinary.published]
      rfl
    simp only [Store.conclude, hlink, hstart]
    exact ⟨_, rfl⟩
  exact hconclude ..

theorem advances_deliver {customer : CustomerRef} {conversation : ConversationRef}
    (hreads : Reads s w event endpoint) (hordinary : Ordinary lower endpoint event)
    (hpoint : w.point = .deliver customer conversation) :
    ∃ t k q, Advances lower i (s, w) (t.release i, { w with point := .processed }) ∧
      Delivered lower s t w.event endpoint event customer conversation 0 k q := by
  obtain ⟨t, hdeliver⟩ : ∃ t,
      s.deliver lower w.event endpoint event customer conversation 0 = .ok t :=
    deliver_ordinary hordinary w.event customer conversation 0
  obtain ⟨k, q, hdelivered⟩ := deliver_ok hdeliver
  refine ⟨t, k, q, .one (a := .deliver 0 true) rfl ?_, hdelivered⟩
  apply workerStep_process hreads
  simp only [processStep, hpoint, hdeliver]
  rfl

/-- The transaction of an ordinary event, from its first statement to its commit. -/
theorem advances_processed (hreads : Reads s w event endpoint)
    (hordinary : Ordinary lower endpoint event) (halone : HoldsAlone s i)
    (hpoint : w.point = .identity) :
    ∃ t t' k q customer conversation, SameRows s t ∧ HoldsAlone t i ∧
      Advances lower i (s, w) (t'.release i, { w with point := .processed }) ∧
      Delivered lower t t' w.event endpoint event customer conversation 0 k q := by
  obtain ⟨s₁, customer, hadvance₁, hrows₁, halone₁⟩ :
      ∃ s₁ customer, Advances lower i (s, w) (s₁, { w with point := .conversation customer }) ∧
        SameRows s s₁ ∧ HoldsAlone s₁ i := advances_identity hreads hordinary halone hpoint
  obtain ⟨s₂, conversation, hadvance₂, hrows₂, halone₂⟩ :=
    advances_conversation (hrows₁.reads hreads (.conversation customer)) hordinary halone₁ rfl
  obtain ⟨t', k, q, hadvance₃, hdelivered⟩ := advances_deliver (i := i)
    (hrows₂.reads (hrows₁.reads hreads (.conversation customer)) (.deliver customer conversation))
    hordinary rfl
  have hrows : SameRows s s₂ := by
    obtain ⟨reserved₁, rfl⟩ := hrows₁
    obtain ⟨reserved₂, rfl⟩ := hrows₂
    exact ⟨reserved₂, rfl⟩
  exact ⟨s₂, t', k, q, customer, conversation, hrows, halone₂,
    (hadvance₁.trans hadvance₂).trans hadvance₃, hdelivered⟩

/-- An ordinary event that is processed while no transaction is in flight ends `PROCESSED`. -/
theorem processed_alone (cfg : IngressSettings) (he : c.store.events[d]? = some event)
    (hstatus : event.status = .received)
    (hendpoint : c.store.endpoints[event.endpoint]? = some endpoint)
    (hordinary : Ordinary lower endpoint event) (hfree : c.store.reserved = []) :
    ∃ c' k q, ((ingress lower cfg).system.startedAt c).Reach (FaultFree cfg) c' ∧
      c'.store.reserved = [] ∧ c'.store.endpoints = c.store.endpoints ∧
      c'.store.resolved = c.store.resolved ++ [⟨d, k, q⟩] ∧
      (∃ row, c'.store.events[d]? = some row ∧ row.status = .processed ∧ SameEvent event row) ∧
      ∀ d', d' ≠ d → c'.store.events[d']? = c.store.events[d']? := by
  obtain ⟨t, ht, hstore, hw⟩ := claims_received lower cfg he hstatus
  have hlt := (List.getElem?_eq_some_iff.mp he).1
  have hevent : t.store.events[d]? =
      some { event with status := .processing, processingStartedAt := some 0 } := by
    rw [hstore]
    exact List.getElem?_set_self hlt
  have hreads : Reads t.store { event := d, point := .identity }
      { event with status := .processing, processingStartedAt := some 0 } endpoint := by
    refine ⟨hevent, ?_⟩
    rw [hstore]
    exact hendpoint
  have halone : HoldsAlone t.store c.procs.length := by
    intro j key _ hmem
    rw [hstore] at hmem
    have hnone : (j, key) ∈ c.store.reserved := hmem
    rw [hfree] at hnone
    cases hnone
  have hordinary' : Ordinary lower endpoint
      { event with status := .processing, processingStartedAt := some 0 } :=
    ⟨hordinary.channel, hordinary.policy, hordinary.published, hordinary.body,
      hordinary.customer, hordinary.fitting, hordinary.identity, hordinary.thread⟩
  obtain ⟨s₁, s₂, k, q, customer, conversation, hrows, halone₁, hadvance, hdelivered⟩ :=
    advances_processed hreads hordinary' halone rfl
  obtain ⟨c', hreach, hstore', -⟩ := hadvance.reach cfg rfl hw
  obtain ⟨reserved, rfl⟩ := hrows
  have hevents : c'.store.events = t.store.events.set d _ :=
    ((congrArg Store.events hstore').trans hdelivered.events).trans (modify_eq_set hevent)
  have hendpoints : c'.store.endpoints = _ :=
    (congrArg Store.endpoints hstore').trans hdelivered.endpoints
  have hresolved : c'.store.resolved = _ :=
    (congrArg Store.resolved hstore').trans hdelivered.resolved
  refine ⟨c', k, q, ht.trans hreach, ?_, ?_, ?_, ?_, fun d' hd' => ?_⟩
  · have halone₂ : HoldsAlone s₂ c.procs.length := by
      intro j key hji
      rw [hdelivered.reserved]
      exact halone₁ j key hji
    rw [hstore', halone₂.release]
  · rw [hendpoints, hstore]
    rfl
  · rw [hresolved, hstore]
    rfl
  · rw [hevents]
    have hbound := (List.getElem?_eq_some_iff.mp hevent).1
    exact ⟨_, List.getElem?_set_self hbound, rfl, rfl, rfl, rfl, rfl, rfl, rfl⟩
  · rw [hevents, List.getElem?_set_ne (Ne.symm hd'), hstore]
    exact List.getElem?_set_ne (Ne.symm hd')

/-! ## Submissions -/

theorem step_submission (lower : String → String) (cfg : IngressSettings) {a : IngressAction}
    {p p' : Submission}
    (hp : c.procs[i]? = some (.submission p)) (h : submissionStep a p c.store = some (s', p')) :
    (ingress lower cfg).system.step (.work i a) c =
      some ⟨s', c.procs.set i (.submission p')⟩ := by
  show Program.step _ (.work i a) c = _
  rw [Program.step, hp, Option.bind_some]
  show Option.map _ (Option.map _ (submissionStep a p c.store)) = _
  rw [h]
  rfl

/-- A webhook with a new event that fits its columns stores it. -/
theorem webhook_stored {k : Nat} {envelope : Envelope} {canonical : CanonicalInboundMessage}
    {payloadDigest : String} (hendpoint : c.store.endpoints[k]? = some endpoint)
    (henabled : endpoint.enabled = true)
    (hcanonical : normalize lower cfg endpoint.channel envelope = some canonical)
    (haccepted : (newEvent k canonical payloadDigest 0).accepted = true)
    (hnew : c.store.findEvent k canonical.providerEventId = none) :
    ∃ c', ((ingress lower cfg).system.startedAt c).Reach (fun _ _ => True) c' ∧
      c'.store =
        { c.store with events := c.store.events ++ [newEvent k canonical payloadDigest 0] } := by
  let p : Submission := { endpoint := k, canonical, payloadDigest }
  let n := c.procs.length
  have hreceive :
      (ingress lower cfg).system.step (.env (.receiveWebhook k envelope payloadDigest)) c =
      some ⟨c.store, c.procs ++ [.submission p]⟩ := by
    show Option.map _ (ingressStep lower cfg (.receiveWebhook k envelope payloadDigest) c.store) = _
    simp only [ingressStep, hendpoint, henabled, hcanonical, Option.bind_some, Option.map_some]
    rfl
  have hlt : n < (c.procs ++ [Proc.submission p]).length := by simp [n]
  have hlookup : submissionStep .lookup p c.store =
      some (c.store, { p with point := .insert }) := by
    simp only [submissionStep, p, hnew]
    rfl
  have hinsert : submissionStep (.insert 0 true) { p with point := .insert } c.store =
      some ({ c.store with events := c.store.events ++ [newEvent k canonical payloadDigest 0] },
        { p with point := .accepted c.store.events.length }) := by
    simp only [submissionStep, p, haccepted, hnew]
    rfl
  have hlooked := step_submission lower cfg
    (c := ⟨c.store, c.procs ++ [Proc.submission p]⟩) List.getElem?_concat_length hlookup
  have hinserted := step_submission lower cfg
    (c := ⟨c.store,
      (c.procs ++ [Proc.submission p]).set n (.submission { p with point := .insert })⟩)
    (List.getElem?_set_self hlt) hinsert
  let M := (ingress lower cfg).system.startedAt c
  have hreceived : M.Reach (fun _ _ => True) ⟨c.store, c.procs ++ [.submission p]⟩ :=
    .step (l := .env (.receiveWebhook k envelope payloadDigest)) (.init rfl) trivial hreceive
  have hread : M.Reach (fun _ _ => True) _ :=
    .step (l := .work n .lookup) hreceived trivial hlooked
  exact ⟨_, .step (l := .work n (.insert 0 true)) hread trivial hinserted, rfl⟩

end SupportPilot.ChannelIngress
