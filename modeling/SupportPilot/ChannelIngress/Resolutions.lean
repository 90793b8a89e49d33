import SupportPilot.ChannelIngress.Reservations

/-!
# What events were resolved to

The customer and the conversation of a processed event have the keys of its identity and its
thread, and a conversation without a key belongs to one event.
-/

namespace SupportPilot.ChannelIngress

open Library

variable {lower : String → String} {cfg : IngressSettings} {s s' : Store} {c c' : Ingress}
  {i d k q : Nat} {event : InboundChannelEvent} {endpoint : ChannelEndpoint} {w : Worker}
  {p : Submission} {a : IngressAction} {point : WorkerPoint} {r : Resolution}

/-! ## Stored texts -/

theorem varcharAccepts_of_sublist {n : Nat} {text part : String}
    (hpart : part.toList.Sublist text.toList) (h : varcharAccepts n text = true) :
    varcharAccepts n part = true := by
  simp only [varcharAccepts, Bool.and_eq_true, decide_eq_true_eq, Bool.not_eq_true',
    List.contains_eq_mem, decide_eq_false_iff_not] at h ⊢
  exact ⟨Nat.le_trans hpart.length_le h.1, fun hmem => h.2 (hpart.subset hmem)⟩

/-- The columns of an event that its conversation is built from. -/
def Fitting (event : InboundChannelEvent) : Prop :=
  varcharAccepts 255 event.providerThreadId = true ∧ varcharAccepts 300 event.subject = true

theorem fitting_of_accepted (h : event.accepted = true) : Fitting event := by
  simp only [InboundChannelEvent.accepted, Bool.and_eq_true] at h
  exact ⟨h.1.1.1.1.1.2, h.1.2⟩

theorem varcharAccepts_threadExternalId (h : varcharAccepts 255 event.providerThreadId = true) :
    varcharAccepts 255 (threadExternalId endpoint event.providerThreadId) = true := by
  have hno : '\x00' ∉ (threadText endpoint event.providerThreadId).toList := by
    simp only [varcharAccepts, Bool.and_eq_true, Bool.not_eq_true', List.contains_eq_mem,
      decide_eq_false_iff_not] at h
    simp only [threadText, String.toList_append, List.mem_append, not_or]
    exact ⟨⟨endpoint.id.not_mem_text (by decide) (by decide), by decide⟩, h.2⟩
  simp only [varcharAccepts, Bool.and_eq_true, decide_eq_true_eq, Bool.not_eq_true',
    List.contains_eq_mem, decide_eq_false_iff_not]
  exact ⟨length_truncate_le 255 _, fun hmem => hno ((truncate_sublist 255 _).subset hmem)⟩

theorem varcharAccepts_channelIdentityKey (h : varcharAccepts 255 event.externalIdentity = true) :
    varcharAccepts 255 (channelIdentityKey endpoint.channel event.externalIdentity) = true := by
  have hno : '\x00' ∉ (identityText endpoint.channel event.externalIdentity).toList := by
    have hvalue : '\x00' ∉ endpoint.channel.value.toList := by
      cases endpoint.channel <;> decide
    simp only [varcharAccepts, Bool.and_eq_true, Bool.not_eq_true', List.contains_eq_mem,
      decide_eq_false_iff_not] at h
    simp only [identityText, String.toList_append, List.mem_append, not_or]
    exact ⟨⟨hvalue, by decide⟩, h.2⟩
  simp only [varcharAccepts, Bool.and_eq_true, decide_eq_true_eq, Bool.not_eq_true',
    List.contains_eq_mem, decide_eq_false_iff_not]
  exact ⟨length_truncate_le 255 _, fun hmem => hno ((truncate_sublist 255 _).subset hmem)⟩

/-- Without an email a stored event's customer fits its columns. -/
theorem newCustomer_accepted (hchannel : endpoint.channel ≠ .email)
    (h : varcharAccepts 255 event.externalIdentity = true) :
    (newCustomer lower endpoint event).accepted = true := by
  have hkey : varcharAccepts 255
      (strip (channelIdentityKey endpoint.channel event.externalIdentity)) = true :=
    varcharAccepts_of_sublist (strip_sublist _) (varcharAccepts_channelIdentityKey h)
  have hname : varcharAccepts 300 (strip event.externalIdentity) = true := by
    have hstrip := varcharAccepts_of_sublist (strip_sublist _) h
    simp only [varcharAccepts, Bool.and_eq_true, decide_eq_true_eq] at hstrip ⊢
    exact ⟨by omega, hstrip.2⟩
  rw [Customer.accepted, newCustomer_externalId, Option.all_some, hkey]
  simp only [newCustomer, Customer.save, if_neg hchannel, Option.bind_none, Option.getD_none,
    Option.all_none, Bool.true_and, Bool.and_true]
  split
  · rfl
  · exact hname

theorem newConversation_subject (endpoint : ChannelEndpoint) (event : InboundChannelEvent)
    (customer : Nat) :
    (newConversation endpoint event customer).subject = strip event.subject := rfl

/-- The conversation of a stored event fits its columns. -/
theorem newConversation_accepted (h : Fitting event) :
    (newConversation endpoint event k).accepted = true := by
  have hsubject : varcharAccepts 300 (strip event.subject) = true :=
    varcharAccepts_of_sublist (strip_sublist _) h.2
  have hkey : varcharAccepts 255 (strip (threadExternalId endpoint event.providerThreadId)) =
      true := varcharAccepts_of_sublist (strip_sublist _) (varcharAccepts_threadExternalId h.1)
  rw [Conversation.accepted, newConversation_externalId, newConversation_subject, hsubject,
    Bool.true_and]
  split
  · rfl
  · rw [Option.all_some, hkey]

/-! ## The invariant -/

/-- The rows of a resolved event. -/
structure Resolved (s : Store) (r : Resolution) (event : InboundChannelEvent)
    (endpoint : ChannelEndpoint) : Prop where
  eventRow : s.events[r.event]? = some event
  endpointRow : s.endpoints[event.endpoint]? = some endpoint

/-- The customer and the conversation of an event have its keys. -/
structure ResolutionLaw (s : Store) (r : Resolution) (event : InboundChannelEvent)
    (endpoint : ChannelEndpoint) : Prop where
  customer : ∃ row, s.customers[r.customer]? = some row ∧
    row.uniqueKey = some (customerKey endpoint event)
  conversation : ∃ row, s.conversations[r.conversation]? = some row ∧
    row.uniqueKey =
      if event.providerThreadId = "" then none else some (conversationKey endpoint event)

structure Resolutions (s : Store) : Prop where
  events : AllRows (fun _ => Fitting) s.events
  laws : ∀ r ∈ s.resolved, ∃ event endpoint, Resolved s r event endpoint ∧
    ResolutionLaw s r event endpoint
  alone : ∀ r ∈ s.resolved, ∀ r' ∈ s.resolved, ∀ row, s.conversations[r.conversation]? = some row →
    row.uniqueKey = none → r.conversation = r'.conversation → r = r'
  processed : ∀ (d : Nat) (e : InboundChannelEvent), s.events[d]? = some e →
    e.status = .processed → ∃ r ∈ s.resolved, r.event = d ∧ e.conversation = some r.conversation

/-- Tables that only grow, with the same keys. -/
structure Extends (s s' : Store) : Prop where
  events : Rows SameEvent s.events s'.events
  endpoints : Rows SameEndpoint s.endpoints s'.endpoints
  customers : Rows Eq s.customers s'.customers
  conversations : Rows SameThread s.conversations s'.conversations

theorem Grows.extends (h : Grows i s s') : Extends s s' :=
  ⟨h.events, h.endpoints, h.customers, h.conversations⟩

theorem Extends.law (h : Extends s s') (hr : Resolved s r event endpoint)
    (hlaw : ResolutionLaw s r event endpoint) :
    ∃ event endpoint, Resolved s' r event endpoint ∧ ResolutionLaw s' r event endpoint := by
  obtain ⟨event', hevent', he⟩ := h.events _ _ hr.eventRow
  obtain ⟨endpoint', hendpoint', hep⟩ := h.endpoints _ _ hr.endpointRow
  refine ⟨event', endpoint', ⟨hevent', by rw [he.1, hendpoint']⟩, ?_, ?_⟩
  · obtain ⟨row, hrow, hkey⟩ := hlaw.customer
    obtain ⟨row', hrow', rfl⟩ := h.customers _ _ hrow
    exact ⟨row, hrow', by rw [hkey, customerKey_same he hep]⟩
  · obtain ⟨row, hrow, hkey⟩ := hlaw.conversation
    obtain ⟨row', hrow', hsame⟩ := h.conversations _ _ hrow
    exact ⟨row', hrow', by rw [hsame.uniqueKey, hkey, he.2.2.2.1, conversationKey_same he hep]⟩

/-- The conversation of a resolution keeps its key. -/
theorem Resolutions.conversation_back (hc : Resolutions s) (h : Extends s s')
    (hr : r ∈ s.resolved) {row : Conversation}
    (hrow : s'.conversations[r.conversation]? = some row) :
    ∃ row₀, s.conversations[r.conversation]? = some row₀ ∧ row₀.uniqueKey = row.uniqueKey := by
  obtain ⟨event, endpoint, -, hlaw⟩ := hc.laws r hr
  obtain ⟨row₀, hrow₀, -⟩ := hlaw.conversation
  obtain ⟨row', hrow', hsame⟩ := h.conversations _ _ hrow₀
  rw [hrow] at hrow'
  cases hrow'
  exact ⟨row₀, hrow₀, hsame.uniqueKey.symm⟩

/-- A step that resolves no event. -/
theorem Resolutions.keep (hc : Resolutions s) (h : Extends s s')
    (hresolved : s'.resolved = s.resolved) (hevents : AllRows (fun _ => Fitting) s'.events)
    (hprocessed : ∀ (d : Nat) (e : InboundChannelEvent), s'.events[d]? = some e →
      e.status = .processed → s.events[d]? = some e) : Resolutions s' := by
  refine ⟨hevents, fun r hr => ?_, fun r hr r' hr' row hrow hkey hsame => ?_,
    fun d e he hstatus => ?_⟩
  · rw [hresolved] at hr
    obtain ⟨event, endpoint, hrows, hlaw⟩ := hc.laws r hr
    exact h.law hrows hlaw
  · rw [hresolved] at hr hr'
    obtain ⟨row₀, hrow₀, hkey₀⟩ := hc.conversation_back h hr hrow
    exact hc.alone r hr r' hr' row₀ hrow₀ (hkey₀.trans hkey) hsame
  · rw [hresolved]
    exact hc.processed d e (hprocessed d e he hstatus) hstatus

/-! ## The commit -/

theorem Delivered.customerRow {customer : CustomerRef} {conversation : ConversationRef}
    {now : Nat} (h : Delivered lower s s' d endpoint event customer conversation now k q)
    (howns : OwnsCustomer s i endpoint event customer) :
    ∃ row, s'.customers[k]? = some row ∧ row.uniqueKey = some (customerKey endpoint event) := by
  rcases h.customers with ⟨rfl, hsame⟩ | ⟨rfl, rfl, hnew⟩
  · rw [hsame]
    exact howns
  · rw [hnew]
    exact ⟨_, List.getElem?_concat_length, newCustomer_uniqueKey ..⟩

theorem Delivered.conversationRow {customer : CustomerRef} {conversation : ConversationRef}
    {now : Nat} (h : Delivered lower s s' d endpoint event customer conversation now k q)
    (howns : OwnsConversation s i endpoint event conversation) :
    ∃ row, s'.conversations[q]? = some row ∧ row.uniqueKey =
      if event.providerThreadId = "" then none else some (conversationKey endpoint event) := by
  obtain ⟨kept, hrows, -, hkept⟩ := h.conversations
  obtain ⟨row, hrow, hkey⟩ : ∃ row, kept[q]? = some row ∧ row.uniqueKey =
      if event.providerThreadId = "" then none else some (conversationKey endpoint event) := by
    rcases hkept with ⟨read, rfl, rfl⟩ | ⟨rfl, rfl, rfl⟩
    · obtain ⟨hnamed, row, hrow, hkey⟩ := howns
      exact ⟨row, hrow, by rw [hkey, if_neg hnamed]⟩
    · exact ⟨_, List.getElem?_concat_length, newConversation_uniqueKey ..⟩
  obtain ⟨row', hrow', hsame⟩ := hrows q row hrow
  exact ⟨row', hrow', hsame.uniqueKey.trans hkey⟩

/-- A conversation without a key that a commit resolves to is a new one. -/
theorem Delivered.fresh {customer : CustomerRef} {conversation : ConversationRef} {now : Nat}
    (h : Delivered lower s s' d endpoint event customer conversation now k q)
    (howns : OwnsConversation s i endpoint event conversation) {row : Conversation}
    (hrow : s'.conversations[q]? = some row) (hkey : row.uniqueKey = none) :
    q = s.conversations.length := by
  obtain ⟨kept, hrows, -, hkept⟩ := h.conversations
  rcases hkept with ⟨read, rfl, rfl⟩ | ⟨-, hlast, -⟩
  · obtain ⟨-, row₀, hrow₀, hkey₀⟩ := howns
    obtain ⟨row', hrow', hsame⟩ := hrows q row₀ hrow₀
    rw [hrow] at hrow'
    cases hrow'
    rw [hsame.uniqueKey, hkey₀] at hkey
    cases hkey
  · exact hlast

theorem Resolutions.delivered {customer : CustomerRef} {conversation : ConversationRef}
    {now : Nat} (hc : Resolutions s) (hs : Extends s s')
    (h : Delivered lower s s' d endpoint event customer conversation now k q)
    (hreads : s.events[d]? = some event ∧ s.endpoints[event.endpoint]? = some endpoint)
    (hcustomer : OwnsCustomer s i endpoint event customer)
    (hconversation : OwnsConversation s i endpoint event conversation) : Resolutions s' := by
  have hcases : ∀ r ∈ s'.resolved, r ∈ s.resolved ∨ r = ⟨d, k, q⟩ := by
    intro r hr
    rw [h.resolved] at hr
    exact (List.mem_append.mp hr).imp id List.mem_singleton.mp
  have hbound : ∀ r ∈ s.resolved, r.conversation < s.conversations.length := by
    intro r hr
    obtain ⟨_, _, -, hlaw⟩ := hc.laws r hr
    obtain ⟨row, hrow, -⟩ := hlaw.conversation
    exact (List.getElem?_eq_some_iff.mp hrow).1
  have hevents := h.events
  rw [modify_eq_set hreads.1] at hevents
  have hlt := (List.getElem?_eq_some_iff.mp hreads.1).1
  refine ⟨?_, fun r hr => ?_, fun r hr r' hr' row hrow hkey hsame => ?_, fun d' e he hstatus => ?_⟩
  · rw [hevents]
    apply AllRows.set hc.events
    exact hc.events d event hreads.1
  · rcases hcases r hr with hold | rfl
    · obtain ⟨event', endpoint', hrows, hlaw⟩ := hc.laws r hold
      exact hs.law hrows hlaw
    · obtain ⟨event', hevent', he⟩ := hs.events d event hreads.1
      refine ⟨event', endpoint, ⟨hevent', by rw [he.1, h.endpoints, hreads.2]⟩, ?_, ?_⟩
      · rw [customerKey_same he (.refl endpoint)]
        exact h.customerRow hcustomer
      · rw [conversationKey_same he (.refl endpoint), he.2.2.2.1]
        exact h.conversationRow hconversation
  · rcases hcases r hr with hold | rfl
    · obtain ⟨row₀, hrow₀, hkey₀⟩ := hc.conversation_back hs hold hrow
      rcases hcases r' hr' with hold' | rfl
      · exact hc.alone r hold r' hold' row₀ hrow₀ (hkey₀.trans hkey) hsame
      · rw [hsame] at hrow
        have hfresh := h.fresh hconversation hrow hkey
        have hlt := hbound r hold
        simp only at hsame
        omega
    · rcases hcases r' hr' with hold' | rfl
      · have hfresh := h.fresh hconversation hrow hkey
        have hlt := hbound r' hold'
        simp only at hsame
        omega
      · rfl
  · rw [h.resolved]
    rw [hevents] at he
    rcases getElem?_set_cases he with ⟨rfl, rfl⟩ | ⟨-, hother⟩
    · exact ⟨_, List.mem_append_right _ List.mem_cons_self, rfl, rfl⟩
    · obtain ⟨r, hr, hevent, hlinked⟩ := hc.processed d' e hother hstatus
      exact ⟨r, List.mem_append_left _ hr, hevent, hlinked⟩

/-! ## Runs -/

theorem Resolutions.afterEnv (hc : Resolutions s) (h : EnvStep s s') : Resolutions s' := by
  refine hc.keep ⟨?_, ?_, ?_, h.conversations⟩ h.resolved ?_ fun d e he _ => h.events ▸ he
  · rw [h.events]
    exact .refl .refl _
  · rcases h.endpoints with ⟨hrows, -⟩ | ⟨endpoint, hnew, -⟩
    · exact hrows
    · rw [hnew]
      exact .append .refl _ _
  · rw [h.customers]
    exact .refl (fun _ => rfl) _
  · rw [h.events]
    exact hc.events

theorem Resolutions.afterSubmission {point : SubmissionPoint} (hc : Resolutions s)
    (h : SubmissionStep s p a s' point) : Resolutions s' := by
  have hsame : Extends s s := ⟨.refl .refl _, .refl .refl _, .refl (fun _ => rfl) _, .refl .refl _⟩
  cases h with
  | @inserted now published _ haccepted =>
    have hcases : AllRows (fun d e => s.events[d]? = some e ∨ e.status = .received)
        (s.events ++ [newEvent p.endpoint p.canonical p.payloadDigest now]) :=
      AllRows.append (fun _ _ hold => .inl hold) (.inr rfl)
    refine hc.keep ⟨.append .refl _ _, hsame.endpoints, hsame.customers, hsame.conversations⟩ rfl
      (AllRows.append hc.events (fitting_of_accepted haccepted)) fun d e he hstatus => ?_
    rcases hcases d e he with hold | hreceived
    · exact hold
    · rw [hstatus] at hreceived
      cases hreceived
  | missing => exact hc
  | resolved => exact hc
  | refused => exact hc

theorem Fitting.same {event event' : InboundChannelEvent} (h : SameEvent event event')
    (hfit : Fitting event) : Fitting event' := by
  rw [Fitting, h.2.2.2.1, h.2.2.2.2.1]
  exact hfit

theorem WorkerEffect.fitting (h : WorkerEffect lower s w a s' point)
    (hc : AllRows (fun _ => Fitting) s.events) : AllRows (fun _ => Fitting) s'.events := by
  obtain ⟨hrows, hlength⟩ := h.events
  intro d e he
  rcases hrows.back he with ⟨e₀, he₀, hsame⟩ | hge
  · exact (hc d e₀ he₀).same hsame
  · have hlt := (List.getElem?_eq_some_iff.mp he).1
    omega

theorem Resolutions.release (hc : Resolutions s) (i : Nat) : Resolutions (s.release i) :=
  hc.keep ⟨.refl .refl _, .refl .refl _, .refl (fun _ => rfl) _, .refl .refl _⟩ rfl hc.events
    fun _ _ he _ => he

theorem Resolutions.afterWorker (hc : Resolutions c.store) (hk : Keyed c)
    (hw : c.procs[i]? = some (.worker w)) (h : WorkerStep lower c.store i w a s' point) :
    Resolutions s' := by
  have hextends := h.grows.1.extends
  have hfitting := h.effect.fitting hc.events
  have hkeep : s'.resolved = c.store.resolved → s'.events = c.store.events → Resolutions s' :=
    fun hresolved hevents => hc.keep hextends hresolved hfitting fun d e he _ => hevents ▸ he
  cases h with
  | claimed =>
    refine hc.keep hextends rfl hfitting fun d e he hstatus => ?_
    rcases getElem?_set_cases he with ⟨-, rfl⟩ | ⟨-, hother⟩
    · cases hstatus
    · exact hother
  | markedFailed =>
    refine hc.keep hextends rfl hfitting fun d e he hstatus => ?_
    by_cases hd : w.event = d
    · subst hd
      rw [Store.markEventFailed, List.getElem?_modify_eq] at he
      obtain ⟨_, -, rfl⟩ := Option.map_eq_some_iff.mp he
      cases hstatus
    · rwa [Store.markEventFailed, List.getElem?_modify_ne _ _ hd] at he
  | @delivered _ _ _ _ _ _ t hpoint hreads hdeliver =>
    obtain ⟨k, q, hdelivered⟩ := deliver_ok hdeliver
    have howns := hk.owns i w _ _ hw hreads
    rw [hpoint] at howns
    have hgrown : Extends c.store t :=
      ⟨hextends.events, hextends.endpoints, hextends.customers, hextends.conversations⟩
    exact (hc.delivered hgrown hdelivered ⟨hreads.eventRow, hreads.endpointRow⟩ howns.1
      howns.2).release i
  | _ => exact hkeep rfl rfl

theorem resolutions {permits : Ingress → IngressLabel → Prop}
    (h : (ingress lower cfg).system.Reach permits c) : Resolutions c.store := by
  refine System.Reach.invariant (I := fun c => Resolutions c.store) ?_ ?_ h
  · rintro ⟨t, procs⟩ ⟨rfl, rfl⟩
    refine ⟨fun d e he => ?_, nofun, nofun, fun d e he => ?_⟩
    · simp at he
    · simp at he
  · intro c l c' hr hc _ hstep
    cases l with
    | env label =>
      obtain ⟨s', started, hout, rfl⟩ := Program.step_env hstep
      exact hc.afterEnv (ingressStep_cases hout).1
    | work i a =>
      obtain ⟨proc, s', proc', hproc, hout, rfl⟩ := Program.step_work hstep
      rcases work_cases hout with ⟨p, point, rfl, rfl, hcase⟩ | ⟨w, point, rfl, rfl, hcase⟩
      · exact hc.afterSubmission hcase
      · exact hc.afterWorker (keyed hr) hproc hcase

end SupportPilot.ChannelIngress
