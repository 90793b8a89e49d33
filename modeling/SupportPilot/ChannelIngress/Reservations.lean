import SupportPilot.ChannelIngress.Accounting

/-!
# Unique keys in flight

What a worker has inserted is invisible to the others, but no row with its key commits before
the worker leaves its transaction. So the references of a worker stay good up to its commit, and
the unique indexes of customers and conversations hold in every run.
-/

namespace SupportPilot.ChannelIngress

open Library

variable {lower : String → String} {cfg : IngressSettings} {s s' : Store} {c c' : Ingress}
  {i j d : Nat} {event event' : InboundChannelEvent} {endpoint endpoint' : ChannelEndpoint}
  {w w' : Worker} {p p' : Submission} {a : IngressAction} {point : WorkerPoint} {key : UniqueKey}

/-! ## Keys of an event -/

def customerKey (endpoint : ChannelEndpoint) (event : InboundChannelEvent) : UniqueKey :=
  .customer endpoint.workspace (strip (lookupKey endpoint event))

def conversationKey (endpoint : ChannelEndpoint) (event : InboundChannelEvent) : UniqueKey :=
  .conversation endpoint.workspace (strip (threadKey endpoint event))

theorem newCustomer_uniqueKey (lower : String → String) (endpoint : ChannelEndpoint)
    (event : InboundChannelEvent) :
    (newCustomer lower endpoint event).uniqueKey = some (customerKey endpoint event) := by
  rw [Customer.uniqueKey, newCustomer_externalId, newCustomer_workspace]
  rfl

theorem newConversation_uniqueKey (endpoint : ChannelEndpoint) (event : InboundChannelEvent)
    (k : Nat) : (newConversation endpoint event k).uniqueKey =
      if event.providerThreadId = "" then none else some (conversationKey endpoint event) := by
  rw [Conversation.uniqueKey, newConversation_externalId]
  split <;> rfl

theorem customerKey_same (he : SameEvent event event') (hep : SameEndpoint endpoint endpoint') :
    customerKey endpoint' event' = customerKey endpoint event := by
  simp only [customerKey, lookupKey, hep.2.1, hep.2.2, he.2.2.2.2.2]

theorem conversationKey_same (he : SameEvent event event')
    (hep : SameEndpoint endpoint endpoint') :
    conversationKey endpoint' event' = conversationKey endpoint event := by
  simp only [conversationKey, threadKey, threadExternalId, threadText, hep.1, hep.2.1,
    he.2.2.2.1]

theorem SameThread.uniqueKey {row row' : Conversation} (h : SameThread row row') :
    row'.uniqueKey = row.uniqueKey := by
  rw [Conversation.uniqueKey, Conversation.uniqueKey, h.1, h.2.1]

/-! ## The indexes -/

/-- A committed row has the key. -/
def Taken (s : Store) (key : UniqueKey) : Prop :=
  (∃ row ∈ s.customers, row.uniqueKey = some key) ∨
    ∃ row ∈ s.conversations, row.uniqueKey = some key

/-- The external id in a key is stripped, as the models save it. -/
def UniqueKey.stripped : UniqueKey → Prop
  | .customer _ externalId | .conversation _ externalId => strip externalId = externalId

/-- The unique indexes hold, for the committed rows and the keys in flight. -/
structure StoreKeys (s : Store) : Prop where
  customers : UniqueIndex Customer.uniqueKey s.customers
  conversations : UniqueIndex Conversation.uniqueKey s.conversations
  stripped : ∀ key, Taken s key → key.stripped
  free : ∀ i key, (i, key) ∈ s.reserved → ¬ Taken s key
  owner : ∀ i j key, (i, key) ∈ s.reserved → (j, key) ∈ s.reserved → i = j

theorem taken_customer {k : Nat} {row : Customer} (h : s.customers[k]? = some row)
    (hkey : row.uniqueKey = some key) : Taken s key :=
  .inl ⟨row, List.mem_of_getElem? h, hkey⟩

theorem findCustomer_some {workspace k : Nat} {externalId : String}
    (h : s.findCustomer workspace externalId = some k) :
    ∃ row, s.customers[k]? = some row ∧
      row.uniqueKey = some (.customer workspace externalId) := by
  obtain ⟨hlt, hp, -⟩ := List.findIdx?_eq_some_iff_getElem.mp h
  simp only [decide_eq_true_eq] at hp
  refine ⟨_, List.getElem?_eq_getElem hlt, ?_⟩
  rw [Customer.uniqueKey, hp.2, hp.1]
  rfl

theorem findConversation_some {workspace q : Nat} {externalId : String}
    (h : s.findConversation workspace externalId = some q) :
    ∃ row, s.conversations[q]? = some row ∧
      row.uniqueKey = some (.conversation workspace externalId) := by
  obtain ⟨hlt, hp, -⟩ := List.findIdx?_eq_some_iff_getElem.mp h
  simp only [decide_eq_true_eq] at hp
  refine ⟨_, List.getElem?_eq_getElem hlt, ?_⟩
  rw [Conversation.uniqueKey, hp.2, hp.1]
  rfl

theorem not_taken_customer {workspace : Nat} {externalId : String}
    (h : s.findCustomer workspace externalId = none) :
    ¬ Taken s (.customer workspace externalId) := by
  rintro (⟨row, hmem, hkey⟩ | ⟨row, -, hkey⟩)
  · have hnot := List.findIdx?_eq_none_iff.mp h row hmem
    obtain ⟨x, hx, hsame⟩ := Option.map_eq_some_iff.mp hkey
    cases hsame
    simp [hx] at hnot
  · obtain ⟨x, -, hsame⟩ := Option.map_eq_some_iff.mp hkey
    cases hsame

theorem not_taken_conversation {workspace : Nat} {externalId : String}
    (h : s.findConversation workspace externalId = none) :
    ¬ Taken s (.conversation workspace externalId) := by
  rintro (⟨row, -, hkey⟩ | ⟨row, hmem, hkey⟩)
  · obtain ⟨x, -, hsame⟩ := Option.map_eq_some_iff.mp hkey
    cases hsame
  · have hnot := List.findIdx?_eq_none_iff.mp h row hmem
    obtain ⟨x, hx, hsame⟩ := Option.map_eq_some_iff.mp hkey
    cases hsame
    simp [hx] at hnot

/-- Tables with the same keys and fewer keys in flight. -/
theorem StoreKeys.shrink (h : StoreKeys s) (hcustomers : s'.customers = s.customers)
    (hconversations : Rows SameThread s.conversations s'.conversations)
    (hlength : s'.conversations.length = s.conversations.length)
    (hreserved : ∀ entry ∈ s'.reserved, entry ∈ s.reserved) : StoreKeys s' := by
  have htaken : ∀ key, Taken s' key → Taken s key := by
    rintro key (⟨row, hmem, hkey⟩ | ⟨row, hmem, hkey⟩)
    · exact .inl ⟨row, hcustomers ▸ hmem, hkey⟩
    · obtain ⟨q, hq⟩ := List.mem_iff_getElem?.mp hmem
      rcases hconversations.back hq with ⟨row₀, hrow₀, hsame⟩ | hge
      · exact .inr ⟨row₀, List.mem_of_getElem? hrow₀, hsame.uniqueKey.symm.trans hkey⟩
      · have hlt := (List.getElem?_eq_some_iff.mp hq).1
        omega
  refine ⟨hcustomers ▸ h.customers,
    h.conversations.rows hconversations hlength fun _ _ => SameThread.uniqueKey,
    fun key hkey => h.stripped key (htaken key hkey),
    fun i key hmem hkey => h.free i key (hreserved _ hmem) (htaken key hkey),
    fun i j key hi hj => h.owner i j key (hreserved _ hi) (hreserved _ hj)⟩

theorem StoreKeys.release (h : StoreKeys s) (i : Nat) : StoreKeys (s.release i) :=
  h.shrink rfl (.refl .refl _) rfl fun _ hmem => (List.mem_filter.mp hmem).1

theorem StoreKeys.reserve (h : StoreKeys s) (hfree : ¬ Taken s key)
    (hother : s.reservedByOther i key = false) : StoreKeys (s.reserve i key) := by
  have hmine : ∀ j, (j, key) ∈ s.reserved → j = i := by
    intro j hmem
    have hnot := List.any_eq_false.mp hother _ hmem
    simpa using hnot
  have hcases : ∀ {entry}, entry ∈ (s.reserve i key).reserved →
      entry ∈ s.reserved ∨ entry = (i, key) := by
    intro entry hmem
    rcases List.mem_append.mp hmem with hold | hnew
    · exact .inl hold
    · exact .inr (List.mem_singleton.mp hnew)
  refine ⟨h.customers, h.conversations, h.stripped, fun j key' hmem => ?_,
    fun j k key' hj hk => ?_⟩
  · rcases hcases hmem with hold | hnew
    · exact h.free j key' hold
    · cases hnew
      exact hfree
  · rcases hcases hj with hj | hj <;> rcases hcases hk with hk | hk
    · exact h.owner j k key' hj hk
    · cases hk
      exact hmine j hj
    · cases hj
      exact (hmine k hk).symm
    · cases hj
      cases hk
      rfl

/-! ## What a worker owns -/

def OwnsCustomer (s : Store) (i : Nat) (endpoint : ChannelEndpoint)
    (event : InboundChannelEvent) : CustomerRef → Prop
  | .existing k => ∃ row, s.customers[k]? = some row ∧
      row.uniqueKey = some (customerKey endpoint event)
  | .inserted => (i, customerKey endpoint event) ∈ s.reserved

def OwnsConversation (s : Store) (i : Nat) (endpoint : ChannelEndpoint)
    (event : InboundChannelEvent) : ConversationRef → Prop
  | .existing q _ => event.providerThreadId ≠ "" ∧ ∃ row, s.conversations[q]? = some row ∧
      row.uniqueKey = some (conversationKey endpoint event)
  | .inserted => event.providerThreadId ≠ "" → (i, conversationKey endpoint event) ∈ s.reserved

/-- The references of a worker are to rows with the keys of its event, or to its own inserts. -/
def OwnsAt (s : Store) (i : Nat) (endpoint : ChannelEndpoint) (event : InboundChannelEvent) :
    WorkerPoint → Prop
  | .conversation customer | .createConversation customer =>
    OwnsCustomer s i endpoint event customer
  | .deliver customer conversation =>
    OwnsCustomer s i endpoint event customer ∧ OwnsConversation s i endpoint event conversation
  | _ => True

/-- The points at which a worker can hold a key. -/
def Holder : UniqueKey → WorkerPoint → Prop
  | .customer .., .conversation _ | .customer .., .createConversation _ | _, .deliver .. => True
  | _, _ => False

theorem ownsAt_of_not_claimed (h : point.claimed = false) :
    OwnsAt s i endpoint event point := by
  cases point <;> trivial

/-- What a step of one process keeps of what the others rely on. -/
structure Grows (i : Nat) (s s' : Store) : Prop where
  events : Rows SameEvent s.events s'.events
  endpoints : Rows SameEndpoint s.endpoints s'.endpoints
  customers : Rows Eq s.customers s'.customers
  conversations : Rows SameThread s.conversations s'.conversations
  reserved : ∀ j key, j ≠ i → ((j, key) ∈ s'.reserved ↔ (j, key) ∈ s.reserved)

theorem OwnsCustomer.grows {customer : CustomerRef} (h : OwnsCustomer s j endpoint event customer)
    (hcustomers : Rows Eq s.customers s'.customers)
    (hreserved : ∀ key, (j, key) ∈ s.reserved → (j, key) ∈ s'.reserved)
    (hkey : customerKey endpoint' event' = customerKey endpoint event) :
    OwnsCustomer s' j endpoint' event' customer := by
  cases customer with
  | existing k =>
    obtain ⟨row, hrow, hunique⟩ := h
    obtain ⟨row', hrow', rfl⟩ := hcustomers k row hrow
    exact ⟨row, hrow', by rw [hunique, hkey]⟩
  | inserted =>
    show (j, customerKey endpoint' event') ∈ s'.reserved
    rw [hkey]
    exact hreserved _ h

theorem OwnsConversation.grows {conversation : ConversationRef}
    (h : OwnsConversation s j endpoint event conversation)
    (hconversations : Rows SameThread s.conversations s'.conversations)
    (hreserved : ∀ key, (j, key) ∈ s.reserved → (j, key) ∈ s'.reserved)
    (hthread : event'.providerThreadId = event.providerThreadId)
    (hkey : conversationKey endpoint' event' = conversationKey endpoint event) :
    OwnsConversation s' j endpoint' event' conversation := by
  cases conversation with
  | existing q read =>
    obtain ⟨hnamed, row, hrow, hunique⟩ := h
    obtain ⟨row', hrow', hsame⟩ := hconversations q row hrow
    exact ⟨by rwa [hthread], row', hrow', by rw [hsame.uniqueKey, hunique, hkey]⟩
  | inserted =>
    intro hnamed
    rw [hkey]
    exact hreserved _ (h (by rwa [hthread] at hnamed))

theorem OwnsAt.grows (h : OwnsAt s j endpoint event point) (hg : Grows i s s') (hji : j ≠ i)
    (he : SameEvent event event') (hep : SameEndpoint endpoint endpoint') :
    OwnsAt s' j endpoint' event' point := by
  have hreserved : ∀ key, (j, key) ∈ s.reserved → (j, key) ∈ s'.reserved :=
    fun key hmem => (hg.reserved j key hji).mpr hmem
  have hcustomer := customerKey_same he hep
  cases point with
  | conversation customer => exact OwnsCustomer.grows h hg.customers hreserved hcustomer
  | createConversation customer => exact OwnsCustomer.grows h hg.customers hreserved hcustomer
  | deliver customer conversation =>
    exact ⟨OwnsCustomer.grows h.1 hg.customers hreserved hcustomer,
      OwnsConversation.grows h.2 hg.conversations hreserved he.2.2.2.1
        (conversationKey_same he hep)⟩
  | _ => trivial

/-! ## The commit -/

/-- The keys that a commit adds are keys that its worker held. -/
theorem Delivered.taken {customer : CustomerRef} {conversation : ConversationRef} {now k n : Nat}
    (h : Delivered lower s s' d endpoint event customer conversation now k n)
    (hcustomer : OwnsCustomer s i endpoint event customer)
    (hconversation : OwnsConversation s i endpoint event conversation) (htaken : Taken s' key) :
    Taken s key ∨ ((i, key) ∈ s.reserved ∧ key.stripped) := by
  rcases htaken with ⟨row, hmem, hkey⟩ | ⟨row, hmem, hkey⟩
  · rcases h.customers with ⟨-, hsame⟩ | ⟨rfl, -, hnew⟩
    · exact .inl (.inl ⟨row, hsame ▸ hmem, hkey⟩)
    · rw [hnew] at hmem
      rcases List.mem_append.mp hmem with hold | hlast
      · exact .inl (.inl ⟨row, hold, hkey⟩)
      · rw [List.mem_singleton.mp hlast, newCustomer_uniqueKey] at hkey
        cases hkey
        exact .inr ⟨hcustomer, strip_strip _⟩
  · obtain ⟨kept, hrows, hlength, hkept⟩ := h.conversations
    obtain ⟨q, hq⟩ := List.mem_iff_getElem?.mp hmem
    rcases hrows.back hq with ⟨row₀, hrow₀, hsame⟩ | hge
    · rw [hsame.uniqueKey] at hkey
      rcases hkept with ⟨read, -, rfl⟩ | ⟨rfl, -, rfl⟩
      · exact .inl (.inr ⟨row₀, List.mem_of_getElem? hrow₀, hkey⟩)
      · rcases List.mem_append.mp (List.mem_of_getElem? hrow₀) with hold | hlast
        · exact .inl (.inr ⟨row₀, hold, hkey⟩)
        · rw [List.mem_singleton.mp hlast, newConversation_uniqueKey] at hkey
          split at hkey
          · cases hkey
          · rename_i hnamed
            cases hkey
            exact .inr ⟨hconversation hnamed, strip_strip _⟩
    · have hlt := (List.getElem?_eq_some_iff.mp hq).1
      omega

theorem StoreKeys.delivered {customer : CustomerRef} {conversation : ConversationRef}
    {now k n : Nat} (hs : StoreKeys s)
    (h : Delivered lower s s' d endpoint event customer conversation now k n)
    (hcustomer : OwnsCustomer s i endpoint event customer)
    (hconversation : OwnsConversation s i endpoint event conversation) :
    StoreKeys (s'.release i) := by
  have htaken : ∀ key, Taken (s'.release i) key →
      Taken s key ∨ ((i, key) ∈ s.reserved ∧ key.stripped) :=
    fun key hkey => h.taken hcustomer hconversation hkey
  have hreserved : ∀ j key, (j, key) ∈ (s'.release i).reserved → j ≠ i ∧ (j, key) ∈ s.reserved := by
    intro j key hmem
    obtain ⟨hold, hne⟩ := List.mem_filter.mp hmem
    rw [h.reserved] at hold
    exact ⟨by simpa using hne, hold⟩
  constructor
  · rcases h.customers with ⟨-, hsame⟩ | ⟨rfl, -, hnew⟩
    · show UniqueIndex _ s'.customers
      rw [hsame]
      exact hs.customers
    · show UniqueIndex _ s'.customers
      rw [hnew]
      refine hs.customers.append fun key hkey row hmem hsame => ?_
      rw [newCustomer_uniqueKey] at hkey
      cases hkey
      exact hs.free i _ hcustomer (.inl ⟨row, hmem, hsame⟩)
  · obtain ⟨kept, hrows, hlength, hkept⟩ := h.conversations
    refine UniqueIndex.rows ?_ hrows hlength fun _ _ => SameThread.uniqueKey
    rcases hkept with ⟨read, -, rfl⟩ | ⟨rfl, -, rfl⟩
    · exact hs.conversations
    · refine hs.conversations.append fun key hkey row hmem hsame => ?_
      rw [newConversation_uniqueKey] at hkey
      split at hkey
      · cases hkey
      · rename_i hnamed
        cases hkey
        exact hs.free i _ (hconversation hnamed) (.inr ⟨row, hmem, hsame⟩)
  · intro key hkey
    rcases htaken key hkey with hold | ⟨-, hstripped⟩
    · exact hs.stripped key hold
    · exact hstripped
  · intro j key hmem hkey
    obtain ⟨hji, hold⟩ := hreserved j key hmem
    rcases htaken key hkey with htaken | ⟨hmine, -⟩
    · exact hs.free j key hold htaken
    · exact hji (hs.owner j i key hold hmine)
  · intro j k key hj hk
    exact hs.owner j k key (hreserved j key hj).2 (hreserved k key hk).2

/-! ## The invariant -/

/-- The indexes, what each worker owns, and who holds the keys in flight. -/
structure Keyed (c : Ingress) : Prop where
  store : StoreKeys c.store
  owns : ∀ (i : Nat) (w : Worker) (event : InboundChannelEvent) (endpoint : ChannelEndpoint),
    c.procs[i]? = some (.worker w) → Reads c.store w event endpoint →
    OwnsAt c.store i endpoint event w.point
  holders : ∀ (i : Nat) (key : UniqueKey), (i, key) ∈ c.store.reserved →
    ∃ w, c.procs[i]? = some (.worker w) ∧ Holder key w.point
  events : ∀ (d : Nat) (e : InboundChannelEvent), c.store.events[d]? = some e →
    e.endpoint < c.store.endpoints.length
  submissions : ∀ (i : Nat) (p : Submission), c.procs[i]? = some (.submission p) →
    p.endpoint < c.store.endpoints.length
  ids : UniqueIndex (fun endpoint => some endpoint.id) c.store.endpoints

theorem reads_unique (h : Reads s w event endpoint) (h' : Reads s w event' endpoint') :
    event' = event ∧ endpoint' = endpoint := by
  have hevent : event' = event := Option.some.inj (h'.eventRow.symm.trans h.eventRow)
  subst hevent
  exact ⟨rfl, Option.some.inj (h'.endpointRow.symm.trans h.endpointRow)⟩

/-- A claimed event was there before the step, with the same keys. -/
theorem Keyed.reads (hc : Keyed c) (ha : Accounted c)
    (hevents : Rows SameEvent c.store.events s'.events)
    (hendpoints : Rows SameEndpoint c.store.endpoints s'.endpoints)
    (hw : c.procs[i]? = some (.worker w)) (hclaimed : w.point.claimed = true)
    (h : Reads s' w event' endpoint') :
    ∃ event endpoint, Reads c.store w event endpoint ∧ SameEvent event event' ∧
      SameEndpoint endpoint endpoint' := by
  obtain ⟨event, hevent, -⟩ := ha.held i w hw hclaimed
  obtain ⟨e, he, hsame⟩ := hevents _ event hevent
  obtain rfl := Option.some.inj (h.eventRow.symm.trans he)
  have hlt := hc.events _ event hevent
  obtain ⟨ep, hep, hsame'⟩ := hendpoints _ _ (List.getElem?_eq_getElem hlt)
  rw [← hsame.1] at hep
  obtain rfl := Option.some.inj (h.endpointRow.symm.trans hep)
  exact ⟨event, _, ⟨hevent, List.getElem?_eq_getElem hlt⟩, hsame, hsame'⟩

/-- The other workers keep what they own. -/
theorem Keyed.others (hc : Keyed c) (ha : Accounted c) (hg : Grows i c.store s') (hji : j ≠ i)
    (hw : c.procs[j]? = some (.worker w)) (h : Reads s' w event' endpoint') :
    OwnsAt s' j endpoint' event' w.point := by
  cases hclaimed : w.point.claimed with
  | false => exact ownsAt_of_not_claimed hclaimed
  | true =>
    obtain ⟨event, endpoint, hreads, he, hep⟩ :=
      hc.reads ha hg.events hg.endpoints hw hclaimed h
    exact (hc.owns j w event endpoint hw hreads).grows hg hji he hep

theorem Keyed.afterEnv {started : Option Proc} (hc : Keyed c) (ha : Accounted c)
    (h : EnvStep c.store s') (hstarted : ∀ proc ∈ started, proc.fresh c.store) :
    Keyed ⟨s', c.procs ++ started.toList⟩ := by
  have hendpoints : Rows SameEndpoint c.store.endpoints s'.endpoints := by
    rcases h.endpoints with ⟨hrows, -⟩ | ⟨endpoint, hnew, -⟩
    · exact hrows
    · rw [hnew]
      exact .append .refl _ _
  have hgrows : Grows c.procs.length c.store s' := by
    refine ⟨?_, hendpoints, ?_, h.conversations, fun j key _ => by rw [h.reserved]⟩
    · rw [h.events]
      exact .refl .refl _
    · rw [h.customers]
      exact .refl (fun _ => rfl) _
  have hlength := hendpoints.length_le
  have hprocs : ∀ (j : Nat) (proc : Proc), (c.procs ++ started.toList)[j]? = some proc →
      (j ≠ c.procs.length ∧ c.procs[j]? = some proc) ∨ proc.fresh c.store := by
    intro j proc hproc
    rcases Program.proc_append hproc with hold | hnew
    · exact .inl ⟨Nat.ne_of_lt (List.getElem?_eq_some_iff.mp hold).1, hold⟩
    · exact .inr (hstarted proc hnew)
  constructor
  · exact hc.store.shrink h.customers h.conversations h.length fun _ hmem => h.reserved ▸ hmem
  · intro j w event endpoint hw hreads
    rcases hprocs j _ hw with ⟨hne, hold⟩ | hfresh
    · exact hc.others ha hgrows hne hold hreads
    · have hstart : w.point = .start := hfresh
      rw [hstart]
      trivial
  · intro j key hmem
    obtain ⟨w, hw, hholder⟩ := hc.holders j key (h.reserved ▸ hmem)
    exact ⟨w, getElem?_append_some hw _, hholder⟩
  · intro d e he
    exact Nat.lt_of_lt_of_le (hc.events d e (h.events ▸ he)) hlength
  · intro j p hp
    rcases hprocs j _ hp with ⟨-, hold⟩ | hfresh
    · exact Nat.lt_of_lt_of_le (hc.submissions j p hold) hlength
    · exact Nat.lt_of_lt_of_le hfresh.2 hlength
  · rcases h.endpoints with ⟨hrows, hsame⟩ | ⟨endpoint, hnew, hfresh⟩
    · exact hc.ids.rows hrows hsame fun _ _ hR => congrArg some hR.1
    · show UniqueIndex _ s'.endpoints
      rw [hnew]
      refine hc.ids.append fun id hid other hmem hsame => hfresh other hmem ?_
      exact Option.some.inj (hsame.trans hid.symm)

theorem Keyed.afterSubmission {q : SubmissionPoint} (hc : Keyed c) (ha : Accounted c)
    (hp : c.procs[i]? = some (.submission p)) (h : SubmissionStep c.store p a s' q) :
    Keyed ⟨s', c.procs.set i (.submission { p with point := q })⟩ := by
  have hlt := (List.getElem?_eq_some_iff.mp hp).1
  -- a submission at most adds one event of its endpoint
  obtain ⟨events, rfl, hrows, hevents⟩ : ∃ events, s' = { c.store with events := events } ∧
      Rows SameEvent c.store.events events ∧
      AllRows (fun _ e => e.endpoint < c.store.endpoints.length) events := by
    cases h with
    | inserted hpoint haccepted hnone =>
      exact ⟨_, rfl, .append .refl _ _, AllRows.append hc.events (hc.submissions i p hp)⟩
    | missing => exact ⟨_, rfl, .refl .refl _, hc.events⟩
    | resolved => exact ⟨_, rfl, .refl .refl _, hc.events⟩
    | refused => exact ⟨_, rfl, .refl .refl _, hc.events⟩
  have hgrows : Grows i c.store { c.store with events := events } :=
    ⟨hrows, .refl .refl _, .refl (fun _ => rfl) _, .refl .refl _, fun _ _ _ => .rfl⟩
  have hprocs : ∀ (j : Nat) (w : Worker),
      (c.procs.set i (.submission { p with point := q }))[j]? = some (.worker w) ↔
        c.procs[j]? = some (.worker w) := by
    intro j w
    by_cases hij : i = j
    · subst hij
      rw [List.getElem?_set_self hlt, hp]
      exact ⟨nofun, nofun⟩
    · rw [List.getElem?_set_ne hij]
  constructor
  · exact hc.store.shrink rfl (.refl .refl _) rfl fun _ hmem => hmem
  · intro j w event endpoint hw hreads
    have hold := (hprocs j w).mp hw
    by_cases hji : j = i
    · subst hji
      rw [hp] at hold
      cases hold
    · exact hc.others ha hgrows hji hold hreads
  · intro j key hmem
    obtain ⟨w, hw, hholder⟩ := hc.holders j key hmem
    exact ⟨w, (hprocs j w).mpr hw, hholder⟩
  · exact hevents
  · intro j p' hp'
    rcases getElem?_set_cases hp' with ⟨rfl, heq⟩ | ⟨-, hother⟩
    · cases heq
      exact hc.submissions j p hp
    · exact hc.submissions j p' hother
  · exact hc.ids

/-! ## Steps of a worker -/

theorem mem_release {entry : Nat × UniqueKey} :
    entry ∈ (s.release i).reserved ↔ entry ∈ s.reserved ∧ entry.1 ≠ i := by
  rw [Store.release, List.mem_filter, decide_eq_true_eq]

theorem mem_reserve {entry : Nat × UniqueKey} :
    entry ∈ (s.reserve i key).reserved ↔ entry ∈ s.reserved ∨ entry = (i, key) := by
  rw [Store.reserve, List.mem_append, List.mem_singleton]

theorem Delivered.rows {customer : CustomerRef} {conversation : ConversationRef} {now k n : Nat}
    (h : Delivered lower s s' d endpoint event customer conversation now k n) :
    Rows Eq s.customers s'.customers ∧ Rows SameThread s.conversations s'.conversations := by
  constructor
  · rcases h.customers with ⟨-, hsame⟩ | ⟨-, -, hnew⟩
    · rw [hsame]
      exact .refl (fun _ => rfl) _
    · rw [hnew]
      exact .append (fun _ => rfl) _ _
  · obtain ⟨kept, hrows, -, hkept⟩ := h.conversations
    rcases hkept with ⟨read, -, rfl⟩ | ⟨-, -, rfl⟩
    · exact hrows
    · intro q row hrow
      exact hrows q row (getElem?_append_some hrow _)

theorem WorkerStep.grows (h : WorkerStep lower s i w a s' point) :
    Grows i s s' ∧ s'.endpoints = s.endpoints := by
  have hevents := h.effect.events.1
  have hsame : s'.endpoints = s.endpoints → s'.customers = s.customers →
      s'.conversations = s.conversations →
      (∀ j key, j ≠ i → ((j, key) ∈ s'.reserved ↔ (j, key) ∈ s.reserved)) →
      Grows i s s' ∧ s'.endpoints = s.endpoints := by
    intro hendpoints hcustomers hconversations hreserved
    refine ⟨⟨hevents, ?_, ?_, ?_, hreserved⟩, hendpoints⟩
    · rw [hendpoints]
      exact .refl .refl _
    · rw [hcustomers]
      exact .refl (fun _ => rfl) _
    · rw [hconversations]
      exact .refl .refl _
  have hrelease : ∀ j key, j ≠ i → ((j, key) ∈ (s.release i).reserved ↔ (j, key) ∈ s.reserved) := by
    intro j key hji
    rw [mem_release]
    exact ⟨And.left, fun hmem => ⟨hmem, hji⟩⟩
  have hreserve : ∀ key' j key, j ≠ i →
      ((j, key) ∈ (s.reserve i key').reserved ↔ (j, key) ∈ s.reserved) := by
    intro key' j key hji
    rw [mem_reserve]
    refine ⟨fun hmem => hmem.resolve_right ?_, .inl⟩
    rintro ⟨⟩
    exact hji rfl
  cases h with
  | rolledBack => exact hsame rfl rfl rfl hrelease
  | vanished => exact hsame rfl rfl rfl hrelease
  | insertedCustomer => exact hsame rfl rfl rfl (hreserve _)
  | insertedConversation => exact hsame rfl rfl rfl (hreserve _)
  | delivered hw hreads hdeliver =>
    obtain ⟨k, n, hdelivered⟩ := deliver_ok hdeliver
    obtain ⟨hcustomers, hconversations⟩ := hdelivered.rows
    refine ⟨⟨hevents, ?_, hcustomers, hconversations, fun j key hji => ?_⟩, hdelivered.endpoints⟩
    · show Rows SameEndpoint s.endpoints _
      rw [Store.release, hdelivered.endpoints]
      exact .refl .refl _
    · rw [mem_release, hdelivered.reserved]
      exact ⟨And.left, fun hmem => ⟨hmem, hji⟩⟩
  | _ => exact hsame rfl rfl rfl fun _ _ _ => .rfl

theorem StoreKeys.ownsCustomer {k : Nat} (hc : StoreKeys s) (i : Nat)
    (h : s.findCustomer endpoint.workspace (lookupKey endpoint event) = some k) :
    OwnsCustomer s i endpoint event (.existing k) := by
  obtain ⟨row, hrow, hkey⟩ := findCustomer_some h
  have hstripped := hc.stripped _ (taken_customer hrow hkey)
  exact ⟨row, hrow, by rw [hkey, customerKey, hstripped]⟩

theorem StoreKeys.ownsConversation {q : Nat} {read : Conversation} (hc : StoreKeys s) (i : Nat)
    (hnamed : event.providerThreadId ≠ "")
    (h : s.findConversation endpoint.workspace (threadKey endpoint event) = some q) :
    OwnsConversation s i endpoint event (.existing q read) := by
  obtain ⟨row, hrow, hkey⟩ := findConversation_some h
  have hstripped := hc.stripped _ (.inr ⟨row, List.mem_of_getElem? hrow, hkey⟩)
  exact ⟨hnamed, row, hrow, by rw [hkey, conversationKey, hstripped]⟩

theorem Keyed.storeAfter (hc : Keyed c) (hw : c.procs[i]? = some (.worker w))
    (h : WorkerStep lower c.store i w a s' point) : StoreKeys s' := by
  have hsame : s'.customers = c.store.customers → s'.conversations = c.store.conversations →
      (∀ entry ∈ s'.reserved, entry ∈ c.store.reserved) → StoreKeys s' := by
    intro hcustomers hconversations hreserved
    refine hc.store.shrink hcustomers ?_ (congrArg List.length hconversations) hreserved
    rw [hconversations]
    exact .refl .refl _
  cases h with
  | rolledBack => exact hsame rfl rfl fun _ hmem => (mem_release.mp hmem).1
  | vanished => exact hsame rfl rfl fun _ hmem => (mem_release.mp hmem).1
  | insertedCustomer _ _ hnone hother => exact hc.store.reserve (not_taken_customer hnone) hother
  | insertedConversation _ _ _ hnone hother =>
    exact hc.store.reserve (not_taken_conversation hnone) hother
  | delivered hpoint hreads hdeliver =>
    obtain ⟨k, n, hdelivered⟩ := deliver_ok hdeliver
    have howns := hc.owns i w _ _ hw hreads
    rw [hpoint] at howns
    exact hc.store.delivered hdelivered howns.1 howns.2
  | _ => exact hsame rfl rfl fun _ hmem => hmem

/-- What a worker owns after its own step. -/
theorem Keyed.ownsAfter (hc : Keyed c) (hw : c.procs[i]? = some (.worker w))
    (h : WorkerStep lower c.store i w a s' point) (hreads' : Reads s' w event' endpoint') :
    OwnsAt s' i endpoint' event' point := by
  cases h with
  | foundCustomer _ hreads hk =>
    obtain ⟨rfl, rfl⟩ := reads_unique hreads hreads'
    exact hc.store.ownsCustomer i hk
  | insertedCustomer _ hreads =>
    obtain ⟨rfl, rfl⟩ := reads_unique hreads ⟨hreads'.eventRow, hreads'.endpointRow⟩
    exact mem_reserve.mpr (.inr rfl)
  | foundConversation hpoint hreads hnamed hq =>
    obtain ⟨rfl, rfl⟩ := reads_unique hreads hreads'
    have howns := hc.owns i w _ _ hw hreads
    refine ⟨?_, hc.store.ownsConversation i hnamed hq⟩
    rcases hpoint with hpoint | hpoint <;> rw [hpoint] at howns <;> exact howns
  | missingConversation hpoint hreads =>
    obtain ⟨rfl, rfl⟩ := reads_unique hreads hreads'
    have howns := hc.owns i w _ _ hw hreads
    rw [hpoint] at howns
    exact howns
  | freshConversation hpoint hreads hblank =>
    obtain ⟨rfl, rfl⟩ := reads_unique hreads hreads'
    have howns := hc.owns i w _ _ hw hreads
    rw [hpoint] at howns
    exact ⟨howns, fun hnamed => absurd hblank hnamed⟩
  | insertedConversation hpoint hreads =>
    obtain ⟨rfl, rfl⟩ := reads_unique hreads ⟨hreads'.eventRow, hreads'.endpointRow⟩
    have howns := hc.owns i w _ _ hw hreads
    rw [hpoint] at howns
    refine ⟨OwnsCustomer.grows howns (.refl (fun _ => rfl) _)
      (fun key hmem => mem_reserve.mpr (.inl hmem)) rfl, fun _ => mem_reserve.mpr (.inr rfl)⟩
  | @delivered _ dispatched => cases dispatched <;> trivial
  | _ => trivial

/-- A worker that holds keys after its own step is where it can hold them. -/
theorem Keyed.holderAfter (hc : Keyed c) (hw : c.procs[i]? = some (.worker w))
    (h : WorkerStep lower c.store i w a s' point) (hmem : (i, key) ∈ s'.reserved) :
    Holder key point := by
  have hheld : (i, key) ∈ c.store.reserved → Holder key w.point := by
    intro hold
    obtain ⟨w', hw', hholder⟩ := hc.holders i key hold
    rw [hw] at hw'
    cases hw'
    exact hholder
  have hdeliver : ∀ customer conversation, Holder key (.deliver customer conversation) := by
    intro customer conversation
    cases key <;> trivial
  have hno : ∀ {t : Store}, (i, key) ∉ (t.release i).reserved :=
    fun {t} hin => (mem_release.mp hin).2 rfl
  have hnot : ∀ {q : WorkerPoint}, w.point = q → ¬ Holder key q →
      (i, key) ∉ c.store.reserved := by
    intro q hpoint hno hold
    rw [← hpoint] at hno
    exact hno (hheld hold)
  cases h with
  | rolledBack => exact absurd hmem hno
  | vanished => exact absurd hmem hno
  | delivered => exact absurd hmem hno
  | insertedCustomer hpoint =>
    rcases mem_reserve.mp hmem with hold | hnew
    · exact absurd hold (hnot hpoint (by cases key <;> exact id))
    · cases hnew
      trivial
  | foundConversation => exact hdeliver _ _
  | freshConversation => exact hdeliver _ _
  | insertedConversation => exact hdeliver _ _
  | missingConversation hpoint =>
    have hholder := hheld hmem
    rw [hpoint] at hholder
    cases key with
    | customer => trivial
    | conversation => cases hholder
  | claimed hpoint => exact absurd hmem (hnot hpoint (by cases key <;> exact id))
  | returned hpoint => exact absurd hmem (hnot hpoint (by cases key <;> exact id))
  | markedFailed hpoint => exact absurd hmem (hnot hpoint (by cases key <;> exact id))
  | foundCustomer hpoint => exact absurd hmem (hnot hpoint (by cases key <;> exact id))
  | missingCustomer hpoint => exact absurd hmem (hnot hpoint (by cases key <;> exact id))

theorem Keyed.afterWorker (hc : Keyed c) (ha : Accounted c)
    (hw : c.procs[i]? = some (.worker w)) (h : WorkerStep lower c.store i w a s' point) :
    Keyed ⟨s', c.procs.set i (.worker { w with point := point })⟩ := by
  have hlt := (List.getElem?_eq_some_iff.mp hw).1
  obtain ⟨hgrows, hendpoints⟩ := h.grows
  constructor
  · exact hc.storeAfter hw h
  · intro j w' event endpoint hw' hreads
    rcases getElem?_set_cases hw' with ⟨rfl, heq⟩ | ⟨hji, hother⟩
    · cases heq
      exact hc.ownsAfter hw h ⟨hreads.eventRow, hreads.endpointRow⟩
    · exact hc.others ha hgrows hji hother hreads
  · intro j key hmem
    by_cases hji : j = i
    · subst hji
      exact ⟨_, List.getElem?_set_self hlt, hc.holderAfter hw h hmem⟩
    · obtain ⟨w', hw', hholder⟩ := hc.holders j key ((hgrows.reserved j key hji).mp hmem)
      exact ⟨w', by rw [List.getElem?_set_ne (Ne.symm hji), hw'], hholder⟩
  · intro d e he
    show e.endpoint < s'.endpoints.length
    rw [hendpoints]
    rcases hgrows.events.back he with ⟨e₀, he₀, hsame⟩ | hge
    · rw [hsame.1]
      exact hc.events d e₀ he₀
    · have hbound : d < s'.events.length := (List.getElem?_eq_some_iff.mp he).1
      have hlength := h.effect.events.2
      omega
  · intro j p hp
    show p.endpoint < s'.endpoints.length
    rw [hendpoints]
    rcases getElem?_set_cases hp with ⟨-, heq⟩ | ⟨-, hother⟩
    · cases heq
    · exact hc.submissions j p hother
  · show UniqueIndex _ s'.endpoints
    rw [hendpoints]
    exact hc.ids

theorem keyed {permits : Ingress → IngressLabel → Prop}
    (h : (ingress lower cfg).system.Reach permits c) : Keyed c := by
  refine System.Reach.invariant ?_ ?_ h
  · rintro ⟨t, procs⟩ ⟨rfl, rfl⟩
    refine ⟨⟨.nil _, .nil _, ?_, nofun, nofun⟩, ?_, nofun, ?_, ?_, .nil _⟩
    · rintro key (⟨row, hmem, -⟩ | ⟨row, hmem, -⟩) <;> cases hmem
    · intro i w event endpoint hw
      simp at hw
    · intro d e he
      simp at he
    · intro i p hp
      simp at hp
  · intro c l c' hr hc _ hstep
    have ha := accounted hr
    cases l with
    | env label =>
      obtain ⟨s', started, hout, rfl⟩ := Program.step_env hstep
      obtain ⟨henv, hstarted⟩ := ingressStep_cases hout
      exact hc.afterEnv ha henv hstarted
    | work i a =>
      obtain ⟨proc, s', proc', hproc, hout, rfl⟩ := Program.step_work hstep
      rcases work_cases hout with ⟨p, point, rfl, rfl, hcase⟩ | ⟨w, point, rfl, rfl, hcase⟩
      · exact hc.afterSubmission ha hproc hcase
      · exact hc.afterWorker ha hproc hcase

end SupportPilot.ChannelIngress
