import SupportPilot.ChannelIngress.Processing
import SupportPilot.Properties.InboundEvents

/-!
# Who an event comes from and where it belongs

The customer of an event is determined by its channel and identity, and its conversation by its
endpoint and thread, as long as the composed keys are stored as they are looked up. A thread is
one conversation whoever writes in it.
-/

namespace SupportPilot.ChannelIngress

open Library

variable {lower : String → String} {cfg : IngressSettings} {s s' : Store} {c c' : Ingress}
  {i d : Nat} {event event' : InboundChannelEvent} {endpoint endpoint' : ChannelEndpoint}
  {w : Worker} {r r' : Resolution}

/-! ## Keys that are stored as they are -/

/-- The text fits an external id, and no white space is around it. -/
def Exact (text : String) : Prop :=
  text.toList.length ≤ 255 ∧ strip text = text

instance (text : String) : Decidable (Exact text) := inferInstanceAs (Decidable (_ ∧ _))

def ExactIdentity (endpoint : ChannelEndpoint) (event : InboundChannelEvent) : Prop :=
  Exact (identityText endpoint.channel event.externalIdentity)

def ExactThread (endpoint : ChannelEndpoint) (event : InboundChannelEvent) : Prop :=
  Exact (threadText endpoint event.providerThreadId)

theorem Exact.truncate {text : String} (h : Exact text) : truncate 255 text = text :=
  truncate_of_le h.1

theorem ExactIdentity.lookupKey (h : ExactIdentity endpoint event) :
    lookupKey endpoint event = identityText endpoint.channel event.externalIdentity :=
  Exact.truncate h

theorem ExactThread.threadKey (h : ExactThread endpoint event) :
    threadKey endpoint event = threadText endpoint event.providerThreadId :=
  Exact.truncate h

theorem ExactIdentity.customerKey (h : ExactIdentity endpoint event) :
    customerKey endpoint event =
      .customer endpoint.workspace (identityText endpoint.channel event.externalIdentity) := by
  rw [ChannelIngress.customerKey, h.lookupKey, h.2]

theorem ExactThread.conversationKey (h : ExactThread endpoint event) :
    conversationKey endpoint event =
      .conversation endpoint.workspace (threadText endpoint event.providerThreadId) := by
  rw [ChannelIngress.conversationKey, h.threadKey, h.2]

/-! ## Keys determine what they are made of -/

theorem ChannelType.value_injective : Function.Injective ChannelType.value := by
  intro channel channel' h
  cases channel <;> cases channel' <;> first | rfl | exact absurd h (by decide)

theorem not_mem_value (channel : ChannelType) : ':' ∉ channel.value.toList := by
  cases channel <;> decide

theorem toList_colon (text rest : String) :
    (text ++ ":" ++ rest).toList = text.toList ++ ':' :: rest.toList := by
  rw [String.toList_append, String.toList_append, List.append_assoc]
  rfl

theorem identityText_inj {channel channel' : ChannelType} {identity identity' : String}
    (h : identityText channel identity = identityText channel' identity') :
    channel = channel' ∧ identity = identity' := by
  have hchars := congrArg String.toList h
  rw [identityText, identityText, toList_colon, toList_colon] at hchars
  obtain ⟨hvalue, hidentity⟩ :=
    append_separator_inj (not_mem_value channel) (not_mem_value channel') hchars
  exact ⟨ChannelType.value_injective (String.toList_inj.mp hvalue), String.toList_inj.mp hidentity⟩

theorem not_mem_id (endpoint : ChannelEndpoint) : ':' ∉ endpoint.id.text.toList :=
  endpoint.id.not_mem_text (by decide) (by decide)

theorem threadText_inj {thread thread' : String}
    (h : threadText endpoint thread = threadText endpoint' thread') :
    endpoint.id = endpoint'.id ∧ thread = thread' := by
  have hchars := congrArg String.toList h
  rw [threadText, threadText, toList_colon, toList_colon] at hchars
  obtain ⟨hid, hthread⟩ :=
    append_separator_inj (not_mem_id endpoint) (not_mem_id endpoint') hchars
  exact ⟨Uuid.text_injective (String.toList_inj.mp hid), String.toList_inj.mp hthread⟩

/-! ## The laws -/

/-- Every `PROCESSED` event has been resolved, to the conversation that it is linked to. -/
def AllResolved (s : Store) : Prop :=
  ∀ (d : Nat) (e : InboundChannelEvent), s.events[d]? = some e → e.status = .processed →
    ∃ r ∈ s.resolved, r.event = d ∧ e.conversation = some r.conversation

/-- Two resolved events have one customer exactly if they come from one identity. -/
def CustomerLaw (exact : ChannelEndpoint → InboundChannelEvent → Prop) (s : Store) : Prop :=
  ∀ (r r' : Resolution) (event event' : InboundChannelEvent) (endpoint endpoint' : ChannelEndpoint),
    r ∈ s.resolved → r' ∈ s.resolved → Resolved s r event endpoint →
    Resolved s r' event' endpoint' → exact endpoint event → exact endpoint' event' →
    (r.customer = r'.customer ↔ endpoint.workspace = endpoint'.workspace ∧
      endpoint.channel = endpoint'.channel ∧ event.externalIdentity = event'.externalIdentity)

/-- Two resolved events have one conversation exactly if they come from one thread. -/
def ConversationLaw (exact : ChannelEndpoint → InboundChannelEvent → Prop) (s : Store) : Prop :=
  ∀ (r r' : Resolution) (event event' : InboundChannelEvent) (endpoint endpoint' : ChannelEndpoint),
    r ∈ s.resolved → r' ∈ s.resolved → Resolved s r event endpoint →
    Resolved s r' event' endpoint' → r.event ≠ r'.event → exact endpoint event →
    exact endpoint' event' →
    (r.conversation = r'.conversation ↔ event.endpoint = event'.endpoint ∧
      event.providerThreadId = event'.providerThreadId ∧ event.providerThreadId ≠ "")

/-- A worker is about to look up or to insert the conversation of its event. -/
def Resolving (w : Worker) (customer : CustomerRef) : IngressAction → Prop
  | .findConversation => w.point = .conversation customer
  | .createConversation => w.point = .createConversation customer
  | _ => False

/-- A message of a thread that has a conversation finds it. -/
def ThreadsFound (exact : ChannelEndpoint → InboundChannelEvent → Prop)
    (lower : String → String) (cfg : IngressSettings) (c : Ingress) : Prop :=
  ∀ (i : Nat) (w : Worker) (customer : CustomerRef) (a : IngressAction)
    (event event' : InboundChannelEvent) (endpoint : ChannelEndpoint) (r : Resolution),
    c.procs[i]? = some (.worker w) → Resolving w customer a → Reads c.store w event endpoint →
    exact endpoint event → event.providerThreadId ≠ "" → r ∈ c.store.resolved →
    c.store.events[r.event]? = some event' → event'.endpoint = event.endpoint →
    event'.providerThreadId = event.providerThreadId →
    ∃ c' read, (ingress lower cfg).system.step (.work i a) c = some c' ∧
      c'.procs[i]? =
        some (.worker { w with point := .deliver customer (.existing r.conversation read) })

/-! ## Proofs -/

theorem Resolutions.lawAt (hc : Resolutions s) (hr : r ∈ s.resolved)
    (hrows : Resolved s r event endpoint) : ResolutionLaw s r event endpoint := by
  obtain ⟨event', endpoint', hrows', hlaw⟩ := hc.laws r hr
  obtain rfl := Option.some.inj (hrows'.eventRow.symm.trans hrows.eventRow)
  obtain rfl := Option.some.inj (hrows'.endpointRow.symm.trans hrows.endpointRow)
  exact hlaw

/-- Two resolved events have one customer exactly if their stored keys agree. -/
theorem customer_iff_key (hc : Resolutions s) (hk : StoreKeys s) (hr : r ∈ s.resolved)
    (hr' : r' ∈ s.resolved) (hrows : Resolved s r event endpoint)
    (hrows' : Resolved s r' event' endpoint') :
    r.customer = r'.customer ↔ customerKey endpoint event = customerKey endpoint' event' := by
  obtain ⟨row, hrow, hkey⟩ := (hc.lawAt hr hrows).customer
  obtain ⟨row', hrow', hkey'⟩ := (hc.lawAt hr' hrows').customer
  exact hk.customers.index_iff hrow hrow' hkey hkey'

theorem customerLaw (hc : Resolutions s) (hk : StoreKeys s) : CustomerLaw ExactIdentity s := by
  intro r r' event event' endpoint endpoint' hr hr' hrows hrows' hexact hexact'
  rw [customer_iff_key hc hk hr hr' hrows hrows', hexact.customerKey, hexact'.customerKey]
  constructor
  · intro hsame
    obtain ⟨hworkspace, htext⟩ := UniqueKey.customer.inj hsame
    exact ⟨hworkspace, identityText_inj htext⟩
  · rintro ⟨hworkspace, hchannel, hidentity⟩
    rw [hworkspace, hchannel, hidentity]

/-- An endpoint is determined by its id. -/
theorem endpoint_unique {k k' : Nat}
    (hids : UniqueIndex (fun endpoint => some endpoint.id) s.endpoints)
    (h : s.endpoints[k]? = some endpoint) (h' : s.endpoints[k']? = some endpoint')
    (hid : endpoint.id = endpoint'.id) : k = k' :=
  hids k k' endpoint endpoint' _ h h' rfl (congrArg some hid.symm)

theorem conversationLaw (hc : Resolutions s) (hk : StoreKeys s)
    (hids : UniqueIndex (fun endpoint => some endpoint.id) s.endpoints) :
    ConversationLaw ExactThread s := by
  intro r r' event event' endpoint endpoint' hr hr' hrows hrows' hother hexact hexact'
  obtain ⟨row, hrow, hkey⟩ := (hc.lawAt hr hrows).conversation
  obtain ⟨row', hrow', hkey'⟩ := (hc.lawAt hr' hrows').conversation
  -- a conversation without a key is of one event only
  have hnamed : r.conversation = r'.conversation → event.providerThreadId ≠ "" := by
    intro hsame hblank
    rw [if_pos hblank] at hkey
    exact hother (congrArg Resolution.event (hc.alone r hr r' hr' row hrow hkey hsame))
  have hnamed' : r.conversation = r'.conversation → event'.providerThreadId ≠ "" := by
    intro hsame hblank
    rw [if_pos hblank] at hkey'
    exact hother (congrArg Resolution.event
      (hc.alone r' hr' r hr row' hrow' hkey' hsame.symm).symm)
  have hiff : event.providerThreadId ≠ "" → event'.providerThreadId ≠ "" →
      (r.conversation = r'.conversation ↔
        conversationKey endpoint event = conversationKey endpoint' event') := by
    intro hthread hthread'
    rw [if_neg hthread] at hkey
    rw [if_neg hthread'] at hkey'
    exact hk.conversations.index_iff hrow hrow' hkey hkey'
  rw [hexact.conversationKey, hexact'.conversationKey] at hiff
  constructor
  · intro hsame
    have hkeys := (hiff (hnamed hsame) (hnamed' hsame)).mp hsame
    obtain ⟨-, htext⟩ := UniqueKey.conversation.inj hkeys
    obtain ⟨hid, hthread⟩ := threadText_inj htext
    exact ⟨endpoint_unique hids hrows.endpointRow hrows'.endpointRow hid, hthread, hnamed hsame⟩
  · rintro ⟨hendpoint, hthread, hne⟩
    have hrow := hrows.endpointRow
    rw [hendpoint, hrows'.endpointRow] at hrow
    cases hrow
    refine (hiff hne (by rwa [← hthread])).mpr ?_
    rw [hthread]

/-- The lookup by the key of a conversation that is there finds it. -/
theorem findConversation_of_key {workspace q : Nat} {externalId : String} {row : Conversation}
    (hk : UniqueIndex Conversation.uniqueKey s.conversations)
    (hrow : s.conversations[q]? = some row)
    (hkey : row.uniqueKey = some (.conversation workspace externalId)) :
    s.findConversation workspace externalId = some q := by
  cases hfound : s.findConversation workspace externalId with
  | none =>
    exact absurd (.inr ⟨row, List.mem_of_getElem? hrow, hkey⟩) (not_taken_conversation hfound)
  | some q' =>
    obtain ⟨row', hrow', hkey'⟩ := findConversation_some hfound
    rw [hk q' q row' row _ hrow' hrow hkey' hkey]

theorem threadsFound (hc : Resolutions c.store) (hk : Keyed c) :
    ThreadsFound ExactThread lower cfg c := by
  intro i w customer a event event' endpoint r hw hresolving hreads hexact hnamed hr hevent'
    hendpoint hthread
  have hrows : Resolved c.store r event' endpoint :=
    ⟨hevent', by rw [hendpoint, hreads.endpointRow]⟩
  obtain ⟨row, hrow, hkey⟩ := (hc.lawAt hr hrows).conversation
  have hkeys : conversationKey endpoint event' = conversationKey endpoint event := by
    simp only [conversationKey, threadKey, hthread]
  rw [hthread, if_neg hnamed, hkeys, hexact.conversationKey] at hkey
  have hfound : c.store.findConversation endpoint.workspace
      (threadText endpoint event.providerThreadId) = some r.conversation :=
    findConversation_of_key hk.store.conversations hrow hkey
  have hlookup : threadExternalId endpoint event.providerThreadId =
      threadText endpoint event.providerThreadId := hexact.threadKey
  have hstep : processStep lower i w c.store endpoint event a =
      some (c.store, { w with point := .deliver customer (.existing r.conversation row) }) := by
    cases a with
    | findConversation =>
      have hpoint : w.point = .conversation customer := hresolving
      simp only [processStep, hpoint, findConversationStep, if_neg hnamed, hlookup, hfound,
        Option.bind_some, hrow]
    | createConversation =>
      have hpoint : w.point = .createConversation customer := hresolving
      have haccepted : (newConversation endpoint event 0).accepted = true :=
        newConversation_accepted (hc.events _ event hreads.eventRow)
      simp only [processStep, hpoint, createConversationStep, haccepted,
        newConversation_externalId, if_neg hnamed, hlookup, hexact.2, hfound,
        Option.bind_some, hrow]
      rfl
    | _ => cases hresolving
  exact ⟨_, row, step_worker cfg hw (workerStep_process hreads hstep),
    List.getElem?_set_self (List.getElem?_eq_some_iff.mp hw).1⟩

/-! ## Main results -/

/-- In every run, processed events have their customers by channel and identity and their
conversations by endpoint and thread, and a message of a thread that is there finds it, whenever
the composed keys are stored as they are. -/
theorem threads_and_identities (lower : String → String) (cfg : IngressSettings)
    (h : (ingress lower cfg).system.Reach (fun _ _ => True) c) :
    AllResolved c.store ∧ CustomerLaw ExactIdentity c.store ∧
      ConversationLaw ExactThread c.store ∧ ThreadsFound ExactThread lower cfg c := by
  have hc := resolutions h
  have hk := keyed h
  exact ⟨hc.processed, customerLaw hc hk.store, conversationLaw hc hk.store hk.ids,
    threadsFound hc hk⟩

/-! ## Runs -/

/-- Two events of one endpoint are accepted, and the first one is processed. -/
def secondEvent (first second : Envelope) : List IngressLabel :=
  [.env (.createEndpoint
      { id := .replicate 0, workspace := 1, channel := .genericWebhook }),
    .env (.receiveWebhook 0 first "digest-1"), .env (.receiveWebhook 0 second "digest-2"),
    .work 0 .lookup, .work 0 (.insert 1 true), .work 1 .lookup, .work 1 (.insert 1 true),
    .env (.task 0), .env (.task 1), .work 2 (.claim 2), .work 2 .resolveIdentity,
    .work 2 .createCustomer, .work 2 .findConversation, .work 2 .createConversation,
    .work 2 (.deliver 3 true), .work 3 (.claim 4), .work 3 .resolveIdentity]

/-- Two customers write in one thread. -/
def sharedThread : List IngressLabel :=
  secondEvent { eventId := "evt-1", threadId := some "t", sender := "cust-1", body := "hi" }
      { eventId := "evt-2", threadId := some "t", sender := "cust-2", body := "ho" } ++
    [.work 3 .createCustomer, .work 3 .findConversation, .work 3 (.deliver 5 true)]

/-- Two messages of a thread whose id ends in a blank. -/
def blankThread : List IngressLabel :=
  secondEvent { eventId := "evt-1", threadId := some "t ", sender := "cust-1", body := "hi" }
      { eventId := "evt-2", threadId := some "t ", sender := "cust-1", body := "ho" } ++
    [.work 3 .findConversation]

theorem threads_and_identities_shared :
    ConversationLaw ExactThread (ingressEnd (fun _ _ => True) sharedThread).store ∧
      (ingressEnd (fun _ _ => True) sharedThread).store.resolved = [⟨0, 0, 0⟩, ⟨1, 1, 0⟩] :=
  ⟨(threads_and_identities String.toLower {}
      (reaches_ingressEnd (fun _ _ => True) sharedThread)).2.2.1, by decide +kernel⟩

/-! ## Keys that are cut -/

def filler : List Char := List.replicate 239 'a'

theorem length_filler : filler.length = 239 := List.length_replicate

theorem eq_of_mem_filler {character : Char} (h : character ∈ filler) : character = 'a' :=
  List.eq_of_mem_replicate h

/-- Identities that differ only behind the 255th character of their keys. -/
def longSender (last : Char) : String := .ofList (filler ++ [last])

def longEnvelope (eventId : String) (last : Char) : Envelope :=
  { eventId, sender := longSender last, body := "hi" }

def longMessage (eventId : String) (last : Char) : CanonicalInboundMessage :=
  { providerEventId := eventId, externalIdentity := longSender last, body := "hi" }

def longEndpoint : ChannelEndpoint where
  id := .replicate 0
  workspace := 1
  channel := .genericWebhook

def cutKey : String := .ofList ("generic_webhook:".toList ++ filler)

theorem longSender_toList (last : Char) : (longSender last).toList = filler ++ [last] :=
  String.toList_ofList

theorem length_longSender (last : Char) : (longSender last).toList.length = 240 := by
  rw [longSender_toList, List.length_append, length_filler]
  rfl

theorem longSender_key (last : Char) :
    channelIdentityKey .genericWebhook (longSender last) = cutKey := by
  have hchars : (identityText .genericWebhook (longSender last)).toList =
      ("generic_webhook:".toList ++ filler) ++ [last] := by
    rw [identityText, String.toList_append, String.toList_append, longSender_toList,
      ← List.append_assoc]
    rfl
  have hlength : ("generic_webhook:".toList ++ filler).length = 255 := by
    rw [List.length_append, length_filler]
    rfl
  rw [channelIdentityKey, truncate, hchars, List.take_left' hlength]
  rfl

theorem cutKey_toList : cutKey.toList = "generic_webhook:".toList ++ filler :=
  String.toList_ofList

theorem strip_cutKey : strip cutKey = cutKey := by
  have hchars : (("generic_webhook:".toList ++ filler).dropWhile isSpace).rdropWhile isSpace =
      "generic_webhook:".toList ++ filler := by
    decide +kernel
  rw [strip, cutKey_toList, hchars]
  rfl

theorem longSender_accepted {last : Char} (hlast : last ≠ '\x00') :
    varcharAccepts 255 (longSender last) = true := by
  have hno : '\x00' ∉ (longSender last).toList := by
    rw [longSender_toList, List.mem_append, List.mem_singleton, not_or]
    exact ⟨fun hmem => absurd (eq_of_mem_filler hmem) (by decide), Ne.symm hlast⟩
  simp only [varcharAccepts, Bool.and_eq_true, decide_eq_true_eq, Bool.not_eq_true',
    List.contains_eq_mem, decide_eq_false_iff_not, length_longSender]
  exact ⟨by omega, hno⟩

theorem normalize_longEnvelope (lower : String → String) (cfg : IngressSettings) (last : Char)
    (eventId : String) (hid : eventId ≠ "") (hshort : truncate 255 eventId = eventId)
    (hbody : truncate cfg.maxMessageBodyLength "hi" = "hi") :
    normalize lower cfg .genericWebhook (longEnvelope eventId last) =
      some (longMessage eventId last) := by
  have hcut : truncate 255 (longSender last) = longSender last := by
    apply truncate_of_le
    rw [length_longSender]
    omega
  have hsender : longSender last ≠ "" := by
    intro hempty
    have hlength := length_longSender last
    rw [hempty] at hlength
    cases hlength
  have hvalid : (longEnvelope eventId last).valid = true := by
    rw [Envelope.valid, longEnvelope, Bool.and_eq_true, Bool.and_eq_true]
    exact ⟨⟨decide_eq_true hid, decide_eq_true hsender⟩, rfl⟩
  rw [normalize, hvalid]
  simp only [longEnvelope, longMessage, hshort, hcut, hbody]
  rfl

theorem ordinary_longMessage (lower : String → String) {last : Char} (hlast : last ≠ '\x00')
    (eventId payloadDigest : String) :
    Ordinary lower longEndpoint (newEvent 0 (longMessage eventId last) payloadDigest 0) := by
  have hkey : lookupKey longEndpoint (newEvent 0 (longMessage eventId last) payloadDigest 0) =
      cutKey := longSender_key last
  constructor
  · decide
  · rfl
  · rfl
  · show strip "hi" ≠ ""
    decide
  · exact newCustomer_accepted (by decide) (longSender_accepted hlast)
  · have hblank : ∀ n, varcharAccepts n "" = true := by
      intro n
      simp [varcharAccepts]
    exact ⟨hblank 255, hblank 300⟩
  · rw [hkey, strip_cutKey]
  · show strip (truncate 255 (longEndpoint.id.text ++ ":" ++ "")) =
      truncate 255 (longEndpoint.id.text ++ ":" ++ "")
    decide +kernel

theorem accepted_longMessage {last : Char} (hlast : last ≠ '\x00') {eventId : String}
    (hid : varcharAccepts 255 eventId = true) :
    (newEvent 0 (longMessage eventId last) "digest" 0).accepted = true := by
  show (varcharAccepts 255 eventId && varcharAccepts 255 "" && varcharAccepts 255 "" &&
    varcharAccepts 64 "digest" && varcharAccepts 255 (longSender last) && varcharAccepts 300 "" &&
    !"hi".toList.contains '\x00') = true
  rw [hid, longSender_accepted hlast]
  decide

/-- Both events are stored. -/
theorem longMessages_stored :
    ∃ c, (ingress String.toLower {}).system.Reach (fun _ _ => True) c ∧
      c.store = { endpoints := [longEndpoint],
                  events := [newEvent 0 (longMessage "evt-1" 'b') "digest" 0,
                    newEvent 0 (longMessage "evt-2" 'c') "digest" 0] } := by
  have hinit : (ingress String.toLower {}).system.initial ⟨{}, []⟩ := ⟨rfl, rfl⟩
  have hcreated : (ingress String.toLower {}).system.Reach (fun _ _ => True)
      ⟨{ endpoints := [longEndpoint] }, []⟩ :=
    .step (l := .env (.createEndpoint longEndpoint)) (.init hinit) trivial rfl
  have hbody : truncate ({} : IngressSettings).maxMessageBodyLength "hi" = "hi" := by decide
  have hfirst := normalize_longEnvelope String.toLower {} 'b' "evt-1" (by decide)
    (by decide) hbody
  have hsecond := normalize_longEnvelope String.toLower {} 'c' "evt-2" (by decide)
    (by decide) hbody
  obtain ⟨c₁, h₁, hs₁⟩ := webhook_stored (c := ⟨{ endpoints := [longEndpoint] }, []⟩) (k := 0) rfl
    rfl hfirst (accepted_longMessage (by decide) (by decide)) rfl
  have hnew : c₁.store.findEvent 0 "evt-2" = none := by
    rw [hs₁]
    decide
  have hendpoint : c₁.store.endpoints[0]? = some longEndpoint := by
    rw [hs₁]
    rfl
  obtain ⟨c₂, h₂, hs₂⟩ := webhook_stored (k := 0) hendpoint rfl hsecond
    (accepted_longMessage (by decide) (by decide)) hnew
  refine ⟨c₂, (hcreated.follow h₁).follow h₂, ?_⟩
  rw [hs₂, hs₁]
  rfl

/-- Processed one after the other, both events have one customer. -/
theorem merged_identities :
    ∃ c, (ingress String.toLower {}).system.Reach (fun _ _ => True) c ∧
      ¬ CustomerLaw (fun _ _ => True) c.store := by
  obtain ⟨c, hreach, hstore⟩ := longMessages_stored
  have hfirst : c.store.events[0]? = some (newEvent 0 (longMessage "evt-1" 'b') "digest" 0) := by
    rw [hstore]
    rfl
  have hsecond : c.store.events[1]? = some (newEvent 0 (longMessage "evt-2" 'c') "digest" 0) := by
    rw [hstore]
    rfl
  have hendpoint : c.store.endpoints[0]? = some longEndpoint := by
    rw [hstore]
    rfl
  have hidle : c.store.reserved = [] := by rw [hstore]
  have hnone : c.store.resolved = [] := by rw [hstore]
  obtain ⟨c₁, k, q, h₁, hidle₁, hendpoints₁, hresolved₁, ⟨row, hrow, -, hsame⟩, hother₁⟩ :=
    processed_alone {} hfirst rfl hendpoint
      (ordinary_longMessage String.toLower (by decide) "evt-1" "digest") hidle
  obtain ⟨c₂, k', q', h₂, -, hendpoints₂, hresolved₂, ⟨row', hrow', -, hsame'⟩, hother₂⟩ :=
    processed_alone {} ((hother₁ 1 (by decide)).trans hsecond) rfl
      (by rw [hendpoints₁]; exact hendpoint)
      (ordinary_longMessage String.toLower (by decide) "evt-2" "digest") hidle₁
  have hreach₂ := (hreach.follow h₁).follow h₂
  have hresolved : c₂.store.resolved = [⟨0, k, q⟩, ⟨1, k', q'⟩] := by
    rw [hresolved₂, hresolved₁, hnone]
    rfl
  have hendpoints : c₂.store.endpoints[0]? = some longEndpoint := by
    rw [hendpoints₂, hendpoints₁, hendpoint]
  have hrows : Resolved c₂.store ⟨0, k, q⟩ row longEndpoint :=
    ⟨(hother₂ 0 (by decide)).trans hrow, by rw [hsame.1]; exact hendpoints⟩
  have hrows' : Resolved c₂.store ⟨1, k', q'⟩ row' longEndpoint :=
    ⟨hrow', by rw [hsame'.1]; exact hendpoints⟩
  have hmem : (⟨0, k, q⟩ : Resolution) ∈ c₂.store.resolved := by simp [hresolved]
  have hmem' : (⟨1, k', q'⟩ : Resolution) ∈ c₂.store.resolved := by simp [hresolved]
  refine ⟨c₂, hreach₂, fun hlaw => ?_⟩
  have hcustomer : k = k' := by
    refine (customer_iff_key (resolutions hreach₂) (keyed hreach₂).store hmem hmem' hrows
      hrows').mpr ?_
    rw [customerKey_same hsame (.refl _), customerKey_same hsame' (.refl _)]
    simp only [customerKey, lookupKey, newEvent, longMessage]
    rw [show longEndpoint.channel = .genericWebhook from rfl, longSender_key, longSender_key]
  obtain ⟨-, -, hidentity⟩ :=
    (hlaw _ _ _ _ _ _ hmem hmem' hrows hrows' trivial trivial).mp hcustomer
  rw [hsame.2.2.2.2.2, hsame'.2.2.2.2.2] at hidentity
  have hchars : (longSender 'b').toList = (longSender 'c').toList :=
    congrArg String.toList hidentity
  rw [longSender_toList, longSender_toList] at hchars
  exact absurd (List.append_cancel_left hchars) (by decide)

/-! ## Shared threads and cut keys -/

/-- Messages of different customers are in different conversations. -/
def CustomersApart (s : Store) : Prop :=
  ∀ r ∈ s.resolved, ∀ r' ∈ s.resolved, r.conversation = r'.conversation → r.customer = r'.customer

/-- The second message of the thread finds no conversation, and its insert is refused. -/
theorem blank_thread_refused :
    ¬ ThreadsFound (fun _ _ => True) String.toLower {}
      (ingressEnd (fun _ _ => True) blankThread) := by
  intro hlaw
  have hfacts : (fun t : Ingress => (t.procs[3]?,
      t.store.events.map (fun e => (e.endpoint, e.providerThreadId)), t.store.endpoints.length,
      t.store.resolved,
      ((ingress String.toLower {}).system.step (.work 3 .createConversation) t).bind
        (·.procs[3]?))) (ingressEnd (fun _ _ => True) blankThread) =
      (some (.worker { event := 1, point := .createConversation (.existing 0) }),
        [(0, "t "), (0, "t ")], 1, [⟨0, 0, 0⟩],
        some (.worker { event := 1, point := .failing "processing_failed" })) := by decide +kernel
  generalize ingressEnd (fun _ _ => True) blankThread = t at hlaw hfacts
  obtain ⟨hw, hrest⟩ := Prod.mk.inj hfacts
  obtain ⟨hevents, hrest⟩ := Prod.mk.inj hrest
  obtain ⟨hendpoints, hrest⟩ := Prod.mk.inj hrest
  obtain ⟨hresolved, hfails⟩ := Prod.mk.inj hrest
  have hrow : ∀ d, d < 2 → ∃ e, t.store.events[d]? = some e ∧ e.endpoint = 0 ∧
      e.providerThreadId = "t " := by
    intro d hd
    have hmap := congrArg (fun l => l[d]?) hevents
    simp only [List.getElem?_map] at hmap
    obtain ⟨e, he, hfields⟩ : ∃ e, t.store.events[d]? = some e ∧
        (e.endpoint, e.providerThreadId) = (0, "t ") := by
      refine Option.map_eq_some_iff.mp (hmap.trans ?_)
      rcases d with _ | _ | d
      · rfl
      · rfl
      · omega
    exact ⟨e, he, (Prod.mk.inj hfields).1, (Prod.mk.inj hfields).2⟩
  obtain ⟨e, he, hendpoint, hthread⟩ := hrow 0 (by decide)
  obtain ⟨e', he', hendpoint', hthread'⟩ := hrow 1 (by decide)
  obtain ⟨endpoint, hep⟩ : ∃ endpoint, t.store.endpoints[0]? = some endpoint :=
    ⟨_, List.getElem?_eq_getElem (by omega)⟩
  have hmem : (⟨0, 0, 0⟩ : Resolution) ∈ t.store.resolved := by simp [hresolved]
  obtain ⟨c', read, hstep, hpoint⟩ := hlaw 3 _ (.existing 0) .createConversation e' e endpoint
    ⟨0, 0, 0⟩ hw rfl ⟨he', by rw [hendpoint']; exact hep⟩ trivial
    (by rw [hthread']; decide) hmem he (by rw [hendpoint, hendpoint']) (by rw [hthread, hthread'])
  rw [hstep, Option.bind_some, hpoint] at hfails
  cases hfails

/-- Two customers share a thread, two identities share a cut key, and a thread whose id ends in a
blank is not found again. -/
theorem threads_not_always_apart :
    (¬ ∀ (lower : String → String) (cfg : IngressSettings) (c : Ingress),
        (ingress lower cfg).system.Reach (fun _ _ => True) c → CustomersApart c.store) ∧
      (¬ ∀ (lower : String → String) (cfg : IngressSettings) (c : Ingress),
        (ingress lower cfg).system.Reach (fun _ _ => True) c →
          CustomerLaw (fun _ _ => True) c.store) ∧
      ¬ ∀ (lower : String → String) (cfg : IngressSettings) (c : Ingress),
        (ingress lower cfg).system.Reach (fun _ _ => True) c →
          ThreadsFound (fun _ _ => True) lower cfg c := by
  refine ⟨fun hlaw => ?_, fun hlaw => ?_, fun hlaw => ?_⟩
  · have hresolved : (ingressEnd (fun _ _ => True) sharedThread).store.resolved =
        [⟨0, 0, 0⟩, ⟨1, 1, 0⟩] := by decide +kernel
    have hapart := hlaw String.toLower {} _ (reaches_ingressEnd (fun _ _ => True) sharedThread)
    have hsame := hapart ⟨0, 0, 0⟩ (by simp [hresolved]) ⟨1, 1, 0⟩ (by simp [hresolved]) rfl
    cases hsame
  · obtain ⟨c, hreach, hno⟩ := merged_identities
    exact hno (hlaw String.toLower {} c hreach)
  · exact blank_thread_refused
      (hlaw String.toLower {} _ (reaches_ingressEnd (fun _ _ => True) blankThread))

end SupportPilot.ChannelIngress
