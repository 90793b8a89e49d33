import SupportPilot.ChannelIngress.System
import SupportPilot.Library.Table

/-!
# What a step can do

One relation for submissions and one for workers, each with the guards that a step has passed
and the tables that it leaves.
-/

namespace SupportPilot.ChannelIngress

open Library

variable {lower : String → String} {cfg : IngressSettings} {s s' : Store} {i d : Nat}
  {endpoint : ChannelEndpoint} {event : InboundChannelEvent} {w w' : Worker}
  {p p' : Submission} {a : IngressAction}

/-! ## Keys of new rows -/

theorem stripOrNone_of_head {text : String} {c : Char} {l : List Char}
    (htext : text.toList = c :: l) (hc : isSpace c = false) :
    stripOrNone (truncate 255 text) = some (strip (truncate 255 text)) := by
  have hhead : (truncate 255 text).toList = c :: l.take 254 := by
    rw [truncate, String.toList_ofList, htext, List.take_succ_cons]
  rw [stripOrNone, if_neg (strip_ne_empty hhead hc)]

theorem newCustomer_externalId (lower : String → String) (endpoint : ChannelEndpoint)
    (event : InboundChannelEvent) :
    (newCustomer lower endpoint event).externalId =
      some (strip (channelIdentityKey endpoint.channel event.externalIdentity)) := by
  have hhead : ∃ c l, (identityText endpoint.channel event.externalIdentity).toList = c :: l ∧
      isSpace c = false := by
    simp only [identityText, String.toList_append]
    cases endpoint.channel <;> exact ⟨_, _, rfl, by decide⟩
  obtain ⟨c, l, htext, hc⟩ := hhead
  simp only [newCustomer, Customer.save, Option.bind_some, channelIdentityKey]
  exact stripOrNone_of_head htext hc

theorem newCustomer_workspace (lower : String → String) (endpoint : ChannelEndpoint)
    (event : InboundChannelEvent) :
    (newCustomer lower endpoint event).workspace = endpoint.workspace := rfl

theorem isSpace_hexDigit : ∀ digit, isSpace (Uuid.hexDigit digit) = false := by decide

theorem newConversation_externalId (endpoint : ChannelEndpoint) (event : InboundChannelEvent)
    (customer : Nat) :
    (newConversation endpoint event customer).externalId =
      if event.providerThreadId = "" then none
      else some (strip (threadExternalId endpoint event.providerThreadId)) := by
  by_cases hthread : event.providerThreadId = ""
  · simp [newConversation, Conversation.save, hthread]
  · obtain ⟨digit, l, hid⟩ := endpoint.id.text_eq_cons
    have hhead : (threadText endpoint event.providerThreadId).toList = Uuid.hexDigit digit ::
        (l ++ ":".toList ++ event.providerThreadId.toList) := by
      rw [threadText, String.toList_append, String.toList_append, hid]
      rfl
    simp only [newConversation, Conversation.save, hthread, if_false, Option.bind_some,
      threadExternalId]
    exact stripOrNone_of_head hhead (isSpace_hexDigit digit)

/-! ## Steps of a worker -/

/-- The event of a worker and its endpoint, as the statements read them. -/
structure Reads (s : Store) (w : Worker) (event : InboundChannelEvent)
    (endpoint : ChannelEndpoint) : Prop where
  eventRow : s.events[w.event]? = some event
  endpointRow : s.endpoints[event.endpoint]? = some endpoint

/-- The key of the customer that a worker looks up, and the conversation's. -/
def lookupKey (endpoint : ChannelEndpoint) (event : InboundChannelEvent) : String :=
  channelIdentityKey endpoint.channel event.externalIdentity

def threadKey (endpoint : ChannelEndpoint) (event : InboundChannelEvent) : String :=
  threadExternalId endpoint event.providerThreadId

/-- An attempt that fails on a customer which its own lookup would now find. -/
def Overtaken (s : Store) (w : Worker) (a : IngressAction) : Prop :=
  a = .createCustomer ∧ w.point = .createCustomer ∧ ∃ event endpoint, Reads s w event endpoint ∧
    (s.findCustomer endpoint.workspace (lookupKey endpoint event)).isSome = true

inductive WorkerStep (lower : String → String) (s : Store) (i : Nat) (w : Worker) :
    IngressAction → Store → WorkerPoint → Prop
  | claimed {now : Nat} {event : InboundChannelEvent} : w.point = .start →
      s.events[w.event]? = some event → event.status = .received →
      WorkerStep lower s i w (.claim now)
        (s.setEvent w.event { event with status := .processing, processingStartedAt := some now })
        .identity
  | returned {now : Nat} : w.point = .start →
      (∀ event, s.events[w.event]? = some event → event.status ≠ .received) →
      WorkerStep lower s i w (.claim now) s .returned
  | rolledBack {a : IngressAction} {code : String} {raced : List Nat} :
      w.point.inTransaction = true →
      raced = s.raced ∨ (raced = s.raced ++ [w.event] ∧ Overtaken s w a) →
      WorkerStep lower s i w a { s.release i with raced := raced } (.failing code)
  | markedFailed {now : Nat} {code : String} : w.point = .failing code →
      WorkerStep lower s i w (.markFailed now) (s.markEventFailed w.event code now) .failed
  | vanished : w.point.ended = false →
      WorkerStep lower s i w .vanish (s.release i) .vanished
  | foundCustomer {event : InboundChannelEvent} {endpoint : ChannelEndpoint} {k : Nat} :
      w.point = .identity → Reads s w event endpoint →
      s.findCustomer endpoint.workspace (lookupKey endpoint event) = some k →
      WorkerStep lower s i w .resolveIdentity s (.conversation (.existing k))
  | missingCustomer {event : InboundChannelEvent} {endpoint : ChannelEndpoint} :
      w.point = .identity → Reads s w event endpoint →
      s.findCustomer endpoint.workspace (lookupKey endpoint event) = none →
      endpoint.unknownCustomerPolicy = .create →
      WorkerStep lower s i w .resolveIdentity s .createCustomer
  | insertedCustomer {event : InboundChannelEvent} {endpoint : ChannelEndpoint} :
      w.point = .createCustomer → Reads s w event endpoint →
      s.findCustomer endpoint.workspace (strip (lookupKey endpoint event)) = none →
      s.reservedByOther i
        (.customer endpoint.workspace (strip (lookupKey endpoint event))) = false →
      WorkerStep lower s i w .createCustomer
        (s.reserve i (.customer endpoint.workspace (strip (lookupKey endpoint event))))
        (.conversation .inserted)
  | foundConversation {a : IngressAction} {event : InboundChannelEvent}
      {endpoint : ChannelEndpoint} {customer : CustomerRef} {q : Nat} {read : Conversation} :
      w.point = .conversation customer ∨ w.point = .createConversation customer →
      Reads s w event endpoint → event.providerThreadId ≠ "" →
      s.findConversation endpoint.workspace (threadKey endpoint event) = some q →
      s.conversations[q]? = some read →
      WorkerStep lower s i w a s (.deliver customer (.existing q read))
  | missingConversation {event : InboundChannelEvent} {endpoint : ChannelEndpoint}
      {customer : CustomerRef} : w.point = .conversation customer → Reads s w event endpoint →
      WorkerStep lower s i w .findConversation s (.createConversation customer)
  | freshConversation {event : InboundChannelEvent} {endpoint : ChannelEndpoint}
      {customer : CustomerRef} : w.point = .createConversation customer →
      Reads s w event endpoint → event.providerThreadId = "" →
      WorkerStep lower s i w .createConversation s (.deliver customer .inserted)
  | insertedConversation {event : InboundChannelEvent} {endpoint : ChannelEndpoint}
      {customer : CustomerRef} : w.point = .createConversation customer →
      Reads s w event endpoint → event.providerThreadId ≠ "" →
      s.findConversation endpoint.workspace (strip (threadKey endpoint event)) = none →
      s.reservedByOther i
        (.conversation endpoint.workspace (strip (threadKey endpoint event))) = false →
      WorkerStep lower s i w .createConversation
        (s.reserve i (.conversation endpoint.workspace (strip (threadKey endpoint event))))
        (.deliver customer .inserted)
  | delivered {now : Nat} {dispatched : Bool} {event : InboundChannelEvent}
      {endpoint : ChannelEndpoint} {customer : CustomerRef} {conversation : ConversationRef}
      {s' : Store} : w.point = .deliver customer conversation → Reads s w event endpoint →
      s.deliver lower w.event endpoint event customer conversation now = .ok s' →
      WorkerStep lower s i w (.deliver now dispatched) (s'.release i)
        (if dispatched then .processed else .failing "processing_failed")

/-- A worker that has ended takes no step. -/
theorem WorkerStep.not_ended {q : WorkerPoint} (h : WorkerStep lower s i w a s' q) :
    w.point.ended = false := by
  cases h with
  | rolledBack hin =>
    generalize w.point = point at hin
    cases point <;> first | rfl | cases hin
  | vanished hended => exact hended
  | foundConversation hw => rcases hw with hw | hw <;> rw [hw] <;> rfl
  | claimed hw => rw [hw]; rfl
  | returned hw => rw [hw]; rfl
  | markedFailed hw => rw [hw]; rfl
  | foundCustomer hw => rw [hw]; rfl
  | missingCustomer hw => rw [hw]; rfl
  | insertedCustomer hw => rw [hw]; rfl
  | missingConversation hw => rw [hw]; rfl
  | freshConversation hw => rw [hw]; rfl
  | insertedConversation hw => rw [hw]; rfl
  | delivered hw => rw [hw]; rfl

theorem WorkerStep.rolledBack_of_rollback {code : String}
    (h : w.point.inTransaction = true) :
    WorkerStep lower s i w a (s.rollback i w code).1 (.failing code) :=
  @WorkerStep.rolledBack lower s i w a code s.raced h (.inl rfl)

theorem createCustomerStep_cases (hw : w.point = .createCustomer)
    (hreads : Reads s w event endpoint)
    (h : createCustomerStep lower i w s endpoint event = some (s', w')) :
    ∃ q, w' = { w with point := q } ∧ WorkerStep lower s i w .createCustomer s' q := by
  have hin : w.point.inTransaction = true := by rw [hw]; rfl
  simp only [createCustomerStep, newCustomer_externalId] at h
  split at h
  · cases h
    exact ⟨_, rfl, .rolledBack_of_rollback hin⟩
  · unfold Store.insertUnique at h
    split at h
    · cases h
      refine ⟨_, rfl, .rolledBack hin ?_⟩
      split
      · rename_i hfound
        exact .inr ⟨rfl, rfl, hw, event, endpoint, hreads, hfound⟩
      · exact .inl rfl
    · rename_i htaken
      split at h
      · cases h
      · rename_i hreserved
        cases h
        exact ⟨_, rfl, .insertedCustomer hw hreads (by simpa [lookupKey] using htaken)
          (by simpa [lookupKey] using hreserved)⟩

theorem createConversationStep_cases {customer : CustomerRef}
    (hw : w.point = .createConversation customer) (hreads : Reads s w event endpoint)
    (h : createConversationStep i w s endpoint event customer = some (s', w')) :
    ∃ q, w' = { w with point := q } ∧ WorkerStep lower s i w .createConversation s' q := by
  have hin : w.point.inTransaction = true := by rw [hw]; rfl
  simp only [createConversationStep, newConversation_externalId] at h
  split at h
  · cases h
    exact ⟨_, rfl, .rolledBack_of_rollback hin⟩
  · by_cases hthread : event.providerThreadId = ""
    · rw [if_pos hthread] at h
      cases h
      exact ⟨_, rfl, .freshConversation hw hreads hthread⟩
    · rw [if_neg hthread] at h
      dsimp only at h
      unfold Store.insertUnique at h
      split at h
      · split at h
        · rename_i q read hq hread
          cases h
          rw [hq] at hread
          exact ⟨_, rfl, .foundConversation (.inr hw) hreads hthread hq hread⟩
        · cases h
          exact ⟨_, rfl, .rolledBack hin (.inl rfl)⟩
      · rename_i htaken
        split at h
        · cases h
        · rename_i hreserved
          cases h
          exact ⟨_, rfl, .insertedConversation hw hreads hthread
            (by simpa [threadKey] using htaken) (by simpa [threadKey] using hreserved)⟩

theorem processStep_cases (hreads : Reads s w event endpoint)
    (h : processStep lower i w s endpoint event a = some (s', w')) :
    ∃ q, w' = { w with point := q } ∧ WorkerStep lower s i w a s' q := by
  cases a with
  | resolveIdentity =>
    simp only [processStep] at h
    split at h
    · rename_i hw
      split at h
      · rename_i k hk
        cases h
        exact ⟨_, rfl, .foundCustomer hw hreads hk⟩
      · rename_i hnone
        split at h
        · cases h
          exact ⟨_, rfl, .rolledBack_of_rollback (by rw [hw]; rfl)⟩
        · rename_i hpolicy
          cases h
          refine ⟨_, rfl, .missingCustomer hw hreads hnone ?_⟩
          cases hp : endpoint.unknownCustomerPolicy with
          | create => rfl
          | reject => exact absurd hp hpolicy
    · cases h
  | createCustomer =>
    simp only [processStep] at h
    split at h
    · rename_i hw
      exact createCustomerStep_cases hw hreads h
    · cases h
  | findConversation =>
    simp only [processStep] at h
    split at h
    · rename_i customer hw
      unfold findConversationStep at h
      split at h
      · cases h
        exact ⟨_, rfl, .missingConversation hw hreads⟩
      · rename_i hthread
        dsimp only at h
        split at h
        · rename_i q read hq hread
          cases h
          rw [hq] at hread
          exact ⟨_, rfl, .foundConversation (.inl hw) hreads hthread hq hread⟩
        · cases h
          exact ⟨_, rfl, .missingConversation hw hreads⟩
    · cases h
  | createConversation =>
    simp only [processStep] at h
    split at h
    · rename_i customer hw
      exact createConversationStep_cases hw hreads h
    · cases h
  | deliver now dispatched =>
    simp only [processStep] at h
    split at h
    · rename_i customer conversation hw
      split at h
      · rename_i t hdeliver
        cases h
        exact ⟨_, rfl, .delivered hw hreads hdeliver⟩
      · cases h
        exact ⟨_, rfl, .rolledBack_of_rollback (by rw [hw]; rfl)⟩
    · cases h
  | _ => cases h

theorem workerStep_cases (h : workerStep lower i a w s = some (s', w')) :
    ∃ q, w' = { w with point := q } ∧ WorkerStep lower s i w a s' q := by
  unfold workerStep at h
  split at h
  · split at h
    · rename_i now hw
      split at h
      · rename_i hnone
        cases h
        exact ⟨_, rfl, .returned hw fun event he => by rw [hnone] at he; cases he⟩
      · rename_i event hevent
        split at h
        · rename_i hstatus
          cases h
          refine ⟨_, rfl, .returned hw fun e he => ?_⟩
          rw [hevent] at he
          cases he
          exact hstatus
        · rename_i hstatus
          cases h
          exact ⟨_, rfl, .claimed hw hevent (not_not.mp hstatus)⟩
    · cases h
  · split at h
    · rename_i now code hw
      cases h
      exact ⟨_, rfl, .markedFailed hw⟩
    · cases h
  · split at h
    · rename_i hin
      cases h
      exact ⟨_, rfl, .rolledBack_of_rollback hin⟩
    · cases h
  · split at h
    · cases h
    · rename_i hended
      cases h
      exact ⟨_, rfl, .vanished (by simpa using hended)⟩
  · split at h
    · cases h
    · rename_i event hevent
      split at h
      · cases h
      · rename_i endpoint hendpoint
        exact processStep_cases ⟨hevent, hendpoint⟩ h

/-- The statements of the transaction run on the rows that the worker reads. -/
theorem workerStep_process {out : Store × Worker} (hreads : Reads s w event endpoint)
    (h : processStep lower i w s endpoint event a = some out) :
    workerStep lower i a w s = some out := by
  cases a with
  | claim => cases h
  | markFailed => cases h
  | raise => cases h
  | vanish => cases h
  | _ =>
    simp only [workerStep, hreads.eventRow, hreads.endpointRow]
    exact h

theorem workerStep_claim {now : Nat} (hevent : s.events[d]? = some event)
    (hstatus : event.status = .received) :
    workerStep lower i (.claim now) { event := d } s =
      some (s.setEvent d { event with status := .processing, processingStartedAt := some now },
        { event := d, point := .identity }) := by
  simp [workerStep, hevent, hstatus]

/-! ## The commit -/

/-- What identifies a conversation, and what its later writes leave alone. -/
def SameThread (row row' : Conversation) : Prop :=
  row'.workspace = row.workspace ∧ row'.externalId = row.externalId ∧ row'.customer = row.customer

theorem SameThread.refl (row : Conversation) : SameThread row row := ⟨rfl, rfl, rfl⟩

theorem SameThread.trans {r r' r'' : Conversation} (h : SameThread r r') (h' : SameThread r' r'') :
    SameThread r r'' :=
  ⟨h'.1.trans h.1, h'.2.1.trans h.2.1, h'.2.2.trans h.2.2⟩

/-- The commit of the processing transaction. -/
structure Delivered (lower : String → String) (s s' : Store) (d : Nat)
    (endpoint : ChannelEndpoint) (event : InboundChannelEvent) (customer : CustomerRef)
    (conversation : ConversationRef) (now k q : Nat) : Prop where
  endpoints : s'.endpoints = s.endpoints
  events : s'.events = s.events.modify d fun event =>
    { event with
      status := .processed
      conversation := some q
      message := some s.messages.length
      processedAt := some now }
  customers : (customer = .existing k ∧ s'.customers = s.customers) ∨
    (customer = .inserted ∧ k = s.customers.length ∧
      s'.customers = s.customers ++ [newCustomer lower endpoint event])
  conversations : ∃ kept, Rows SameThread kept s'.conversations ∧
    s'.conversations.length = kept.length ∧
    ((∃ read, conversation = .existing q read ∧ kept = s.conversations) ∨
      (conversation = .inserted ∧ q = s.conversations.length ∧
        kept = s.conversations ++ [newConversation endpoint event k]))
  messages : ∃ row, s'.messages = s.messages ++ [row] ∧ row.inboundEvent = d ∧
    row.conversation = q
  runs : s'.runs = if s.runs.any (·.triggerMessage = some s.messages.length) then s.runs
    else s.runs ++ [newAgentRun endpoint.workspace endpoint.agentVersion (some q)
      (some s.messages.length) none now]
  reserved : s'.reserved = s.reserved
  resolved : s'.resolved = s.resolved ++ [⟨d, k, q⟩]
  raced : s'.raced = s.raced

theorem linkChatSession_ok {conversation customer : Nat}
    (h : s.linkChatSession endpoint event conversation customer = some s') :
    ∃ sessions, s' = { s with sessions := sessions } := by
  unfold Store.linkChatSession at h
  dsimp only at h
  split at h
  · cases h
    exact ⟨_, rfl⟩
  · split at h
    · cases h
      exact ⟨_, rfl⟩
    · split at h
      · cases h
      · cases h
        exact ⟨_, rfl⟩

theorem startSupportAgentRun_ok {conversation message now : Nat} {body : String}
    (h : s.startSupportAgentRun endpoint conversation message body now = some s') :
    s' = s.createAgentRun endpoint conversation message now := by
  unfold Store.startSupportAgentRun at h
  split at h
  · cases h
  · split at h
    · cases h
    · exact (Option.some.inj h).symm

theorem sameThread_save (now : Nat) (read row : Conversation) :
    SameThread row (if read.status = .closed then
      { row with lastMessageAt := some now, status := .opened, closedAt := none }
    else { row with lastMessageAt := some now }) := by
  split <;> exact ⟨rfl, rfl, rfl⟩

/-- The part of a commit that does not depend on where its rows come from. -/
structure Concluded (s s' : Store) (d : Nat) (endpoint : ChannelEndpoint) (now k q : Nat) :
    Prop where
  endpoints : s'.endpoints = s.endpoints
  events : s'.events = s.events.modify d fun event =>
    { event with
      status := .processed
      conversation := some q
      message := some s.messages.length
      processedAt := some now }
  customers : s'.customers = s.customers
  conversations : Rows SameThread s.conversations s'.conversations
  length : s'.conversations.length = s.conversations.length
  messages : ∃ row, s'.messages = s.messages ++ [row] ∧ row.inboundEvent = d ∧
    row.conversation = q
  runs : s'.runs = if s.runs.any (·.triggerMessage = some s.messages.length) then s.runs
    else s.runs ++ [newAgentRun endpoint.workspace endpoint.agentVersion (some q)
      (some s.messages.length) none now]
  reserved : s'.reserved = s.reserved
  resolved : s'.resolved = s.resolved ++ [⟨d, k, q⟩]
  raced : s'.raced = s.raced

theorem conclude_ok {k q now : Nat} {read : Conversation}
    (h : s.conclude d endpoint event k q read now = .ok s') :
    Concluded s s' d endpoint now k q := by
  unfold Store.conclude at h
  split at h
  · cases h
  · rename_i linked hlink
    obtain ⟨sessions, rfl⟩ := linkChatSession_ok hlink
    dsimp only at h
    split at h
    · cases h
    · rename_i started hstart
      obtain rfl := startSupportAgentRun_ok hstart
      cases h
      unfold Store.createAgentRun
      have hrows := Rows.modify SameThread.refl (sameThread_save now read) s.conversations q
      split
      · rename_i hrun
        exact ⟨rfl, rfl, rfl, hrows, List.length_modify .., ⟨_, rfl, rfl, rfl⟩,
          (if_pos hrun).symm, rfl, rfl, rfl⟩
      · rename_i hrun
        exact ⟨rfl, rfl, rfl, hrows, List.length_modify .., ⟨_, rfl, rfl, rfl⟩,
          (if_neg hrun).symm, rfl, rfl, rfl⟩

theorem deliver_ok {customer : CustomerRef} {conversation : ConversationRef} {now : Nat}
    (h : s.deliver lower d endpoint event customer conversation now = .ok s') :
    ∃ k q, Delivered lower s s' d endpoint event customer conversation now k q := by
  unfold Store.deliver at h
  cases customer <;> cases conversation
  all_goals
    have hconcluded := conclude_ok h
    refine ⟨_, _, hconcluded.endpoints, hconcluded.events, ?_, ?_, hconcluded.messages,
      hconcluded.runs, hconcluded.reserved, hconcluded.resolved, hconcluded.raced⟩
  · exact .inl ⟨rfl, hconcluded.customers⟩
  · exact ⟨_, hconcluded.conversations, hconcluded.length, .inl ⟨_, rfl, rfl⟩⟩
  · exact .inl ⟨rfl, hconcluded.customers⟩
  · exact ⟨_, hconcluded.conversations, hconcluded.length, .inr ⟨rfl, rfl, rfl⟩⟩
  · exact .inr ⟨rfl, rfl, hconcluded.customers⟩
  · exact ⟨_, hconcluded.conversations, hconcluded.length, .inl ⟨_, rfl, rfl⟩⟩
  · exact .inr ⟨rfl, rfl, hconcluded.customers⟩
  · exact ⟨_, hconcluded.conversations, hconcluded.length, .inr ⟨rfl, rfl, rfl⟩⟩

/-! ## Steps of submissions and of the environment -/

/-- Where a resubmission ends on the event that it meets. -/
def resolvedPoint (p : Submission) (d : Nat) (event : InboundChannelEvent) : SubmissionPoint :=
  if event.payloadDigest ≠ p.payloadDigest then .conflict else .accepted d

inductive SubmissionStep (s : Store) (p : Submission) :
    IngressAction → Store → SubmissionPoint → Prop
  | missing : p.point = .lookup →
      s.findEvent p.endpoint p.canonical.providerEventId = none →
      SubmissionStep s p .lookup s .insert
  | resolved {a : IngressAction} {d : Nat} {event : InboundChannelEvent} :
      s.findEvent p.endpoint p.canonical.providerEventId = some d → s.events[d]? = some event →
      SubmissionStep s p a s (resolvedPoint p d event)
  | refused {now : Nat} {published : Bool} : p.point = .insert →
      (newEvent p.endpoint p.canonical p.payloadDigest now).accepted = false →
      SubmissionStep s p (.insert now published) s .raised
  | inserted {now : Nat} {published : Bool} : p.point = .insert →
      (newEvent p.endpoint p.canonical p.payloadDigest now).accepted = true →
      s.findEvent p.endpoint p.canonical.providerEventId = none →
      SubmissionStep s p (.insert now published)
        { s with events := s.events ++ [newEvent p.endpoint p.canonical p.payloadDigest now] }
        (if published then .accepted s.events.length else .raised)

theorem submissionStep_cases (h : submissionStep a p s = some (s', p')) :
    ∃ q, p' = { p with point := q } ∧ SubmissionStep s p a s' q := by
  unfold submissionStep at h
  split at h
  · split at h
    · rename_i hp
      split at h
      · rename_i hnone
        cases h
        exact ⟨_, rfl, .missing hp hnone⟩
      · rename_i d hd
        obtain ⟨event, hevent, hout⟩ := Option.map_eq_some_iff.mp h
        cases hout
        exact ⟨_, rfl, .resolved hd hevent⟩
    · cases h
  · split at h
    · rename_i hp
      dsimp only at h
      split at h
      · rename_i hrefused
        cases h
        exact ⟨_, rfl, .refused hp (by simpa using hrefused)⟩
      · rename_i haccepted
        split at h
        · rename_i d hd
          obtain ⟨event, hevent, hout⟩ := Option.map_eq_some_iff.mp h
          cases hout
          exact ⟨_, rfl, .resolved hd hevent⟩
        · rename_i hnone
          cases h
          exact ⟨_, rfl, .inserted hp (by simpa using haccepted) hnone⟩
    · cases h
  · cases h

/-- What identifies an endpoint, and what its configuration leaves alone. -/
def SameEndpoint (row row' : ChannelEndpoint) : Prop :=
  row'.id = row.id ∧ row'.workspace = row.workspace ∧ row'.channel = row.channel

theorem SameEndpoint.refl (row : ChannelEndpoint) : SameEndpoint row row := ⟨rfl, rfl, rfl⟩

/-- The environment adds and configures endpoints, adds sessions and changes the status of
conversations. -/
structure EnvStep (s s' : Store) : Prop where
  endpoints : (Rows SameEndpoint s.endpoints s'.endpoints ∧
      s'.endpoints.length = s.endpoints.length) ∨
    ∃ endpoint, s'.endpoints = s.endpoints ++ [endpoint] ∧
      ∀ other ∈ s.endpoints, other.id ≠ endpoint.id
  events : s'.events = s.events
  customers : s'.customers = s.customers
  conversations : Rows SameThread s.conversations s'.conversations
  length : s'.conversations.length = s.conversations.length
  messages : s'.messages = s.messages
  runs : s'.runs = s.runs
  reserved : s'.reserved = s.reserved
  resolved : s'.resolved = s.resolved
  raced : s'.raced = s.raced

/-- A process that the environment starts is at its first statement, and a submission comes
through an endpoint that is there. -/
def Proc.fresh (s : Store) : Proc → Prop
  | .submission p => p.point = .lookup ∧ p.endpoint < s.endpoints.length
  | .worker w => w.point = .start

theorem EnvStep.of_endpoints {endpoints : List ChannelEndpoint}
    (h : (Rows SameEndpoint s.endpoints endpoints ∧ endpoints.length = s.endpoints.length) ∨
      ∃ endpoint, endpoints = s.endpoints ++ [endpoint] ∧
        ∀ other ∈ s.endpoints, other.id ≠ endpoint.id) :
    EnvStep s { s with endpoints := endpoints } :=
  ⟨h, rfl, rfl, .refl .refl _, rfl, rfl, rfl, rfl, rfl, rfl⟩

theorem EnvStep.of_sessions (s : Store) (sessions : List ChatSession) :
    EnvStep s { s with sessions := sessions } :=
  ⟨.inl ⟨.refl .refl _, rfl⟩, rfl, rfl, .refl .refl _, rfl, rfl, rfl, rfl, rfl, rfl⟩

theorem sameThread_changeStatus (row : Conversation) (status : ConversationStatus) (now : Nat) :
    SameThread row (row.changeStatus status now) := by
  unfold Conversation.changeStatus
  split <;> exact ⟨rfl, rfl, rfl⟩

theorem starts_none (s : Store) : ∀ proc ∈ (none : Option Proc), proc.fresh s := nofun

theorem ingressStep_cases {label : IngressEvent} {started : Option Proc}
    (h : ingressStep lower cfg label s = some (s', started)) :
    EnvStep s s' ∧ ∀ proc ∈ started, proc.fresh s := by
  cases label with
  | createEndpoint endpoint =>
    simp only [ingressStep] at h
    split at h
    · cases h
    · rename_i hfresh
      cases h
      refine ⟨.of_endpoints (.inr ⟨endpoint, rfl, fun other hother hid => hfresh ?_⟩),
        starts_none s⟩
      exact List.any_eq_true.mpr ⟨other, hother, decide_eq_true hid⟩
  | configureEndpoint k enabled policy published =>
    cases h
    exact ⟨.of_endpoints (.inl ⟨Rows.modify .refl (fun _ => ⟨rfl, rfl, rfl⟩) _ _,
      List.length_modify ..⟩), starts_none s⟩
  | bootstrapChatSession k id =>
    obtain ⟨endpoint, -, h⟩ := Option.bind_eq_some_iff.mp h
    split at h
    · cases h
    · split at h
      · cases h
      · cases h
        exact ⟨.of_sessions s _, starts_none s⟩
  | receiveWebhook k envelope payloadDigest =>
    obtain ⟨endpoint, hendpoint, h⟩ := Option.bind_eq_some_iff.mp h
    split at h
    · cases h
    · obtain ⟨canonical, -, hout⟩ := Option.map_eq_some_iff.mp h
      cases hout
      refine ⟨.of_sessions s _, fun proc hproc => ?_⟩
      cases hproc
      exact ⟨rfl, (List.getElem?_eq_some_iff.mp hendpoint).1⟩
  | submitChatMessage k clientMessageId body payloadDigest =>
    obtain ⟨session, -, h⟩ := Option.bind_eq_some_iff.mp h
    obtain ⟨endpoint, hendpoint, h⟩ := Option.bind_eq_some_iff.mp h
    split at h
    · cases h
    · cases h
      refine ⟨.of_sessions s _, fun proc hproc => ?_⟩
      cases hproc
      exact ⟨rfl, (List.getElem?_eq_some_iff.mp hendpoint).1⟩
  | changeConversationStatus q status now =>
    cases h
    exact ⟨⟨.inl ⟨.refl .refl _, rfl⟩, rfl, rfl,
      Rows.modify .refl (fun row => sameThread_changeStatus row status now) _ _,
      List.length_modify .., rfl, rfl, rfl, rfl, rfl⟩, starts_none s⟩
  | task d =>
    cases h
    exact ⟨.of_sessions s _, fun proc hproc => by cases hproc; rfl⟩

/-- The step of a worker as a step of the program. -/
theorem step_worker (cfg : IngressSettings) {c : Ingress}
    (hw : c.procs[i]? = some (.worker w)) (h : workerStep lower i a w c.store = some (s', w')) :
    (ingress lower cfg).system.step (.work i a) c = some ⟨s', c.procs.set i (.worker w')⟩ := by
  show Program.step _ (.work i a) c = _
  rw [Program.step, hw, Option.bind_some]
  show Option.map _ (Option.map _ (workerStep lower i a w c.store)) = _
  rw [h]
  rfl

/-- A step of a process is one of a submission or one of a worker, and only its point moves. -/
theorem work_cases {proc proc' : Proc}
    (h : (ingress lower cfg).work i a proc s = some (s', proc')) :
    (∃ p point, proc = .submission p ∧ proc' = .submission { p with point := point } ∧
        SubmissionStep s p a s' point) ∨
      ∃ w point, proc = .worker w ∧ proc' = .worker { w with point := point } ∧
        WorkerStep lower s i w a s' point := by
  have hproc : procStep lower i a proc s = some (s', proc') := h
  cases proc with
  | submission p =>
    obtain ⟨⟨t, p'⟩, hout, heq⟩ := Option.map_eq_some_iff.mp hproc
    cases heq
    obtain ⟨point, hp', hcase⟩ := submissionStep_cases hout
    exact .inl ⟨p, point, rfl, congrArg Proc.submission hp', hcase⟩
  | worker w =>
    obtain ⟨⟨t, w'⟩, hout, heq⟩ := Option.map_eq_some_iff.mp hproc
    cases heq
    obtain ⟨point, hw', hcase⟩ := workerStep_cases hout
    exact .inr ⟨w, point, rfl, congrArg Proc.worker hw', hcase⟩

end SupportPilot.ChannelIngress
