import SupportPilot.Library.Table
import SupportPilot.Webhooks.Events

/-!
# What is owed, and the fan-out of one event

The events that the committed rows call for, the deliveries that a committed event calls for, and
the law that both are there exactly once. A step without an event keeps the law; a step with one
keeps it if the event is the one that its row now calls for.
-/

namespace SupportPilot.Webhooks

open Library Notifications

variable {cfg : DeliverySettings} {s s' : EventStore}

/-! ## What the committed rows call for -/

/-- The event types that an approval request calls for: that of its creation, and that of its end
unless it was cancelled. -/
def callsFor : WebhookEventType → Option ApprovalRequest → Bool
  | .approvalRequested, request => request.isSome
  | .approvalApproved, request => request.any (·.status = .approved)
  | .approvalRejected, request => request.any (·.status = .rejected)
  | .approvalExpired, request => request.any (·.status = .expired)
  | .handoffCreated, _ => false

namespace EventStore

/-- The approval request of an execution. -/
def approval (s : EventStore) (k : Nat) : Option ApprovalRequest :=
  (s.executions[k]?).bind (·.approvalRequest)

/-- The rows call for an event of this type about this row. -/
def owes (s : EventStore) : WebhookEventType → Nat → Bool
  | .handoffCreated, h => h < s.handoffs.length
  | eventType, k => callsFor eventType (s.approval k)

theorem owes_eq {eventType : WebhookEventType} (h : eventType ≠ .handoffCreated) (k : Nat) :
    s.owes eventType k = callsFor eventType (s.approval k) := by
  cases eventType with
  | handoffCreated => exact absurd rfl h
  | approvalRequested | approvalApproved | approvalRejected | approvalExpired => rfl

end EventStore

def WebhookEvent.reports (eventType : WebhookEventType) (subject : Nat) (event : WebhookEvent) :
    Bool :=
  event.eventType = eventType && event.payloadSnapshot.subject = subject

/-- The number of committed events of this type about this row. -/
def EventStore.eventCount (s : EventStore) (eventType : WebhookEventType) (subject : Nat) : Nat :=
  s.emissions.countP fun x => x.event.reports eventType subject

/-- The endpoint was active in the workspace and subscribed to the type when the event was
emitted. -/
def Emission.addresses (x : Emission) (p : Nat) : Bool :=
  (x.endpoints[p]?).any fun endpoint =>
    endpoint.workspace = x.event.workspace && endpoint.active &&
      endpoint.subscribedEventTypes.contains x.event.eventType

/-- The number of rows that link the event to the endpoint. -/
def EventStore.deliveryCount (s : EventStore) (e p : Nat) : Nat :=
  s.webhookDeliveries.countP fun row => row.endpoint = p && row.event = e

/-- The event has the workspace of the row that it is about. -/
def EventStore.Placed (s : EventStore) (event : WebhookEvent) : Prop :=
  match event.eventType with
  | .handoffCreated => ∃ handoff, s.handoffs[event.payloadSnapshot.subject]? = some handoff ∧
      s.conversations[handoff.conversation]? = some event.workspace
  | _ => ∃ row, s.executions[event.payloadSnapshot.subject]? = some row ∧
      row.workspace = event.workspace

/-- Links and webhook deliveries belong to each other one to one, in the workspace of the event. -/
structure EventStore.Linked (s : EventStore) : Prop where
  rows : ∀ row ∈ s.webhookDeliveries, ∃ (x : Emission) (delivery : Delivery),
    s.emissions[row.event]? = some x ∧ row.workspace = x.event.workspace ∧
      s.deliveries[row.delivery]? = some delivery ∧ delivery.workspace = row.workspace ∧
      delivery.channel = .webhook
  once : ∀ (d : Nat) (delivery : Delivery), s.deliveries[d]? = some delivery →
    delivery.channel = .webhook → s.webhookDeliveries.countP (·.delivery = d) = 1

/-! ## The fan-out -/

theorem mem_activeEndpointsSubscribedTo {endpoints : List SubscribedEndpoint} {workspace p : Nat}
    {eventType : WebhookEventType} :
    p ∈ EventStore.activeEndpointsSubscribedTo endpoints workspace eventType ↔
      ((endpoints[p]?).any fun endpoint =>
        endpoint.workspace = workspace && endpoint.active &&
          endpoint.subscribedEventTypes.contains eventType) = true := by
  unfold EventStore.activeEndpointsSubscribedTo
  rw [List.mem_filter, List.mem_reverse, List.mem_range]
  constructor
  · rintro ⟨-, h⟩
    exact h
  · intro h
    refine ⟨?_, h⟩
    by_contra hge
    rw [List.getElem?_eq_none (by omega)] at h
    exact absurd h (by simp)

theorem activeEndpointsSubscribedTo_nodup (endpoints : List SubscribedEndpoint) (workspace : Nat)
    (eventType : WebhookEventType) :
    (EventStore.activeEndpointsSubscribedTo endpoints workspace eventType).Nodup :=
  (List.pairwise_reverse.mpr (List.nodup_range.imp Ne.symm)).filter _

/-- What the fan-out of an event changes. -/
structure Delivered (workspace event : Nat) (targets : List Nat) (s s' : EventStore) : Prop where
  frame : s' = { s with deliveries := s'.deliveries, webhookDeliveries := s'.webhookDeliveries }
  count : ∀ e p, s'.deliveryCount e p =
    s.deliveryCount e p + if e = event ∧ p ∈ targets then 1 else 0
  linked : (∃ x, s.emissions[event]? = some x ∧ x.event.workspace = workspace) →
    s.Linked → s'.Linked

theorem createDelivery_ok {s s' : Notifications.Store} {workspace d : Nat} {now : Int}
    (h : Notifications.Store.createDelivery cfg s workspace .webhook none now = .ok (s', d)) :
    d = s.deliveries.length ∧ ∃ delivery : Delivery, delivery.workspace = workspace ∧
      delivery.channel = .webhook ∧ s'.deliveries = s.deliveries ++ [delivery] := by
  simp only [Notifications.Store.createDelivery] at h
  split at h
  · cases h
  · cases h
    exact ⟨rfl, _, rfl, rfl, rfl⟩

/-- The first row for the endpoint is inserted with its delivery. -/
theorem deliverTo_ok {workspace event p : Nat} {now : Int} (hnew : s.deliveryCount event p = 0)
    (h : s.deliverTo cfg workspace event p now = .ok s') :
    ∃ delivery : Delivery, delivery.workspace = workspace ∧ delivery.channel = .webhook ∧
      s' = { s with
        deliveries := s.deliveries ++ [delivery]
        webhookDeliveries :=
          s.webhookDeliveries ++ [⟨s.deliveries.length, workspace, p, event⟩] } := by
  cases hcreate : Notifications.Store.createDelivery cfg { deliveries := s.deliveries } workspace
    .webhook none now with
  | error e =>
    unfold EventStore.deliverTo at h
    rw [hcreate] at h
    cases h
  | ok out =>
    obtain ⟨engine, d⟩ := out
    obtain ⟨rfl, delivery, hworkspace, hchannel, hrows⟩ := createDelivery_ok hcreate
    have hnone : (s.webhookDeliveries.any fun row => row.endpoint = p && row.event = event) =
        false := by
      rw [List.any_eq_false]
      exact List.countP_eq_zero.mp hnew
    have heq : s.deliverTo cfg workspace event p now = .ok { s with
        deliveries := engine.deliveries
        webhookDeliveries :=
          s.webhookDeliveries ++ [⟨s.deliveries.length, workspace, p, event⟩] } := by
      unfold EventStore.deliverTo
      rw [hcreate]
      show (if _ then _ else _) = _
      rw [hnone]
      rfl
    rw [h, hrows] at heq
    exact ⟨delivery, hworkspace, hchannel, Except.ok.inj heq⟩

theorem Delivered.one {workspace event p : Nat} {delivery : Delivery}
    (hworkspace : delivery.workspace = workspace) (hchannel : delivery.channel = .webhook) :
    Delivered workspace event [p] s { s with
      deliveries := s.deliveries ++ [delivery]
      webhookDeliveries := s.webhookDeliveries ++
        [⟨s.deliveries.length, workspace, p, event⟩] } where
  frame := rfl
  count e q := by
    unfold EventStore.deliveryCount
    rw [List.countP_append, List.countP_singleton]
    congr 1
    by_cases he : event = e
    · by_cases hq : p = q
      · simp [he, hq]
      · simp [he, hq, Ne.symm hq]
    · simp [he, Ne.symm he]
  linked hevent hs := by
    have hfresh : ∀ row ∈ s.webhookDeliveries, row.delivery < s.deliveries.length := by
      intro row hrow
      obtain ⟨x, old, -, -, hold, -⟩ := hs.rows row hrow
      exact (List.getElem?_eq_some_iff.mp hold).1
    constructor
    · intro row hrow
      rcases List.mem_append.mp hrow with hrow | hrow
      · obtain ⟨x, old, hx, hplace, hold, hrest⟩ := hs.rows row hrow
        refine ⟨x, old, hx, hplace, ?_, hrest⟩
        rw [List.getElem?_append_left (hfresh row hrow)]
        exact hold
      · rw [List.mem_singleton.mp hrow]
        obtain ⟨x, hx, hplace⟩ := hevent
        exact ⟨x, delivery, hx, hplace.symm, by simp, hworkspace, hchannel⟩
    · intro d row hrow hwebhook
      rw [List.countP_append, List.countP_singleton]
      rcases getElem?_concat_cases hrow with hold | ⟨hlast, -⟩
      · have hlt := (List.getElem?_eq_some_iff.mp hold).1
        rw [hs.once d row hold hwebhook, if_neg]
        simp
        omega
      · have hzero : s.webhookDeliveries.countP (·.delivery = d) = 0 := by
          rw [List.countP_eq_zero]
          intro other hother
          have hlt := hfresh other hother
          simp
          omega
        rw [hzero, if_pos (by simp [hlast])]

theorem Delivered.trans {workspace event : Nat} {targets more : List Nat} {t : EventStore}
    (hnew : ∀ p ∈ targets, p ∉ more) (h : Delivered workspace event targets s s')
    (h' : Delivered workspace event more s' t) :
    Delivered workspace event (targets ++ more) s t where
  frame := by
    rw [h'.frame, h.frame]
  count e p := by
    rw [h'.count, h.count, Nat.add_assoc]
    congr 1
    by_cases he : e = event
    · by_cases hp : p ∈ targets
      · simp [he, hp, hnew p hp]
      · simp [he, hp]
    · simp [he]
  linked hevent hs := by
    refine h'.linked ?_ (h.linked hevent hs)
    rw [h.frame]
    exact hevent

theorem fanOut_ok {workspace event : Nat} {now : Int} {targets : List Nat}
    (hdistinct : targets.Nodup)
    (hnew : ∀ p ∈ targets, s.deliveryCount event p = 0)
    (h : EventStore.fanOut cfg workspace event now targets s = .ok s') :
    Delivered workspace event targets s s' := by
  induction targets generalizing s with
  | nil =>
    cases h
    exact ⟨rfl, fun e p => by simp, fun _ hs => hs⟩
  | cons p rest ih =>
    obtain ⟨hp, hrest⟩ := List.nodup_cons.mp hdistinct
    unfold EventStore.fanOut at h
    cases hdeliver : s.deliverTo cfg workspace event p now with
    | error e =>
      rw [hdeliver] at h
      cases h
    | ok t =>
      rw [hdeliver] at h
      obtain ⟨delivery, hworkspace, hchannel, rfl⟩ :=
        deliverTo_ok (hnew p List.mem_cons_self) hdeliver
      have hone : Delivered workspace event [p] s _ := Delivered.one hworkspace hchannel
      show Delivered workspace event ([p] ++ rest) s s'
      refine Delivered.trans ?_ hone (ih hrest ?_ h)
      · intro q hq
        rw [List.mem_singleton.mp hq]
        exact hp
      · intro q hq
        rw [hone.count, hnew q (List.mem_cons_of_mem p hq), if_neg]
        rintro ⟨-, hqp⟩
        rw [List.mem_singleton.mp hqp] at hq
        exact hp hq

/-! ## The law -/

/-- What holds of the committed tables. -/
structure Exact (s : EventStore) : Prop where
  events : ∀ (eventType : WebhookEventType) (subject : Nat),
    s.eventCount eventType subject = if s.owes eventType subject then 1 else 0
  placed : ∀ x ∈ s.emissions, s.Placed x.event
  fannedOut : ∀ (e : Nat) (x : Emission), s.emissions[e]? = some x → ∀ p,
    s.deliveryCount e p = if x.addresses p then 1 else 0
  linked : s.Linked

/-- Rows stay in their workspaces. -/
structure Keeps (s s' : EventStore) : Prop where
  executions : Rows (fun row row' => row'.workspace = row.workspace) s.executions s'.executions
  handoffs : Rows (fun row row' => row'.conversation = row.conversation) s.handoffs s'.handoffs
  conversations : Rows Eq s.conversations s'.conversations

theorem Keeps.refl (s : EventStore) : Keeps s s where
  executions _ row hrow := ⟨row, hrow, rfl⟩
  handoffs _ row hrow := ⟨row, hrow, rfl⟩
  conversations _ workspace hrow := ⟨workspace, hrow, rfl⟩

theorem Keeps.placed (h : Keeps s s') {event : WebhookEvent} (hs : s.Placed event) :
    s'.Placed event := by
  unfold EventStore.Placed at hs ⊢
  cases htype : event.eventType with
  | handoffCreated =>
    simp only [htype] at hs ⊢
    obtain ⟨handoff, hrow, hworkspace⟩ := hs
    obtain ⟨handoff', hrow', hconversation⟩ := h.handoffs _ _ hrow
    obtain ⟨workspace, hfound, heq⟩ := h.conversations _ _ hworkspace
    refine ⟨handoff', hrow', ?_⟩
    rw [hconversation, hfound, ← heq]
  | approvalRequested | approvalApproved | approvalRejected | approvalExpired =>
    simp only [htype] at hs ⊢
    obtain ⟨row, hrow, hworkspace⟩ := hs
    obtain ⟨row', hrow', hsame⟩ := h.executions _ _ hrow
    exact ⟨row', hrow', hsame.trans hworkspace⟩

/-- What the rows call for is as before. -/
structure Quiet (s s' : EventStore) : Prop where
  keeps : Keeps s s'
  approval : ∀ k, s'.approval k = s.approval k
  handoffs : s'.handoffs.length = s.handoffs.length

theorem Quiet.owes (h : Quiet s s') (eventType : WebhookEventType) (n : Nat) :
    s'.owes eventType n = s.owes eventType n := by
  by_cases hcreated : eventType = .handoffCreated
  · subst hcreated
    show decide (n < s'.handoffs.length) = decide (n < s.handoffs.length)
    rw [h.handoffs]
  · rw [EventStore.owes_eq hcreated, EventStore.owes_eq hcreated, h.approval]

/-- A change of the deliveries by others keeps the webhook deliveries and their links. -/
structure SameLinks (s s' : EventStore) : Prop where
  links : s'.webhookDeliveries = s.webhookDeliveries
  kept : ∀ (d : Nat) (delivery : Delivery), s.deliveries[d]? = some delivery →
    ∃ delivery', s'.deliveries[d]? = some delivery' ∧
      delivery'.workspace = delivery.workspace ∧ delivery'.channel = delivery.channel
  webhook : ∀ (d : Nat) (delivery : Delivery), s'.deliveries[d]? = some delivery →
    delivery.channel = .webhook →
      ∃ old, s.deliveries[d]? = some old ∧ old.channel = .webhook

theorem EventStore.Linked.same (hs : s.Linked) (hemissions : s'.emissions = s.emissions)
    (h : SameLinks s s') : s'.Linked := by
  constructor
  · intro row hrow
    rw [h.links] at hrow
    obtain ⟨x, delivery, hx, hplace, hdelivery, hworkspace, hchannel⟩ := hs.rows row hrow
    obtain ⟨delivery', hdelivery', hworkspace', hchannel'⟩ := h.kept _ _ hdelivery
    refine ⟨x, delivery', ?_, hplace, hdelivery', ?_, ?_⟩
    · rw [hemissions]
      exact hx
    · rw [hworkspace', hworkspace]
    · rw [hchannel', hchannel]
  · intro d delivery hdelivery hchannel
    obtain ⟨old, hold, hwebhook⟩ := h.webhook d delivery hdelivery hchannel
    rw [h.links]
    exact hs.once d old hold hwebhook

/-- A step without an event leaves the law as it is. -/
theorem Exact.quiet (hs : Exact s) (hkeeps : Keeps s s')
    (howes : ∀ eventType n, s'.owes eventType n = s.owes eventType n)
    (hemissions : s'.emissions = s.emissions)
    (hlinks : SameLinks s s') : Exact s' := by
  constructor
  · intro eventType subject
    have hcount : s'.eventCount eventType subject = s.eventCount eventType subject := by
      unfold EventStore.eventCount
      rw [hemissions]
    rw [hcount, howes]
    exact hs.events eventType subject
  · intro x hx
    rw [hemissions] at hx
    exact hkeeps.placed (hs.placed x hx)
  · intro e x hx p
    rw [hemissions] at hx
    have hcount : s'.deliveryCount e p = s.deliveryCount e p := by
      unfold EventStore.deliveryCount
      rw [hlinks.links]
    rw [hcount]
    exact hs.fannedOut e x hx p
  · exact hs.linked.same hemissions hlinks

/-- The deliveries of an event that is not there yet do not exist. -/
theorem EventStore.Linked.fresh (hs : s.Linked) {e : Nat} (he : s.emissions.length ≤ e) (p : Nat) :
    s.deliveryCount e p = 0 := by
  unfold EventStore.deliveryCount
  rw [List.countP_eq_zero]
  intro row hrow
  obtain ⟨x, -, hx, -⟩ := hs.rows row hrow
  have hlt := (List.getElem?_eq_some_iff.mp hx).1
  simp
  omega

theorem EventStore.Linked.emission (hs : s.Linked) {x : Emission}
    (hemissions : s'.emissions = s.emissions ++ [x]) (hdeliveries : s'.deliveries = s.deliveries)
    (hlinks : s'.webhookDeliveries = s.webhookDeliveries) : s'.Linked := by
  constructor
  · intro row hrow
    rw [hlinks] at hrow
    obtain ⟨y, delivery, hy, hplace, hdelivery, hrest⟩ := hs.rows row hrow
    refine ⟨y, delivery, ?_, hplace, ?_, hrest⟩
    · rw [hemissions]
      exact getElem?_append_some hy _
    · rw [hdeliveries]
      exact hdelivery
  · intro d delivery hdelivery hchannel
    rw [hdeliveries] at hdelivery
    rw [hlinks]
    exact hs.once d delivery hdelivery hchannel

/-- An event of a row whose count it makes right is emitted and fanned out. -/
theorem Exact.emit {event : WebhookEvent} {endpoints : List SubscribedEndpoint} {now : Int}
    {changed : EventStore} (hs : Exact s)
    (howes : ∀ eventType n, (if changed.owes eventType n then 1 else 0) =
      (if s.owes eventType n then 1 else 0) + if event.reports eventType n then 1 else 0)
    (hkeeps : Keeps s changed) (hplaced : changed.Placed event)
    (hframe : changed.emissions = s.emissions ∧ changed.deliveries = s.deliveries ∧
      changed.webhookDeliveries = s.webhookDeliveries)
    (h : changed.emitEvent cfg event endpoints now = .ok s') :
    Exact s' ∧ s' = { changed with
      emissions := s'.emissions
      deliveries := s'.deliveries
      webhookDeliveries := s'.webhookDeliveries } := by
  obtain ⟨hemissions, hdeliveries, hlinks⟩ := hframe
  let added : EventStore := { changed with emissions := changed.emissions ++ [⟨event, endpoints⟩] }
  have hlinked : added.Linked :=
    hs.linked.emission
      (congrArg (· ++ [_]) hemissions) hdeliveries hlinks
  have hcount : ∀ e p, added.deliveryCount e p = s.deliveryCount e p := by
    intro e p
    show changed.webhookDeliveries.countP _ = _
    rw [hlinks]
    rfl
  have hlast : added.emissions[changed.emissions.length]? = some ⟨event, endpoints⟩ := by
    show (changed.emissions ++ _)[_]? = _
    simp
  have hout := fanOut_ok (activeEndpointsSubscribedTo_nodup endpoints event.workspace
    event.eventType) (fun p _ => by
      rw [hcount, hemissions]
      exact hs.linked.fresh (Nat.le_refl _) p) h
  have hframe : s'.emissions = added.emissions ∧ s'.executions = changed.executions ∧
      s'.handoffs = changed.handoffs ∧ s'.conversations = changed.conversations := by
    rw [hout.frame]
    exact ⟨rfl, rfl, rfl, rfl⟩
  obtain ⟨hemitted, hexecutions, hhandoffs, hconversations⟩ := hframe
  have hsame : ∀ old, changed.Placed old → s'.Placed old := by
    intro old hold
    unfold EventStore.Placed at hold ⊢
    rw [hexecutions, hhandoffs, hconversations]
    exact hold
  refine ⟨?_, by rw [hout.frame]⟩
  constructor
  · intro eventType subject
    have hrows : s'.owes eventType subject = changed.owes eventType subject := by
      have happroval : s'.approval subject = changed.approval subject := by
        unfold EventStore.approval
        rw [hexecutions]
      cases eventType <;> simp only [EventStore.owes, happroval, hhandoffs]
    have hevents : s'.eventCount eventType subject =
        s.eventCount eventType subject + if event.reports eventType subject then 1 else 0 := by
      unfold EventStore.eventCount
      rw [hemitted]
      show List.countP _ (changed.emissions ++ [_]) = _
      rw [hemissions, List.countP_append, List.countP_singleton]
    rw [hevents, hrows, howes, hs.events]
  · intro x hx
    rw [hemitted] at hx
    rcases List.mem_append.mp hx with hx | hx
    · rw [hemissions] at hx
      exact hsame _ (hkeeps.placed (hs.placed x hx))
    · rw [List.mem_singleton.mp hx]
      exact hsame _ hplaced
  · intro e x hx p
    rw [hout.count, hcount]
    rw [hemitted] at hx
    rcases getElem?_concat_cases hx with hold | ⟨rfl, rfl⟩
    · rw [hemissions] at hold
      have hlt := (List.getElem?_eq_some_iff.mp hold).1
      have hne : ¬ e = changed.emissions.length := by rw [hemissions]; omega
      rw [hs.fannedOut e x hold p]
      simp [hne]
    · rw [hs.linked.fresh (by rw [hemissions]) p, Nat.zero_add]
      refine if_congr ?_ rfl rfl
      rw [mem_activeEndpointsSubscribedTo]
      simp [Emission.addresses]
  · exact hout.linked ⟨_, hlast, rfl⟩ hlinked

end SupportPilot.Webhooks
