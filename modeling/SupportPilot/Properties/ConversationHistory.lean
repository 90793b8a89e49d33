import SupportPilot.Conversations.Services

/-!
# The history of a conversation

The status, its time of closing and the time of the last message are written from objects that may
be stale. A conversation is always closed at some time exactly if it is closed, for the two columns
are saved together. The other laws hold as long as the checks that were made on an object would
pass on its row when it is saved, and messages commit in the order of their creation.
-/

namespace SupportPilot.Conversations

open Library

variable {s s' : Store} {l : ConversationCall} {k : Nat} {c c' : Conversation}

/-! ## What a call does -/

inductive ConversationChange (s : Store) : ConversationCall → Store → Prop
  | created : ConversationChange s .create s.createConversation
  | assigned {actor : Actor} {conversation : ConversationObject} {target : Nat} :
      ConversationChange s (.assign actor conversation target)
        { s with conversations :=
          s.conversations.update conversation.pk fun row => { row with assignedTo := some target } }
  | statusChanged {actor : Actor} {conversation : ConversationObject}
      {newStatus : ConversationStatus} {now : Nat} {closedAt : Option Nat} :
      s.conversations.Loaded conversation →
      closedAt = (if newStatus = .closed then some now
        else if conversation.value.status = .closed then none
        else conversation.value.closedAt) →
      ConversationChange s (.changeStatus actor conversation newStatus now)
        { s with conversations := s.conversations.update conversation.pk fun row =>
          { row with status := newStatus, closedAt := closedAt } }
  | messaged {conversation : ConversationObject} {direction : MessageDirection}
      {createdAt : Nat} : s.conversations.Loaded conversation →
      ConversationChange s (.createMessage conversation direction createdAt)
        (s.createMessage conversation direction createdAt)

theorem step_change (h : conversations.step l s = some s') : ConversationChange s l s' := by
  have hstep : conversationStep l s = some s' := h
  unfold conversationStep at hstep
  split at hstep
  · cases hstep
    exact .created
  · split at hstep
    · unfold Store.assignConversation at hstep
      split at hstep
      · cases hstep
      · cases hstep
        exact .assigned
    · cases hstep
  · split at hstep
    · rename_i hloaded
      unfold Store.changeConversationStatus at hstep
      split at hstep
      · cases hstep
      · split at hstep
        · cases hstep
        · cases hstep
          exact .statusChanged hloaded rfl
    · cases hstep
  · split at hstep
    · rename_i hloaded
      cases hstep
      exact .messaged hloaded
    · cases hstep

/-! ## The time of closing -/

/-- The conversation has a time of closing exactly if it is closed. -/
def ClosedAt (c : Conversation) : Prop := c.closedAt.isSome = true ↔ c.status = .closed

/-- The two columns are saved together, so that they fit even when they are stale. -/
theorem ConversationChange.closedAt (h : ConversationChange s l s')
    (hs : s.conversations.Always fun _ c => ClosedAt c) :
    s'.conversations.Always fun _ c => ClosedAt c := by
  cases h with
  | created => exact hs.insert ⟨nofun, nofun⟩
  | assigned =>
    refine hs.update fun c hc => ?_
    have hrow : ClosedAt c := hs.row (P := fun _ c => ClosedAt c) hc
    exact hrow
  | @statusChanged actor conversation newStatus now closedAt hloaded hclosedAt =>
    have hobject : ClosedAt conversation.value := hs conversation hloaded
    refine hs.update fun c _ => ?_
    show closedAt.isSome = true ↔ newStatus = .closed
    rw [hclosedAt]
    split
    · rename_i hclosed
      exact ⟨fun _ => hclosed, fun _ => rfl⟩
    · rename_i hnew
      split
      · exact ⟨nofun, fun hclosed => absurd hclosed hnew⟩
      · rename_i hold
        constructor
        · exact fun hsome => absurd (hobject.mp hsome) hold
        · exact fun hclosed => absurd hclosed hnew
  | messaged hloaded =>
    refine hs.update fun c hc => ?_
    have hrow : ClosedAt c := hs.row (P := fun _ c => ClosedAt c) hc
    split
    · exact ⟨nofun, nofun⟩
    · exact hrow

/-! ## Current objects -/

/-- What was checked on the object would pass on its row too, and the message is the latest. -/
def Current (s : Store) : ConversationCall → Bool
  | .changeStatus _ conversation newStatus _ =>
    (s.conversations.rows[conversation.pk]?).all fun row =>
      newStatus = row.status || newStatus ∈ row.status.transitions
  | .createMessage conversation direction createdAt =>
    (s.conversations.rows[conversation.pk]?).all fun row =>
      row.lastMessageAt.all (· ≤ createdAt) &&
        (direction ≠ .inbound || row.status ≠ .closed || conversation.value.status = .closed)
  | _ => true

/-- The last message of a conversation was created at this time, if it has any. -/
def LastMessage (messages : List Message) (k : Nat) : Option Nat → Prop
  | none => ∀ message ∈ messages, message.conversation ≠ k
  | some last => (∃ message ∈ messages, message.conversation = k ∧ message.createdAt = last) ∧
      ∀ message ∈ messages, message.conversation = k → message.createdAt ≤ last

def LastMessages (s : Store) : Prop :=
  AllRows (fun k c => LastMessage s.messages k c.lastMessageAt) s.conversations.rows

/-- What a call may do to a conversation. -/
structure Follows (c c' : Conversation) : Prop where
  status : c'.status = c.status ∨ c'.status ∈ c.status.transitions
  lastMessageAt : ∀ t, c.lastMessageAt = some t → ∃ t', c'.lastMessageAt = some t' ∧ t ≤ t'

theorem Follows.refl (c : Conversation) : Follows c c :=
  ⟨.inl rfl, fun t ht => ⟨t, ht, Nat.le_refl t⟩⟩

/-- The columns of a conversation after a message. -/
theorem Follows.messaged {conversation : Conversation} {direction : MessageDirection}
    {createdAt : Nat} (hlast : c.lastMessageAt.all (· ≤ createdAt) = true) :
    Follows c (if direction = .inbound ∧ conversation.status = .closed then
      { c with lastMessageAt := some createdAt, status := .opened, closedAt := none }
    else { c with lastMessageAt := some createdAt }) := by
  have hle : ∀ t, c.lastMessageAt = some t → ∃ t', some createdAt = some t' ∧ t ≤ t' := by
    intro t ht
    rw [ht, Option.all_some] at hlast
    exact ⟨createdAt, rfl, of_decide_eq_true hlast⟩
  split
  · refine ⟨?_, hle⟩
    cases hstatus : c.status
    · exact .inl rfl
    · exact .inr List.mem_cons_self
    · exact .inr List.mem_cons_self
  · exact ⟨.inl rfl, hle⟩

theorem ConversationChange.follows (h : ConversationChange s l s') (hp : Current s l = true) :
    Rows Follows s.conversations.rows s'.conversations.rows := by
  cases h with
  | created => exact .append Follows.refl _ _
  | assigned =>
    refine Versioned.rows_update_of Follows.refl fun c _ => ?_
    exact ⟨.inl rfl, (Follows.refl c).lastMessageAt⟩
  | statusChanged =>
    refine Versioned.rows_update_of Follows.refl fun c hc => ?_
    simp only [Current, hc, Option.all_some, Bool.or_eq_true, decide_eq_true_eq] at hp
    exact ⟨hp, (Follows.refl c).lastMessageAt⟩
  | messaged =>
    refine Versioned.rows_update_of Follows.refl fun c hc => ?_
    simp only [Current, hc, Option.all_some, Bool.and_eq_true] at hp
    exact .messaged hp.1

/-- A message that is the latest becomes the last one. -/
theorem LastMessage.append {messages : List Message} {last : Option Nat} {message : Message}
    (h : LastMessage messages message.conversation last)
    (hlast : last.all (· ≤ message.createdAt) = true) :
    LastMessage (messages ++ [message]) message.conversation (some message.createdAt) := by
  refine ⟨⟨message, List.mem_append_right _ (List.mem_singleton.mpr rfl), rfl, rfl⟩, ?_⟩
  intro other hother hsame
  rcases List.mem_append.mp hother with hold | hnew
  · cases last with
    | none => exact absurd hsame (h other hold)
    | some t =>
      have hle := h.2 other hold hsame
      have hbound : t ≤ message.createdAt := of_decide_eq_true hlast
      omega
  · exact Nat.le_of_eq (congrArg Message.createdAt (List.mem_singleton.mp hnew))

theorem LastMessage.append_other {messages : List Message} {last : Option Nat}
    {message : Message} (h : LastMessage messages k last) (hk : message.conversation ≠ k) :
    LastMessage (messages ++ [message]) k last := by
  have hmem : ∀ other ∈ messages ++ [message], other.conversation = k → other ∈ messages := by
    intro other hother hsame
    rcases List.mem_append.mp hother with hold | hnew
    · exact hold
    · rw [List.mem_singleton.mp hnew] at hsame
      exact absurd hsame hk
  cases last with
  | none => exact fun other hother hsame => h other (hmem other hother hsame) hsame
  | some t =>
    obtain ⟨⟨found, hfound, hconversation, hcreated⟩, hmax⟩ := h
    refine ⟨⟨found, List.mem_append_left _ hfound, hconversation, hcreated⟩, ?_⟩
    exact fun other hother hsame => hmax other (hmem other hother hsame) hsame

/-- The messages belong to conversations. -/
def Known (s : Store) : Prop :=
  ∀ message ∈ s.messages, message.conversation < s.conversations.rows.length

theorem ConversationChange.known (h : ConversationChange s l s') (hs : Known s) : Known s' := by
  cases h with
  | created =>
    intro message hmessage
    have hlt := hs message hmessage
    show _ < (s.conversations.rows ++ [_]).length
    rw [List.length_append, List.length_singleton]
    omega
  | assigned | statusChanged =>
    intro message hmessage
    show _ < (s.conversations.rows.modify _ _).length
    rw [List.length_modify]
    exact hs message hmessage
  | messaged hloaded =>
    intro message hmessage
    show _ < (s.conversations.rows.modify _ _).length
    rw [List.length_modify]
    rcases List.mem_append.mp hmessage with hold | hnew
    · exact hs message hold
    · rw [List.mem_singleton.mp hnew]
      exact s.conversations.bound _ hloaded

theorem ConversationChange.lastMessages (h : ConversationChange s l s')
    (hp : Current s l = true) (hknown : Known s) (hs : LastMessages s) : LastMessages s' := by
  have hupdate : ∀ {j : Nat} {f : Conversation → Conversation},
      (∀ c, (f c).lastMessageAt = c.lastMessageAt) →
      AllRows (fun k c => LastMessage s.messages k c.lastMessageAt)
        (s.conversations.update j f).rows := by
    intro j f hf k c hc
    rcases Versioned.update_cases hc with ⟨rfl, a, ha, rfl⟩ | ⟨-, hold⟩
    · rw [hf]
      exact hs k a ha
    · exact hs k c hold
  cases h with
  | created =>
    refine AllRows.append hs fun message hmessage => ?_
    have hlt := hknown message hmessage
    omega
  | assigned => exact hupdate fun _ => rfl
  | statusChanged => exact hupdate fun _ => rfl
  | @messaged conversation direction createdAt hloaded =>
    intro k c' hc'
    rcases Versioned.update_cases hc' with ⟨rfl, c, hc, rfl⟩ | ⟨hne, hold⟩
    · simp only [Current, hc, Option.all_some, Bool.and_eq_true] at hp
      have hlast : LastMessage (s.messages ++ [⟨conversation.pk, direction, createdAt⟩])
          conversation.pk (some createdAt) := LastMessage.append (hs _ c hc) hp.1
      split
      · exact hlast
      · exact hlast
    · exact (hs k c' hold).append_other (Ne.symm hne)

/-! ## Main result -/

/-- An inbound message leaves its conversation not closed. -/
def Reopens (s' : Store) : ConversationCall → Prop
  | .createMessage conversation .inbound _ =>
    ∀ c, s'.conversations.rows[conversation.pk]? = some c → c.status ≠ .closed
  | _ => True

theorem ConversationChange.reopens (h : ConversationChange s l s') (hp : Current s l = true) :
    Reopens s' l := by
  cases h with
  | @messaged conversation direction createdAt hloaded =>
    cases direction with
    | inbound =>
      intro c' hc'
      rcases Versioned.update_cases hc' with ⟨-, c, hc, rfl⟩ | ⟨hne, -⟩
      · simp only [Current, hc, Option.all_some, Bool.and_eq_true, Bool.or_eq_true,
          decide_eq_true_eq] at hp
        split
        · nofun
        · rename_i hobject
          intro hclosed
          rcases hp.2 with (hno | hno) | hno
          · exact hno rfl
          · exact hno hclosed
          · exact hobject ⟨rfl, hno⟩
      · exact absurd rfl hne
    | outbound | internal => trivial
  | _ => trivial

/-- A conversation has a time of closing exactly if it is closed, in every run. While every call
would pass its checks on the row too and messages commit in order, the statuses follow the table of
transitions, an inbound message reopens its conversation, and the time of the last message is that
of the latest one. -/
theorem conversation_history (s : Store) :
    (conversations.Reach (fun _ _ => True) s → ∀ (k : Nat) (c : Conversation),
      s.conversations.rows[k]? = some c → ClosedAt c) ∧
    (conversations.Reach (fun s l => Current s l = true) s → LastMessages s ∧
      ∀ l s', Current s l = true → conversations.step l s = some s' →
        Rows Follows s.conversations.rows s'.conversations.rows ∧ Reopens s' l) := by
  constructor
  · intro h k c hc
    have hclosed : s.conversations.Always fun _ c => ClosedAt c := by
      refine System.Reach.invariant
        (I := fun s => s.conversations.Always fun _ c => ClosedAt c) ?_ ?_ h
      · rintro t rfl
        exact .empty _
      · exact fun s l s' _ hs _ hstep => (step_change hstep).closedAt hs
    exact hclosed.row (P := fun _ c => ClosedAt c) hc
  · intro h
    have hlast : Known s ∧ LastMessages s := by
      refine System.Reach.invariant (I := fun s => Known s ∧ LastMessages s) ?_ ?_ h
      · rintro t rfl
        exact ⟨nofun, nofun⟩
      · intro s l s' _ hs hp hstep
        have hchange := step_change hstep
        exact ⟨hchange.known hs.1, hchange.lastMessages hp hs.1 hs.2⟩
    refine ⟨hlast.2, fun l s' hp hstep => ?_⟩
    exact ⟨(step_change hstep).follows hp, (step_change hstep).reopens hp⟩

def conversationsEnd (permits : Store → ConversationCall → Prop) [∀ s l, Decidable (permits s l)]
    (calls : List ConversationCall) : Store :=
  conversations.replayEnd permits calls .empty

theorem reaches_conversationsEnd (permits : Store → ConversationCall → Prop)
    [∀ s l, Decidable (permits s l)] (calls : List ConversationCall) :
    conversations.Reach permits (conversationsEnd permits calls) :=
  System.reach_replayEnd (.init rfl) calls

def manager : Actor := ⟨0, .supportManager⟩

/-- A message arrives, the conversation is closed, and the next message reopens it. -/
def messagesAndClosing : List ConversationCall :=
  [.create, .createMessage ⟨0, {}⟩ .inbound 1,
    .changeStatus manager ⟨0, { lastMessageAt := some 1 }⟩ .closed 2,
    .createMessage ⟨0, { status := .closed, lastMessageAt := some 1, closedAt := some 2 }⟩
      .inbound 3]

theorem conversation_history_reopened :
    let s := conversationsEnd (fun s l => Current s l = true) messagesAndClosing
    s.conversations.rows = [{ lastMessageAt := some 3 }] ∧ LastMessages s := by
  have hrun := reaches_conversationsEnd (fun s l => Current s l = true) messagesAndClosing
  exact ⟨by decide, ((conversation_history _).2 hrun).1⟩

/-- An object of the conversation as it was when it was created. -/
def firstObject : ConversationObject := ⟨0, {}⟩

/-- Two messages commit in the other order than they were created, and the conversation is
closed. -/
def crossedMessages : List ConversationCall :=
  [.create, .createMessage firstObject .inbound 2, .createMessage firstObject .inbound 1,
    .changeStatus manager firstObject .closed 3]

/-- The earlier message counts as the last one. Objects from before the closing make the closed
conversation pending, and leave it closed after another inbound message. -/
theorem conversation_history_stale :
    (¬ ∀ s, conversations.Reach (fun _ _ => True) s → LastMessages s) ∧
    (¬ ∀ s, conversations.Reach (fun _ _ => True) s → ∀ l s', conversations.step l s = some s' →
      Rows Follows s.conversations.rows s'.conversations.rows) ∧
    ¬ ∀ s, conversations.Reach (fun _ _ => True) s → ∀ l s', conversations.step l s = some s' →
      Reopens s' l := by
  let t := conversationsEnd (fun _ _ => True) crossedMessages
  have hrun : conversations.Reach (fun _ _ => True) t := reaches_conversationsEnd _ crossedMessages
  have hrow : t.conversations.rows =
      [{ status := .closed, lastMessageAt := some 1, closedAt := some 3 }] := by decide
  refine ⟨fun hlaw => ?_, fun hlaw => ?_, fun hlaw => ?_⟩
  · have hlast : LastMessage t.messages 0 (some 1) := hlaw t hrun 0 _ (by rw [hrow]; rfl)
    have hle : 2 ≤ 1 := hlast.2 ⟨0, .inbound, 2⟩ (by decide) rfl
    omega
  · have hpending : (conversations.step (.changeStatus manager firstObject .pending 4) t).map
        (·.conversations.rows.map (·.status)) = some [.pending] := by decide
    obtain ⟨t', ht', hstatuses⟩ := Option.map_eq_some_iff.mp hpending
    obtain ⟨c', hc', hstatus⟩ := List.map_eq_singleton_iff.mp hstatuses
    obtain ⟨d, hd, hfollows⟩ := hlaw t hrun _ t' ht' 0 _ (by rw [hrow]; rfl)
    rw [hc'] at hd
    cases hd
    have hallowed := hfollows.status
    rw [hstatus] at hallowed
    revert hallowed
    decide
  · have hclosed : (conversations.step (.createMessage firstObject .inbound 5) t).map
        (·.conversations.rows.map (·.status)) = some [.closed] := by decide
    obtain ⟨t', ht', hstatuses⟩ := Option.map_eq_some_iff.mp hclosed
    obtain ⟨c', hc', hstatus⟩ := List.map_eq_singleton_iff.mp hstatuses
    exact hlaw t hrun _ t' ht' c' (by rw [hc']; rfl) hstatus

end SupportPilot.Conversations
