import Mathlib.Data.List.Nodup
import Mathlib.Data.List.Perm.Subperm
import SupportPilot.Agents.Context
import SupportPilot.Library.Budget

/-!
# The context of a run is the newest history before its trigger

The query bounds the history by the time of the trigger only, so that messages of the same instant
with greater sequence numbers are candidates, too, and come first. When none of them is retained,
what is retained is a suffix of the history before the trigger.
-/

namespace SupportPilot.Agents

open Library
open Knowledge (stripText)

/-! ## The order of messages -/

/-- The order by time and sequence number. -/
def Precedes (a b : Message) : Prop :=
  a.createdAt < b.createdAt ∨ (a.createdAt = b.createdAt ∧ a.sequence < b.sequence)

instance (a b : Message) : Decidable (Precedes a b) :=
  inferInstanceAs (Decidable (_ ∨ _))

theorem Precedes.trans {a b c : Message} (hab : Precedes a b) (hbc : Precedes b c) :
    Precedes a c := by
  unfold Precedes at *
  omega

theorem Precedes.asymm {a b : Message} (hab : Precedes a b) : ¬ Precedes b a := by
  unfold Precedes at *
  omega

theorem precedes_or (a b : Message) (h : a.sequence ≠ b.sequence) :
    Precedes a b ∨ Precedes b a := by
  unfold Precedes
  omega

variable {messages : MessageTable} {workspace : Nat} {conversation : Conversation}
  {trigger : Message}

/-- The rows of the query, newest first. -/
def newest (messages : MessageTable) (workspace : Nat) (conversation : Conversation)
    (trigger : Message) : List Message :=
  (eligible messages workspace conversation trigger).mergeSort newestFirst

theorem eligible_sublist : (eligible messages workspace conversation trigger).Sublist
    messages.rows := List.filter_sublist

theorem newestFirst_iff {a b : Message} (h : a.sequence ≠ b.sequence) :
    newestFirst a b = true ↔ Precedes b a := by
  simp only [newestFirst, Precedes, Bool.or_eq_true, Bool.and_eq_true, decide_eq_true_eq]
  omega

theorem newest_perm : (newest messages workspace conversation trigger).Perm
    (eligible messages workspace conversation trigger) := List.mergeSort_perm _ _

theorem mem_newest {m : Message} : m ∈ newest messages workspace conversation trigger ↔
    m ∈ eligible messages workspace conversation trigger := newest_perm.mem_iff

theorem newest_nodup_id : ((newest messages workspace conversation trigger).map (·.id)).Nodup :=
  (newest_perm.map _).nodup_iff.mpr (messages.nodup_id.sublist (eligible_sublist.map _))

/-- The rows of the query are strictly ordered. -/
theorem newest_pairwise :
    (newest messages workspace conversation trigger).Pairwise fun a b => Precedes b a := by
  have hsequence : ((newest messages workspace conversation trigger).map (·.sequence)).Nodup :=
    (newest_perm.map _).nodup_iff.mpr (messages.nodup_sequence.sublist (eligible_sublist.map _))
  have hsorted : (newest messages workspace conversation trigger).Pairwise
      fun a b => newestFirst a b := by
    apply List.pairwise_mergeSort
    · intro a b c
      simp only [newestFirst, Bool.or_eq_true, Bool.and_eq_true, decide_eq_true_eq]
      omega
    · intro a b
      simp only [newestFirst, Bool.or_eq_true, Bool.and_eq_true, decide_eq_true_eq]
      omega
  have hdistinct : (newest messages workspace conversation trigger).Pairwise
      fun a b => a.sequence ≠ b.sequence := List.pairwise_map.mp hsequence
  refine (hsorted.and hdistinct).imp ?_
  rintro a b ⟨hfirst, hne⟩
  exact (newestFirst_iff hne).mp hfirst

/-- In a strictly descending list a message is among the first ones if few messages follow it. -/
theorem mem_take_iff {rows : List Message} (h : rows.Pairwise fun a b => Precedes b a) {n : Nat}
    {m : Message} : m ∈ rows.take n ↔ m ∈ rows ∧ rows.countP (Precedes m ·) < n := by
  induction rows generalizing n with
  | nil => simp
  | cons a rest ih =>
    obtain ⟨hhead, hrest⟩ := List.pairwise_cons.mp h
    cases n with
    | zero => simp
    | succ n =>
      rw [List.take_succ_cons, List.mem_cons, List.mem_cons, ih hrest]
      by_cases hm : m = a
      · subst hm
        have hself : ¬ Precedes m m := fun hlt => hlt.asymm hlt
        have hnone : rest.countP (Precedes m ·) = 0 := by
          rw [List.countP_eq_zero]
          intro other hother hlt
          exact (hhead other hother).asymm (by simpa using hlt)
        simp [hself, hnone]
      · by_cases hmem : m ∈ rest
        · have hlt : Precedes m a := hhead m hmem
          rw [List.countP_cons_of_pos (by simpa using hlt)]
          simp [hm, hmem]
        · simp [hm, hmem]

/-! ## The loop over the candidates -/

/-- What is supplied of a message. -/
def supplied (m : Message) (content : List Char) : ContextMessage where
  messageId := m.id
  role := (normalizedRole m).getD .user
  content := content
  createdAt := m.createdAt
  truncated := content.length < m.body.length

theorem boundedMessage_eq {m : Message} {role : ContextRole} (h : normalizedRole m = some role)
    (limit : Nat) : boundedMessage m role limit = supplied m (m.body.take limit) := by
  rw [boundedMessage, supplied, h]
  rfl

/-- Every row of the query has a role. -/
theorem normalizedRole_of_eligible {m : Message} (h : eligibleRole m = true) :
    ∃ role, normalizedRole m = some role := by
  simp only [eligibleRole, Bool.or_eq_true, Bool.and_eq_true, decide_eq_true_eq] at h
  unfold normalizedRole
  by_cases hcustomer : m.senderType = .customer ∧ m.direction = .inbound
  · exact ⟨.user, if_pos hcustomer⟩
  · rw [if_neg hcustomer]
    rcases h with h | h
    · exact absurd h hcustomer
    · exact ⟨.assistant, if_pos h⟩

/-- The messages that the loop adds. -/
def retained (trigger : Message) (slots remaining : Nat) (candidates : List Message) :
    List ContextMessage :=
  (fill Message.body supplied remaining
    (candidates.filter fun m => m.id ≠ trigger.id)).take slots

theorem retainLoop_eq (trigger : Message) (maxMessages : Nat) {candidates : List Message}
    (hroles : ∀ m ∈ candidates, eligibleRole m = true) (remaining : Nat)
    (kept : List ContextMessage) :
    retainLoop trigger maxMessages remaining kept candidates =
      .ok (kept ++ retained trigger (maxMessages - 1 - kept.length) remaining candidates) := by
  induction candidates generalizing remaining kept with
  | nil => simp [retainLoop, retained, fill]
  | cons m rest ih =>
    have hrest : ∀ other ∈ rest, eligibleRole other = true :=
      fun other hother => hroles other (List.mem_cons_of_mem _ hother)
    rw [retainLoop]
    by_cases htrigger : m.id = trigger.id
    · rw [if_pos htrigger, ih hrest, retained, retained,
        List.filter_cons_of_neg (by simpa using htrigger)]
    · rw [if_neg htrigger, retained, List.filter_cons_of_pos (by simpa using htrigger), fill]
      by_cases hslots : maxMessages - 1 ≤ kept.length
      · have hnone : maxMessages - 1 - kept.length = 0 := by omega
        rw [if_pos hslots, hnone, List.take_zero, List.append_nil]
      · rw [if_neg hslots]
        by_cases hzero : remaining = 0
        · rw [if_pos hzero, if_pos hzero, List.take_nil, List.append_nil]
        · obtain ⟨role, hrole⟩ := normalizedRole_of_eligible (hroles m List.mem_cons_self)
          rw [if_neg hzero, if_neg hzero, hrole]
          simp only [boundedMessage_eq hrole]
          by_cases hempty : m.body = []
          · have hcontent : (supplied m (m.body.take remaining)).content = [] := by
              rw [hempty]
              exact List.take_nil
            rw [if_pos hcontent, if_pos hempty]
            exact ih hrest remaining kept
          · have hcontent : (supplied m (m.body.take remaining)).content ≠ [] := by
              show m.body.take remaining ≠ []
              simp [List.take_eq_nil_iff, hzero, hempty]
            have hspent : remaining - (supplied m (m.body.take remaining)).content.length =
                remaining - m.body.length := by
              show remaining - (m.body.take remaining).length = _
              rw [List.length_take]
              omega
            have hslot : maxMessages - 1 - kept.length =
                (maxMessages - 1 - (kept.length + 1)) + 1 := by omega
            rw [if_neg hcontent, if_neg hempty, ih hrest, hspent, List.length_append,
              List.length_singleton, hslot, List.take_succ_cons, List.append_assoc]
            rfl

/-! ## The newest history -/

/-- A whole message of the context. -/
def ShowsWhole (m : Message) (c : ContextMessage) : Prop := c = supplied m m.body

/-- A message of the context that is cut. -/
def ShowsPart (m : Message) (c : ContextMessage) : Prop :=
  ∃ n, 0 < n ∧ n < m.body.length ∧ c = supplied m (m.body.take n)

/-- The history before a trigger: the messages that are eligible and not empty, in their order. -/
structure IsHistory (messages : MessageTable) (workspace : Nat) (conversation : Conversation)
    (trigger : Message) (history : List Message) : Prop where
  mem_iff : ∀ m, m ∈ history ↔ m ∈ eligible messages workspace conversation trigger ∧
    m.body ≠ [] ∧ Precedes m trigger
  increasing : history.Pairwise Precedes

/-- A message is in the context as it is. -/
def Shown (context : ConversationContext) (m : Message) : Prop :=
  ∃ c ∈ context.messages, c.messageId = m.id ∧ c.content = m.body

/-- The context ends with its trigger and holds a suffix of the history before it, of which only
the oldest message may be cut; it is within its limits, and it says whether it shows every eligible
message as it is. -/
structure NewestHistory (messages : MessageTable) (workspace : Nat) (conversation : Conversation)
    (trigger : Message) (limits : ConversationContextLimits) (context : ConversationContext) :
    Prop where
  history : ∃ others history, context.messages =
      others ++ [boundedMessage trigger .user limits.maxCharacters.toNat] ∧
    (∀ c ∈ others, c.messageId ≠ trigger.id) ∧
    (others ≠ [] → (trigger.body.length : Int) ≤ limits.maxCharacters) ∧
    IsHistory messages workspace conversation trigger history ∧
    CutPrefix ShowsWhole ShowsPart history.reverse others.reverse
  messageLimit : (context.messages.length : Int) ≤ limits.maxMessages
  characterLimit : (context.characterCount : Int) ≤ limits.maxCharacters
  truncated : context.truncated = true ↔
    ∃ m ∈ eligible messages workspace conversation trigger, ¬ Shown context m

/-- Some message of the same instant as the trigger, but with a greater sequence number, is not
empty and among the newest ones that fit, and there is room for it. -/
def RetainsLater (messages : MessageTable) (workspace : Nat) (conversation : Conversation)
    (trigger : Message) (limits : ConversationContextLimits) : Prop :=
  1 < limits.maxMessages ∧ (trigger.body.length : Int) < limits.maxCharacters ∧
    ∃ m ∈ eligible messages workspace conversation trigger, m.body ≠ [] ∧ Precedes trigger m ∧
      ((eligible messages workspace conversation trigger).countP (Precedes m ·) : Int) <
        limits.maxMessages

/-- The message that a context with these limits holds besides the trigger, newest first. -/
def others (messages : MessageTable) (workspace : Nat) (conversation : Conversation)
    (trigger : Message) (limits : ConversationContextLimits) : List ContextMessage :=
  retained trigger (limits.maxMessages.toNat - 1)
    (limits.maxCharacters.toNat - (trigger.body.take limits.maxCharacters.toNat).length)
    ((newest messages workspace conversation trigger).take limits.maxMessages.toNat)

/-- The messages of the context. -/
def contextMessages (messages : MessageTable) (workspace : Nat) (conversation : Conversation)
    (trigger : Message) (limits : ConversationContextLimits) : List ContextMessage :=
  (others messages workspace conversation trigger limits).reverse ++
    [boundedMessage trigger .user limits.maxCharacters.toNat]

variable {limits : ConversationContextLimits}

theorem eligibleRole_of_mem {m : Message}
    (h : m ∈ eligible messages workspace conversation trigger) : eligibleRole m = true := by
  have hfilter := (List.mem_filter.mp h).2
  simp only [Bool.and_eq_true] at hfilter
  exact hfilter.2

theorem buildConversationContext_eq {settings : ConversationContextLimits}
    {given : Option ConversationContextLimits}
    (hvalid : triggerValid workspace conversation trigger = true)
    (hlimits : given.getD settings = limits) (hmessages : 1 ≤ limits.maxMessages)
    (hcharacters : 1 ≤ limits.maxCharacters) :
    buildConversationContext settings messages workspace conversation trigger given =
      let held := contextMessages messages workspace conversation trigger limits
      .ok ⟨conversation.id, trigger.id, held,
        held.any (·.truncated) ||
          held.length < (eligible messages workspace conversation trigger).length,
        (eligible messages workspace conversation trigger).length⟩ := by
  have hroles : ∀ m ∈ ((newest messages workspace conversation trigger).take
      limits.maxMessages.toNat), eligibleRole m = true := fun m hm =>
    eligibleRole_of_mem (mem_newest.mp ((List.take_sublist _ _).subset hm))
  have hloop := retainLoop_eq trigger limits.maxMessages.toNat hroles (limits.maxCharacters.toNat -
      (boundedMessage trigger .user limits.maxCharacters.toNat).content.length) []
  have hpositive : ¬ (limits.maxMessages < 1 ∨ limits.maxCharacters < 1) := by omega
  unfold buildConversationContext
  rw [hvalid, hlimits, if_neg (by decide)]
  simp only [if_neg hpositive]
  rw [newest] at hloop
  rw [hloop]
  rfl

/-! ## What the context shows -/

/-- A valid trigger that is stored is one of the rows of the query. -/
theorem trigger_eligible (hvalid : triggerValid workspace conversation trigger = true)
    (hstored : trigger ∈ messages.rows) :
    trigger ∈ eligible messages workspace conversation trigger := by
  simp only [triggerValid, Bool.not_eq_true', Bool.or_eq_false_iff, decide_eq_false_iff_not,
    ne_eq, Decidable.not_not] at hvalid
  obtain ⟨⟨⟨⟨⟨-, hworkspace⟩, hconversation⟩, hsender⟩, hdirection⟩, -⟩ := hvalid
  refine List.mem_filter.mpr ⟨hstored, ?_⟩
  simp [hworkspace, hconversation, eligibleRole, hsender, hdirection]

/-- Each message of a context stands for an eligible message, of which it shows the beginning. -/
def StandsFor (m : Message) (c : ContextMessage) : Prop :=
  c.messageId = m.id ∧ c.content <+: m.body ∧ (c.truncated = true ↔ c.content ≠ m.body)

theorem truncated_supplied {m : Message} {content : List Char} (h : content <+: m.body) :
    decide (content.length < m.body.length) = true ↔ content ≠ m.body := by
  rw [decide_eq_true_eq]
  constructor
  · rintro hlt rfl
    omega
  · intro hne
    have hle := h.length_le
    have hlength : content.length ≠ m.body.length := fun heq => hne (h.eq_of_length heq)
    omega

theorem exists_standsFor (hvalid : triggerValid workspace conversation trigger = true)
    (hstored : trigger ∈ messages.rows) {c : ContextMessage}
    (hc : c ∈ contextMessages messages workspace conversation trigger limits) :
    ∃ m ∈ eligible messages workspace conversation trigger, StandsFor m c := by
  rcases List.mem_append.mp hc with hother | htrigger
  · have hfill := (List.take_sublist _ _).subset (List.mem_reverse.mp hother)
    refine fill_forall
      (fun c => ∃ m ∈ eligible messages workspace conversation trigger, StandsFor m c) ?_ hfill
    intro m hm content hprefix _
    have hnewest := (List.take_sublist _ _).subset (List.mem_filter.mp hm).1
    exact ⟨m, mem_newest.mp hnewest, rfl, hprefix, truncated_supplied hprefix⟩
  · rw [List.mem_singleton.mp htrigger]
    exact ⟨trigger, trigger_eligible hvalid hstored, rfl, List.take_prefix _ _,
      truncated_supplied (List.take_prefix _ _)⟩

/-- The ids of the other messages are ids of candidates, but not that of the trigger. -/
theorem others_sublist :
    ((others messages workspace conversation trigger limits).map (·.messageId)).Sublist
      ((((newest messages workspace conversation trigger).take limits.maxMessages.toNat).filter
        fun m => m.id ≠ trigger.id).map (·.id)) :=
  ((List.take_sublist _ _).map _).trans
    (fill_sublist ContextMessage.messageId Message.id (fun _ _ => rfl) _ _)

theorem others_ne_trigger {c : ContextMessage}
    (hc : c ∈ others messages workspace conversation trigger limits) :
    c.messageId ≠ trigger.id := by
  have hmem := others_sublist.subset (List.mem_map_of_mem (f := (·.messageId)) hc)
  obtain ⟨m, hm, hid⟩ := List.mem_map.mp hmem
  have hne := (List.mem_filter.mp hm).2
  rw [decide_eq_true_eq] at hne
  rwa [← hid]

theorem contextMessages_nodup :
    ((contextMessages messages workspace conversation trigger limits).map
      (·.messageId)).Nodup := by
  have hothers : ((others messages workspace conversation trigger limits).map
      (·.messageId)).Nodup :=
    newest_nodup_id.sublist (others_sublist.trans
      ((List.filter_sublist.trans (List.take_sublist _ _)).map _))
  rw [contextMessages, List.map_append, List.map_reverse, List.nodup_append]
  refine ⟨List.nodup_reverse.mpr hothers, List.nodup_singleton _, ?_⟩
  intro id hid last hlast
  rw [List.mem_reverse] at hid
  obtain ⟨c, hc, rfl⟩ := List.mem_map.mp hid
  rw [List.mem_singleton.mp hlast]
  exact others_ne_trigger hc

/-- The flag of a context is exact: pieces that stand for different rows show all rows as they are
if none of them is cut and there are as many of them. -/
theorem flag_iff {rows : List Message} {held : List ContextMessage}
    (hrows : (rows.map (·.id)).Nodup) (hheld : (held.map (·.messageId)).Nodup)
    (hstands : ∀ c ∈ held, ∃ m ∈ rows, StandsFor m c) :
    (held.any (·.truncated) || held.length < rows.length) = true ↔
      ∃ m ∈ rows, ¬ ∃ c ∈ held, c.messageId = m.id ∧ c.content = m.body := by
  have hids : ∀ id ∈ held.map (·.messageId), id ∈ rows.map (·.id) := by
    intro id hid
    obtain ⟨c, hc, rfl⟩ := List.mem_map.mp hid
    obtain ⟨m, hm, hsame, -⟩ := hstands c hc
    exact hsame ▸ List.mem_map_of_mem hm
  constructor
  · intro hflag
    rw [Bool.or_eq_true, decide_eq_true_eq, List.any_eq_true] at hflag
    by_contra hall
    push Not at hall
    rcases hflag with ⟨c, hc, hcut⟩ | hlt
    · obtain ⟨m, hm, hid, -, htruncated⟩ := hstands c hc
      obtain ⟨other, hother, hsame, hcontent⟩ := hall m hm
      have heq : other = c := List.inj_on_of_nodup_map hheld hother hc (hsame.trans hid.symm)
      exact htruncated.mp hcut (heq ▸ hcontent)
    · have hsub : rows.map (·.id) ⊆ held.map (·.messageId) := by
        intro id hid
        obtain ⟨m, hm, rfl⟩ := List.mem_map.mp hid
        obtain ⟨c, hc, hsame, -⟩ := hall m hm
        exact hsame ▸ List.mem_map_of_mem hc
      have hle := (hrows.subperm hsub).length_le
      rw [List.length_map, List.length_map] at hle
      omega
  · rintro ⟨m, hm, hhidden⟩
    by_contra hflag
    rw [Bool.not_eq_true, Bool.or_eq_false_iff, decide_eq_false_iff_not,
      List.any_eq_false] at hflag
    obtain ⟨hwhole, hlength⟩ := hflag
    have hperm : (held.map (·.messageId)).Perm (rows.map (·.id)) := by
      refine (hheld.subperm hids).perm_of_length_le ?_
      rw [List.length_map, List.length_map]
      omega
    obtain ⟨c, hc, hid⟩ := List.mem_map.mp (hperm.mem_iff.mpr (List.mem_map_of_mem hm))
    obtain ⟨other, hother, hsame, -, htruncated⟩ := hstands c hc
    have heq : other = m :=
      List.inj_on_of_nodup_map hrows hother hm (hsame.symm.trans hid)
    refine hhidden ⟨c, hc, hid, ?_⟩
    by_contra hne
    exact hwhole c hc (htruncated.mpr (heq ▸ hne))

theorem length_others : (others messages workspace conversation trigger limits).length ≤
    limits.maxMessages.toNat - 1 := List.length_take_le _ _

/-- The other messages are within what the trigger leaves of the characters. -/
theorem others_sum_le :
    ((others messages workspace conversation trigger limits).map (·.content.length)).sum ≤
      limits.maxCharacters.toNat - (trigger.body.take limits.maxCharacters.toNat).length :=
  fill_take_sum_le (fun c : ContextMessage => c.content.length) (fun _ _ => rfl) _ _ _

/-- Without room there are no other messages. -/
theorem others_eq_nil (h : limits.maxMessages ≤ 1 ∨
    limits.maxCharacters ≤ (trigger.body.length : Int)) :
    others messages workspace conversation trigger limits = [] := by
  unfold others retained
  rcases h with h | h
  · have hslots : limits.maxMessages.toNat - 1 = 0 := by omega
    rw [hslots, List.take_zero]
  · have hspent : limits.maxCharacters.toNat -
        (trigger.body.take limits.maxCharacters.toNat).length = 0 := by
      rw [List.length_take]
      omega
    rw [hspent, fill_zero, List.take_nil]

/-! ## The history before the trigger -/

/-- The history before the trigger, newest first. -/
def past (messages : MessageTable) (workspace : Nat) (conversation : Conversation)
    (trigger : Message) : List Message :=
  (newest messages workspace conversation trigger).filter
    fun m => Precedes m trigger && !m.body.isEmpty

theorem isHistory_past : IsHistory messages workspace conversation trigger
    (past messages workspace conversation trigger).reverse := by
  constructor
  · intro m
    rw [List.mem_reverse, past, List.mem_filter, mem_newest]
    simp only [Bool.and_eq_true, decide_eq_true_eq, Bool.not_eq_true', List.isEmpty_eq_false_iff]
    exact and_congr_right fun _ => and_comm
  · rw [List.pairwise_reverse]
    exact newest_pairwise.sublist List.filter_sublist

/-- Among rows of which none comes after the trigger, those before it are those other than it. -/
theorem filter_past {rows : List Message}
    (hrows : rows.Sublist (newest messages workspace conversation trigger))
    (hstored : trigger ∈ messages.rows)
    (hlater : ∀ m ∈ rows, m.body ≠ [] → ¬ Precedes trigger m) :
    (rows.filter fun m => m.id ≠ trigger.id).filter (fun m => !m.body.isEmpty) =
      rows.filter fun m => Precedes m trigger && !m.body.isEmpty := by
  rw [List.filter_filter]
  refine List.filter_congr fun m hm => ?_
  have hmrow : m ∈ messages.rows := eligible_sublist.subset (mem_newest.mp (hrows.subset hm))
  by_cases hempty : m.body = []
  · simp [hempty]
  · have hsame : m.id ≠ trigger.id ↔ Precedes m trigger := by
      constructor
      · intro hid
        have hsequence : m.sequence ≠ trigger.sequence := by
          intro heq
          exact hid (congrArg Message.id
            (List.inj_on_of_nodup_map messages.nodup_sequence hmrow hstored heq))
        exact (precedes_or m trigger hsequence).resolve_right (hlater m hm hempty)
      · intro hlt hid
        have heq := List.inj_on_of_nodup_map messages.nodup_id hmrow hstored hid
        rw [heq] at hlt
        exact hlt.asymm hlt
    rw [decide_eq_decide.mpr hsame, Bool.and_comm]

theorem showsWhole_supplied (m : Message) : ShowsWhole m (supplied m m.body) := rfl

theorem showsPart_supplied (m : Message) (n : Nat) (hsome : n ≠ 0) (hcut : n < m.body.length) :
    ShowsPart m (supplied m (m.body.take n)) :=
  ⟨n, by omega, hcut, rfl⟩

/-- When no later message is retained the others are a suffix of the history. -/
theorem cutPrefix_past (hstored : trigger ∈ messages.rows)
    (hlater : ∀ m ∈ (newest messages workspace conversation trigger).take
      limits.maxMessages.toNat, m.body ≠ [] → ¬ Precedes trigger m) :
    CutPrefix ShowsWhole ShowsPart (past messages workspace conversation trigger)
      (others messages workspace conversation trigger limits) := by
  let rows := (newest messages workspace conversation trigger).take limits.maxMessages.toNat
  have hfill : CutPrefix ShowsWhole ShowsPart
      ((rows.filter fun m => m.id ≠ trigger.id).filter fun m => !m.body.isEmpty)
      (fill Message.body supplied
        (limits.maxCharacters.toNat - (trigger.body.take limits.maxCharacters.toNat).length)
        (rows.filter fun m => m.id ≠ trigger.id)) :=
    fill_cutPrefix showsWhole_supplied showsPart_supplied _ _
  rw [filter_past (List.take_sublist _ _) hstored hlater] at hfill
  have hpast : past messages workspace conversation trigger =
      rows.filter (fun m => Precedes m trigger && !m.body.isEmpty) ++
        ((newest messages workspace conversation trigger).drop
          limits.maxMessages.toNat).filter fun m => Precedes m trigger && !m.body.isEmpty := by
    rw [← List.filter_append, List.take_append_drop]
    rfl
  rw [hpast]
  exact (hfill.take _).extend _

/-- A retained message is never of the history when a later one has a place: the first candidate
that is not empty is a later one. -/
theorem later_of_retainsLater (hstored : trigger ∈ messages.rows)
    (h : RetainsLater messages workspace conversation trigger limits) :
    ∃ c ∈ others messages workspace conversation trigger limits,
      ∃ m ∈ messages.rows, Precedes trigger m ∧ c.messageId = m.id := by
  obtain ⟨hslots, hroom, later, heligible, hlaterBody, hlater, hfew⟩ := h
  let rows := (newest messages workspace conversation trigger).take limits.maxMessages.toNat
  have hcount : (newest messages workspace conversation trigger).countP (Precedes later ·) <
      limits.maxMessages.toNat := by
    rw [newest_perm.countP_eq]
    omega
  have hmem : later ∈ rows :=
    (mem_take_iff newest_pairwise).mpr ⟨mem_newest.mpr heligible, hcount⟩
  have hid : later.id ≠ trigger.id := by
    intro hid
    have heq := List.inj_on_of_nodup_map messages.nodup_id (eligible_sublist.subset heligible)
      hstored hid
    rw [heq] at hlater
    exact hlater.asymm hlater
  let full := (rows.filter fun m => m.id ≠ trigger.id).filter fun m => !m.body.isEmpty
  have hfull : later ∈ full :=
    List.mem_filter.mpr ⟨List.mem_filter.mpr ⟨hmem, by simpa using hid⟩, by simpa using hlaterBody⟩
  have hsub : full.Sublist (newest messages workspace conversation trigger) :=
    (List.filter_sublist.trans List.filter_sublist).trans (List.take_sublist _ _)
  obtain ⟨first, rest, hfirst⟩ := List.exists_cons_of_ne_nil (List.ne_nil_of_mem hfull)
  have hafter : Precedes trigger first := by
    have hpairwise := newest_pairwise.sublist hsub
    rw [hfirst] at hfull hpairwise
    rcases List.mem_cons.mp hfull with rfl | hrest
    · exact hlater
    · exact hlater.trans ((List.pairwise_cons.mp hpairwise).1 later hrest)
  let remaining :=
    limits.maxCharacters.toNat - (trigger.body.take limits.maxCharacters.toNat).length
  have hremaining : remaining ≠ 0 := by
    show limits.maxCharacters.toNat - (trigger.body.take limits.maxCharacters.toNat).length ≠ 0
    rw [List.length_take]
    omega
  obtain ⟨pieces, hpieces⟩ : ∃ pieces,
      fill Message.body supplied remaining (rows.filter fun m => m.id ≠ trigger.id) =
        supplied first (first.body.take remaining) :: pieces := fill_eq_cons hremaining hfirst
  have hplace : limits.maxMessages.toNat - 1 = (limits.maxMessages.toNat - 2) + 1 := by omega
  have hheld : supplied first (first.body.take remaining) ∈
      others messages workspace conversation trigger limits := by
    rw [others, retained, hpieces, hplace, List.take_succ_cons]
    exact List.mem_cons_self
  have hrow : first ∈ full := hfirst ▸ List.mem_cons_self
  exact ⟨_, hheld, first, eligible_sublist.subset (mem_newest.mp (hsub.subset hrow)), hafter, rfl⟩

/-- A later message that is retained is not of the history before the trigger. -/
theorem NewestHistory.not_retainsLater {context : ConversationContext}
    (h : NewestHistory messages workspace conversation trigger limits context)
    (hstored : trigger ∈ messages.rows)
    (hheld : context.messages = contextMessages messages workspace conversation trigger limits) :
    ¬ RetainsLater messages workspace conversation trigger limits := by
  intro hretains
  obtain ⟨shown, history, hsplit, -, -, hhistory, hcut⟩ := h.history
  rw [hheld] at hsplit
  have hothers : (others messages workspace conversation trigger limits).reverse = shown :=
    (List.append_inj' hsplit rfl).1
  obtain ⟨c, hc, m, hm, hlater, hid⟩ := later_of_retainsLater hstored hretains
  rw [← hothers, List.reverse_reverse] at hcut
  obtain ⟨earlier, hearlier, hstands⟩ := hcut.exists_item hc
  have hsame : c.messageId = earlier.id := by
    rcases hstands with rfl | ⟨n, -, -, rfl⟩
    · rfl
    · rfl
  obtain ⟨heligible, -, hbefore⟩ := (hhistory.mem_iff earlier).mp (List.mem_reverse.mp hearlier)
  have heq : m = earlier := List.inj_on_of_nodup_map messages.nodup_id hm
    (eligible_sublist.subset heligible) (hid.symm.trans hsame)
  rw [heq] at hlater
  exact hlater.asymm hbefore

/-- The context is the newest history before the trigger exactly when no later message has a place
in it. -/
theorem buildConversationContext_newestHistory_iff (settings : ConversationContextLimits)
    (messages : MessageTable) (workspace : Nat) (conversation : Conversation) (trigger : Message)
    (given : Option ConversationContextLimits) (hstored : trigger ∈ messages.rows)
    (hvalid : triggerValid workspace conversation trigger = true)
    (hmessages : 1 ≤ (given.getD settings).maxMessages)
    (hcharacters : 1 ≤ (given.getD settings).maxCharacters) :
    ∃ context, buildConversationContext settings messages workspace conversation trigger given =
        .ok context ∧
      (NewestHistory messages workspace conversation trigger (given.getD settings) context ↔
        ¬ RetainsLater messages workspace conversation trigger (given.getD settings)) := by
  refine ⟨_, buildConversationContext_eq hvalid rfl hmessages hcharacters, ?_⟩
  generalize given.getD settings = limits at hmessages hcharacters ⊢
  constructor
  · intro hnewest
    exact hnewest.not_retainsLater hstored rfl
  · intro hnone
    constructor
    · refine ⟨(others messages workspace conversation trigger limits).reverse,
        (past messages workspace conversation trigger).reverse, rfl, ?_, ?_, isHistory_past, ?_⟩
      · intro c hc
        exact others_ne_trigger (List.mem_reverse.mp hc)
      · intro hsome
        by_contra hlong
        exact hsome (by rw [others_eq_nil (.inr (by omega)), List.reverse_nil])
      · rw [List.reverse_reverse, List.reverse_reverse]
        by_cases hroom : 1 < limits.maxMessages ∧
            (trigger.body.length : Int) < limits.maxCharacters
        · refine cutPrefix_past hstored ?_
          intro m hm hbody hlater
          obtain ⟨hmnewest, hcount⟩ := (mem_take_iff newest_pairwise).mp hm
          rw [newest_perm.countP_eq] at hcount
          exact hnone ⟨hroom.1, hroom.2, m, mem_newest.mp hmnewest, hbody, hlater, by omega⟩
        · rw [others_eq_nil (by omega)]
          exact .nil
    · have hlength : (others messages workspace conversation trigger limits).length ≤
          limits.maxMessages.toNat - 1 := length_others
      simp only [contextMessages, List.length_append, List.length_reverse, List.length_singleton]
      omega
    · have hsum : ((others messages workspace conversation trigger limits).map
          (·.content.length)).sum ≤ limits.maxCharacters.toNat -
            (trigger.body.take limits.maxCharacters.toNat).length := others_sum_le
      have htake : (trigger.body.take limits.maxCharacters.toNat).length ≤
          limits.maxCharacters.toNat := List.length_take_le _ _
      simp only [ConversationContext.characterCount, contextMessages, List.map_append,
        List.map_reverse, List.sum_append, List.sum_reverse, List.map_cons, List.map_nil,
        List.sum_cons, List.sum_nil, boundedMessage]
      omega
    · exact flag_iff (messages.nodup_id.sublist (eligible_sublist.map _)) contextMessages_nodup
        fun c hc => exists_standsFor hvalid hstored hc

/-! ### A message of the same instant -/

def sampleMessage (id : Nat) (body : String) (sequence : Nat) : Message where
  id := id
  workspace := 1
  conversation := 1
  senderType := .customer
  direction := .inbound
  body := body.toList
  createdAt := 10
  sequence := sequence

/-- Two messages of the same instant, the second one inserted later. -/
def sampleTable : MessageTable where
  rows := [sampleMessage 1 "first" 1, sampleMessage 2 "second" 2]
  nodup_id := by decide
  nodup_sequence := by decide

theorem buildConversationContext_newestHistory_sample :
    ∃ context, buildConversationContext ⟨20, 1000⟩ sampleTable 1 ⟨1, 1⟩ (sampleMessage 2 "second" 2)
        none = .ok context ∧
      NewestHistory sampleTable 1 ⟨1, 1⟩ (sampleMessage 2 "second" 2) ⟨20, 1000⟩ context := by
  obtain ⟨context, hbuilt, hiff⟩ := buildConversationContext_newestHistory_iff ⟨20, 1000⟩
    sampleTable 1 ⟨1, 1⟩ (sampleMessage 2 "second" 2) none (by decide) (by decide)
    (by decide) (by decide)
  refine ⟨context, hbuilt, hiff.mpr ?_⟩
  rintro ⟨-, -, m, hm, -, hlater, -⟩
  have hrow := eligible_sublist.subset hm
  simp only [sampleTable, List.mem_cons, List.not_mem_nil, or_false] at hrow
  rcases hrow with rfl | rfl
  · exact absurd hlater (by decide)
  · exact absurd hlater (by decide)

/-- The later message of the same instant comes before the trigger. -/
theorem buildConversationContext_holds_later :
    ¬ ∀ (settings : ConversationContextLimits) (messages : MessageTable) (workspace : Nat)
      (conversation : Conversation) (trigger : Message) (given : Option ConversationContextLimits),
      trigger ∈ messages.rows → triggerValid workspace conversation trigger = true →
      1 ≤ (given.getD settings).maxMessages → 1 ≤ (given.getD settings).maxCharacters →
      ∃ context, buildConversationContext settings messages workspace conversation trigger given =
          .ok context ∧
        NewestHistory messages workspace conversation trigger (given.getD settings) context := by
  intro hall
  have hstored : sampleMessage 1 "first" 1 ∈ sampleTable.rows := by decide
  have hvalid : triggerValid 1 ⟨1, 1⟩ (sampleMessage 1 "first" 1) = true := by decide
  obtain ⟨context, hbuilt, hnewest⟩ := hall ⟨20, 1000⟩ sampleTable 1 ⟨1, 1⟩
    (sampleMessage 1 "first" 1) none hstored hvalid (by decide) (by decide)
  rw [buildConversationContext_eq hvalid rfl (by decide) (by decide)] at hbuilt
  cases hbuilt
  exact hnewest.not_retainsLater hstored rfl ⟨by decide, by decide, sampleMessage 2 "second" 2,
    by decide, by decide, by decide, by decide⟩

end SupportPilot.Agents
