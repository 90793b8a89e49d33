import SupportPilot.ChannelIngress.WebChat
import SupportPilot.Library.Pages
import SupportPilot.Properties.ConversationContext

/-!
# What the polls of a chat have received

The order of the messages is fixed when they are inserted, and they are seen when they are
committed. A message that is committed behind the cursor is never received, and nothing else is
lost: without such a commit the polls have received all that comes before their cursor.
-/

namespace SupportPilot.ChannelIngress

open Agents (Precedes)
open Library

/-! ## The order of the messages -/

theorem precedes_irrefl (m : Agents.Message) : ¬ Precedes m m := fun h => h.asymm h

theorem precedes_trans (a b c : Agents.Message) (hab : Precedes a b) (hbc : Precedes b c) :
    Precedes a c := hab.trans hbc

theorem oldestFirst_iff {a b : Agents.Message} (h : a.sequence ≠ b.sequence) :
    oldestFirst a b = true ↔ Precedes a b := by
  simp only [oldestFirst, Precedes, Bool.or_eq_true, Bool.and_eq_true, decide_eq_true_eq]
  omega

section Query

variable {rows : List Agents.Message} {conversation : Nat}

theorem mem_messageList {m : Agents.Message} : m ∈ messageListForConversation rows conversation ↔
    m ∈ rows ∧ m.conversation = conversation := by
  rw [messageListForConversation, List.mem_mergeSort, List.mem_filter, decide_eq_true_eq]

/-- The rows of the query are strictly ordered. -/
theorem messageList_pairwise (h : (rows.map (·.sequence)).Nodup) :
    (messageListForConversation rows conversation).Pairwise Precedes := by
  have hsorted : (messageListForConversation rows conversation).Pairwise
      fun a b => oldestFirst a b := by
    apply List.pairwise_mergeSort
    · intro a b c
      simp only [oldestFirst, Bool.or_eq_true, Bool.and_eq_true, decide_eq_true_eq]
      omega
    · intro a b
      simp only [oldestFirst, Bool.or_eq_true, Bool.and_eq_true, decide_eq_true_eq]
      omega
  have hsequence : ((messageListForConversation rows conversation).map (·.sequence)).Nodup := by
    refine ((List.mergeSort_perm _ _).map _).nodup_iff.mpr (h.sublist ?_)
    exact List.filter_sublist.map _
  refine (hsorted.and (List.pairwise_map.mp hsequence)).imp ?_
  rintro a b ⟨hfirst, hne⟩
  exact (oldestFirst_iff hne).mp hfirst

theorem messageList_total (h : (rows.map (·.sequence)).Nodup) :
    ∀ a ∈ messageListForConversation rows conversation,
      ∀ b ∈ messageListForConversation rows conversation, Precedes a b ∨ a = b ∨ Precedes b a := by
  intro a ha b hb
  by_cases hsequence : a.sequence = b.sequence
  · exact .inr (.inl (List.inj_on_of_nodup_map h (mem_messageList.mp ha).1
      (mem_messageList.mp hb).1 hsequence))
  · rcases Agents.precedes_or a b hsequence with hab | hba
    · exact .inl hab
    · exact .inr (.inr hba)

/-- The cursor is found again by its id. -/
theorem find?_cursor (h : (rows.map (·.id)).Nodup) {cursor : Agents.Message}
    (hcursor : cursor ∈ messageListForConversation rows conversation) :
    (messageListForConversation rows conversation).find? (·.id = cursor.id) = some cursor := by
  cases hfind : (messageListForConversation rows conversation).find? (·.id = cursor.id) with
  | none => simpa using List.find?_eq_none.mp hfind cursor hcursor
  | some found =>
    have hfound := mem_messageList.mp (List.mem_of_find?_eq_some hfind)
    have hid : found.id = cursor.id := by simpa using List.find?_some hfind
    rw [List.inj_on_of_nodup_map h hfound.1 (mem_messageList.mp hcursor).1 hid]

end Query

/-! ## Runs -/

namespace Chat

/-- All messages, whether they are visible or not. -/
def rows (s : Chat) : List Agents.Message := s.committed ++ s.inserts.map (·.message)

theorem mem_visible {s : Chat} {m : Agents.Message} :
    m ∈ s.visible ↔ m ∈ s.committed ∧ s.conversation = some m.conversation := by
  unfold visible
  cases s.conversation with
  | none => simp
  | some conversation => simp [mem_messageList, eq_comm]

/-- No id and no sequence number is given twice, and what was received is visible and in order. -/
structure Sound (s : Chat) : Prop where
  ids : (s.rows.map (·.id)).Nodup
  sequences : (s.rows.map (·.sequence)).Nodup
  bound : ∀ m ∈ s.rows, m.sequence < s.nextSequence
  visible : s.received ⊆ s.visible
  increasing : s.received.Pairwise Precedes

namespace Sound

variable {s : Chat}

theorem committed_ids (h : s.Sound) : (s.committed.map (·.id)).Nodup :=
  h.ids.sublist ((List.sublist_append_left _ _).map _)

theorem committed_sequences (h : s.Sound) : (s.committed.map (·.sequence)).Nodup :=
  h.sequences.sublist ((List.sublist_append_left _ _).map _)

theorem visible_pairwise (h : s.Sound) : s.visible.Pairwise Precedes := by
  unfold Chat.visible
  split
  · exact .nil
  · exact messageList_pairwise h.committed_sequences

theorem visible_total (h : s.Sound) :
    ∀ a ∈ s.visible, ∀ b ∈ s.visible, Precedes a b ∨ a = b ∨ Precedes b a := by
  unfold Chat.visible
  split
  · exact List.forall_mem_nil _
  · exact messageList_total h.committed_sequences

/-- A poll returns the next page of what is visible. -/
theorem page_eq (h : s.Sound) (limit : Nat) :
    s.page limit = (behind Precedes s.visible s.received.getLast?).take limit := by
  have hcursor : ∀ last, s.received.getLast? = some last → last ∈ s.visible := fun last hlast =>
    h.visible (List.mem_of_getLast? hlast)
  unfold page listChatMessages
  cases hconversation : s.conversation with
  | none =>
    have hvisible : s.visible = [] := by rw [Chat.visible, hconversation]
    rw [hvisible]
    cases s.received.getLast? <;> simp [behind]
  | some conversation =>
    have hvisible : s.visible = messageListForConversation s.committed conversation := by
      rw [Chat.visible, hconversation]
    rw [hvisible] at hcursor ⊢
    cases hlast : s.received.getLast? with
    | none => rfl
    | some last =>
      have hfind := find?_cursor h.committed_ids (hcursor last hlast)
      dsimp only [Option.map_some, Option.bind_some]
      rw [hfind, behind]
      dsimp only
      refine congrArg (List.take limit) (List.filter_congr fun m _ => ?_)
      rw [Bool.eq_iff_iff, decide_eq_true_eq]
      simp only [Precedes, Bool.or_eq_true, Bool.and_eq_true, decide_eq_true_eq]
      omega

theorem page_subset (h : s.Sound) (limit : Nat) : s.page limit ⊆ s.visible := by
  intro m hm
  rw [h.page_eq limit] at hm
  exact (mem_behind.mp (List.mem_of_mem_take hm)).1

end Sound

end Chat

/-! ### What the steps change -/

section Steps

open Chat

variable {limit : Nat} {s s' : Chat} {l : ChatAction}

theorem chatStep_insert {message : Agents.Message}
    (h : chatStep limit (.insert message) s = some s') :
    s.freshId message.id = true ∧ s' =
      { s with
        inserts := s.inserts ++ [{ message := { message with sequence := s.nextSequence } }]
        nextSequence := s.nextSequence + 1 } := by
  rw [chatStep] at h
  split at h
  · exact ⟨‹_›, (Option.some.inj h).symm⟩
  · cases h

theorem chatStep_save {k : Nat} (h : chatStep limit (.save k) s = some s') :
    ∃ insert, s.inserts[k]? = some insert ∧
      s' = { s with inserts := s.inserts.set k { insert with saved := true } } := by
  rw [chatStep] at h
  split at h
  · cases h
  · rename_i insert hinsert
    split at h
    · cases h
    · exact ⟨insert, hinsert, (Option.some.inj h).symm⟩

theorem chatStep_commit {k : Nat} (h : chatStep limit (.commit k) s = some s') :
    ∃ insert, s.inserts[k]? = some insert ∧
      s' =
        { s with
          committed := s.committed ++ [insert.message]
          inserts := s.inserts.eraseIdx k } := by
  rw [chatStep] at h
  split at h
  · cases h
  · rename_i insert hinsert
    split at h
    · exact ⟨insert, hinsert, (Option.some.inj h).symm⟩
    · cases h

theorem chatStep_rollback {k : Nat} (h : chatStep limit (.rollback k) s = some s') :
    s' = { s with inserts := s.inserts.eraseIdx k } := by
  rw [chatStep] at h
  split at h
  · exact (Option.some.inj h).symm
  · cases h

theorem chatStep_link {conversation : Nat} (h : chatStep limit (.link conversation) s = some s') :
    s.conversation = none ∧ s' = { s with conversation := some conversation } := by
  rw [chatStep] at h
  split at h
  · exact ⟨‹_›, (Option.some.inj h).symm⟩
  · cases h

theorem chatStep_poll (h : chatStep limit .poll s = some s') :
    s' = { s with received := s.received ++ s.page limit } :=
  (Option.some.inj h).symm

end Steps

namespace Chat

section Kept

variable {limit k : Nat} {s s' : Chat} {l : ChatAction} {opened : OpenInsert}

/-- A committed row was an open one. -/
theorem rows_commit (h : s.inserts[k]? = some opened) :
    (s.committed ++ [opened.message] ++ (s.inserts.eraseIdx k).map (·.message)).Perm s.rows := by
  obtain ⟨hk, rfl⟩ := List.getElem?_eq_some_iff.mp h
  rw [List.append_assoc, rows]
  exact ((List.getElem_cons_eraseIdx_perm hk).map (·.message)).append_left s.committed

theorem rows_save (h : s.inserts[k]? = some opened) :
    (s.inserts.set k { opened with saved := true }).map (·.message) =
      s.inserts.map (·.message) := by
  obtain ⟨hk, rfl⟩ := List.getElem?_eq_some_iff.mp h
  rw [List.map_set]
  refine List.ext_getElem (by simp) fun i hi hi' => ?_
  rw [List.getElem_set]
  split
  · subst i
    simp
  · rfl

theorem mem_rows_insert (h : s.inserts[k]? = some opened) : opened.message ∈ s.rows :=
  List.mem_append_right _ (List.mem_map_of_mem (List.mem_of_getElem? h))

/-- An open message is not committed. -/
theorem Sound.not_committed (hs : s.Sound) (h : s.inserts[k]? = some opened) :
    opened.message ∉ s.committed := by
  intro hcommitted
  have hids := hs.ids
  rw [rows, List.map_append] at hids
  exact (List.nodup_append.mp hids).2.2 _ (List.mem_map_of_mem hcommitted) _
    (List.mem_map_of_mem (List.mem_map_of_mem (List.mem_of_getElem? h))) rfl

theorem Sound.initial : Sound {} := ⟨.nil, .nil, nofun, nofun, .nil⟩

theorem freshId_iff {id : Nat} : s.freshId id = true ↔ id ∉ s.rows.map (·.id) := by
  simp only [freshId, rows, Bool.and_eq_true, List.all_eq_true, decide_eq_true_eq, List.map_append,
    List.map_map, List.mem_append, List.mem_map, Function.comp_apply, not_or, not_exists, not_and]

theorem Sound.insert (hs : s.Sound) {message : Agents.Message}
    (h : chatStep limit (.insert message) s = some s') : s'.Sound := by
  obtain ⟨hfresh, rfl⟩ := chatStep_insert h
  have hrows : ∀ m : OpenInsert, s.committed ++ (s.inserts ++ [m]).map (·.message) =
      s.rows ++ [m.message] := by simp [rows]
  refine ⟨?_, ?_, ?_, hs.visible, hs.increasing⟩
  · rw [rows, hrows, List.map_append]
    exact List.nodup_append.mpr ⟨hs.ids, List.nodup_singleton _, fun a ha b hb => by
      rw [List.map_singleton, List.mem_singleton] at hb
      exact fun hab => freshId_iff.mp hfresh (hb ▸ hab ▸ ha)⟩
  · rw [rows, hrows, List.map_append]
    refine List.nodup_append.mpr ⟨hs.sequences, List.nodup_singleton _, fun a ha b hb => ?_⟩
    obtain ⟨m, hm, rfl⟩ := List.mem_map.mp ha
    rw [List.map_singleton, List.mem_singleton] at hb
    subst hb
    exact (hs.bound m hm).ne
  · intro m hm
    rw [rows, hrows, List.mem_append, List.mem_singleton] at hm
    rcases hm with hm | rfl
    · exact Nat.lt_succ_of_lt (hs.bound m hm)
    · exact Nat.lt_succ_self _

theorem Sound.save (hs : s.Sound) (h : chatStep limit (.save k) s = some s') : s'.Sound := by
  obtain ⟨opened, hopened, rfl⟩ := chatStep_save h
  have hrows : s.committed ++ (s.inserts.set k { opened with saved := true }).map (·.message) =
      s.rows := by rw [rows_save hopened, rows]
  exact ⟨by rw [rows, hrows]; exact hs.ids, by rw [rows, hrows]; exact hs.sequences,
    by rw [rows, hrows]; exact hs.bound, hs.visible, hs.increasing⟩

theorem Sound.commit (hs : s.Sound) (h : chatStep limit (.commit k) s = some s') : s'.Sound := by
  obtain ⟨opened, hopened, rfl⟩ := chatStep_commit h
  have hperm := rows_commit hopened
  refine ⟨(hperm.map _).nodup_iff.mpr hs.ids, (hperm.map _).nodup_iff.mpr hs.sequences,
    fun m hm => hs.bound m (hperm.mem_iff.mp hm), fun m hm => ?_, hs.increasing⟩
  obtain ⟨hcommitted, hconversation⟩ := mem_visible.mp (hs.visible hm)
  exact mem_visible.mpr ⟨List.mem_append_left _ hcommitted, hconversation⟩

theorem Sound.rollback (hs : s.Sound) (h : chatStep limit (.rollback k) s = some s') :
    s'.Sound := by
  obtain rfl := chatStep_rollback h
  have hrows : List.Sublist (s.committed ++ (s.inserts.eraseIdx k).map (·.message)) s.rows :=
    ((s.inserts.eraseIdx_sublist k).map _).append_left s.committed
  exact ⟨hs.ids.sublist (hrows.map _), hs.sequences.sublist (hrows.map _),
    fun m hm => hs.bound m (hrows.subset hm), hs.visible, hs.increasing⟩

/-- Nothing is received before the session has a conversation. -/
theorem Sound.received_nil (hs : s.Sound) (h : s.conversation = none) : s.received = [] := by
  have hvisible : s.visible = [] := by rw [Chat.visible, h]
  exact List.subset_nil.mp (hvisible ▸ hs.visible)

theorem Sound.link (hs : s.Sound) {conversation : Nat}
    (h : chatStep limit (.link conversation) s = some s') : s'.Sound := by
  obtain ⟨hnone, rfl⟩ := chatStep_link h
  refine ⟨hs.ids, hs.sequences, hs.bound, ?_, hs.increasing⟩
  rw [hs.received_nil hnone]
  exact List.nil_subset _

theorem Sound.poll (hs : s.Sound) (h : chatStep limit .poll s = some s') : s'.Sound := by
  obtain rfl := chatStep_poll h
  refine ⟨hs.ids, hs.sequences, hs.bound,
    List.append_subset.mpr ⟨hs.visible, hs.page_subset limit⟩, ?_⟩
  rw [hs.page_eq limit]
  exact received_pairwise precedes_trans hs.visible_pairwise hs.increasing

/-- Every step keeps the order of what was received. -/
theorem Sound.step (hs : s.Sound) (h : chatStep limit l s = some s') : s'.Sound := by
  cases l with
  | insert message => exact hs.insert h
  | save k => exact hs.save h
  | commit k => exact hs.commit h
  | rollback k => exact hs.rollback h
  | link conversation => exact hs.link h
  | poll => exact hs.poll h

/-- A commit makes no message visible before one of its conversation that was received. -/
def CommitsInOrder (s : Chat) : ChatAction → Prop
  | .commit k => ∀ opened, s.inserts[k]? = some opened → ∀ y ∈ s.received,
      y.conversation = opened.message.conversation → Precedes y opened.message
  | _ => True

/-- Everything visible up to the cursor was received. -/
def CaughtUp (s : Chat) : Prop := Lower Precedes s.visible s.received

theorem caughtUp_commit (hs : s.Sound) (h : chatStep limit (.commit k) s = some s') :
    s'.CaughtUp ↔ s.CaughtUp ∧ s.CommitsInOrder (.commit k) := by
  obtain ⟨opened, hopened, rfl⟩ := chatStep_commit h
  have hvisible : ∀ m, m ∈ Chat.visible
      { s with
        committed := s.committed ++ [opened.message]
        inserts := s.inserts.eraseIdx k } ↔
      m ∈ s.visible ∨ m = opened.message ∧ s.conversation = some m.conversation := by
    intro m
    rw [mem_visible, mem_visible, List.mem_append, List.mem_singleton, or_and_right]
  have hnew : opened.message ∉ s.received := fun hm =>
    hs.not_committed hopened (mem_visible.mp (hs.visible hm)).1
  constructor
  · intro hcaught
    refine ⟨fun x hx => hcaught x ((hvisible x).mpr (.inl hx)), ?_⟩
    intro opened' hopened' y hy hconversation
    obtain rfl := Option.some.inj (hopened.symm.trans hopened')
    have hy' := mem_visible.mp (hs.visible hy)
    have hne : y.sequence ≠ opened.message.sequence := by
      intro hsequence
      have hmem := List.mem_append_left (s.inserts.map (·.message)) hy'.1
      rw [List.inj_on_of_nodup_map hs.sequences hmem (mem_rows_insert hopened) hsequence] at hy
      exact hnew hy
    rcases Agents.precedes_or y opened.message hne with hyx | hxy
    · exact hyx
    · refine absurd (hcaught opened.message ((hvisible _).mpr (.inr ⟨rfl, ?_⟩)) y hy hxy) hnew
      rw [hy'.2, hconversation]
  · rintro ⟨hcaught, horder⟩ x hx y hy hxy
    rcases (hvisible x).mp hx with hx | ⟨rfl, hconversation⟩
    · exact hcaught x hx y hy hxy
    · have hy' := (mem_visible.mp (hs.visible hy)).2
      have hyx := horder opened hopened y hy (Option.some.inj (hy'.symm.trans hconversation))
      exact absurd hxy hyx.asymm

theorem caughtUp_poll (hs : s.Sound) (h : chatStep limit .poll s = some s') :
    s'.CaughtUp ↔ s.CaughtUp := by
  obtain rfl := chatStep_poll h
  have hpage := hs.page_eq limit
  constructor
  · intro hcaught x hx y hy hxy
    rcases List.mem_append.mp (hcaught x hx y (List.mem_append_left _ hy) hxy) with hm | hm
    · exact hm
    · rw [hpage] at hm
      exact absurd hm (not_mem_page precedes_irrefl precedes_trans hs.increasing hy hxy)
  · intro hcaught
    have hlower : Lower Precedes s.visible
        (s.received ++ (behind Precedes s.visible s.received.getLast?).take limit) :=
      hcaught.page hs.visible_total precedes_trans precedes_irrefl hs.visible_pairwise hs.visible
    rw [← hpage] at hlower
    exact hlower

/-- A step loses a message exactly when it commits one out of order. -/
theorem caughtUp_step (hs : s.Sound) (h : chatStep limit l s = some s') :
    s'.CaughtUp ↔ s.CaughtUp ∧ s.CommitsInOrder l := by
  cases l with
  | insert message =>
    obtain ⟨-, rfl⟩ := chatStep_insert h
    exact (and_iff_left trivial).symm
  | save k =>
    obtain ⟨opened, -, rfl⟩ := chatStep_save h
    exact (and_iff_left trivial).symm
  | commit k => exact caughtUp_commit hs h
  | rollback k =>
    obtain rfl := chatStep_rollback h
    exact (and_iff_left trivial).symm
  | link conversation =>
    obtain ⟨hnone, rfl⟩ := chatStep_link h
    have hnil := hs.received_nil hnone
    constructor
    · exact fun _ => ⟨fun x _ y hy => absurd (hnil ▸ hy) List.not_mem_nil, trivial⟩
    · exact fun _ x _ y hy => absurd (hnil ▸ hy) List.not_mem_nil
  | poll => rw [caughtUp_poll hs h, and_iff_left (show s.CommitsInOrder .poll from trivial)]

end Kept

section Run

variable {limit : Nat} {steps : List (Chat × ChatAction × Chat)} {s : Chat}

theorem Sound.run (h : (chatSystem limit).Run (fun _ _ => True) steps s) : s.Sound := by
  refine h.reach.invariant ?_ fun _ _ _ _ hs _ hstep => hs.step hstep
  rintro s rfl
  exact .initial

/-- A run has received all that is visible up to its cursor when all its commits were in order. -/
theorem caughtUp_iff (h : (chatSystem limit).Run (fun _ _ => True) steps s) :
    s.CaughtUp ↔ ∀ step ∈ steps, step.1.CommitsInOrder step.2.1 := by
  refine h.invariant (I := fun steps s => s.CaughtUp ↔
    ∀ step ∈ steps, step.1.CommitsInOrder step.2.1) ?_ ?_
  · rintro s rfl
    refine iff_of_true (fun m hm => ?_) (List.forall_mem_nil _)
    cases hm
  · intro steps s l s' hrun ih _ hstep
    rw [caughtUp_step (Sound.run hrun) hstep, ih, List.forall_mem_cons, and_comm]

end Run

end Chat

/-! ## The polls of a run -/

/-- What the polls of a run have returned is in order, without repetition and of one conversation.
After a page that was not full it is all that is visible exactly when no message was committed
behind the cursor. -/
theorem listChatMessages_exact_iff {limit : Nat} {steps : List (Chat × ChatAction × Chat)}
    {s : Chat} (hrun : (chatSystem limit).Run (fun _ _ => True) steps s) :
    s.received.Pairwise Precedes ∧ (s.received.map (·.id)).Nodup ∧
      (∀ m ∈ s.received, s.conversation = some m.conversation) ∧
      ((s.page limit).length < limit →
        (s.received ++ s.page limit = s.visible ↔
          ∀ step ∈ steps, step.1.CommitsInOrder step.2.1)) := by
  have hs := Chat.Sound.run hrun
  refine ⟨hs.increasing, ?_, fun m hm => (Chat.mem_visible.mp (hs.visible hm)).2, fun hshort => ?_⟩
  · refine List.Nodup.map_on (fun a ha b hb hid => ?_) (hs.increasing.imp fun h heq => ?_)
    · exact List.inj_on_of_nodup_map hs.committed_ids (Chat.mem_visible.mp (hs.visible ha)).1
        (Chat.mem_visible.mp (hs.visible hb)).1 hid
    · exact precedes_irrefl _ (heq ▸ h)
  · rw [← Chat.caughtUp_iff hrun]
    constructor
    · intro hwhole
      have hpoll : chatStep limit .poll s =
          some { s with received := s.received ++ s.page limit } := rfl
      exact (Chat.caughtUp_poll hs hpoll).mp fun x hx _ _ _ => hwhole ▸ hx
    · intro hcaught
      rw [hs.page_eq limit] at hshort ⊢
      exact hcaught.whole hs.visible_total precedes_trans precedes_irrefl hs.visible_pairwise
        hs.increasing hs.visible hshort

/-! ### Two transactions -/

/-- The message of a customer, at this time. -/
def sampleMessage (id createdAt sequence : Nat) : Agents.Message :=
  { id
    workspace := 1
    conversation := 1
    senderType := .customer
    direction := .inbound
    body := ['h', 'i']
    createdAt
    sequence }

/-- The transactions of two messages commit in the order of their inserts, or the later one
first, with a poll in between. -/
def twoMessages (first second : Nat) : List ChatAction :=
  [.link 1, .insert (sampleMessage 7 10 0), .insert (sampleMessage 8 11 0), .save first,
    .commit first, .poll, .save second, .commit second]

def twoMessagesRun (first second : Nat) : List (Chat × ChatAction × Chat) × Chat :=
  (chatSystem 200).retrace (twoMessages first second) [] {}

theorem twoMessages_run (first second : Nat) : (chatSystem 200).Run (fun _ _ => True)
    (twoMessagesRun first second).1 (twoMessagesRun first second).2 :=
  System.run_retrace _ (fun _ _ _ => trivial) (.init rfl)

theorem commitsInOrder_of_nil {s : Chat} (h : s.received = []) (l : ChatAction) :
    s.CommitsInOrder l := by
  cases l with
  | commit k => exact fun _ _ y hy => absurd (h ▸ hy) List.not_mem_nil
  | _ => trivial

/-- The steps up to the first commit, and the state behind it. -/
def firstMessageRun : List (Chat × ChatAction × Chat) × Chat :=
  (chatSystem 200).retrace ((twoMessages 0 0).take 5) [] {}

theorem firstMessage_polled :
    firstMessageRun.2.received ++ firstMessageRun.2.page 200 = firstMessageRun.2.visible := by
  have hrun : (chatSystem 200).Run (fun _ _ => True) firstMessageRun.1 firstMessageRun.2 :=
    System.run_retrace _ (fun _ _ _ => trivial) (.init rfl)
  refine ((listChatMessages_exact_iff hrun).2.2.2 ?_).mpr fun step hstep => ?_
  · have hcommitted : firstMessageRun.2.committed = [sampleMessage 7 10 1] := rfl
    have hconversation : firstMessageRun.2.conversation = some 1 := rfl
    have hreceived : firstMessageRun.2.received = [] := rfl
    rw [Chat.page, hcommitted, hconversation, hreceived]
    simp [listChatMessages, messageListForConversation, sampleMessage]
  · have hnil : ∀ step ∈ firstMessageRun.1, step.1.received = [] := by decide
    exact commitsInOrder_of_nil (hnil step hstep) _

theorem twoMessagesRun_late : ∃ s : Chat, s.committed = [sampleMessage 8 11 2] ∧
    s.conversation = some 1 ∧ s.received = [] ∧
    (twoMessagesRun 1 0).2.committed = [sampleMessage 8 11 2, sampleMessage 7 10 1] ∧
    (twoMessagesRun 1 0).2.conversation = some 1 ∧
    (twoMessagesRun 1 0).2.received = s.received ++ s.page 200 :=
  ⟨((chatSystem 200).retrace ((twoMessages 1 0).take 5) [] {}).2, rfl, rfl, rfl, rfl, rfl, rfl⟩

theorem late_sorted :
    messageListForConversation [sampleMessage 8 11 2, sampleMessage 7 10 1] 1 =
      [sampleMessage 7 10 1, sampleMessage 8 11 2] := by
  refine eq_of_strict precedes_irrefl precedes_trans (messageList_pairwise (by decide))
    (by decide) fun m => ?_
  simp only [mem_messageList, List.mem_cons, List.not_mem_nil, or_false]
  constructor
  · rintro ⟨rfl | rfl, -⟩
    · exact .inr rfl
    · exact .inl rfl
  · rintro (rfl | rfl)
    · exact ⟨.inr rfl, rfl⟩
    · exact ⟨.inl rfl, rfl⟩

/-- A message that is committed behind the cursor is lost. -/
theorem lateCommit_lost : ∃ steps s, (chatSystem 200).Run (fun _ _ => True) steps s ∧
    s.received ++ s.page 200 = [sampleMessage 8 11 2] ∧
    s.visible = [sampleMessage 7 10 1, sampleMessage 8 11 2] := by
  obtain ⟨s, hcommitted, hconversation, hreceived, hlate, hlateConversation, hlateReceived⟩ :=
    twoMessagesRun_late
  have hpage : (twoMessagesRun 1 0).2.received = [sampleMessage 8 11 2] := by
    rw [hlateReceived, hreceived, Chat.page, hcommitted, hconversation, hreceived]
    simp [listChatMessages, messageListForConversation, sampleMessage]
  refine ⟨_, _, twoMessages_run 1 0, ?_, ?_⟩
  · rw [Chat.page, hlate, hlateConversation, hpage]
    simp only [listChatMessages, late_sorted]
    decide
  · rw [Chat.visible, hlateConversation, hlate]
    exact late_sorted

end SupportPilot.ChannelIngress
