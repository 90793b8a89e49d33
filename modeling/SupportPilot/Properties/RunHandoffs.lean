import SupportPilot.Library.Table
import SupportPilot.Tickets.Handoffs

/-!
# Runs that are handed off

A conversation has at most one active handoff. A run is handed off by a transaction that holds its
lock, has taken or inserted an active handoff, and writes the run, its message and its step
together; a run that has been cancelled before has left nothing.
-/

namespace SupportPilot.Tickets

open Library

variable {s s' : HandoffStore} {c c' : Handoffs} {call call' : HandoffCall} {r : Nat}
  {run row : AgentRun}

/-! ## What one transaction leaves to the others -/

/-- A handoff stays in its conversation. -/
def SameConversation (h h' : HumanHandoff) : Prop := h'.conversation = h.conversation

theorem SameConversation.refl (h : HumanHandoff) : SameConversation h h := rfl

/-- The store change of one actor, as the open transactions of others see it. -/
structure Preserves (actor : Option Nat) (s s' : HandoffStore) : Prop where
  transactions : s.transactions ≤ s'.transactions
  locks : ∀ x ∈ s.locks, some x.2 ≠ actor → x ∈ s'.locks
  runs : ∀ (r t : Nat), (.run r, t) ∈ s.locks → some t ≠ actor → s'.runs[r]? = s.runs[r]?
  handoffs : Rows SameConversation s.handoffs s'.handoffs
  locked : ∀ (k t : Nat), (.handoff k, t) ∈ s.locks → some t ≠ actor →
    s'.handoffs[k]? = s.handoffs[k]?
  messages : ∀ (m : Nat) (message : Message), s.messages[m]? = some message →
    s'.messages[m]? = some message
  ended : ∀ (r : Nat) (run : AgentRun), s.runs[r]? = some run → run.status = .handedOff →
    s'.runs[r]? = some run ∧
      s'.messages.filter (·.agentRun = r) = s.messages.filter (·.agentRun = r) ∧
      s'.steps.filter (·.run = r) = s.steps.filter (·.run = r)

theorem Preserves.refl (actor : Option Nat) (s : HandoffStore) : Preserves actor s s where
  transactions := Nat.le_refl _
  locks _ hx _ := hx
  runs _ _ _ _ := rfl
  handoffs := .refl .refl _
  locked _ _ _ _ := rfl
  messages _ _ hmessage := hmessage
  ended _ _ hother _ := ⟨hother, rfl, rfl⟩

/-- The transaction has locked its run, which is running. -/
structure Holds (s : HandoffStore) (call : HandoffCall) (conversation : Nat) : Prop where
  lock : (.run call.run, call.transaction) ∈ s.locks
  run : ∃ run, s.runs[call.run]? = some run ∧ run.status = .running ∧
    run.conversation = some conversation

/-- The handoff was active when the transaction took it, and is so still if it is locked. -/
structure Takes (s : HandoffStore) (call : HandoffCall) (handoff : Object HumanHandoff)
    (forUpdate : Bool) : Prop where
  holds : Holds s call handoff.value.conversation
  active : handoff.value.status.active = true
  row : ∃ row, s.handoffs[handoff.pk]? = some row ∧
    row.conversation = handoff.value.conversation ∧
    (forUpdate = true → (.handoff handoff.pk, call.transaction) ∈ s.locks ∧
      row.status.active = true)

/-- The run has been handed off, with this handoff, one message and one step. -/
structure HandsOff (s : HandoffStore) (call : HandoffCall) (handoff : Object HumanHandoff) :
    Prop where
  active : handoff.value.status.active = true
  row : ∃ row, s.handoffs[handoff.pk]? = some row ∧
    row.conversation = handoff.value.conversation
  run : ∃ run m, s.runs[call.run]? = some run ∧ run.status = .handedOff ∧
    run.conversation = some handoff.value.conversation ∧ run.outputMessage = some m ∧
    s.messages[m]? =
      some ⟨handoff.value.conversation, handoffAcknowledgementText, call.run⟩
  message : s.messages.filter (·.agentRun = call.run) =
    [⟨handoff.value.conversation, handoffAcknowledgementText, call.run⟩]
  step : ∃ reused, s.steps.filter (·.run = call.run) = [⟨call.run, handoff.pk, reused⟩]

/-- What a call knows at its point. -/
def AtPoint (s : HandoffStore) (call : HandoffCall) : HandoffPoint → Prop
  | .called | .ended => True
  | .locked conversation | .inserting conversation | .conflicted conversation =>
    Holds s call conversation
  | .reusing handoff forUpdate => Takes s call handoff forUpdate
  | .handedOff handoff => HandsOff s call handoff

def Asserts (s : HandoffStore) (call : HandoffCall) : Prop :=
  call.transaction < s.transactions ∧ AtPoint s call call.point

theorem Holds.preserved {actor : Option Nat} {conversation : Nat} (h : Preserves actor s s')
    (hother : some call.transaction ≠ actor) (hs : Holds s call conversation) :
    Holds s' call conversation := by
  obtain ⟨run, hrun, hfacts⟩ := hs.run
  refine ⟨h.locks _ hs.lock hother, run, ?_, hfacts⟩
  rw [h.runs _ _ hs.lock hother]
  exact hrun

theorem Takes.preserved {actor : Option Nat} {handoff : Object HumanHandoff} {forUpdate : Bool}
    (h : Preserves actor s s') (hother : some call.transaction ≠ actor)
    (hs : Takes s call handoff forUpdate) : Takes s' call handoff forUpdate := by
  obtain ⟨row, hrow, hconversation, hlocked⟩ := hs.row
  obtain ⟨row', hrow', hsame⟩ := h.handoffs _ _ hrow
  refine ⟨hs.holds.preserved h hother, hs.active, row', hrow', hsame.trans hconversation, ?_⟩
  intro hforUpdate
  obtain ⟨hlock, hactive⟩ := hlocked hforUpdate
  rw [h.locked _ _ hlock hother, hrow] at hrow'
  cases hrow'
  exact ⟨h.locks _ hlock hother, hactive⟩

theorem HandsOff.preserved {actor : Option Nat} {handoff : Object HumanHandoff}
    (h : Preserves actor s s') (hs : HandsOff s call handoff) : HandsOff s' call handoff := by
  obtain ⟨run, m, hrun, hstatus, hconversation, houtput, hmessage⟩ := hs.run
  obtain ⟨hrun', hmessages, hsteps⟩ := h.ended _ run hrun hstatus
  obtain ⟨row, hrow, hpair⟩ := hs.row
  obtain ⟨row', hrow', hsame⟩ := h.handoffs _ _ hrow
  obtain ⟨reused, hstep⟩ := hs.step
  exact ⟨hs.active, ⟨row', hrow', hsame.trans hpair⟩,
    ⟨run, m, hrun', hstatus, hconversation, houtput, h.messages _ _ hmessage⟩,
    hmessages.trans hs.message,
    reused, hsteps.trans hstep⟩

theorem Asserts.preserved {actor : Option Nat} (h : Preserves actor s s')
    (hother : some call.transaction ≠ actor) (hs : Asserts s call) : Asserts s' call := by
  refine ⟨Nat.lt_of_lt_of_le hs.1 h.transactions, ?_⟩
  have hpoint := hs.2
  revert hpoint
  cases call.point with
  | called | ended => exact fun _ => trivial
  | locked | inserting | conflicted => exact Holds.preserved h hother
  | reusing => exact Takes.preserved h hother
  | handedOff => exact HandsOff.preserved h

/-! ## The tables -/

/-- The conversation of an active handoff. -/
def activeConversation (handoff : HumanHandoff) : Option Nat :=
  if handoff.status.active then some handoff.conversation else none

/-- A run that is not handed off has no handoff and no step of one, and before it is completed it
has no message. -/
structure RunLeaves (s : HandoffStore) (r : Nat) (run : AgentRun) : Prop where
  handoffs : run.status ≠ .handedOff → ∀ h ∈ s.handoffs, h.agentRun ≠ r
  steps : run.status ≠ .handedOff → ∀ x ∈ s.steps, x.run ≠ r
  message : run.status ≠ .handedOff → run.status ≠ .succeeded →
    run.outputMessage = none ∧ ∀ m ∈ s.messages, m.agentRun ≠ r

/-- The locked row exists. -/
def RowLock.Exists (s : HandoffStore) : RowLock → Prop
  | .run r => r < s.runs.length
  | .handoff h => h < s.handoffs.length

theorem RowLock.Exists.mono {lock : RowLock} (h : lock.Exists s)
    (hruns : s.runs.length ≤ s'.runs.length) (hhandoffs : s.handoffs.length ≤ s'.handoffs.length) :
    lock.Exists s' := by
  cases lock with
  | run r => exact Nat.lt_of_lt_of_le h hruns
  | handoff k => exact Nat.lt_of_lt_of_le h hhandoffs

structure Consistent (s : HandoffStore) : Prop where
  unique : UniqueIndex activeConversation s.handoffs
  locks : ∀ x ∈ s.locks, x.1.Exists s
  owners : ∀ (lock : RowLock) (t u : Nat), (lock, t) ∈ s.locks → (lock, u) ∈ s.locks → t = u
  handoffs : ∀ h ∈ s.handoffs, h.agentRun < s.runs.length
  steps : ∀ x ∈ s.steps, x.run < s.runs.length
  messages : ∀ m ∈ s.messages, m.agentRun < s.runs.length
  leaves : AllRows (RunLeaves s) s.runs

theorem Consistent.empty : Consistent {} where
  unique := .nil _
  locks _ h := by cases h
  owners _ _ _ h := by cases h
  handoffs _ h := by cases h
  steps _ h := by cases h
  messages _ h := by cases h
  leaves _ _ h := by cases h

/-- An active handoff of the conversation is found, if there is one. -/
theorem activeHandoff_none {conversation : Nat} (h : s.activeHandoff conversation = none) :
    ∀ handoff ∈ s.handoffs, activeConversation handoff ≠ some conversation := by
  intro handoff hhandoff hactive
  unfold activeConversation at hactive
  split at hactive
  · rename_i hstatus
    cases hactive
    unfold HandoffStore.activeHandoff at h
    cases hfind : s.handoffs.findIdx? fun h => h.conversation = handoff.conversation &&
        h.status.active with
    | none =>
      have hno := List.findIdx?_eq_none_iff.mp hfind handoff hhandoff
      simp [hstatus] at hno
    | some k =>
      obtain ⟨hlt, -⟩ := List.findIdx?_eq_some_iff_getElem.mp hfind
      rw [hfind, Option.bind_some, List.getElem?_eq_getElem hlt] at h
      cases h
  · cases hactive

theorem activeHandoff_some {conversation : Nat} {handoff : Object HumanHandoff}
    (h : s.activeHandoff conversation = some handoff) :
    s.handoffs[handoff.pk]? = some handoff.value ∧
      handoff.value.conversation = conversation ∧ handoff.value.status.active = true := by
  obtain ⟨k, hfind, hrow⟩ := Option.bind_eq_some_iff.mp h
  obtain ⟨row, hk, rfl⟩ := Option.map_eq_some_iff.mp hrow
  obtain ⟨hlt, hfound, -⟩ := List.findIdx?_eq_some_iff_getElem.mp hfind
  rw [List.getElem?_eq_getElem hlt] at hk
  cases hk
  simp only [Bool.and_eq_true, decide_eq_true_eq] at hfound
  exact ⟨List.getElem?_eq_getElem hlt, hfound.1, hfound.2⟩

/-! ## Changes of the store -/

section Changes

/-- A change of a run that neither completes nor hands it off. -/
structure Ordinary (run row : AgentRun) : Prop where
  before : run.status.terminal = false
  handedOff : row.status ≠ .handedOff
  succeeded : row.status ≠ .succeeded
  outputMessage : row.outputMessage = run.outputMessage

theorem AgentRunStatus.open_cases {status : AgentRunStatus} (h : status.terminal = false) :
    status ≠ .handedOff ∧ status ≠ .succeeded := by
  constructor <;> rintro rfl <;> cases h

/-- A free row is not the one that another transaction has locked. -/
theorem ne_of_free {lock lock' : RowLock} {t : Nat} (hfree : s.Free lock)
    (hlock : (lock', t) ∈ s.locks) : lock' ≠ lock :=
  hfree _ hlock

theorem getElem?_set_free {t : Nat} {k : Nat} (hfree : s.Free (.run k))
    (hlock : (.run r, t) ∈ s.locks) : (s.runs.set k row)[r]? = s.runs[r]? := by
  refine List.getElem?_set_ne fun hsame => ?_
  exact ne_of_free hfree hlock (by rw [hsame])

theorem Ordinary.preserves (h : Ordinary run row) (hfree : s.Free (.run r))
    (hrun : s.runs[r]? = some run) : Preserves none s { s with runs := s.runs.set r row } where
  transactions := Nat.le_refl _
  locks _ hx _ := hx
  runs _ _ hlock _ := getElem?_set_free hfree hlock
  handoffs := .refl .refl _
  locked _ _ _ _ := rfl
  messages _ _ hmessage := hmessage
  ended k other hother hended := by
    refine ⟨?_, rfl, rfl⟩
    by_cases hk : r = k
    · subst hk
      rw [hrun] at hother
      cases hother
      exact absurd hended (AgentRunStatus.open_cases h.before).1
    · show (s.runs.set r row)[k]? = some other
      rw [List.getElem?_set_ne hk]
      exact hother

theorem Consistent.ordinary (hs : Consistent s) (h : Ordinary run row)
    (hrun : s.runs[r]? = some run) : Consistent { s with runs := s.runs.set r row } where
  unique := hs.unique
  locks x hx := (hs.locks x hx).mono (Nat.le_of_eq (List.length_set).symm) (Nat.le_refl _)
  owners := hs.owners
  handoffs := by simpa using hs.handoffs
  steps := by simpa using hs.steps
  messages := by simpa using hs.messages
  leaves := by
    obtain ⟨hhandedOff, hsucceeded⟩ := AgentRunStatus.open_cases h.before
    have hleaves := hs.leaves r run hrun
    refine AllRows.set (fun k other hother => ?_) ?_
    · have hold := hs.leaves k other hother
      exact ⟨hold.handoffs, hold.steps, hold.message⟩
    · obtain ⟨houtput, hmessages⟩ := hleaves.message hhandedOff hsucceeded
      exact ⟨fun _ => hleaves.handoffs hhandedOff, fun _ => hleaves.steps hhandedOff,
        fun _ _ => ⟨h.outputMessage.trans houtput, hmessages⟩⟩

/-- A completion that is no handoff, with the message that it may create. -/
structure Completes (r : Nat) (run row : AgentRun) (message : Option Message) : Prop where
  before : run.status = .running
  after : row.status = .succeeded
  message : ∀ m ∈ message, m.agentRun = r

theorem filter_append_other {message : Option Message} {k : Nat} (messages : List Message)
    (hmessage : ∀ m ∈ message, m.agentRun = r) (hk : r ≠ k) :
    (messages ++ message.toList).filter (·.agentRun = k) =
      messages.filter (·.agentRun = k) := by
  rw [List.filter_append]
  cases message with
  | none => exact List.append_nil _
  | some m =>
    have hm := hmessage m rfl
    rw [Option.toList_some, List.filter_cons_of_neg (by simp [hm, hk]), List.filter_nil,
      List.append_nil]

theorem mem_append_message {message : Option Message} {k : Nat} {m : Message}
    (hmessage : ∀ m ∈ message, m.agentRun = r) (hk : r ≠ k)
    (hold : ∀ m ∈ s.messages, m.agentRun ≠ k) (hm : m ∈ s.messages ++ message.toList) :
    m.agentRun ≠ k := by
  rcases List.mem_append.mp hm with hbefore | hnew
  · exact hold m hbefore
  · rw [hmessage m (Option.mem_toList.mp hnew)]
    exact hk

theorem Completes.preserves {message : Option Message} (h : Completes r run row message)
    (hfree : s.Free (.run r)) (hrun : s.runs[r]? = some run) :
    Preserves none s
      { s with runs := s.runs.set r row, messages := s.messages ++ message.toList } where
  transactions := Nat.le_refl _
  locks _ hx _ := hx
  runs _ _ hlock _ := getElem?_set_free hfree hlock
  handoffs := .refl .refl _
  locked _ _ _ _ := rfl
  messages _ _ hmessage := getElem?_append_some hmessage _
  ended k other hother hended := by
    have hk : r ≠ k := by
      rintro rfl
      rw [hrun] at hother
      cases hother
      rw [h.before] at hended
      cases hended
    refine ⟨?_, filter_append_other _ h.message hk, rfl⟩
    show (s.runs.set r row)[k]? = some other
    rw [List.getElem?_set_ne hk]
    exact hother

theorem Consistent.completes {message : Option Message} (hs : Consistent s)
    (h : Completes r run row message) (hrun : s.runs[r]? = some run) :
    Consistent
      { s with runs := s.runs.set r row, messages := s.messages ++ message.toList } where
  unique := hs.unique
  locks x hx := (hs.locks x hx).mono (Nat.le_of_eq (List.length_set).symm) (Nat.le_refl _)
  owners := hs.owners
  handoffs := by simpa using hs.handoffs
  steps := by simpa using hs.steps
  messages m hm := by
    show m.agentRun < (s.runs.set r row).length
    rw [List.length_set]
    rcases List.mem_append.mp hm with hold | hnew
    · exact hs.messages m hold
    · rw [h.message m (Option.mem_toList.mp hnew)]
      exact (List.getElem?_eq_some_iff.mp hrun).1
  leaves := by
    have hhandedOff : run.status ≠ .handedOff := by
      rw [h.before]
      nofun
    have hleaves := hs.leaves r run hrun
    refine AllRows.set_of_ne (fun k other hk hother => ?_) ?_
    · have hold := hs.leaves k other hother
      refine ⟨hold.handoffs, hold.steps, fun hopen hsucceeded => ?_⟩
      obtain ⟨houtput, hmessages⟩ := hold.message hopen hsucceeded
      exact ⟨houtput, fun m hm => mem_append_message h.message (Ne.symm hk) hmessages hm⟩
    · exact ⟨fun _ => hleaves.handoffs hhandedOff, fun _ => hleaves.steps hhandedOff,
        fun _ hsucceeded => absurd h.after hsucceeded⟩

/-- A run that is not handed off has no handoff that its cancellation could cancel. -/
theorem Consistent.cancelHandoffs (hs : Consistent s) (hrun : s.runs[r]? = some run)
    (hopen : run.status ≠ .handedOff) :
    s.handoffs.map (fun h => if h.agentRun = r then cancelHandoff h else h) = s.handoffs := by
  have hnone := (hs.leaves r run hrun).handoffs hopen
  calc s.handoffs.map (fun h => if h.agentRun = r then cancelHandoff h else h)
      = s.handoffs.map id := List.map_congr_left fun h hh => if_neg (hnone h hh)
    _ = s.handoffs := List.map_id _

/-- What staff do to a handoff. -/
structure Staffed (h h' : HumanHandoff) : Prop where
  conversation : h'.conversation = h.conversation
  agentRun : h'.agentRun = h.agentRun
  before : h.status.active = true

theorem Staffed.preserves {k : Nat} {h h' : HumanHandoff} (hstaff : Staffed h h')
    (hfree : s.Free (.handoff k)) (hk : s.handoffs[k]? = some h) :
    Preserves none s { s with handoffs := s.handoffs.set k h' } where
  transactions := Nat.le_refl _
  locks _ hx _ := hx
  runs _ _ _ _ := rfl
  handoffs := .set .refl hk hstaff.conversation
  locked i t hlock _ := by
    refine List.getElem?_set_ne fun hsame => ?_
    exact ne_of_free hfree hlock (by rw [hsame])
  messages _ _ hmessage := hmessage
  ended _ _ hother _ := ⟨hother, rfl, rfl⟩

theorem Consistent.staffed {k : Nat} {h h' : HumanHandoff} (hs : Consistent s)
    (hstaff : Staffed h h') (hk : s.handoffs[k]? = some h) :
    Consistent { s with handoffs := s.handoffs.set k h' } where
  unique := by
    have hkey : activeConversation h = some h.conversation := if_pos hstaff.before
    refine hs.unique.install k h.conversation fun i a conversation ha hactive => ?_
    rcases getElem?_set_cases ha with ⟨rfl, rfl⟩ | ⟨hik, hrow⟩
    · unfold activeConversation at hactive
      split at hactive
      · cases hactive
        exact .inl ⟨rfl, hstaff.conversation⟩
      · cases hactive
    · refine .inr ⟨?_, a, hrow, hactive⟩
      rintro rfl
      exact hik (hs.unique i k a h _ hrow hk hactive hkey)
  locks x hx := (hs.locks x hx).mono (Nat.le_refl _) (Nat.le_of_eq (List.length_set).symm)
  owners := hs.owners
  handoffs a ha := by
    rcases List.mem_or_eq_of_mem_set ha with hold | rfl
    · exact hs.handoffs a hold
    · rw [hstaff.agentRun]
      exact hs.handoffs h (List.mem_of_getElem? hk)
  steps := hs.steps
  messages := hs.messages
  leaves i other hother := by
    have hold := hs.leaves i other hother
    refine ⟨fun hopen a ha => ?_, hold.steps, hold.message⟩
    rcases List.mem_or_eq_of_mem_set ha with hbefore | rfl
    · exact hold.handoffs hopen a hbefore
    · rw [hstaff.agentRun]
      exact hold.handoffs hopen h (List.mem_of_getElem? hk)

/-- A new run has left nothing. -/
theorem Consistent.created (hs : Consistent s) (houtput : row.outputMessage = none) :
    Consistent { s with runs := s.runs ++ [row] } where
  unique := hs.unique
  locks x hx := by
    refine (hs.locks x hx).mono ?_ (Nat.le_refl _)
    show s.runs.length ≤ (s.runs ++ [row]).length
    rw [List.length_append]
    omega
  owners := hs.owners
  handoffs h hh := by
    have hlt := hs.handoffs h hh
    show h.agentRun < (s.runs ++ [row]).length
    rw [List.length_append]
    omega
  steps x hx := by
    have hlt := hs.steps x hx
    show x.run < (s.runs ++ [row]).length
    rw [List.length_append]
    omega
  messages m hm := by
    have hlt := hs.messages m hm
    show m.agentRun < (s.runs ++ [row]).length
    rw [List.length_append]
    omega
  leaves := by
    refine AllRows.append (fun k other hother => ?_) ⟨fun _ h hh => ?_, fun _ x hx => ?_, ?_⟩
    · have hold := hs.leaves k other hother
      exact ⟨hold.handoffs, hold.steps, hold.message⟩
    · exact Nat.ne_of_lt (hs.handoffs h hh)
    · exact Nat.ne_of_lt (hs.steps x hx)
    · exact fun _ _ => ⟨houtput, fun m hm => Nat.ne_of_lt (hs.messages m hm)⟩

theorem Consistent.preserves_created (hs : Consistent s) (row : AgentRun) :
    Preserves none s { s with runs := s.runs ++ [row] } where
  transactions := Nat.le_refl _
  locks _ hx _ := hx
  runs _ _ hlock _ := List.getElem?_append_left (hs.locks _ hlock)
  handoffs := .refl .refl _
  locked _ _ _ _ := rfl
  messages _ _ hmessage := hmessage
  ended _ _ hother _ := ⟨getElem?_append_some hother _, rfl, rfl⟩

/-- Locks and the number of the next transaction may change while locks are on rows and have one
owner each. -/
theorem Consistent.relock {locks : List (RowLock × Nat)} {transactions : Nat}
    (hs : Consistent s) (hlocks : ∀ x ∈ locks, x.1.Exists s)
    (howners : ∀ (lock : RowLock) (t u : Nat), (lock, t) ∈ locks → (lock, u) ∈ locks → t = u) :
    Consistent { s with locks, transactions } where
  unique := hs.unique
  locks x hx := (hlocks x hx).mono (Nat.le_refl _) (Nat.le_refl _)
  owners := howners
  handoffs := hs.handoffs
  steps := hs.steps
  messages := hs.messages
  leaves k other hother :=
    have hold := hs.leaves k other hother
    ⟨hold.handoffs, hold.steps, hold.message⟩

theorem Consistent.acquire {lock : RowLock} {t : Nat} (hs : Consistent s)
    (hfree : s.Free lock) (hexists : lock.Exists s) : Consistent (s.acquire lock t) := by
  refine hs.relock (fun x hx => ?_) fun other u v hu hv => ?_
  · rcases List.mem_cons.mp hx with rfl | hold
    · exact hexists
    · exact hs.locks x hold
  · rcases List.mem_cons.mp hu with hu' | hu' <;> rcases List.mem_cons.mp hv with hv' | hv'
    · exact (Prod.mk.inj hu').2.trans (Prod.mk.inj hv').2.symm
    · exact absurd (Prod.mk.inj hu').1 (ne_of_free hfree hv')
    · exact absurd (Prod.mk.inj hv').1 (ne_of_free hfree hu')
    · exact hs.owners other u v hu' hv'

theorem preserves_acquire (s : HandoffStore) (lock : RowLock) (t : Nat) (actor : Option Nat) :
    Preserves actor s (s.acquire lock t) where
  transactions := Nat.le_refl _
  locks _ hx _ := List.mem_cons_of_mem _ hx
  runs _ _ _ _ := rfl
  handoffs := .refl .refl _
  locked _ _ _ _ := rfl
  messages _ _ hmessage := hmessage
  ended _ _ hother _ := ⟨hother, rfl, rfl⟩

theorem Consistent.release (hs : Consistent s) (t : Nat) : Consistent (s.release t) :=
  hs.relock (fun x hx => hs.locks x (List.mem_filter.mp hx).1) fun other u v hu hv =>
    hs.owners other u v (List.mem_filter.mp hu).1 (List.mem_filter.mp hv).1

theorem mem_release {t : Nat} {x : RowLock × Nat} (hx : x ∈ s.locks) (hother : some x.2 ≠ some t) :
    x ∈ (s.release t).locks := by
  refine List.mem_filter.mpr ⟨hx, decide_eq_true fun hsame => ?_⟩
  exact hother (congrArg some hsame)

theorem preserves_release (s : HandoffStore) (t : Nat) : Preserves (some t) s (s.release t) where
  transactions := Nat.le_refl _
  locks _ hx hother := mem_release hx hother
  runs _ _ _ _ := rfl
  handoffs := .refl .refl _
  locked _ _ _ _ := rfl
  messages _ _ hmessage := hmessage
  ended _ _ hother _ := ⟨hother, rfl, rfl⟩

/-! ## The commit of a handoff -/

/-- The store after a run has been handed off, with the handoffs that it inserts. -/
def handedOffStore (s : HandoffStore) (call : HandoffCall) (conversation : Nat) (row : AgentRun)
    (new : List HumanHandoff) (handoff : Nat) (reused : Bool) : HandoffStore where
  runs := s.runs.set call.run row
  messages := s.messages ++ [⟨conversation, handoffAcknowledgementText, call.run⟩]
  handoffs := s.handoffs ++ new
  steps := s.steps ++ [⟨call.run, handoff, reused⟩]
  locks := s.locks.filter (·.2 ≠ call.transaction)
  transactions := s.transactions

/-- What the commit writes to its run, and what it inserts. -/
structure HandsRunOff (s : HandoffStore) (call : HandoffCall) (conversation : Nat)
    (row : AgentRun) (new : List HumanHandoff) : Prop where
  holds : Holds s call conversation
  status : row.status = .handedOff
  conversation : row.conversation = some conversation
  outputMessage : row.outputMessage = some s.messages.length
  unique : UniqueIndex activeConversation (s.handoffs ++ new)
  inserted : ∀ h ∈ new, h.agentRun = call.run

section Commit

variable {conversation handoff : Nat} {new : List HumanHandoff} {reused : Bool}

theorem filter_append_step {k : Nat} (hk : call.run ≠ k) :
    (s.steps ++ [(⟨call.run, handoff, reused⟩ : HandedOffStep)]).filter (·.run = k) =
      s.steps.filter (·.run = k) := by
  rw [List.filter_append, List.filter_cons_of_neg (by simp [hk]), List.filter_nil,
    List.append_nil]

theorem HandsRunOff.preserves (h : HandsRunOff s call conversation row new)
    (hs : Consistent s) :
    Preserves (some call.transaction) s
      (handedOffStore s call conversation row new handoff reused) where
  transactions := Nat.le_refl _
  locks _ hx hother := mem_release hx hother
  runs r t hlock hother := by
    refine List.getElem?_set_ne fun hsame => hother ?_
    rw [← hsame] at hlock
    exact congrArg some (hs.owners _ _ _ hlock h.holds.lock)
  handoffs := .append .refl _ _
  locked _ _ hlock _ := List.getElem?_append_left (hs.locks _ hlock)
  messages _ _ hmessage := getElem?_append_some hmessage _
  ended k other hother hended := by
    have hk : call.run ≠ k := by
      rintro rfl
      obtain ⟨run, hrun, hrunning, -⟩ := h.holds.run
      rw [hrun] at hother
      cases hother
      rw [hrunning] at hended
      cases hended
    refine ⟨?_, ?_, filter_append_step hk⟩
    · show (s.runs.set call.run row)[k]? = some other
      rw [List.getElem?_set_ne hk]
      exact hother
    · have hown : ∀ m ∈ some (⟨conversation, handoffAcknowledgementText, call.run⟩ : Message),
          m.agentRun = call.run := fun m hm => by cases hm; rfl
      exact filter_append_other s.messages hown hk

theorem HandsRunOff.consistent (h : HandsRunOff s call conversation row new)
    (hs : Consistent s) :
    Consistent (handedOffStore s call conversation row new handoff reused) := by
  obtain ⟨run, hrun, hrunning, -⟩ := h.holds.run
  have hlt : call.run < s.runs.length := (List.getElem?_eq_some_iff.mp hrun).1
  have hlength : (s.runs.set call.run row).length = s.runs.length := List.length_set
  refine ⟨h.unique, fun x hx => ?_, fun lock t u ht hu => ?_, fun a ha => ?_, fun x hx => ?_,
    fun m hm => ?_, ?_⟩
  · refine (hs.locks x (List.mem_filter.mp hx).1).mono (Nat.le_of_eq hlength.symm) ?_
    show s.handoffs.length ≤ (s.handoffs ++ new).length
    rw [List.length_append]
    omega
  · exact hs.owners lock t u (List.mem_filter.mp ht).1 (List.mem_filter.mp hu).1
  · show a.agentRun < (s.runs.set call.run row).length
    rw [hlength]
    rcases List.mem_append.mp ha with hold | hnew
    · exact hs.handoffs a hold
    · rw [h.inserted a hnew]
      exact hlt
  · show x.run < (s.runs.set call.run row).length
    rw [hlength]
    rcases List.mem_append.mp hx with hold | hnew
    · exact hs.steps x hold
    · rw [List.mem_singleton.mp hnew]
      exact hlt
  · show m.agentRun < (s.runs.set call.run row).length
    rw [hlength]
    rcases List.mem_append.mp hm with hold | hnew
    · exact hs.messages m hold
    · rw [List.mem_singleton.mp hnew]
      exact hlt
  · refine AllRows.set_of_ne (fun k other hk hother => ?_) ?_
    · have hold := hs.leaves k other hother
      refine ⟨fun hopen a ha => ?_, fun hopen x hx => ?_, fun hopen hsucceeded => ?_⟩
      · rcases List.mem_append.mp ha with hbefore | hnew
        · exact hold.handoffs hopen a hbefore
        · rw [h.inserted a hnew]
          exact Ne.symm hk
      · rcases List.mem_append.mp hx with hbefore | hnew
        · exact hold.steps hopen x hbefore
        · rw [List.mem_singleton.mp hnew]
          exact Ne.symm hk
      · obtain ⟨houtput, hmessages⟩ := hold.message hopen hsucceeded
        refine ⟨houtput, fun m hm => ?_⟩
        rcases List.mem_append.mp hm with hbefore | hnew
        · exact hmessages m hbefore
        · rw [List.mem_singleton.mp hnew]
          exact Ne.symm hk
    · exact ⟨fun hopen => absurd h.status hopen, fun hopen => absurd h.status hopen,
        fun hopen => absurd h.status hopen⟩

/-- The commit leaves its run with one message and one step. -/
theorem HandsRunOff.handsOff (h : HandsRunOff s call conversation row new) (hs : Consistent s)
    (taken : Object HumanHandoff) (hconversation : taken.value.conversation = conversation)
    (hactive : taken.value.status.active = true)
    (hrow : ∃ a, (s.handoffs ++ new)[taken.pk]? = some a ∧
      a.conversation = taken.value.conversation) :
    HandsOff (handedOffStore s call conversation row new taken.pk reused) call taken := by
  subst hconversation
  obtain ⟨run, hrun, hrunning, -⟩ := h.holds.run
  have hlt : call.run < s.runs.length := (List.getElem?_eq_some_iff.mp hrun).1
  have hleaves := hs.leaves _ run hrun
  have hopen : run.status ≠ .handedOff := by
    rw [hrunning]
    nofun
  have hmessages := (hleaves.message hopen (by rw [hrunning]; nofun)).2
  have hsteps := hleaves.steps hopen
  refine ⟨hactive, hrow, ⟨row, s.messages.length, ?_, h.status, h.conversation,
    h.outputMessage, ?_⟩, ?_, reused, ?_⟩
  · exact List.getElem?_set_self hlt
  · exact List.getElem?_concat_length
  · show (s.messages ++ [_]).filter _ = _
    rw [List.filter_append, List.filter_eq_nil_iff.mpr (by simpa using hmessages)]
    simp
  · show (s.steps ++ [_]).filter _ = _
    rw [List.filter_append, List.filter_eq_nil_iff.mpr (by simpa using hsteps)]
    simp

end Commit

end Changes

/-! ## Steps -/

theorem commit_some {handoff : Object HumanHandoff} {reused : Bool} {now : Nat}
    {out : HandoffStore × HandoffPoint} (h : s.commit call handoff reused now = some out) :
    ∃ run row message,  s.runs[call.run]? = some run ∧
      completeRunAsHandoff call.run run call.usage s.messages.length now = some (row, message) ∧
      out = (({ s with
        runs := s.runs.set call.run row
        messages := s.messages ++ message.toList
        steps := s.steps ++ [⟨call.run, handoff.pk, reused⟩] } : HandoffStore).release
          call.transaction, .handedOff handoff) := by
  obtain ⟨run, hrun, hrest⟩ := Option.bind_eq_some_iff.mp h
  obtain ⟨⟨row, message⟩, hcompleted, rfl⟩ := Option.map_eq_some_iff.mp hrest
  exact ⟨run, row, message, hrun, hcompleted, rfl⟩

/-- A run that a transaction hands off is completed with a new message. -/
theorem Consistent.completed_handoff {conversation now : Nat} {message : Option Message}
    {usage : RunUsage} (hs : Consistent s) (hrun : s.runs[r]? = some run)
    (hconversation : run.conversation = some conversation)
    (h : completeRunAsHandoff r run usage s.messages.length now = some (row, message)) :
    row.status = .handedOff ∧ row.conversation = some conversation ∧
      row.outputMessage = some s.messages.length ∧
      message = some ⟨conversation, handoffAcknowledgementText, r⟩ := by
  obtain ⟨hrunning, other, outputMessage, hother, rfl, hcases⟩ := completeRunAsHandoff_some h
  rw [hconversation] at hother
  cases hother
  have hnone : run.outputMessage = none := by
    refine ((hs.leaves r run hrun).message ?_ ?_).1 <;> rw [hrunning] <;> nofun
  rcases hcases with ⟨-, hsome, houtput⟩ | ⟨hmessage, houtput, -⟩
  · rw [← houtput, hnone] at hsome
    cases hsome
  · exact ⟨rfl, hconversation, houtput, hmessage⟩

/-- What a step of a call keeps, and what it knows afterwards. -/
structure Advances (s : HandoffStore) (call : HandoffCall) (out : HandoffStore × HandoffPoint) :
    Prop where
  consistent : Consistent out.1
  preserves : Preserves (some call.transaction) s out.1
  atPoint : AtPoint out.1 call out.2
  handedOff : out.1.runs = s.runs ∨ ∃ row handoff, out.1.runs = s.runs.set call.run row ∧
    out.2 = .handedOff handoff

theorem lockRun_advances {out : HandoffStore × HandoffPoint} (hs : Consistent s)
    (h : s.lockRun call = some out) : Advances s call out := by
  unfold HandoffStore.lockRun at h
  split at h
  · rename_i hfree
    obtain ⟨run, hrun, hout⟩ := Option.map_eq_some_iff.mp h
    have hsame : Advances s call (s, .ended) := ⟨hs, .refl _ s, trivial, .inl rfl⟩
    split at hout
    · rename_i conversation hconversation
      split at hout
      · rename_i hrunning
        rw [← hout]
        refine ⟨hs.acquire hfree (List.getElem?_eq_some_iff.mp hrun).1,
          preserves_acquire _ _ _ _, ?_, .inl rfl⟩
        exact ⟨List.mem_cons_self, run, hrun, hrunning, hconversation⟩
      · rw [← hout]
        exact hsame
    · rw [← hout]
      exact hsame
  · cases h

section Taken

variable {conversation now : Nat} {out : HandoffStore × HandoffPoint}

theorem findActive_advances (hs : Consistent s) (hholds : Holds s call conversation)
    (h : s.findActive call conversation = some out) : Advances s call out := by
  unfold HandoffStore.findActive at h
  split at h
  · rename_i existing hexisting
    obtain ⟨hrow, hconversation, hactive⟩ := activeHandoff_some hexisting
    split at h
    · rename_i hfree
      cases h
      refine ⟨hs.acquire hfree (List.getElem?_eq_some_iff.mp hrow).1,
        preserves_acquire _ _ _ _, ?_, .inl rfl⟩
      refine ⟨⟨List.mem_cons_of_mem _ ?_, ?_⟩, hactive, existing.value, hrow, rfl,
        fun _ => ⟨List.mem_cons_self, hactive⟩⟩
      · exact hholds.lock
      · rw [hconversation]
        exact hholds.run
    · cases h
  · cases h
    exact ⟨hs, .refl _ s, hholds, .inl rfl⟩

theorem rereadActive_advances (hs : Consistent s) (hholds : Holds s call conversation) :
    Advances s call (s.rereadActive call conversation) := by
  unfold HandoffStore.rereadActive
  split
  · rename_i handoff hhandoff
    obtain ⟨hrow, hconversation, hactive⟩ := activeHandoff_some hhandoff
    refine ⟨hs, .refl _ s, ?_, .inl rfl⟩
    refine ⟨?_, hactive, handoff.value, hrow, rfl, nofun⟩
    rw [hconversation]
    exact hholds
  · exact ⟨hs.release _, preserves_release _ _, trivial, .inl rfl⟩

/-- The commit with the handoff that the transaction has taken. -/
theorem commit_advances {handoff : Object HumanHandoff} {forUpdate reused : Bool}
    (hs : Consistent s) (htakes : Takes s call handoff forUpdate)
    (h : s.commit call handoff reused now = some out) : Advances s call out := by
  obtain ⟨run, row, message, hrun, hcompleted, rfl⟩ := commit_some h
  obtain ⟨own, hown, hrunning, hconversation⟩ := htakes.holds.run
  rw [hrun] at hown
  cases hown
  obtain ⟨hstatus, hrow, houtput, rfl⟩ := hs.completed_handoff hrun hconversation hcompleted
  obtain ⟨current, hcurrent, hsame, -⟩ := htakes.row
  have hoff : HandsRunOff s call handoff.value.conversation row [] :=
    ⟨htakes.holds, hstatus, hrow, houtput, by rw [List.append_nil]; exact hs.unique, nofun⟩
  have hstore : ({ s with
      runs := s.runs.set call.run row
      messages := s.messages ++
        [⟨handoff.value.conversation, handoffAcknowledgementText, call.run⟩]
      steps := s.steps ++ [⟨call.run, handoff.pk, reused⟩] } : HandoffStore).release
        call.transaction =
      handedOffStore s call handoff.value.conversation row [] handoff.pk reused := by
    unfold handedOffStore HandoffStore.release
    rw [List.append_nil]
  rw [Option.toList_some, hstore]
  refine ⟨hoff.consistent hs, hoff.preserves hs, hoff.handsOff hs handoff rfl htakes.active ?_,
    .inr ⟨row, handoff, rfl, rfl⟩⟩
  exact ⟨current, by rw [List.append_nil]; exact hcurrent, hsame⟩

/-- The commit with a handoff that is inserted. -/
theorem insertHandoff_advances (hs : Consistent s) (hholds : Holds s call conversation)
    (h : s.insertHandoff call conversation now = some out) : Advances s call out := by
  unfold HandoffStore.insertHandoff at h
  split at h
  · cases h
    exact ⟨hs, .refl _ s, hholds, .inl rfl⟩
  · rename_i hnone
    obtain ⟨run, row, message, hrun, hcompleted, rfl⟩ := commit_some h
    obtain ⟨own, hown, hrunning, hconversation⟩ := hholds.run
    have hrow : s.runs[call.run]? = some run := hrun
    rw [hrow] at hown
    cases hown
    obtain ⟨hstatus, hsame, houtput, rfl⟩ := hs.completed_handoff hrow hconversation hcompleted
    have hunique : UniqueIndex activeConversation
        (s.handoffs ++ [HandoffStore.newHandoff call conversation]) := by
      refine hs.unique.append fun k hk a ha => ?_
      cases hk
      exact activeHandoff_none hnone a ha
    have hoff : HandsRunOff s call conversation row [HandoffStore.newHandoff call conversation] :=
      ⟨hholds, hstatus, hsame, houtput, hunique, fun a ha => by
        rw [List.mem_singleton.mp ha]
        rfl⟩
    refine ⟨hoff.consistent hs, hoff.preserves hs, ?_, .inr ⟨row, _, rfl, rfl⟩⟩
    exact hoff.handsOff hs ⟨s.handoffs.length, HandoffStore.newHandoff call conversation⟩ rfl rfl
      ⟨_, List.getElem?_concat_length, rfl⟩

end Taken

theorem handoffStep_advances {a : HandoffAction} (hs : Consistent s) (hcall : Asserts s call)
    (h : handoffStep a call s = some (s', call')) :
    call' = { call with point := call'.point } ∧ Advances s call (s', call'.point) := by
  have hpoint := hcall.2
  unfold handoffStep at h
  simp only at h
  split at h
  · obtain ⟨out, hout, heq⟩ := Option.map_eq_some_iff.mp h
    cases heq
    exact ⟨rfl, lockRun_advances hs hout⟩
  · rename_i heq
    rw [heq] at hpoint
    obtain ⟨out, hout, heq⟩ := Option.map_eq_some_iff.mp h
    cases heq
    exact ⟨rfl, findActive_advances hs hpoint hout⟩
  · rename_i heq
    rw [heq] at hpoint
    obtain ⟨out, hout, heq⟩ := Option.map_eq_some_iff.mp h
    cases heq
    exact ⟨rfl, insertHandoff_advances hs hpoint hout⟩
  · rename_i heq
    rw [heq] at hpoint
    cases h
    exact ⟨rfl, rereadActive_advances hs hpoint⟩
  · rename_i heq
    rw [heq] at hpoint
    obtain ⟨out, hout, heq⟩ := Option.map_eq_some_iff.mp h
    cases heq
    exact ⟨rfl, commit_advances hs hpoint hout⟩
  all_goals first
    | cases h
      exact ⟨rfl, hs.release _, preserves_release _ _, trivial, .inl rfl⟩
    | cases h

/-- What an event keeps. -/
structure Keeps (s s' : HandoffStore) : Prop where
  consistent : Consistent s'
  preserves : Preserves none s s'
  handedOff : ∀ (k : Nat) (run : AgentRun), s'.runs[k]? = some run → run.status = .handedOff →
    s.runs[k]? = some run

theorem handedOff_set {k : Nat} {other : AgentRun} (hrow : row.status ≠ .handedOff)
    (h : (s.runs.set r row)[k]? = some other) (hother : other.status = .handedOff) :
    s.runs[k]? = some other := by
  rw [List.getElem?_set] at h
  split at h
  · split at h
    · cases h
      exact absurd hother hrow
    · cases h
  · exact h

theorem claim_ordinary {now : Nat} (h : claimAgentRun run now = some row) : Ordinary run row := by
  unfold claimAgentRun at h
  split at h
  · cases h
  · rename_i hpending
    cases h
    have hstatus : run.status = .pending := not_not.mp hpending
    exact ⟨by rw [hstatus]; rfl, nofun, nofun, rfl⟩

theorem pause_ordinary {usage : RunUsage} {now : Nat}
    (h : pauseRunForApproval run usage now = some row) : Ordinary run row := by
  unfold pauseRunForApproval at h
  split at h
  · cases h
  · rename_i hrunning
    cases h
    have hstatus : run.status = .running := not_not.mp hrunning
    exact ⟨by rw [hstatus]; rfl, nofun, nofun, rfl⟩

theorem resume_ordinary {now : Nat} (h : claimRunForResume run now = some row) :
    Ordinary run row := by
  unfold claimRunForResume at h
  split at h
  · cases h
  · rename_i hwaiting
    cases h
    have hstatus : run.status = .waitingForApproval := not_not.mp hwaiting
    exact ⟨by rw [hstatus]; rfl, nofun, nofun, rfl⟩

theorem cancel_ordinary {now : Nat} (h : cancelAgentRun run now = some row) :
    Ordinary run row := by
  unfold cancelAgentRun at h
  split at h
  · cases h
  · rename_i hopen
    cases h
    exact ⟨Bool.not_eq_true _ ▸ hopen, nofun, nofun, rfl⟩

theorem writeRun_keeps {f : AgentRun → Option AgentRun} (hs : Consistent s)
    (hf : ∀ {run row : AgentRun}, f run = some row → Ordinary run row)
    (h : s.writeRun r f = some s') : Keeps s s' := by
  unfold HandoffStore.writeRun at h
  split at h
  · rename_i hfree
    obtain ⟨run, hrun, hrest⟩ := Option.bind_eq_some_iff.mp h
    obtain ⟨row, hrow, rfl⟩ := Option.map_eq_some_iff.mp hrest
    exact ⟨hs.ordinary (hf hrow) hrun, (hf hrow).preserves hfree hrun,
      fun _ _ => handedOff_set (hf hrow).handedOff⟩
  · cases h

theorem completeRun_keeps {usage : RunUsage} {finalResponse : String} {now : Nat}
    (hs : Consistent s) (h : s.completeRun r usage finalResponse now = some s') : Keeps s s' := by
  unfold HandoffStore.completeRun at h
  split at h
  · rename_i hfree
    obtain ⟨run, hrun, hrest⟩ := Option.bind_eq_some_iff.mp h
    obtain ⟨⟨row, message⟩, hcompleted, rfl⟩ := Option.map_eq_some_iff.mp hrest
    obtain ⟨hrunning, outputMessage, rfl, hmessage⟩ := completeRun_some hcompleted
    have hcompletes : Completes r run
        (completed run .succeeded finalResponse usage outputMessage now) message := by
      refine ⟨hrunning, rfl, fun m hm => ?_⟩
      rcases hmessage with ⟨rfl, -⟩ | ⟨conversation, -, -, -, rfl, -⟩
      · cases hm
      · cases hm
        rfl
    exact ⟨hs.completes hcompletes hrun, hcompletes.preserves hfree hrun,
      fun _ _ => handedOff_set nofun⟩
  · cases h

theorem cancelRun_keeps {now : Nat} (hs : Consistent s) (h : s.cancelRun r now = some s') :
    Keeps s s' := by
  unfold HandoffStore.cancelRun at h
  split at h
  · rename_i hfree
    obtain ⟨run, hrun, hrest⟩ := Option.bind_eq_some_iff.mp h
    obtain ⟨row, hrow, rfl⟩ := Option.map_eq_some_iff.mp hrest
    have hordinary := cancel_ordinary hrow
    rw [hs.cancelHandoffs hrun (AgentRunStatus.open_cases hordinary.before).1]
    exact ⟨hs.ordinary hordinary hrun, hordinary.preserves hfree.1 hrun,
      fun _ _ => handedOff_set hordinary.handedOff⟩
  · cases h

theorem assignHandoff_keeps {role : Workspaces.WorkspaceRole} {k target : Nat}
    (hs : Consistent s) (h : s.assignHandoff role k target = some s') : Keeps s s' := by
  unfold HandoffStore.assignHandoff at h
  split at h
  · rename_i hfree
    obtain ⟨locked, hlocked, hrest⟩ := Option.bind_eq_some_iff.mp h
    split at hrest
    · rename_i hactive
      cases hrest
      have hstaff : Staffed locked { locked with assignedTo := some target, status := .assigned } :=
        ⟨rfl, rfl, hactive⟩
      exact ⟨hs.staffed hstaff hlocked, hstaff.preserves hfree.2 hlocked, fun _ _ hrun _ => hrun⟩
    · cases hrest
  · cases h

theorem resolveHandoff_keeps {role : Workspaces.WorkspaceRole} {k now : Nat}
    (hs : Consistent s) (h : s.resolveHandoff role k now = some s') : Keeps s s' := by
  unfold HandoffStore.resolveHandoff at h
  split at h
  · rename_i hfree
    obtain ⟨locked, hlocked, hrest⟩ := Option.bind_eq_some_iff.mp h
    split at hrest
    · rename_i hactive
      cases hrest
      have hstaff : Staffed locked { locked with status := .resolved, resolvedAt := some now } :=
        ⟨rfl, rfl, hactive⟩
      exact ⟨hs.staffed hstaff hlocked, hstaff.preserves hfree.2 hlocked, fun _ _ hrun _ => hrun⟩
    · cases hrest
  · cases h

theorem Consistent.counted (hs : Consistent s) :
    Keeps s { s with transactions := s.transactions + 1 } where
  consistent := hs.relock hs.locks hs.owners
  preserves :=
    { Preserves.refl none s with transactions := Nat.le_succ _ }
  handedOff _ _ hrun _ := hrun

theorem handoffEventStep_keeps {e : HandoffEvent} {started : Option HandoffCall}
    (hs : Consistent s) (h : handoffEventStep e s = some (s', started)) :
    Keeps s s' := by
  cases e with
  | createRun =>
    cases h
    refine ⟨hs.created rfl, hs.preserves_created _, fun k run hrun hhandedOff => ?_⟩
    rcases Nat.lt_or_ge k s.runs.length with hlt | hge
    · exact (List.getElem?_append_left hlt).symm.trans hrun
    · have hnew := (List.getElem?_append_right hge).symm.trans hrun
      rw [List.mem_singleton.mp (List.mem_of_getElem? hnew)] at hhandedOff
      cases hhandedOff
  | handOff =>
    cases h
    exact hs.counted
  | claim =>
    obtain ⟨t, ht, heq⟩ := Option.map_eq_some_iff.mp h
    cases heq
    exact writeRun_keeps hs claim_ordinary ht
  | pause =>
    obtain ⟨t, ht, heq⟩ := Option.map_eq_some_iff.mp h
    cases heq
    exact writeRun_keeps hs pause_ordinary ht
  | resume =>
    obtain ⟨t, ht, heq⟩ := Option.map_eq_some_iff.mp h
    cases heq
    exact writeRun_keeps hs resume_ordinary ht
  | complete =>
    obtain ⟨t, ht, heq⟩ := Option.map_eq_some_iff.mp h
    cases heq
    exact completeRun_keeps hs ht
  | fail =>
    obtain ⟨t, ht, heq⟩ := Option.map_eq_some_iff.mp h
    cases heq
    refine writeRun_keeps hs (fun hrow => ?_) ht
    obtain ⟨hopen, rfl⟩ := failRun_some hrow
    exact ⟨hopen, nofun, nofun, rfl⟩
  | exceedBudget =>
    obtain ⟨t, ht, heq⟩ := Option.map_eq_some_iff.mp h
    cases heq
    refine writeRun_keeps hs (fun hrow => ?_) ht
    obtain ⟨hopen, rfl⟩ := budgetExceededRun_some hrow
    exact ⟨hopen, nofun, nofun, rfl⟩
  | recover =>
    obtain ⟨t, ht, heq⟩ := Option.map_eq_some_iff.mp h
    cases heq
    refine writeRun_keeps hs (fun hrow => ?_) ht
    obtain ⟨hrunning, -, rfl⟩ := recoverOneStuckRun_some hrow
    exact ⟨by rw [hrunning]; rfl, nofun, nofun, rfl⟩
  | cancel =>
    obtain ⟨t, ht, heq⟩ := Option.map_eq_some_iff.mp h
    cases heq
    exact cancelRun_keeps hs ht
  | assign =>
    obtain ⟨t, ht, heq⟩ := Option.map_eq_some_iff.mp h
    cases heq
    exact assignHandoff_keeps hs ht
  | resolve =>
    obtain ⟨t, ht, heq⟩ := Option.map_eq_some_iff.mp h
    cases heq
    exact resolveHandoff_keeps hs ht

/-- Only a call of `_complete_run_as_handoff` starts a transaction. -/
theorem handoffEventStep_started {e : HandoffEvent} {started : Option HandoffCall}
    (h : handoffEventStep e s = some (s', started)) (hcall : call ∈ started) :
    call.transaction = s.transactions ∧ s'.transactions = s.transactions + 1 ∧
      call.point = .called := by
  cases e with
  | handOff =>
    cases h
    cases hcall
    exact ⟨rfl, rfl, rfl⟩
  | createRun =>
    cases h
    cases hcall
  | _ =>
    obtain ⟨t, -, heq⟩ := Option.map_eq_some_iff.mp h
    cases heq
    cases hcall

/-- What a call knows does not depend on where its own point says it is. -/
theorem AtPoint.moved {point point' : HandoffPoint} (h : AtPoint s call point) :
    AtPoint s { call with point := point' } point := by
  cases point with
  | called | ended => trivial
  | locked | inserting | conflicted => exact ⟨h.lock, h.run⟩
  | reusing => exact ⟨⟨h.holds.lock, h.holds.run⟩, h.active, h.row⟩
  | handedOff => exact ⟨h.active, h.row, h.run, h.message, h.step⟩

/-! ## Runs of the system -/

/-- Calls have transactions of their own. -/
def Distinct (c : Handoffs) : Prop :=
  Program.Exclusive (fun (call : HandoffCall) t => call.transaction = t) c

/-- The tables and the knowledge of all calls. -/
structure Sound (c : Handoffs) : Prop where
  store : Consistent c.store
  distinct : Distinct c
  calls : ∀ (i : Nat) (call : HandoffCall), c.procs[i]? = some call → Asserts c.store call

theorem Sound.step {l : HandoffLabel} (hc : Sound c) (h : handoffs.step l c = some c') :
    Sound c' := by
  cases l with
  | env e =>
    obtain ⟨s', started, hout, rfl⟩ := Program.step_env h
    have hkeeps := handoffEventStep_keeps hc.store hout
    refine ⟨hkeeps.consistent, ?_, fun j call hcall => ?_⟩
    · refine Program.exclusive_append hc.distinct fun call hcall t ht j other hother hsame => ?_
      have hlt := (hc.calls j other hother).1
      rw [hsame, ← ht, (handoffEventStep_started hout hcall).1] at hlt
      exact Nat.lt_irrefl _ hlt
    · rcases Program.proc_append hcall with hold | hnew
      · exact (hc.calls j call hold).preserved hkeeps.preserves nofun
      · obtain ⟨hown, hnext, hcalled⟩ := handoffEventStep_started hout hnew
        refine ⟨by rw [hown, hnext]; exact Nat.lt_succ_self _, ?_⟩
        rw [hcalled]
        trivial
  | work i a =>
    obtain ⟨call, s', call', hcall, hout, rfl⟩ := Program.step_work h
    have hasserts := hc.calls i call hcall
    obtain ⟨hmoved, hadvances⟩ := handoffStep_advances hc.store hasserts hout
    have htransaction : call'.transaction = call.transaction := by rw [hmoved]
    refine ⟨hadvances.consistent, ?_, fun j other hother => ?_⟩
    · exact Program.exclusive_set hc.distinct hcall fun t ht => .inl (htransaction.symm.trans ht)
    · rcases getElem?_set_cases hother with ⟨-, rfl⟩ | ⟨hji, hold⟩
      · refine ⟨?_, ?_⟩
        · rw [htransaction]
          exact Nat.lt_of_lt_of_le hasserts.1 hadvances.preserves.transactions
        · rw [hmoved]
          exact hadvances.atPoint.moved
      · refine (hc.calls j other hold).preserved hadvances.preserves fun hsame => hji ?_
        exact hc.distinct j i other call _ hold hcall (Option.some.inj hsame) rfl

theorem sound (h : handoffs.system.Reach (fun _ _ => True) c) : Sound c := by
  refine h.invariant (I := Sound) ?_ fun c l c' _ hc _ hstep => hc.step hstep
  rintro ⟨store, procs⟩ ⟨hstore, hprocs⟩
  have hempty : store = {} := hstore
  have hnone : procs = [] := hprocs
  subst hempty hnone
  refine ⟨.empty, ?_, fun i call hcall => ?_⟩
  · intro i j call other t hcall
    cases hcall
  · cases hcall

/-- The run has been handed off by this call. -/
def HandedOffBy (c : Handoffs) (r : Nat) : Prop :=
  ∃ (i : Nat) (call : HandoffCall) (handoff : Object HumanHandoff),
    c.procs[i]? = some call ∧ call.run = r ∧ call.point = .handedOff handoff

/-- A call that has handed its run off makes no further step. -/
theorem handoffStep_ended {a : HandoffAction} {handoff : Object HumanHandoff}
    (h : handoffStep a call s = some (s', call')) : call.point ≠ .handedOff handoff := by
  intro hpoint
  unfold handoffStep at h
  rw [hpoint] at h
  cases a <;> cases h

/-- Every run that is handed off has been so by a call. -/
theorem handedOffBy (h : handoffs.system.Reach (fun _ _ => True) c)
    (hrun : c.store.runs[r]? = some run) (hstatus : run.status = .handedOff) :
    HandedOffBy c r := by
  refine System.Reach.invariant (I := fun c => ∀ (r : Nat) (run : AgentRun),
    c.store.runs[r]? = some run → run.status = .handedOff → HandedOffBy c r) ?_ ?_ h r run hrun
      hstatus
  · rintro c ⟨hstore, -⟩ r run hrun
    have hempty : c.store = {} := hstore
    rw [hempty] at hrun
    cases hrun
  · intro c l c' hr hc _ hstep r run hrun hstatus
    have hsound := sound hr
    cases l with
    | env e =>
      obtain ⟨s', started, hout, rfl⟩ := Program.step_env hstep
      have hbefore := (handoffEventStep_keeps hsound.store hout).handedOff r run hrun hstatus
      obtain ⟨i, call, handoff, hcall, hfacts⟩ := hc r run hbefore hstatus
      exact ⟨i, call, handoff, getElem?_append_some hcall _, hfacts⟩
    | work i a =>
      obtain ⟨call, s', call', hcall, hout, rfl⟩ := Program.step_work hstep
      have hlt : i < c.procs.length := (List.getElem?_eq_some_iff.mp hcall).1
      obtain ⟨hmoved, hadvances⟩ :=
        handoffStep_advances hsound.store (hsound.calls i call hcall) hout
      have hold : c.store.runs[r]? = some run →
          HandedOffBy ⟨s', c.procs.set i call'⟩ r := by
        intro hbefore
        obtain ⟨j, other, handoff, hother, hown, hpoint⟩ := hc r run hbefore hstatus
        have hij : i ≠ j := by
          rintro rfl
          rw [hcall] at hother
          cases hother
          exact handoffStep_ended hout hpoint
        exact ⟨j, other, handoff, (List.getElem?_set_ne hij).trans hother, hown, hpoint⟩
      rcases hadvances.handedOff with hsame | ⟨row, handoff, hset, hpoint⟩
      · have hbefore : s'.runs[r]? = some run := hrun
        exact hold (by rw [← hsame]; exact hbefore)
      · have hafter : s'.runs[r]? = some run := hrun
        have hruns : s'.runs = c.store.runs.set call.run row := hset
        by_cases hr' : call.run = r
        · exact ⟨i, call', handoff, List.getElem?_set_self hlt, by rw [hmoved]; exact hr', hpoint⟩
        · rw [hruns, List.getElem?_set_ne hr'] at hafter
          exact hold hafter

/-! ## Main result -/

/-- In every reachable state a conversation has at most one active handoff. The runs that are handed
off are those of the calls that have committed, each with the handoff that was active when its
transaction took it, one message and one step; a handoff that a transaction has locked stays active
until the commit; and a run that is cancelled has left no handoff and no message. -/
theorem handoffs_sound (c : Handoffs) (h : handoffs.system.Reach (fun _ _ => True) c) :
    (∀ (i j : Nat) (a b : HumanHandoff), c.store.handoffs[i]? = some a →
      c.store.handoffs[j]? = some b → a.status.active = true → b.status.active = true →
      a.conversation = b.conversation → i = j) ∧
    (∀ (r : Nat) (run : AgentRun), c.store.runs[r]? = some run →
      (run.status = .handedOff ↔ HandedOffBy c r)) ∧
    (∀ (i : Nat) (call : HandoffCall) (handoff : Object HumanHandoff),
      c.procs[i]? = some call → (call.point = .handedOff handoff → HandsOff c.store call handoff) ∧
        ∀ forUpdate, call.point = .reusing handoff forUpdate →
          Takes c.store call handoff forUpdate) ∧
    ∀ (r : Nat) (run : AgentRun), c.store.runs[r]? = some run → run.status = .cancelled →
      (∀ handoff ∈ c.store.handoffs, handoff.agentRun ≠ r) ∧
        ∀ m ∈ c.store.messages, m.agentRun ≠ r := by
  have hsound := sound h
  refine ⟨fun i j a b ha hb hactive hactive' hsame => ?_, fun r run hrun => ⟨?_, ?_⟩,
    fun i call handoff hcall => ⟨fun hpoint => ?_, fun forUpdate hpoint => ?_⟩,
    fun r run hrun hcancelled => ?_⟩
  · have hkey : activeConversation a = some a.conversation := if_pos hactive
    have hkey' : activeConversation b = some a.conversation := by
      rw [hsame]
      exact if_pos hactive'
    exact hsound.store.unique i j a b _ ha hb hkey hkey'
  · exact handedOffBy h hrun
  · rintro ⟨i, call, handoff, hcall, rfl, hpoint⟩
    have hknown := (hsound.calls i call hcall).2
    rw [hpoint] at hknown
    obtain ⟨row, m, hrow, hstatus, -⟩ := hknown.run
    rw [hrun] at hrow
    cases hrow
    exact hstatus
  · have hknown := (hsound.calls i call hcall).2
    rw [hpoint] at hknown
    exact hknown
  · have hknown := (hsound.calls i call hcall).2
    rw [hpoint] at hknown
    exact hknown
  · have hleaves := hsound.store.leaves r run hrun
    have hopen : run.status ≠ .handedOff := by
      rw [hcancelled]
      nofun
    have hsucceeded : run.status ≠ .succeeded := by
      rw [hcancelled]
      nofun
    exact ⟨hleaves.handoffs hopen, (hleaves.message hopen hsucceeded).2⟩

def handoffsEnd (labels : List HandoffLabel) : Handoffs :=
  handoffs.system.replayEnd (fun _ _ => True) labels ⟨{}, []⟩

theorem reaches_handoffsEnd (labels : List HandoffLabel) :
    handoffs.system.Reach (fun _ _ => True) (handoffsEnd labels) := by
  have hinit : handoffs.system.initial ⟨{}, []⟩ := ⟨rfl, rfl⟩
  exact System.reach_replayEnd (.init hinit) labels

/-- Two runs of a conversation find no active handoff; one inserts it, the other one loses the race
and reuses it. A third run is cancelled before its call locks it. -/
def racingHandoffs : List HandoffLabel :=
  [.env (.createRun 0 {} (some 7) (some 1) none 0), .env (.createRun 0 {} (some 7) (some 2) none 0),
    .env (.createRun 0 {} (some 7) (some 3) none 0), .env (.claim 0 1), .env (.claim 1 1),
    .env (.claim 2 1), .env (.handOff 0 "customer_requested" "Refund" {}),
    .env (.handOff 1 "customer_requested" "Refund" {}),
    .env (.handOff 2 "customer_requested" "Refund" {}), .env (.cancel 2 2),
    .work 0 .lockRun, .work 1 .lockRun, .work 2 .lockRun, .work 0 .findActive,
    .work 1 .findActive, .work 0 (.insert 3), .work 1 (.insert 3), .work 1 .reread,
    .work 1 (.commit 4)]

theorem handoffs_sound_racing :
    (∀ (i : Nat) (call : HandoffCall) (handoff : Object HumanHandoff),
      (handoffsEnd racingHandoffs).procs[i]? = some call → call.point = .handedOff handoff →
        HandsOff (handoffsEnd racingHandoffs).store call handoff) ∧
      (handoffsEnd racingHandoffs).store.runs.map (·.status) =
        [.handedOff, .handedOff, .cancelled] ∧
      (handoffsEnd racingHandoffs).store.handoffs.map (·.agentRun) = [0] :=
  have hsound := handoffs_sound _ (reaches_handoffsEnd racingHandoffs)
  ⟨fun i call handoff hcall => (hsound.2.2.1 i call handoff hcall).1, by decide,
    by decide⟩

end SupportPilot.Tickets
