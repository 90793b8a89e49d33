import SupportPilot.Tickets.Services

/-!
# Updates of a ticket

A ticket has a time of resolution exactly if it is resolved, for the two columns are saved together.
A service that saves the whole row also writes the columns that it does not set, as they are in its
object; other updates survive it as long as these columns of the object are those of the row.
-/

namespace SupportPilot.Tickets

open Library

variable {t t' : TicketTable} {l : TicketCall} {ticket : TicketObject} {c c' : Ticket}
  {f : Ticket → Ticket} {permits : TicketTable → TicketCall → Prop}

/-! ## What a call writes -/

/-- What the call saves, as a function of the row. -/
inductive Write : TicketCall → TicketObject → (Ticket → Ticket) → Prop
  | update {actor : Conversations.Actor} {ticket : TicketObject} {data : TicketData} :
      Write (.update actor ticket data) ticket fun _ => (data.set ticket.value).saved
  | assign {actor : Conversations.Actor} {ticket : TicketObject} {target : Nat} :
      Write (.assign actor ticket target) ticket fun row => { row with assignedTo := some target }
  | unassign {actor : Conversations.Actor} {ticket : TicketObject} :
      Write (.unassign actor ticket) ticket fun row => { row with assignedTo := none }
  | changeStatus {actor : Conversations.Actor} {ticket : TicketObject} {newStatus : TicketStatus}
      {now : Nat} :
      Write (.changeStatus actor ticket newStatus now) ticket fun row =>
        { row with status := newStatus, resolvedAt := ticket.value.resolvedAtAfter newStatus now }
  | noted {ticket : TicketObject} {priority : Option TicketPriority}
      {status : Option TicketStatus} {note : Option String} {now : Nat} :
      (∀ newStatus, status = some newStatus → newStatus = ticket.value.status) →
      Write (.agentUpdate ticket priority status note now) ticket fun _ =>
        (ticket.value.noted priority note).saved
  | moved {ticket : TicketObject} {priority : Option TicketPriority} {status : TicketStatus}
      {note : Option String} {now : Nat} : status ≠ ticket.value.status →
      Write (.agentUpdate ticket priority (some status) note now) ticket fun _ =>
        { (ticket.value.noted priority note).saved with
          status := status, resolvedAt := ticket.value.resolvedAtAfter status now }

/-- A call inserts a row, or writes the row of its object. -/
inductive TicketChange (t : TicketTable) : TicketCall → TicketTable → Prop
  | created {subject description : String} {priority : Option TicketPriority}
      {dueAt : Option Nat} {metadata : Option String} :
      TicketChange t (.create subject description priority dueAt metadata)
        (createTicket t subject description priority dueAt metadata)
  | written {l : TicketCall} {ticket : TicketObject} {f : Ticket → Ticket} :
      t.Loaded ticket → Write l ticket f → TicketChange t l (t.update ticket.pk f)

theorem agentUpdate_write {priority : Option TicketPriority} {status : Option TicketStatus}
    {note : Option String} {now : Nat}
    (h : applyAgentTicketUpdate t ticket priority status note now = some t') :
    ∃ f, t' = t.update ticket.pk f ∧
      Write (.agentUpdate ticket priority status note now) ticket f := by
  simp only [applyAgentTicketUpdate] at h
  split at h
  · split at h
    · rename_i hsame
      cases h
      exact ⟨_, rfl, .noted fun newStatus hnew => by cases hnew; exact hsame⟩
    · rename_i hmoves
      split at h
      · cases h
      · cases h
        exact ⟨_, rfl, .moved hmoves⟩
  · cases h
    exact ⟨_, rfl, .noted nofun⟩

theorem step_change (h : tickets.step l t = some t') : TicketChange t l t' := by
  have hstep : ticketStep l t = some t' := h
  unfold ticketStep at hstep
  split at hstep
  · rename_i hloaded
    cases l with
    | create subject description priority dueAt metadata =>
      cases hstep
      exact .created
    | update actor ticket data =>
      simp only [TicketCall.run, updateTicket] at hstep
      split at hstep
      · cases hstep
      · cases hstep
        exact .written (hloaded ticket rfl) .update
    | assign actor ticket target =>
      simp only [TicketCall.run, assignTicket] at hstep
      split at hstep
      · cases hstep
      · cases hstep
        exact .written (hloaded ticket rfl) .assign
    | unassign actor ticket =>
      simp only [TicketCall.run, unassignTicket] at hstep
      split at hstep
      · cases hstep
      · cases hstep
        exact .written (hloaded ticket rfl) .unassign
    | changeStatus actor ticket newStatus now =>
      simp only [TicketCall.run, changeTicketStatus] at hstep
      split at hstep
      · cases hstep
      · split at hstep
        · cases hstep
        · cases hstep
          exact .written (hloaded ticket rfl) .changeStatus
    | agentUpdate ticket priority status note now =>
      obtain ⟨f, rfl, hwrite⟩ := agentUpdate_write hstep
      exact .written (hloaded ticket rfl) hwrite
  · cases hstep

/-! ## The time of resolution -/

/-- The ticket has a time of resolution exactly if it is resolved. -/
def ResolvedAt (c : Ticket) : Prop := c.resolvedAt.isSome = true ↔ c.status = .resolved

theorem ResolvedAt.after {newStatus : TicketStatus} {now : Nat} (h : ResolvedAt c) :
    (c.resolvedAtAfter newStatus now).isSome = true ↔ newStatus = .resolved := by
  unfold Ticket.resolvedAtAfter
  by_cases hnew : newStatus = .resolved
  · rw [if_pos hnew]
    exact ⟨fun _ => hnew, fun _ => rfl⟩
  · rw [if_neg hnew]
    by_cases hold : c.status = .resolved
    · rw [if_pos hold]
      exact ⟨nofun, fun hresolved => absurd hresolved hnew⟩
    · rw [if_neg hold]
      constructor
      · exact fun hsome => absurd (h.mp hsome) hold
      · exact fun hresolved => absurd hresolved hnew

/-- The two columns are saved together, so that they fit even when they are stale. -/
theorem Write.resolvedAt (h : Write l ticket f) (hobject : ResolvedAt ticket.value)
    (hrow : ResolvedAt c) : ResolvedAt (f c) := by
  cases h with
  | update => exact hobject
  | assign => exact hrow
  | unassign => exact hrow
  | changeStatus => exact hobject.after
  | noted => exact hobject
  | moved => exact hobject.after

theorem TicketChange.resolvedAt (h : TicketChange t l t') (ht : t.Always fun _ c => ResolvedAt c) :
    t'.Always fun _ c => ResolvedAt c := by
  cases h with
  | created => exact ht.insert ⟨nofun, nofun⟩
  | written hloaded hwrite =>
    refine ht.update fun c hc => ?_
    exact hwrite.resolvedAt (ht _ hloaded) (ht.row (P := fun _ c => ResolvedAt c) hc)

/-! ## Saved subjects -/

/-- There is no white space around the subject. -/
def Stripped (c : Ticket) : Prop := strip c.subject = c.subject

theorem Write.stripped (h : Write l ticket f) (hrow : Stripped c) : Stripped (f c) := by
  cases h with
  | update | noted | moved => exact strip_strip _
  | assign | unassign | changeStatus => exact hrow

theorem stripped (h : tickets.Reach permits t) : t.Always fun _ c => Stripped c := by
  refine System.Reach.invariant (I := fun t => t.Always fun _ c => Stripped c) ?_ ?_ h
  · rintro t rfl
    exact .empty _
  · intro t l t' _ ht _ hstep
    cases step_change hstep with
    | created => exact ht.insert (strip_strip _)
    | written _ hwrite =>
      refine ht.update fun c hc => hwrite.stripped ?_
      exact ht.row (P := fun _ c => Stripped c) hc

/-! ## Columns that a call sets -/

inductive TicketColumn
  | subject
  | description
  | status
  | priority
  | assignedTo
  | dueAt
  | resolvedAt
  | metadata
  deriving DecidableEq, Repr

def TicketColumn.all : List TicketColumn :=
  [subject, description, status, priority, assignedTo, dueAt, resolvedAt, metadata]

theorem TicketColumn.mem_all (column : TicketColumn) : column ∈ all := by
  cases column <;> decide

/-- The two contents agree in this column. -/
def TicketColumn.Same (c c' : Ticket) : TicketColumn → Prop
  | subject => c'.subject = c.subject
  | description => c'.description = c.description
  | status => c'.status = c.status
  | priority => c'.priority = c.priority
  | assignedTo => c'.assignedTo = c.assignedTo
  | dueAt => c'.dueAt = c.dueAt
  | resolvedAt => c'.resolvedAt = c.resolvedAt
  | metadata => c'.metadata = c.metadata

instance (c c' : Ticket) : DecidablePred (TicketColumn.Same c c') := fun column => by
  cases column <;> exact inferInstanceAs (Decidable (_ = _))

theorem TicketColumn.Same.refl (c : Ticket) (column : TicketColumn) : column.Same c c := by
  cases column <;> rfl

/-- The note that an update of an agent appends. -/
def TicketCall.note : TicketCall → Option String
  | agentUpdate _ _ _ (some note) _ => if note = "" then none else some note
  | _ => none

/-- The status that the call moves its object to. -/
def TicketCall.moves : TicketCall → Option TicketStatus
  | changeStatus _ _ newStatus _ => some newStatus
  | agentUpdate ticket _ (some status) _ _ =>
    if status = ticket.value.status then none else some status
  | _ => none

/-- The call sets this column; a note is appended to the description and does not set it. -/
def TicketCall.sets : TicketCall → TicketColumn → Bool
  | update _ _ data, .subject => data.subject.isSome
  | update _ _ data, .description => data.description.isSome
  | update _ _ data, .priority => data.priority.isSome
  | update _ _ data, .dueAt => data.dueAt.isSome
  | update _ _ data, .metadata => data.metadata.isSome
  | assign .., .assignedTo | unassign .., .assignedTo => true
  | agentUpdate _ priority .., .priority => priority.isSome
  | l, .status | l, .resolvedAt => l.moves.isSome
  | _, _ => false

/-- The call saves the whole row. -/
def TicketCall.savesRow : TicketCall → Bool
  | update .. | agentUpdate .. => true
  | _ => false

/-- What a call may do to a ticket. -/
structure Follows (l : TicketCall) (c c' : Ticket) : Prop where
  status : c'.status = c.status ∨ c'.status ∈ c.status.transitions
  description : l.sets .description = false → c'.description = c.description ∨
    ∃ note, l.note = some note ∧ c'.description = appendNote c.description note
  kept : ∀ column, column ≠ .description → l.sets column = false → column.Same c c'

theorem Follows.refl (l : TicketCall) (c : Ticket) : Follows l c c :=
  ⟨.inl rfl, fun _ => .inl rfl, fun column _ _ => .refl c column⟩

/-- The status may follow that of the row, and the object of a call that saves the whole row agrees
with the row in the columns that the call does not set. -/
def Current (t : TicketTable) (l : TicketCall) : Bool :=
  l.object.all fun ticket => (t.rows[ticket.pk]?).all fun row =>
    (l.moves.all fun newStatus => newStatus = row.status || newStatus ∈ row.status.transitions) &&
      (!l.savesRow || TicketColumn.all.all fun column =>
        l.sets column || decide (column.Same row ticket.value))

/-- What the calls that save the whole row need of their object. -/
def Agrees (l : TicketCall) (row object : Ticket) : Prop :=
  ∀ column, l.sets column = false → column.Same row object

theorem current_row (h : Current t l = true) (hl : l.object = some ticket)
    (hc : t.rows[ticket.pk]? = some c) :
    (∀ newStatus, l.moves = some newStatus →
      newStatus = c.status ∨ newStatus ∈ c.status.transitions) ∧
      (l.savesRow = true → Agrees l c ticket.value) := by
  simp only [Current, hl, hc, Option.all_some, Bool.and_eq_true, Bool.or_eq_true,
    Bool.not_eq_true', List.all_eq_true, decide_eq_true_eq] at h
  constructor
  · intro newStatus hmoves
    have hallowed := h.1
    rw [hmoves] at hallowed
    simpa using hallowed
  · intro hrow column hsets
    rcases h.2 with hno | hsame
    · rw [hno] at hrow
      cases hrow
    · rcases hsame column column.mem_all with hset | hsame
      · rw [hset] at hsets
        cases hsets
      · exact hsame

theorem Write.object (h : Write l ticket f) : l.object = some ticket := by
  cases h <;> rfl

/-- Saving keeps every column of a row that has been saved. -/
theorem TicketColumn.Same.saved {column : TicketColumn} (h : column.Same c c')
    (hc : Stripped c) : column.Same c c'.saved := by
  cases column with
  | subject => exact (congrArg strip (show c'.subject = c.subject from h)).trans hc
  | _ => exact h

/-- A request keeps the columns that it does not set. -/
theorem follows_update {actor : Conversations.Actor} {data : TicketData} (hc : Stripped c)
    (h : Agrees (.update actor ticket data) c ticket.value) :
    Follows (.update actor ticket data) c (data.set ticket.value).saved where
  status := .inl (h .status rfl)
  description hsets := by
    have hnone := Option.isNone_iff_eq_none.mp (Option.isSome_eq_false_iff.mp hsets)
    refine .inl ?_
    show data.description.getD ticket.value.description = c.description
    rw [hnone]
    exact h .description hsets
  kept column _ hsets := by
    refine TicketColumn.Same.saved ?_ hc
    have hsame := h column hsets
    cases column with
    | status | assignedTo | resolvedAt => exact hsame
    | subject | description | priority | dueAt | metadata =>
      have hnone := Option.isNone_iff_eq_none.mp (Option.isSome_eq_false_iff.mp hsets)
      simp only [TicketColumn.Same, TicketData.set, hnone, Option.getD_none]
      exact hsame

section AgentUpdate

variable {priority : Option TicketPriority} {status : Option TicketStatus} {note : Option String}
  {now : Nat}

/-- A note follows the description that the ticket has. -/
theorem noted_description
    (h : Agrees (.agentUpdate ticket priority status note now) c ticket.value) :
    (ticket.value.noted priority note).description = c.description ∨
      ∃ text, (TicketCall.agentUpdate ticket priority status note now).note = some text ∧
        (ticket.value.noted priority note).description = appendNote c.description text := by
  have hsame : ticket.value.description = c.description := h .description rfl
  cases note with
  | none => exact .inl hsame
  | some text =>
    by_cases hblank : text = ""
    · exact .inl (by simp only [Ticket.noted, if_pos hblank, hsame])
    · refine .inr ⟨text, by simp only [TicketCall.note, if_neg hblank], ?_⟩
      simp only [Ticket.noted, if_neg hblank, hsame]

/-- Besides the description and the columns of the status, an agent's update keeps what it does not
set. -/
theorem noted_kept (h : Agrees (.agentUpdate ticket priority status note now) c ticket.value)
    {column : TicketColumn} (hdescription : column ≠ .description)
    (hsets : (TicketCall.agentUpdate ticket priority status note now).sets column = false) :
    column.Same c (ticket.value.noted priority note) := by
  have hsame := h column hsets
  cases column with
  | description => exact absurd rfl hdescription
  | priority =>
    have hnone := Option.isNone_iff_eq_none.mp (Option.isSome_eq_false_iff.mp hsets)
    simp only [TicketColumn.Same, Ticket.noted, hnone, Option.getD_none]
    exact hsame
  | _ => exact hsame

theorem follows_noted (hc : Stripped c)
    (h : Agrees (.agentUpdate ticket priority status note now) c ticket.value)
    (hstatus : ∀ newStatus, status = some newStatus → newStatus = ticket.value.status) :
    Follows (.agentUpdate ticket priority status note now) c
      (ticket.value.noted priority note).saved where
  status := by
    have hmoves : (TicketCall.agentUpdate ticket priority status note now).moves = none := by
      cases status with
      | none => rfl
      | some newStatus => exact if_pos (hstatus newStatus rfl)
    have hsets : (TicketCall.agentUpdate ticket priority status note now).sets .status = false := by
      show (TicketCall.moves _).isSome = false
      rw [hmoves]
      rfl
    exact .inl (h .status hsets)
  description _ := noted_description h
  kept _ hdescription hsets := (noted_kept h hdescription hsets).saved hc

theorem follows_moved {newStatus : TicketStatus} {resolvedAt : Option Nat} (hc : Stripped c)
    (h : Agrees (.agentUpdate ticket priority (some newStatus) note now) c ticket.value)
    (hmoves : newStatus ≠ ticket.value.status)
    (hallowed : newStatus = c.status ∨ newStatus ∈ c.status.transitions) :
    Follows (.agentUpdate ticket priority (some newStatus) note now) c
      { (ticket.value.noted priority note).saved with
        status := newStatus, resolvedAt := resolvedAt } where
  status := hallowed
  description _ := noted_description h
  kept column hdescription hsets := by
    have hset : (TicketCall.agentUpdate ticket priority (some newStatus) note now).moves =
        some newStatus := if_neg hmoves
    have hkept := (noted_kept h hdescription hsets).saved hc
    cases column with
    | status | resolvedAt =>
      have hno : (TicketCall.moves _).isSome = false := hsets
      rw [hset] at hno
      cases hno
    | _ => exact hkept

end AgentUpdate

/-- What a call writes over a row that its object agrees with. -/
theorem Write.follows (h : Write l ticket f) (hc : Stripped c)
    (hmoves : ∀ newStatus, l.moves = some newStatus →
      newStatus = c.status ∨ newStatus ∈ c.status.transitions)
    (hagrees : l.savesRow = true → Agrees l c ticket.value) : Follows l c (f c) := by
  cases h with
  | update => exact follows_update hc (hagrees rfl)
  | assign | unassign =>
    refine ⟨.inl rfl, fun _ => .inl rfl, fun column _ hsets => ?_⟩
    cases column with
    | assignedTo => cases hsets
    | _ => rfl
  | changeStatus =>
    refine ⟨hmoves _ rfl, fun _ => .inl rfl, fun column _ hsets => ?_⟩
    cases column with
    | status | resolvedAt => cases hsets
    | _ => rfl
  | noted hstatus => exact follows_noted hc (hagrees rfl) hstatus
  | moved hnew => exact follows_moved hc (hagrees rfl) hnew (hmoves _ (if_neg hnew))

theorem TicketChange.follows (h : TicketChange t l t') (hp : Current t l = true)
    (ht : t.Always fun _ c => Stripped c) :
    Rows (Follows l) t.rows t'.rows := by
  cases h with
  | created => exact .append (Follows.refl _) _ _
  | written hloaded hwrite =>
    refine Versioned.rows_update_of (Follows.refl l) fun c hc => ?_
    have hcurrent := current_row hp hwrite.object hc
    have hstripped := ht.row (P := fun _ c => Stripped c) hc
    exact hwrite.follows hstripped hcurrent.1 hcurrent.2

/-! ## Main result -/

/-- A ticket has a time of resolution exactly if it is resolved, in every run. While objects are
current, the statuses follow the table of transitions on both paths, and no call undoes what another
one has written to a column that it does not set. -/
theorem ticket_updates (t : TicketTable) :
    (tickets.Reach (fun _ _ => True) t → ∀ (k : Nat) (c : Ticket),
      t.rows[k]? = some c → ResolvedAt c) ∧
    (tickets.Reach (fun t l => Current t l = true) t → ∀ l t', Current t l = true →
      tickets.step l t = some t' → Rows (Follows l) t.rows t'.rows) := by
  constructor
  · intro h k c hc
    have hresolved : t.Always fun _ c => ResolvedAt c := by
      refine System.Reach.invariant (I := fun t => t.Always fun _ c => ResolvedAt c) ?_ ?_ h
      · rintro t rfl
        exact .empty _
      · exact fun t l t' _ ht _ hstep => (step_change hstep).resolvedAt ht
    exact hresolved.row (P := fun _ c => ResolvedAt c) hc
  · exact fun h l t' hp hstep => (step_change hstep).follows hp (stripped h)

def ticketsEnd (permits : TicketTable → TicketCall → Prop) [∀ t l, Decidable (permits t l)]
    (calls : List TicketCall) : TicketTable :=
  tickets.replayEnd permits calls .empty

theorem reaches_ticketsEnd (permits : TicketTable → TicketCall → Prop)
    [∀ t l, Decidable (permits t l)] (calls : List TicketCall) :
    tickets.Reach permits (ticketsEnd permits calls) :=
  System.reach_replayEnd (.init rfl) calls

def manager : Conversations.Actor := ⟨0, .supportManager⟩

def firstTicket : Ticket := { subject := "Refund" }

/-- A manager raises the priority, and an agent that loaded the ticket afterwards resolves it. -/
def raisedAndResolved : List TicketCall :=
  [.create "Refund" "" none none none,
    .update manager ⟨0, firstTicket⟩ { priority := some .urgent },
    .agentUpdate ⟨0, { firstTicket with priority := .urgent }⟩ none (some .resolved) none 2]

theorem ticket_updates_resolved :
    let t := ticketsEnd (fun t l => Current t l = true) raisedAndResolved
    t.rows = [{ firstTicket with priority := .urgent, status := .resolved, resolvedAt := some 2 }] ∧
      ∀ t', tickets.step (.unassign manager ⟨0, firstTicket⟩) t = some t' →
        Rows (Follows (.unassign manager ⟨0, firstTicket⟩)) t.rows t'.rows := by
  have hrun := reaches_ticketsEnd (fun t l => Current t l = true) raisedAndResolved
  exact ⟨by decide, fun t' hstep => (ticket_updates _).2 hrun _ t' (by decide) hstep⟩

/-- A manager raises the priority and closes the ticket. -/
def raisedAndClosed : List TicketCall :=
  [.create "Refund" "" none none none,
    .update manager ⟨0, firstTicket⟩ { priority := some .urgent },
    .changeStatus manager ⟨0, firstTicket⟩ .closed 2]

/-- An agent's note with an object from before makes the ticket open and its priority normal again,
and an agent that resolves it moves it from closed to resolved. -/
theorem ticket_updates_stale :
    (¬ ∀ t, tickets.Reach (fun _ _ => True) t → ∀ l t', tickets.step l t = some t' →
      Rows (fun c c' => c'.status = c.status ∨ c'.status ∈ c.status.transitions)
        t.rows t'.rows) ∧
    ¬ ∀ t, tickets.Reach (fun _ _ => True) t → ∀ l t', tickets.step l t = some t' →
      Rows (fun c c' => ∀ column, column ≠ .description → l.sets column = false →
        column.Same c c') t.rows t'.rows := by
  let t := ticketsEnd (fun _ _ => True) raisedAndClosed
  have hrun : tickets.Reach (fun _ _ => True) t := reaches_ticketsEnd _ raisedAndClosed
  have hrow : t.rows = [{ firstTicket with priority := .urgent, status := .closed }] := by decide
  constructor
  · intro hlaw
    have hresolved :
        (tickets.step (.agentUpdate ⟨0, firstTicket⟩ none (some .resolved) none 3) t).map
          (·.rows.map (·.status)) = some [.resolved] := by decide
    obtain ⟨t', ht', hstatuses⟩ := Option.map_eq_some_iff.mp hresolved
    obtain ⟨c', hc', hstatus⟩ := List.map_eq_singleton_iff.mp hstatuses
    obtain ⟨d, hd, hallowed⟩ := hlaw t hrun _ t' ht' 0 _ (by rw [hrow]; rfl)
    rw [hc'] at hd
    cases hd
    rw [hstatus] at hallowed
    revert hallowed
    decide
  · intro hlaw
    have hnormal : (tickets.step (.agentUpdate ⟨0, firstTicket⟩ none none (some "Called") 3) t).map
        (·.rows.map (·.priority)) = some [.normal] := by decide
    obtain ⟨t', ht', hpriorities⟩ := Option.map_eq_some_iff.mp hnormal
    obtain ⟨c', hc', hpriority⟩ := List.map_eq_singleton_iff.mp hpriorities
    obtain ⟨d, hd, hkept⟩ := hlaw t hrun _ t' ht' 0 _ (by rw [hrow]; rfl)
    rw [hc'] at hd
    cases hd
    have hsame : c'.priority = .urgent := hkept .priority nofun rfl
    rw [hpriority] at hsame
    cases hsame

end SupportPilot.Tickets
