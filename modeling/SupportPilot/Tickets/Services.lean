import SupportPilot.Library.Text
import SupportPilot.Library.Transition
import SupportPilot.Library.Versions
import SupportPilot.Conversations.Services

/-!
# Tickets

Staff and agents change tickets through objects that were loaded earlier. Some of the services save
the columns that they set, others save the whole row.
-/

namespace SupportPilot.Tickets

open Library
open Conversations (Actor)
open Workspaces (WorkspaceRole)

inductive TicketStatus
  | opened
  | inProgress
  | pending
  | resolved
  | closed
  deriving DecidableEq, Repr

/-- `TICKET_STATUS_TRANSITIONS` -/
def TicketStatus.transitions : TicketStatus → List TicketStatus
  | opened => [inProgress, pending, resolved, closed]
  | inProgress => [opened, pending, resolved, closed]
  | pending => [opened, inProgress, resolved, closed]
  | resolved => [opened, inProgress, closed]
  | closed => [opened]

inductive TicketPriority
  | low
  | normal
  | high
  | urgent
  deriving DecidableEq, Repr

/-- A ticket; its metadata are the text of a JSON object. -/
structure Ticket where
  subject : String
  description : String := ""
  status : TicketStatus := .opened
  priority : TicketPriority := .normal
  assignedTo : Option Nat := none
  dueAt : Option Nat := none
  resolvedAt : Option Nat := none
  metadata : String := "{}"
  deriving DecidableEq, Repr

abbrev TicketObject := Object Ticket

abbrev TicketTable := Versioned Ticket

/-- Membership in `TICKET_REASSIGN_ROLES`. -/
def mayReassign : WorkspaceRole → Bool
  | .owner | .admin | .supportManager => true
  | .supportAgent | .viewer => false

/-- `_ensure_ticket_mutation_allowed` -/
def mutationAllowed (ticket : Ticket) (actor : Actor) : Bool :=
  mayReassign actor.role ||
    (actor.role = .supportAgent && ticket.assignedTo = some actor.id)

/-- `Ticket.save` saves the subject without the white space around it. -/
def Ticket.saved (ticket : Ticket) : Ticket := { ticket with subject := strip ticket.subject }

/-- The `WRITABLE_TICKET_FIELDS` that a request sets. -/
structure TicketData where
  subject : Option String := none
  description : Option String := none
  priority : Option TicketPriority := none
  dueAt : Option (Option Nat) := none
  metadata : Option String := none
  deriving DecidableEq, Repr

def TicketData.set (data : TicketData) (ticket : Ticket) : Ticket :=
  { ticket with
    subject := data.subject.getD ticket.subject
    description := data.description.getD ticket.description
    priority := data.priority.getD ticket.priority
    dueAt := data.dueAt.getD ticket.dueAt
    metadata := data.metadata.getD ticket.metadata }

/-- The time of resolution of a ticket that moves to another status. -/
def Ticket.resolvedAtAfter (ticket : Ticket) (newStatus : TicketStatus) (now : Nat) : Option Nat :=
  if newStatus = .resolved then some now
  else if ticket.status = .resolved then none
  else ticket.resolvedAt

/-- A note of an agent, below the description so far and cut to the length of the column. -/
def appendNote (description note : String) : String :=
  let separator := if description = "" then "" else "\n\n"
  truncate 20000 (description ++ separator ++ note)

/-- The priority and the note of an agent's update. -/
def Ticket.noted (ticket : Ticket) (priority : Option TicketPriority) (note : Option String) :
    Ticket :=
  { ticket with
    priority := priority.getD ticket.priority
    description := match note with
      | some note => if note = "" then ticket.description else appendNote ticket.description note
      | none => ticket.description }

def createTicket (t : TicketTable) (subject description : String)
    (priority : Option TicketPriority) (dueAt : Option Nat) (metadata : Option String) :
    TicketTable :=
  let ticket : Ticket :=
    { subject, description, dueAt, priority := priority.getD .normal,
      metadata := metadata.getD "{}" }
  t.insert ticket.saved

def updateTicket (t : TicketTable) (actor : Actor) (ticket : TicketObject) (data : TicketData) :
    Option TicketTable :=
  if mutationAllowed ticket.value actor = false then none
  else some (t.update ticket.pk fun _ => (data.set ticket.value).saved)

def assignTicket (t : TicketTable) (actor : Actor) (ticket : TicketObject) (target : Nat) :
    Option TicketTable :=
  if mayReassign actor.role = false ∧ (target ≠ actor.id ∨
      (ticket.value.assignedTo ≠ none ∧ ticket.value.assignedTo ≠ some actor.id)) then none
  else some (t.update ticket.pk fun row => { row with assignedTo := some target })

def unassignTicket (t : TicketTable) (actor : Actor) (ticket : TicketObject) :
    Option TicketTable :=
  if mayReassign actor.role = false then none
  else some (t.update ticket.pk fun row => { row with assignedTo := none })

def changeTicketStatus (t : TicketTable) (actor : Actor) (ticket : TicketObject)
    (newStatus : TicketStatus) (now : Nat) : Option TicketTable :=
  if mutationAllowed ticket.value actor = false then none
  else if newStatus ∉ ticket.value.status.transitions then none
  else some (t.update ticket.pk fun row =>
    { row with status := newStatus, resolvedAt := ticket.value.resolvedAtAfter newStatus now })

def applyAgentTicketUpdate (t : TicketTable) (ticket : TicketObject)
    (priority : Option TicketPriority) (status : Option TicketStatus) (note : Option String)
    (now : Nat) : Option TicketTable :=
  let noted := (ticket.value.noted priority note).saved
  match status with
  | some status =>
    if status = ticket.value.status then some (t.update ticket.pk fun _ => noted)
    else if status ∉ ticket.value.status.transitions then none
    else some (t.update ticket.pk fun _ =>
      { noted with status := status, resolvedAt := ticket.value.resolvedAtAfter status now })
  | none => some (t.update ticket.pk fun _ => noted)

inductive TicketCall
  | create (subject description : String) (priority : Option TicketPriority) (dueAt : Option Nat)
    (metadata : Option String)
  | update (actor : Actor) (ticket : TicketObject) (data : TicketData)
  | assign (actor : Actor) (ticket : TicketObject) (target : Nat)
  | unassign (actor : Actor) (ticket : TicketObject)
  | changeStatus (actor : Actor) (ticket : TicketObject) (newStatus : TicketStatus) (now : Nat)
  | agentUpdate (ticket : TicketObject) (priority : Option TicketPriority)
    (status : Option TicketStatus) (note : Option String) (now : Nat)
  deriving DecidableEq, Repr

/-- The object that a call got. -/
def TicketCall.object : TicketCall → Option TicketObject
  | create .. => none
  | update _ ticket _ | assign _ ticket _ | unassign _ ticket | changeStatus _ ticket _ _
  | agentUpdate ticket .. => some ticket

def TicketCall.run : TicketCall → TicketTable → Option TicketTable
  | create subject description priority dueAt metadata, t =>
    some (createTicket t subject description priority dueAt metadata)
  | update actor ticket data, t => updateTicket t actor ticket data
  | assign actor ticket target, t => assignTicket t actor ticket target
  | unassign actor ticket, t => unassignTicket t actor ticket
  | changeStatus actor ticket newStatus now, t => changeTicketStatus t actor ticket newStatus now
  | agentUpdate ticket priority status note now, t =>
    applyAgentTicketUpdate t ticket priority status note now

def ticketStep (l : TicketCall) (t : TicketTable) : Option TicketTable :=
  if ∀ ticket ∈ l.object, t.Loaded ticket then l.run t else none

/-- Calls of the ticket services over an empty table. -/
def tickets : System TicketTable TicketCall where
  initial t := t = .empty
  step := ticketStep

end SupportPilot.Tickets
