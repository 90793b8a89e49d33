import SupportPilot.Library.Transition
import SupportPilot.Library.Versions
import SupportPilot.Workspaces.Models

/-!
# Conversations and their messages

A service gets a conversation object that was loaded earlier, checks it and saves some of its
columns. A message and the columns that it changes commit together, at some moment after the
message got its time of creation.
-/

namespace SupportPilot.Conversations

open Library
open Workspaces (WorkspaceRole)

inductive ConversationStatus
  | opened
  | pending
  | closed
  deriving DecidableEq, Repr

/-- `CONVERSATION_STATUS_TRANSITIONS` -/
def ConversationStatus.transitions : ConversationStatus → List ConversationStatus
  | opened => [pending, closed]
  | pending => [opened, closed]
  | closed => [opened]

structure Conversation where
  status : ConversationStatus := .opened
  assignedTo : Option Nat := none
  lastMessageAt : Option Nat := none
  closedAt : Option Nat := none
  deriving DecidableEq, Repr

inductive MessageDirection
  | inbound
  | outbound
  | internal
  deriving DecidableEq, Repr

structure Message where
  conversation : Nat
  direction : MessageDirection
  createdAt : Nat
  deriving DecidableEq, Repr

/-- The membership of the acting member: its id and its role. -/
structure Actor where
  id : Nat
  role : WorkspaceRole
  deriving DecidableEq, Repr

/-- Membership in `CONVERSATION_REASSIGN_ROLES`. -/
def mayReassign : WorkspaceRole → Bool
  | .owner | .admin | .supportManager => true
  | .supportAgent | .viewer => false

structure Store where
  conversations : Versioned Conversation
  messages : List Message
  deriving DecidableEq

def Store.empty : Store := ⟨.empty, []⟩

abbrev ConversationObject := Object Conversation

/-- `_ensure_conversation_mutation_allowed` -/
def mutationAllowed (conversation : Conversation) (actor : Actor) : Bool :=
  mayReassign actor.role ||
    (actor.role = .supportAgent && conversation.assignedTo = some actor.id)

namespace Store

def createConversation (s : Store) : Store :=
  { s with conversations := s.conversations.insert {} }

def assignConversation (s : Store) (actor : Actor) (conversation : ConversationObject)
    (target : Nat) : Option Store :=
  if mayReassign actor.role = false ∧ (target ≠ actor.id ∨
      (conversation.value.assignedTo ≠ none ∧
        conversation.value.assignedTo ≠ some actor.id)) then none
  else some { s with conversations :=
    s.conversations.update conversation.pk fun row => { row with assignedTo := some target } }

def changeConversationStatus (s : Store) (actor : Actor) (conversation : ConversationObject)
    (newStatus : ConversationStatus) (now : Nat) : Option Store :=
  if mutationAllowed conversation.value actor = false then none
  else if newStatus ∉ conversation.value.status.transitions then none
  else
    let closedAt := if newStatus = .closed then some now
      else if conversation.value.status = .closed then none
      else conversation.value.closedAt
    some { s with conversations := s.conversations.update conversation.pk fun row =>
      { row with status := newStatus, closedAt := closedAt } }

/-- `_create_message`: the message, and the columns of its conversation. -/
def createMessage (s : Store) (conversation : ConversationObject) (direction : MessageDirection)
    (createdAt : Nat) : Store where
  conversations := s.conversations.update conversation.pk fun row =>
    if direction = .inbound ∧ conversation.value.status = .closed then
      { row with lastMessageAt := some createdAt, status := .opened, closedAt := none }
    else { row with lastMessageAt := some createdAt }
  messages := s.messages ++ [⟨conversation.pk, direction, createdAt⟩]

end Store

inductive ConversationCall
  | create
  | assign (actor : Actor) (conversation : ConversationObject) (target : Nat)
  | changeStatus (actor : Actor) (conversation : ConversationObject)
    (newStatus : ConversationStatus) (now : Nat)
  | createMessage (conversation : ConversationObject) (direction : MessageDirection)
    (createdAt : Nat)
  deriving DecidableEq

def conversationStep : ConversationCall → Store → Option Store
  | .create, s => some s.createConversation
  | .assign actor conversation target, s =>
    if s.conversations.Loaded conversation then s.assignConversation actor conversation target
    else none
  | .changeStatus actor conversation newStatus now, s =>
    if s.conversations.Loaded conversation then
      s.changeConversationStatus actor conversation newStatus now
    else none
  | .createMessage conversation direction createdAt, s =>
    if s.conversations.Loaded conversation then
      some (s.createMessage conversation direction createdAt)
    else none

/-- Calls of the conversation services over empty tables. -/
def conversations : System Store ConversationCall where
  initial s := s = .empty
  step := conversationStep

end SupportPilot.Conversations
