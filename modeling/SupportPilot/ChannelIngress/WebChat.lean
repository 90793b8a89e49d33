import SupportPilot.Agents.Context
import SupportPilot.Library.Transition

/-!
# Polls of a web chat

A session reads the messages of its conversation in the order of time and sequence number, behind
the last message that it has received. A transaction inserts a message, saves the conversation,
whose row it then holds, and commits; only then is the message visible. The clocks of the
transactions are independent.
-/

namespace SupportPilot.ChannelIngress

open Library

/-! ## The query -/

/-- `order_by("created_at", "sequence")` -/
def oldestFirst (a b : Agents.Message) : Bool :=
  a.createdAt < b.createdAt || (a.createdAt = b.createdAt && a.sequence ≤ b.sequence)

def messageListForConversation (rows : List Agents.Message) (conversation : Nat) :
    List Agents.Message :=
  (rows.filter (·.conversation = conversation)).mergeSort oldestFirst

/-- `list_chat_messages` for a session with this conversation. -/
def listChatMessages (limit : Nat) (rows : List Agents.Message) (conversation : Option Nat)
    (after : Option Nat) : List Agents.Message :=
  match conversation with
  | none => []
  | some conversation =>
    let queryset := messageListForConversation rows conversation
    let anchor := after.bind fun id => queryset.find? (·.id = id)
    let queryset :=
      match anchor with
      | none => queryset
      | some anchor =>
        queryset.filter fun message => anchor.createdAt < message.createdAt ||
          (message.createdAt = anchor.createdAt && anchor.sequence < message.sequence)
    queryset.take limit

/-! ## Transactions and polls -/

/-- A message that was inserted and not committed. -/
structure OpenInsert where
  message : Agents.Message
  /-- The conversation was saved, so that the transaction holds its row. -/
  saved : Bool := false
  deriving DecidableEq, Repr

structure Chat where
  committed : List Agents.Message := []
  inserts : List OpenInsert := []
  nextSequence : Nat := 1
  /-- The conversation of the session, once it is linked. -/
  conversation : Option Nat := none
  /-- What the polls of the session have returned, one after the other. -/
  received : List Agents.Message := []
  deriving DecidableEq, Repr

namespace Chat

/-- The conversation's row is held by an open transaction. -/
def held (s : Chat) (conversation : Nat) : Bool :=
  s.inserts.any fun insert => insert.saved && insert.message.conversation = conversation

/-- An id that no row has. -/
def freshId (s : Chat) (id : Nat) : Bool :=
  s.committed.all (·.id ≠ id) && s.inserts.all (·.message.id ≠ id)

/-- The messages that the session would be shown without a limit. -/
def visible (s : Chat) : List Agents.Message :=
  match s.conversation with
  | none => []
  | some conversation => messageListForConversation s.committed conversation

/-- What a poll returns, behind the last message that was received. -/
def page (limit : Nat) (s : Chat) : List Agents.Message :=
  listChatMessages limit s.committed s.conversation (s.received.getLast?.map (·.id))

end Chat

inductive ChatAction
  | insert (message : Agents.Message)
  | save (k : Nat)
  | commit (k : Nat)
  | rollback (k : Nat)
  | link (conversation : Nat)
  | poll
  deriving DecidableEq, Repr

/-- The database and the session; the sequence number of a message is the next one. -/
def chatStep (limit : Nat) : ChatAction → Chat → Option Chat
  | .insert message, s =>
    if s.freshId message.id then
      some
        { s with
          inserts := s.inserts ++ [{ message := { message with sequence := s.nextSequence } }]
          nextSequence := s.nextSequence + 1 }
    else none
  | .save k, s =>
    match s.inserts[k]? with
    | none => none
    | some insert =>
      if s.held insert.message.conversation then none
      else some { s with inserts := s.inserts.set k { insert with saved := true } }
  | .commit k, s =>
    match s.inserts[k]? with
    | none => none
    | some insert =>
      if insert.saved then
        some
          { s with
            committed := s.committed ++ [insert.message]
            inserts := s.inserts.eraseIdx k }
      else none
  | .rollback k, s =>
    if k < s.inserts.length then some { s with inserts := s.inserts.eraseIdx k } else none
  | .link conversation, s =>
    if s.conversation = none then some { s with conversation := some conversation } else none
  | .poll, s => some { s with received := s.received ++ s.page limit }

def chatSystem (limit : Nat) : System Chat ChatAction where
  initial s := s = {}
  step := chatStep limit

end SupportPilot.ChannelIngress
