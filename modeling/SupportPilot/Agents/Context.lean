import Mathlib.Algebra.Ring.Nat
import SupportPilot.Conversations.Services
import SupportPilot.Knowledge.Normalization

/-!
# Conversation context

The history of a conversation that a run is given: the newest messages that are eligible, within
a number of messages and of characters, and the trigger at their end. The table of messages keeps
what the database enforces, that no id and no sequence number is given twice.
-/

namespace SupportPilot.Agents

open Conversations (MessageDirection)
open Knowledge (stripText)

inductive MessageSenderType
  | customer
  | humanAgent
  | aiAgent
  | system
  deriving DecidableEq, Repr

structure Message where
  id : Nat
  workspace : Nat
  conversation : Nat
  senderType : MessageSenderType
  direction : MessageDirection
  body : List Char
  createdAt : Nat
  sequence : Nat
  deriving DecidableEq, Repr

structure MessageTable where
  rows : List Message
  nodup_id : (rows.map (·.id)).Nodup
  nodup_sequence : (rows.map (·.sequence)).Nodup

structure Conversation where
  id : Nat
  workspace : Nat
  deriving DecidableEq, Repr

inductive ContextRole
  | user
  | assistant
  deriving DecidableEq, Repr

structure ConversationContextLimits where
  maxMessages : Int
  maxCharacters : Int
  deriving DecidableEq, Repr

structure ContextMessage where
  messageId : Nat
  role : ContextRole
  content : List Char
  createdAt : Nat
  truncated : Bool
  deriving DecidableEq, Repr

structure ConversationContext where
  conversationId : Nat
  triggerMessageId : Nat
  messages : List ContextMessage
  truncated : Bool
  availableMessageCount : Nat
  deriving DecidableEq, Repr

def ConversationContext.characterCount (context : ConversationContext) : Nat :=
  (context.messages.map (·.content.length)).sum

/-- What `build_conversation_context` raises. -/
inductive ContextError
  | invalidTriggerMessage
  | limitsNotPositive
  | assertion
  deriving DecidableEq, Repr

def ContextError.text : ContextError → String
  | invalidTriggerMessage =>
    "The trigger message is not a valid customer message for this conversation."
  | limitsNotPositive => "Conversation context limits must be positive."
  | assertion => ""

/-- `validate_trigger_message` -/
def triggerValid (workspace : Nat) (conversation : Conversation) (trigger : Message) : Bool :=
  !(conversation.workspace ≠ workspace || trigger.workspace ≠ workspace ||
    trigger.conversation ≠ conversation.id || trigger.senderType ≠ .customer ||
    trigger.direction ≠ .inbound || stripText trigger.body = [])

def normalizedRole (message : Message) : Option ContextRole :=
  if message.senderType = .customer ∧ message.direction = .inbound then some .user
  else if (message.senderType = .humanAgent ∨ message.senderType = .aiAgent) ∧
    message.direction = .outbound then some .assistant
  else none

/-- `_ELIGIBLE_ROLE_FILTER` -/
def eligibleRole (message : Message) : Bool :=
  (message.senderType = .customer && message.direction = .inbound) ||
    ((message.senderType = .humanAgent || message.senderType = .aiAgent) &&
      message.direction = .outbound)

/-- The rows of the query for eligible messages. -/
def eligible (messages : MessageTable) (workspace : Nat) (conversation : Conversation)
    (trigger : Message) : List Message :=
  messages.rows.filter fun message => message.conversation = conversation.id &&
    message.workspace = workspace && message.createdAt ≤ trigger.createdAt &&
    eligibleRole message

/-- `order_by("-created_at", "-sequence")` puts `a` before `b`, or does not tell them apart. -/
def newestFirst (a b : Message) : Bool :=
  b.createdAt < a.createdAt || (b.createdAt = a.createdAt && b.sequence ≤ a.sequence)

def boundedMessage (message : Message) (role : ContextRole) (limit : Nat) : ContextMessage where
  messageId := message.id
  role := role
  content := message.body.take limit
  createdAt := message.createdAt
  truncated := (message.body.take limit).length < message.body.length

/-- The loop over the candidates, newest first, with the messages that it has retained. -/
def retainLoop (trigger : Message) (maxMessages : Nat) :
    Nat → List ContextMessage → List Message → Except ContextError (List ContextMessage)
  | _, retained, [] => .ok retained
  | remaining, retained, message :: rest =>
    if message.id = trigger.id then retainLoop trigger maxMessages remaining retained rest
    else if maxMessages - 1 ≤ retained.length then .ok retained
    else if remaining = 0 then .ok retained
    else match normalizedRole message with
      | none => .error .assertion
      | some role =>
        let normalized := boundedMessage message role remaining
        if normalized.content = [] then retainLoop trigger maxMessages remaining retained rest
        else retainLoop trigger maxMessages (remaining - normalized.content.length)
          (retained ++ [normalized]) rest

def buildConversationContext (settings : ConversationContextLimits) (messages : MessageTable)
    (workspace : Nat) (conversation : Conversation) (trigger : Message)
    (limits : Option ConversationContextLimits) : Except ContextError ConversationContext :=
  if triggerValid workspace conversation trigger = false then .error .invalidTriggerMessage
  else
    let selected := limits.getD settings
    if selected.maxMessages < 1 ∨ selected.maxCharacters < 1 then .error .limitsNotPositive
    else
      let maxMessages := selected.maxMessages.toNat
      let maxCharacters := selected.maxCharacters.toNat
      let rows := eligible messages workspace conversation trigger
      let newestCandidates := (rows.mergeSort newestFirst).take maxMessages
      let triggerContext := boundedMessage trigger .user maxCharacters
      let remaining := maxCharacters - triggerContext.content.length
      (retainLoop trigger maxMessages remaining [] newestCandidates).map fun newest =>
        let retained := newest.reverse ++ [triggerContext]
        { conversationId := conversation.id
          triggerMessageId := trigger.id
          messages := retained
          truncated := retained.any (·.truncated) || retained.length < rows.length
          availableMessageCount := rows.length }

end SupportPilot.Agents
