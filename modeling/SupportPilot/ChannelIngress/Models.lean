import SupportPilot.Agents.Models
import SupportPilot.Library.Identifiers
import SupportPilot.Library.Text
import SupportPilot.Tools.Models

/-!
# Channel endpoints, inbound events and the rows they lead to

A row points to another by its position in the other table. Endpoints and chat sessions carry
their UUID besides, since its text goes into external ids.
-/

namespace SupportPilot.ChannelIngress

open Library

/-! ## Endpoints and sessions -/

inductive ChannelType
  | webChat
  | email
  | genericWebhook
  deriving DecidableEq, Repr

def ChannelType.value : ChannelType → String
  | webChat => "web_chat"
  | email => "email"
  | genericWebhook => "generic_webhook"

inductive UnknownCustomerPolicy
  | create
  | reject
  deriving DecidableEq, Repr

structure ChannelEndpoint where
  id : Uuid
  workspace : Nat
  channel : ChannelType
  enabled : Bool := true
  unknownCustomerPolicy : UnknownCustomerPolicy := .create
  agentVersion : AgentVersion := {}
  agentVersionPublished : Bool := true
  deriving DecidableEq

structure ChatSession where
  id : Uuid
  endpoint : Nat
  customer : Option Nat := none
  conversation : Option Nat := none
  deriving DecidableEq

/-! ## Inbound events -/

inductive InboundChannelEventStatus
  | received
  | processing
  | processed
  | failed
  deriving DecidableEq, Repr

structure InboundChannelEvent where
  endpoint : Nat
  providerEventId : String
  providerThreadId : String := ""
  providerMessageId : String := ""
  payloadDigest : String
  externalIdentity : String
  subject : String := ""
  body : String
  status : InboundChannelEventStatus := .received
  failureCode : String := ""
  conversation : Option Nat := none
  message : Option Nat := none
  receivedAt : Nat
  processingStartedAt : Option Nat := none
  processedAt : Option Nat := none
  deriving DecidableEq, Repr

/-- The unique constraint of inbound events. -/
def InboundChannelEvent.uniqueKey (event : InboundChannelEvent) : Option (Nat × String) :=
  some (event.endpoint, event.providerEventId)

/-- The column sizes of an inbound event. -/
def InboundChannelEvent.accepted (event : InboundChannelEvent) : Bool :=
  varcharAccepts 255 event.providerEventId && varcharAccepts 255 event.providerThreadId &&
    varcharAccepts 255 event.providerMessageId && varcharAccepts 64 event.payloadDigest &&
    varcharAccepts 255 event.externalIdentity && varcharAccepts 300 event.subject &&
    !event.body.toList.contains '\x00'

/-! ## Customers and conversations -/

structure Customer where
  workspace : Nat
  externalId : Option String
  displayName : String
  email : Option String
  deriving DecidableEq, Repr

/-- `Customer.save` on a customer without names and company; `lower` is `str.lower`. -/
def Customer.save (lower : String → String) (customer : Customer) : Customer :=
  let email := customer.email.bind fun email =>
    if email = "" then some email
    else if lower (strip email) = "" then none else some (lower (strip email))
  let displayName := strip customer.displayName
  { customer with
    email := email
    externalId := customer.externalId.bind stripOrNone
    displayName := if displayName = "" then email.getD "" else displayName }

def Customer.accepted (customer : Customer) : Bool :=
  customer.externalId.all (varcharAccepts 255) && varcharAccepts 300 customer.displayName &&
    customer.email.all (varcharAccepts 254)

inductive ConversationChannel
  | chat
  | email
  | api
  deriving DecidableEq, Repr

inductive ConversationStatus
  | opened
  | pending
  | closed
  deriving DecidableEq, Repr

/-- A conversation; `channelEndpoint` is the `channel_endpoint_id` of its metadata. -/
structure Conversation where
  workspace : Nat
  customer : Nat
  channel : ConversationChannel
  status : ConversationStatus := .opened
  subject : String
  externalId : Option String
  channelEndpoint : String
  lastMessageAt : Option Nat := none
  closedAt : Option Nat := none
  deriving DecidableEq, Repr

def Conversation.save (conversation : Conversation) : Conversation :=
  { conversation with
    subject := strip conversation.subject
    externalId := conversation.externalId.bind stripOrNone }

/-- Membership in `CONVERSATION_STATUS_TRANSITIONS`. -/
def ConversationStatus.allows : ConversationStatus → ConversationStatus → Bool
  | .opened, .pending | .opened, .closed | .pending, .opened | .pending, .closed
  | .closed, .opened => true
  | _, _ => false

/-- `change_conversation_status`, which raises on a transition that is not allowed. -/
def Conversation.changeStatus (conversation : Conversation) (status : ConversationStatus)
    (now : Nat) : Conversation :=
  if !conversation.status.allows status then conversation
  else { conversation with
    status := status
    closedAt := if status = .closed then some now
      else if conversation.status = .closed then none else conversation.closedAt }

def Conversation.accepted (conversation : Conversation) : Bool :=
  varcharAccepts 300 conversation.subject && conversation.externalId.all (varcharAccepts 255)

/-- A customer's message; `inboundEvent` is the `inbound_channel_event_id` of its metadata. -/
structure CustomerMessage where
  workspace : Nat
  conversation : Nat
  body : String
  externalId : Option String
  inboundEvent : Nat
  createdAt : Nat
  deriving DecidableEq, Repr

/-! ## Canonical messages and settings -/

structure CanonicalInboundMessage where
  providerEventId : String
  providerThreadId : Option String := none
  providerMessageId : Option String := none
  externalIdentity : String
  subject : String := ""
  body : String
  deriving DecidableEq, Repr

structure IngressSettings where
  maxMessageBodyLength : Nat := 20000
  sweepBatchSize : Nat := 100
  sweepStaleSeconds : Nat := 120
  deriving DecidableEq, Repr

end SupportPilot.ChannelIngress
