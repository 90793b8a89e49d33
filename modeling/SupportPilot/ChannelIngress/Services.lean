import SupportPilot.Agents.Services
import SupportPilot.ChannelIngress.Models

/-!
# The statements of ingestion and processing

Adapters, keys, lookups and writes, each as a function of the rows that it reads. What one
transaction does in which order is left to the processes.
-/

namespace SupportPilot.ChannelIngress

open Library

/-! ## Adapters -/

/-- The string fields of a parsed webhook body; `sender` is `external_id` or `from`. -/
structure Envelope where
  eventId : String
  threadId : Option String := none
  messageId : Option String := none
  sender : String
  subject : Option String := none
  body : String
  deriving DecidableEq, Repr

/-- The required fields of `parse_event`. -/
def Envelope.valid (envelope : Envelope) : Bool :=
  envelope.eventId ≠ "" && envelope.sender ≠ "" && envelope.body ≠ ""

/-- An optional field: what is absent or empty is `None`, the rest is bounded. -/
def boundedField (field : Option String) : Option String :=
  field.bind fun text => if text = "" then none else some (truncate 255 text)

def normalizeEmail (lower : String → String) (sender : String) : Option String :=
  let normalized := lower (strip sender)
  if normalized.toList.length < 3 ∨ '@' ∉ normalized.toList ∨
      normalized.toList.head? = some '@' then none
  else some (truncate 320 normalized)

/-- `parse_event` and `normalize` of the adapter of a channel; web chat has none. -/
def normalize (lower : String → String) (cfg : IngressSettings) (channel : ChannelType)
    (envelope : Envelope) : Option CanonicalInboundMessage :=
  let canonical (externalIdentity : String) : CanonicalInboundMessage :=
    { providerEventId := truncate 255 envelope.eventId
      providerThreadId := boundedField envelope.threadId
      providerMessageId := boundedField envelope.messageId
      externalIdentity := externalIdentity
      subject := truncate 300 (envelope.subject.getD "")
      body := truncate cfg.maxMessageBodyLength envelope.body }
  if !envelope.valid then none
  else match channel with
  | .webChat => none
  | .email => (normalizeEmail lower envelope.sender).map canonical
  | .genericWebhook => some (canonical (truncate 255 envelope.sender))

/-- What `submit_chat_message` hands to the ingestion. -/
def chatMessage (session : ChatSession) (clientMessageId body : String) :
    CanonicalInboundMessage where
  providerEventId := truncate 255 (session.id.text ++ ":" ++ clientMessageId)
  providerThreadId := some session.id.text
  externalIdentity := session.id.text
  body := body

/-! ## Keys -/

def identityText (channel : ChannelType) (externalIdentity : String) : String :=
  channel.value ++ ":" ++ externalIdentity

def channelIdentityKey (channel : ChannelType) (externalIdentity : String) : String :=
  truncate 255 (identityText channel externalIdentity)

def threadText (endpoint : ChannelEndpoint) (providerThreadId : String) : String :=
  endpoint.id.text ++ ":" ++ providerThreadId

def threadExternalId (endpoint : ChannelEndpoint) (providerThreadId : String) : String :=
  truncate 255 (threadText endpoint providerThreadId)

/-! ## Rows -/

def newEvent (endpoint : Nat) (canonical : CanonicalInboundMessage) (payloadDigest : String)
    (now : Nat) : InboundChannelEvent where
  endpoint := endpoint
  providerEventId := canonical.providerEventId
  providerThreadId := canonical.providerThreadId.getD ""
  providerMessageId := canonical.providerMessageId.getD ""
  payloadDigest := payloadDigest
  externalIdentity := canonical.externalIdentity
  subject := canonical.subject
  body := canonical.body
  receivedAt := now

/-- The customer that `resolve_customer_identity` saves. -/
def newCustomer (lower : String → String) (endpoint : ChannelEndpoint)
    (event : InboundChannelEvent) : Customer :=
  ({ workspace := endpoint.workspace
     externalId := some (channelIdentityKey endpoint.channel event.externalIdentity)
     displayName := event.externalIdentity
     email := if endpoint.channel = .email then some event.externalIdentity else none } :
    Customer).save lower

def conversationChannel : ChannelType → ConversationChannel
  | .webChat => .chat
  | .email => .email
  | .genericWebhook => .api

/-- The conversation that `resolve_conversation` saves. -/
def newConversation (endpoint : ChannelEndpoint) (event : InboundChannelEvent)
    (customer : Nat) : Conversation :=
  ({ workspace := endpoint.workspace
     customer := customer
     channel := conversationChannel endpoint.channel
     subject := event.subject
     externalId :=
       if event.providerThreadId = "" then none
       else some (threadExternalId endpoint event.providerThreadId)
     channelEndpoint := endpoint.id.text } : Conversation).save

/-! ## Tables -/

/-- A unique index entry of an insert that has not committed. -/
inductive UniqueKey
  | customer (workspace : Nat) (externalId : String)
  | conversation (workspace : Nat) (externalId : String)
  deriving DecidableEq, Repr

def Customer.uniqueKey (row : Customer) : Option UniqueKey :=
  row.externalId.map (.customer row.workspace)

def Conversation.uniqueKey (row : Conversation) : Option UniqueKey :=
  row.externalId.map (.conversation row.workspace)

/-- What a processed event was resolved to. -/
structure Resolution where
  event : Nat
  customer : Nat
  conversation : Nat
  deriving DecidableEq, Repr

/-- The committed rows, and the unique keys that transactions in flight hold. Two more lists
record what no table keeps: which customer and conversation an event was resolved to, and
which events failed on a row that a lookup finds. -/
structure Store where
  endpoints : List ChannelEndpoint := []
  sessions : List ChatSession := []
  events : List InboundChannelEvent := []
  customers : List Customer := []
  conversations : List Conversation := []
  messages : List CustomerMessage := []
  runs : List AgentRun := []
  reserved : List (Nat × UniqueKey) := []
  resolved : List Resolution := []
  raced : List Nat := []

namespace Store

def findEvent (s : Store) (endpoint : Nat) (providerEventId : String) : Option Nat :=
  s.events.findIdx? fun e => e.endpoint = endpoint ∧ e.providerEventId = providerEventId

def findCustomer (s : Store) (workspace : Nat) (externalId : String) : Option Nat :=
  s.customers.findIdx? fun c => c.workspace = workspace ∧ c.externalId = some externalId

def findConversation (s : Store) (workspace : Nat) (externalId : String) : Option Nat :=
  s.conversations.findIdx? fun c => c.workspace = workspace ∧ c.externalId = some externalId

def reservedByOther (s : Store) (worker : Nat) (key : UniqueKey) : Bool :=
  s.reserved.any fun entry => entry.1 ≠ worker ∧ entry.2 = key

def release (s : Store) (worker : Nat) : Store :=
  { s with reserved := s.reserved.filter (·.1 ≠ worker) }

def reserve (s : Store) (worker : Nat) (key : UniqueKey) : Store :=
  { s with reserved := s.reserved ++ [(worker, key)] }

def setEvent (s : Store) (d : Nat) (event : InboundChannelEvent) : Store :=
  { s with events := s.events.set d event }

end Store

/-! ## The processing transaction -/

/-- A customer of the transaction: a committed one, or the one that it has inserted. -/
inductive CustomerRef
  | existing (k : Nat)
  | inserted
  deriving DecidableEq, Repr

/-- A conversation of the transaction; a committed one comes with the row as it was read. -/
inductive ConversationRef
  | existing (q : Nat) (read : Conversation)
  | inserted
  deriving DecidableEq, Repr

namespace Store

def settleCustomer (lower : String → String) (s : Store) (endpoint : ChannelEndpoint)
    (event : InboundChannelEvent) : CustomerRef → Store × Nat
  | .existing k => (s, k)
  | .inserted =>
    ({ s with customers := s.customers ++ [newCustomer lower endpoint event] },
      s.customers.length)

def settleConversation (s : Store) (endpoint : ChannelEndpoint) (event : InboundChannelEvent)
    (customer : Nat) : ConversationRef → Store × Nat × Conversation
  | .existing q read => (s, q, read)
  | .inserted =>
    let row := newConversation endpoint event customer
    ({ s with conversations := s.conversations ++ [row] }, s.conversations.length, row)

/-- `_link_chat_session`; a conversation belongs to one session. -/
def linkChatSession (s : Store) (endpoint : ChannelEndpoint) (event : InboundChannelEvent)
    (conversation customer : Nat) : Option Store :=
  let unlinked := fun session : ChatSession =>
    session.id.text = event.providerThreadId ∧ session.conversation = none
  if endpoint.channel ≠ .webChat ∨ event.providerThreadId = "" then some s
  else if !s.sessions.any (fun session => unlinked session) then some s
  else if s.sessions.any (·.conversation = some conversation) then none
  else some { s with
    sessions := s.sessions.map fun session =>
      if unlinked session then
        { session with conversation := some conversation, customer := some customer }
      else session }

/-- `create_inbound_message`: the conversation is saved from the row as it was read. -/
def createInboundMessage (s : Store) (endpoint : ChannelEndpoint) (event : InboundChannelEvent)
    (d conversation : Nat) (read : Conversation) (now : Nat) : Store :=
  { s with
    messages := s.messages ++ [{
      workspace := endpoint.workspace
      conversation := conversation
      body := event.body
      externalId := if event.providerMessageId = "" then none else some event.providerMessageId
      inboundEvent := d
      createdAt := now }]
    conversations := s.conversations.modify conversation fun row =>
      if read.status = .closed then
        { row with lastMessageAt := some now, status := .opened, closedAt := none }
      else { row with lastMessageAt := some now } }

def markEventProcessed (s : Store) (d conversation message now : Nat) : Store :=
  { s with events := s.events.modify d fun event =>
      { event with
        status := .processed
        conversation := some conversation
        message := some message
        processedAt := some now } }

def markEventFailed (s : Store) (d : Nat) (code : String) (now : Nat) : Store :=
  { s with events := s.events.modify d fun event =>
      { event with
        status := .failed
        failureCode := truncate 64 code
        processedAt := some now } }

/-- `create_agent_run`: a trigger message that has a run keeps it. -/
def createAgentRun (s : Store) (endpoint : ChannelEndpoint) (conversation message now : Nat) :
    Store :=
  if s.runs.any (·.triggerMessage = some message) then s
  else { s with runs := s.runs ++
    [newAgentRun endpoint.workspace endpoint.agentVersion (some conversation) (some message)
      none now] }

/-- `start_support_agent_run`; an `AgentError` is `none`. -/
def startSupportAgentRun (s : Store) (endpoint : ChannelEndpoint) (conversation message : Nat)
    (body : String) (now : Nat) : Option Store :=
  if strip body = "" then none
  else if !endpoint.agentVersionPublished then none
  else some (s.createAgentRun endpoint conversation message now)

/-- The writes on the resolved rows up to the commit, or the failure code. -/
def conclude (s : Store) (d : Nat) (endpoint : ChannelEndpoint) (event : InboundChannelEvent)
    (k q : Nat) (read : Conversation) (now : Nat) : Except String Store :=
  match s.linkChatSession endpoint event q k with
  | none => .error "processing_failed"
  | some s =>
    let m := s.messages.length
    let s := s.createInboundMessage endpoint event d q read now
    let s := s.markEventProcessed d q m now
    match s.startSupportAgentRun endpoint q m event.body now with
    | none => .error "orchestration_failed"
    | some s => .ok { s with resolved := s.resolved ++ [⟨d, k, q⟩] }

/-- What the transaction commits, with the rows that its earlier statements have inserted. -/
def deliver (lower : String → String) (s : Store) (d : Nat) (endpoint : ChannelEndpoint)
    (event : InboundChannelEvent) (customer : CustomerRef) (conversation : ConversationRef)
    (now : Nat) : Except String Store :=
  let (s, k) := s.settleCustomer lower endpoint event customer
  let (s, q, read) := s.settleConversation endpoint event k conversation
  s.conclude d endpoint event k q read now

/-! ## The sweep -/

/-- The candidates of `recover_stuck_inbound_events`, oldest first. -/
def stuckInboundEvents (cfg : IngressSettings) (s : Store) (now : Nat) : List Nat :=
  let stuck := (List.range s.events.length).filter fun d =>
    (s.events[d]?).any fun e =>
      e.status = .received ∧ e.receivedAt + cfg.sweepStaleSeconds * 1000000 ≤ now
  let age := fun d => (s.events[d]?).map (·.receivedAt)
  stuck.mergeSort fun d d' => (age d).all fun t => (age d').all fun t' => t ≤ t'

/-- The events that the sweep publishes a task for. -/
def recoverStuckInboundEvents (cfg : IngressSettings) (s : Store) (batchSize : Option Nat)
    (now : Nat) : List Nat :=
  (s.stuckInboundEvents cfg now).take (batchSize.getD cfg.sweepBatchSize)

end Store

end SupportPilot.ChannelIngress
