import SupportPilot.ChannelIngress.Services
import SupportPilot.Library.Processes

/-!
# Submissions and workers

A submission looks its event up and then inserts it. A worker claims an event and processes it
in one transaction, statement by statement: what it inserts is invisible until the commit, but
its unique keys block the inserts of others.
-/

namespace SupportPilot.ChannelIngress

open Library

/-! ## Processes -/

inductive SubmissionPoint
  | lookup
  | insert
  | accepted (d : Nat)
  | conflict
  | raised
  deriving DecidableEq, Repr

/-- A call of `ingest_channel_event`. -/
structure Submission where
  endpoint : Nat
  canonical : CanonicalInboundMessage
  payloadDigest : String
  point : SubmissionPoint := .lookup
  deriving DecidableEq, Repr

inductive WorkerPoint
  | start
  | identity
  | createCustomer
  | conversation (customer : CustomerRef)
  | createConversation (customer : CustomerRef)
  | deliver (customer : CustomerRef) (conversation : ConversationRef)
  | failing (code : String)
  | processed
  | failed
  | returned
  | vanished
  deriving DecidableEq, Repr

/-- The points of the processing transaction. -/
def WorkerPoint.inTransaction : WorkerPoint → Bool
  | identity | createCustomer | conversation _ | createConversation _ | deliver .. => true
  | _ => false

/-- The points at which a worker has claimed its event and not finished it. -/
def WorkerPoint.claimed : WorkerPoint → Bool
  | failing _ => true
  | point => point.inTransaction

def WorkerPoint.ended : WorkerPoint → Bool
  | processed | failed | returned | vanished => true
  | _ => false

/-- A call of `process_inbound_channel_event`. -/
structure Worker where
  event : Nat
  point : WorkerPoint := .start
  deriving DecidableEq, Repr

inductive Proc
  | submission (p : Submission)
  | worker (w : Worker)
  deriving DecidableEq, Repr

inductive IngressEvent
  | createEndpoint (endpoint : ChannelEndpoint)
  | configureEndpoint (k : Nat) (enabled : Bool) (policy : UnknownCustomerPolicy)
      (published : Bool)
  | bootstrapChatSession (endpoint : Nat) (id : Uuid)
  | receiveWebhook (endpoint : Nat) (envelope : Envelope) (payloadDigest : String)
  | submitChatMessage (session : Nat) (clientMessageId body payloadDigest : String)
  | changeConversationStatus (q : Nat) (status : ConversationStatus) (now : Nat)
  | task (d : Nat)

inductive IngressAction
  | lookup
  | insert (now : Nat) (published : Bool)
  | claim (now : Nat)
  | resolveIdentity
  | createCustomer
  | findConversation
  | createConversation
  | deliver (now : Nat) (dispatched : Bool)
  | markFailed (now : Nat)
  | raise
  | vanish
  deriving DecidableEq

/-! ## Submissions -/

/-- How a resubmission ends on the event that it meets. -/
def Submission.resolve (p : Submission) (d : Nat) (event : InboundChannelEvent) : Submission :=
  { p with point := if event.payloadDigest ≠ p.payloadDigest then .conflict else .accepted d }

/-- `ingest_channel_event`. The publication of the task comes after the commit; if it raises,
the caller sees the error and the event is there. -/
def submissionStep : IngressAction → Submission → Store → Option (Store × Submission)
  | .lookup, p, s =>
    if p.point = .lookup then
      match s.findEvent p.endpoint p.canonical.providerEventId with
      | none => some (s, { p with point := .insert })
      | some d => (s.events[d]?).map fun event => (s, p.resolve d event)
    else none
  | .insert now published, p, s =>
    if p.point = .insert then
      let row := newEvent p.endpoint p.canonical p.payloadDigest now
      if !row.accepted then some (s, { p with point := .raised })
      else match s.findEvent p.endpoint p.canonical.providerEventId with
      | some d => (s.events[d]?).map fun event => (s, p.resolve d event)
      | none =>
        some ({ s with events := s.events ++ [row] },
          { p with point := if published then .accepted s.events.length else .raised })
    else none
  | _, _, _ => none

/-! ## Workers -/

/-- A statement raises, and the transaction rolls back. -/
def Store.rollback (s : Store) (i : Nat) (w : Worker) (code : String) : Store × Worker :=
  (s.release i, { w with point := .failing code })

/-- A unique violation raises; `found` says that the row is one that a lookup finds. -/
def Store.refuse (s : Store) (i : Nat) (w : Worker) (found : Bool) : Store × Worker :=
  let (s, w') := s.rollback i w "processing_failed"
  ({ s with raced := if found then s.raced ++ [w.event] else s.raced }, w')

/-- An insert with a unique key: it is refused when a committed row has the key, waits while
another transaction holds it, and takes it otherwise. -/
def Store.insertUnique (s : Store) (i : Nat) (w : Worker) (key : UniqueKey) (taken : Bool)
    (refused : Store × Worker) (next : WorkerPoint) : Option (Store × Worker) :=
  if taken then some refused
  else if s.reservedByOther i key then none
  else some (s.reserve i key, { w with point := next })

def createCustomerStep (lower : String → String) (i : Nat) (w : Worker) (s : Store)
    (endpoint : ChannelEndpoint) (event : InboundChannelEvent) : Option (Store × Worker) :=
  let row := newCustomer lower endpoint event
  if !row.accepted then some (s.rollback i w "processing_failed")
  else match row.externalId with
  | none => some (s, { w with point := .conversation .inserted })
  | some externalId =>
    let key := channelIdentityKey endpoint.channel event.externalIdentity
    s.insertUnique i w (.customer endpoint.workspace externalId)
      (s.findCustomer endpoint.workspace externalId).isSome
      (s.refuse i w (s.findCustomer endpoint.workspace key).isSome) (.conversation .inserted)

/-- `resolve_conversation` up to its lookup. -/
def findConversationStep (w : Worker) (s : Store) (endpoint : ChannelEndpoint)
    (event : InboundChannelEvent) (customer : CustomerRef) : Store × Worker :=
  let missing := (s, { w with point := .createConversation customer })
  if event.providerThreadId = "" then missing
  else
    let q? := s.findConversation endpoint.workspace
      (threadExternalId endpoint event.providerThreadId)
    match q?, q?.bind (s.conversations[·]?) with
    | some q, some row => (s, { w with point := .deliver customer (.existing q row) })
    | _, _ => missing

/-- The insert of `resolve_conversation`; on a unique violation `_resolve_conversation_with_retry`
reads the row by the key of the lookup. -/
def createConversationStep (i : Nat) (w : Worker) (s : Store) (endpoint : ChannelEndpoint)
    (event : InboundChannelEvent) (customer : CustomerRef) : Option (Store × Worker) :=
  let row := newConversation endpoint event 0
  if !row.accepted then some (s.rollback i w "processing_failed")
  else match row.externalId with
  | none => some (s, { w with point := .deliver customer .inserted })
  | some externalId =>
    let q? := s.findConversation endpoint.workspace
      (threadExternalId endpoint event.providerThreadId)
    let retried := match q?, q?.bind (s.conversations[·]?) with
      | some q, some read => (s, { w with point := .deliver customer (.existing q read) })
      | _, _ => s.refuse i w false
    s.insertUnique i w (.conversation endpoint.workspace externalId)
      (s.findConversation endpoint.workspace externalId).isSome retried
      (.deliver customer .inserted)

/-- The statements of a worker on its event and endpoint. When the publication of the run's
task raises, the transaction has already committed. -/
def processStep (lower : String → String) (i : Nat) (w : Worker) (s : Store)
    (endpoint : ChannelEndpoint) (event : InboundChannelEvent) :
    IngressAction → Option (Store × Worker)
  | .resolveIdentity =>
    if w.point = .identity then
      match s.findCustomer endpoint.workspace
          (channelIdentityKey endpoint.channel event.externalIdentity) with
      | some k => some (s, { w with point := .conversation (.existing k) })
      | none =>
        if endpoint.unknownCustomerPolicy = .reject then
          some (s.rollback i w "processing_failed")
        else some (s, { w with point := .createCustomer })
    else none
  | .createCustomer =>
    if w.point = .createCustomer then createCustomerStep lower i w s endpoint event else none
  | .findConversation =>
    match w.point with
    | .conversation customer => some (findConversationStep w s endpoint event customer)
    | _ => none
  | .createConversation =>
    match w.point with
    | .createConversation customer => createConversationStep i w s endpoint event customer
    | _ => none
  | .deliver now dispatched =>
    match w.point with
    | .deliver customer conversation =>
      match s.deliver lower w.event endpoint event customer conversation now with
      | .ok s' =>
        some (s'.release i,
          { w with point := if dispatched then .processed else .failing "processing_failed" })
      | .error code => some (s.rollback i w code)
    | _ => none
  | _ => none

def workerStep (lower : String → String) (i : Nat) (a : IngressAction) (w : Worker)
    (s : Store) : Option (Store × Worker) :=
  match a with
  | .claim now =>
    if w.point = .start then
      match s.events[w.event]? with
      | none => some (s, { w with point := .returned })
      | some event =>
        if event.status ≠ .received then some (s, { w with point := .returned })
        else
          some (s.setEvent w.event
            { event with status := .processing, processingStartedAt := some now },
            { w with point := .identity })
    else none
  | .markFailed now =>
    match w.point with
    | .failing code => some (s.markEventFailed w.event code now, { w with point := .failed })
    | _ => none
  | .raise =>
    if w.point.inTransaction then some (s.rollback i w "processing_failed") else none
  | .vanish =>
    if w.point.ended then none else some (s.release i, { w with point := .vanished })
  | a =>
    match s.events[w.event]? with
    | none => none
    | some event =>
      match s.endpoints[event.endpoint]? with
      | none => none
      | some endpoint => processStep lower i w s endpoint event a

/-! ## The program -/

def ingressStep (lower : String → String) (cfg : IngressSettings) :
    IngressEvent → Store → Option (Store × Option Proc)
  | .createEndpoint endpoint, s =>
    if s.endpoints.any (·.id = endpoint.id) then none
    else some ({ s with endpoints := s.endpoints ++ [endpoint] }, none)
  | .configureEndpoint k enabled policy published, s =>
    some ({ s with endpoints := s.endpoints.modify k fun endpoint =>
      { endpoint with
        enabled := enabled
        unknownCustomerPolicy := policy
        agentVersionPublished := published } }, none)
  | .bootstrapChatSession k id, s =>
    (s.endpoints[k]?).bind fun endpoint =>
      if endpoint.channel ≠ .webChat ∨ endpoint.enabled = false then none
      else if s.sessions.any (·.id = id) then none
      else some ({ s with sessions := s.sessions ++ [{ id := id, endpoint := k }] }, none)
  | .receiveWebhook k envelope payloadDigest, s =>
    (s.endpoints[k]?).bind fun endpoint =>
      if endpoint.enabled = false then none
      else (normalize lower cfg endpoint.channel envelope).map fun canonical =>
        (s, some (.submission { endpoint := k, canonical, payloadDigest }))
  | .submitChatMessage k clientMessageId body payloadDigest, s =>
    (s.sessions[k]?).bind fun session =>
      (s.endpoints[session.endpoint]?).bind fun endpoint =>
        if endpoint.enabled = false then none
        else some (s, some (.submission {
          endpoint := session.endpoint
          canonical := chatMessage session clientMessageId body
          payloadDigest }))
  | .changeConversationStatus q status now, s =>
    some ({ s with conversations := s.conversations.modify q (·.changeStatus status now) }, none)
  | .task d, s => some (s, some (.worker { event := d }))

def procStep (lower : String → String) (i : Nat) (a : IngressAction) :
    Proc → Store → Option (Store × Proc)
  | .submission p, s => (submissionStep a p s).map fun out => (out.1, .submission out.2)
  | .worker w, s => (workerStep lower i a w s).map fun out => (out.1, .worker out.2)

/-- Ingestion and processing over empty tables. -/
def ingress (lower : String → String) (cfg : IngressSettings) :
    Program IngressEvent IngressAction Proc Store where
  initial s := s = {}
  env := ingressStep lower cfg
  work := procStep lower

abbrev Ingress := Config Proc Store

abbrev IngressLabel := Label IngressEvent IngressAction

end SupportPilot.ChannelIngress
