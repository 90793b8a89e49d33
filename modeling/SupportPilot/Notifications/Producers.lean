import SupportPilot.Library.Processes
import SupportPilot.Notifications.System
import SupportPilot.Tools.Models

/-!
# Producers and channel handlers

A notification and the reply to a channel are produced by two statements: the delivery, which
the engine commits and publishes by itself, and the snapshot of what is to be sent. A caller
that holds an outer transaction commits both together.
-/

namespace SupportPilot.Notifications

open Library

/-! ## Snapshots -/

/-- A row of `NotificationDelivery` or `ChannelResponseDelivery`; the source is the tool
execution of the one and the message of the other. -/
structure Snapshot where
  delivery : Nat
  channel : DeliveryChannel
  source : Nat
  endpoint : Option Nat := none
  recipient : String
  subject : String
  body : String
  threadReference : String := ""
  idempotencyKey : String
  deriving DecidableEq, Repr

/-- What a producer is called with. -/
inductive Production
  | notification (toolExecution workspace : Nat) (recipientEmail subject body : String)
  | channelResponse (message workspace endpoint : Nat)
      (destination subject body threadReference : String)
  deriving DecidableEq, Repr

namespace Production

def channel : Production → DeliveryChannel
  | notification .. => .notification
  | channelResponse .. => .channelResponse

def source : Production → Nat
  | notification toolExecution .. => toolExecution
  | channelResponse message .. => message

def workspace : Production → Nat
  | notification _ workspace .. => workspace
  | channelResponse _ workspace .. => workspace

def snapshot (d : Nat) : Production → Snapshot
  | notification toolExecution _ recipientEmail subject body =>
    { delivery := d
      channel := .notification
      source := toolExecution
      recipient := recipientEmail
      subject := subject
      body := body
      idempotencyKey := "notification.send:" ++ toString toolExecution }
  | channelResponse message _ endpoint destination subject body threadReference =>
    { delivery := d
      channel := .channelResponse
      source := message
      endpoint := some endpoint
      recipient := destination
      subject := String.ofList (subject.toList.take 200)
      body := body
      threadReference := threadReference
      idempotencyKey := "channel_response:" ++ toString message }

theorem snapshot_delivery (d : Nat) (p : Production) : (p.snapshot d).delivery = d := by
  cases p <;> rfl

theorem snapshot_channel (d : Nat) (p : Production) : (p.snapshot d).channel = p.channel := by
  cases p <;> rfl

end Production

def maxRecipientLength : DeliveryChannel → Nat
  | .notification | .webhook => 254
  | .channelResponse => 320

/-- The column sizes and the check constraints of a snapshot row. -/
def Snapshot.accepted (snapshot : Snapshot) : Bool :=
  snapshot.recipient ≠ "" &&
    varcharAccepts (maxRecipientLength snapshot.channel) snapshot.recipient &&
    varcharAccepts 200 snapshot.subject && !snapshot.body.toList.contains '\x00' &&
    varcharAccepts 255 snapshot.threadReference && varcharAccepts 200 snapshot.idempotencyKey

/-! ## What a handler reports -/

/-- What the provider answers to an attempt. -/
inductive ProviderOutcome
  | sent
  | integrationError (code : String) (retryable : Bool)
  | otherException
  deriving DecidableEq, Repr

def missingSnapshotErrorCode : DeliveryChannel → String
  | .notification => "notification_delivery_missing"
  | .webhook => "webhook_delivery_missing"
  | .channelResponse => "channel_response_delivery_missing"

def unexpectedErrorCode : DeliveryChannel → String
  | .notification => "notification_delivery_unexpected_error"
  | .webhook => "webhook_delivery_unexpected_error"
  | .channelResponse => "channel_response_delivery_unexpected_error"

/-- The completion that a handler calls, given whether it has found its snapshot. -/
def attemptCompletion (channel : DeliveryChannel) (found : Bool) (d token : Nat)
    (outcome : ProviderOutcome) (now : Int) : DeliveryEvent :=
  if !found then .completeFailure d token (missingSnapshotErrorCode channel) false none now none
  else match outcome with
  | .sent => .completeSuccess d token now none
  | .integrationError code retryable => .completeFailure d token code retryable none now none
  | .otherException => .completeFailure d token (unexpectedErrorCode channel) false none now none

/-! ## Tables -/

/-- The tables of the engine and of the snapshots, and the deliveries that ended because their
handler found no snapshot. -/
structure OutboxStore where
  engine : Store := {}
  snapshots : List Snapshot := []
  missed : List Nat := []

namespace OutboxStore

def findSnapshot (s : OutboxStore) (channel : DeliveryChannel) (d : Nat) : Option Snapshot :=
  s.snapshots.find? fun snapshot => snapshot.channel = channel ∧ snapshot.delivery = d

/-- The one-to-one columns admit one row for a source and one for a delivery. -/
def insertSnapshot (s : OutboxStore) (snapshot : Snapshot) : Except DeliveryError OutboxStore :=
  if s.snapshots.any (fun other => other.channel = snapshot.channel ∧
      (other.source = snapshot.source ∨ other.delivery = snapshot.delivery)) then
    .error .integrityError
  else if !snapshot.accepted then .error .integrityError
  else .ok { s with snapshots := s.snapshots ++ [snapshot] }

/-- `handle_notification_delivery_attempt` and `handle_channel_response_delivery_attempt`, whose
completion raises when the token is stale. -/
def handleAttempt (cfg : DeliverySettings) (s : OutboxStore) (d token : Nat)
    (outcome : ProviderOutcome) (now : Int) : Except DeliveryError OutboxStore :=
  match s.engine.deliveries[d]? with
  | none => .error .notFound
  | some delivery =>
    let found := (s.findSnapshot delivery.channel d).isSome
    (s.engine.call cfg (attemptCompletion delivery.channel found d token outcome now)).map
      fun engine => { s with
        engine := engine
        missed := if found then s.missed else s.missed ++ [d] }

end OutboxStore

/-! ## Producers as processes -/

inductive ProducerPoint
  | check
  | create
  | insert (d : Nat)
  | returned
  | raised
  deriving DecidableEq, Repr

/-- A running call of a producer; `outer` says that its caller holds a transaction. -/
structure Producer where
  production : Production
  outer : Bool
  point : ProducerPoint := .check
  deriving DecidableEq, Repr

inductive OutboxEvent
  | produce (production : Production) (outer : Bool)
  | claim (d : Nat) (contended : Bool) (leaseSeconds : Option Int) (token : Nat) (now : Int)
  | reclaim (d : Nat) (contended : Bool) (leaseSeconds : Option Int) (token : Nat) (now : Int)
  | handle (d token : Nat) (outcome : ProviderOutcome) (now : Int)

inductive ProducerAction
  | checkExisting
  | createDelivery (now : Int)
  | insertSnapshot
  | commitBoth (now : Int)
  | fail
  deriving DecidableEq

/-- What raises writes nothing. -/
def OutboxStore.orSame (s : OutboxStore) (out : Except DeliveryError OutboxStore) : OutboxStore :=
  match out with
  | .ok s' => s'
  | .error _ => s

def outboxStep (cfg : DeliverySettings) :
    OutboxEvent → OutboxStore → Option (OutboxStore × Option Producer)
  | .produce production outer, s => some (s, some { production := production, outer := outer })
  | .claim d contended leaseSeconds token now, s =>
    some (s.orSame ((s.engine.claimDelivery cfg d contended leaseSeconds token now).map
      fun engine => { s with engine := engine }), none)
  | .reclaim d contended leaseSeconds token now, s =>
    some (s.orSame ((s.engine.reclaimExpiredDelivery cfg d contended leaseSeconds token now).map
      fun engine => { s with engine := engine }), none)
  | .handle d token outcome now, s =>
    some (s.orSame (s.handleAttempt cfg d token outcome now), none)

/-- `create_or_reuse_notification_delivery` and `_create_or_reuse_response_delivery`, statement
by statement. Without an outer transaction each statement commits by itself. -/
def producerStep (cfg : DeliverySettings) (_ : Nat) :
    ProducerAction → Producer → OutboxStore → Option (OutboxStore × Producer)
  | .checkExisting, p, s =>
    if p.point = .check then
      let existing := s.snapshots.any fun snapshot =>
        snapshot.channel = p.production.channel ∧ snapshot.source = p.production.source
      some (s, { p with point := if existing then .returned else .create })
    else none
  | .createDelivery now, p, s =>
    if p.point = .create ∧ p.outer = false then
      match s.engine.createDelivery cfg p.production.workspace p.production.channel none now with
      | .ok (engine, d) => some ({ s with engine := engine }, { p with point := .insert d })
      | .error _ => some (s, { p with point := .raised })
    else none
  | .insertSnapshot, p, s =>
    match p.point with
    | .insert d =>
      match s.insertSnapshot (p.production.snapshot d) with
      | .ok s' => some (s', { p with point := .returned })
      | .error _ => some (s, { p with point := .raised })
    | _ => none
  | .commitBoth now, p, s =>
    if p.point = .create ∧ p.outer = true then
      match s.engine.createDelivery cfg p.production.workspace p.production.channel none now with
      | .ok (engine, d) =>
        match ({ s with engine := engine } : OutboxStore).insertSnapshot
            (p.production.snapshot d) with
        | .ok s' => some (s', { p with point := .returned })
        | .error _ => some (s, { p with point := .raised })
      | .error _ => some (s, { p with point := .raised })
    else none
  | .fail, p, s =>
    if p.point = .returned ∨ p.point = .raised then none
    else some (s, { p with point := .raised })

/-- Producers, workers and sweeps over empty tables. -/
def outbox (cfg : DeliverySettings) : Program OutboxEvent ProducerAction Producer OutboxStore where
  initial s := s = {}
  env := outboxStep cfg
  work := producerStep cfg

abbrev Outbox := Config Producer OutboxStore

abbrev OutboxLabel := Label OutboxEvent ProducerAction

end SupportPilot.Notifications
