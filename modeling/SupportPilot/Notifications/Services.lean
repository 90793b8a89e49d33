import Mathlib.Algebra.Ring.Int.Defs
import SupportPilot.Library.Transition
import SupportPilot.Notifications.Models

/-!
# The delivery services

Each transaction of the engine on the tables that it locks and writes. An operation that
raises has no store to return.
-/

namespace SupportPilot.Notifications

open Library

/-! ## Creation and backoff -/

def seconds (n : Int) : Int := n * 1000000

def maxSafeErrorCodeLength : Nat := 64

def safeErrorCodeOf (code : String) : String :=
  String.ofList (code.toList.take maxSafeErrorCodeLength)

def computeRetryDelaySeconds (cfg : DeliverySettings) (attemptNumber : Nat) : Int :=
  min (cfg.retryBaseDelaySeconds * 2 ^ (attemptNumber - 1)) cfg.retryMaxDelaySeconds

/-- A new delivery is due at once. -/
def newDelivery (workspace : Nat) (channel : DeliveryChannel) (maxAttempts : Nat) (now : Int) :
    Delivery where
  workspace := workspace
  channel := channel
  maxAttempts := maxAttempts
  nextAttemptAt := now

/-- `create_delivery`: the check constraint refuses a ceiling that is not positive. -/
def Store.createDelivery (cfg : DeliverySettings) (s : Store) (workspace : Nat)
    (channel : DeliveryChannel) (maxAttempts : Option Int) (now : Int) :
    Except DeliveryError (Store × Nat) :=
  let ceiling := maxAttempts.getD cfg.defaultMaxAttempts
  if ceiling ≤ 0 then .error .integrityError
  else
    .ok ({ s with deliveries := s.deliveries ++ [newDelivery workspace channel ceiling.toNat now] },
      s.deliveries.length)

/-! ## Claiming -/

def dueEligible (delivery : Delivery) (now : Int) : Bool :=
  (delivery.status = .pending ∨ delivery.status = .retryScheduled) ∧ delivery.nextAttemptAt ≤ now

def expiredClaimEligible (delivery : Delivery) (now : Int) : Bool :=
  delivery.status = .claimed ∧ delivery.claim.any (·.leaseExpiresAt ≤ now)

/-- The attempt that a token has in progress on a delivery. -/
def DeliveryAttempt.active (d token : Nat) (attempt : DeliveryAttempt) : Bool :=
  attempt.delivery = d ∧ attempt.claimToken = token ∧ attempt.status = .inProgress

/-- Rewrite the attempts that a token has in progress. -/
def Store.updateActive (s : Store) (d token : Nat)
    (f : DeliveryAttempt → DeliveryAttempt) : Store :=
  { s with attempts := s.attempts.map fun a => if a.active d token then f a else a }

def DeliveryAttempt.abandon (now : Int) (attempt : DeliveryAttempt) : DeliveryAttempt :=
  { attempt with status := .abandoned, completedAt := some now }

/-- The delivery under a new claim. -/
def Delivery.claimWith (locked : Delivery) (token : Nat) (leaseSeconds now : Int) : Delivery :=
  { locked with
    status := .claimed
    claim := some ⟨token, now, now + seconds leaseSeconds⟩
    firstAttemptAt := some (locked.firstAttemptAt.getD now)
    attemptCount := locked.attemptCount + 1 }

def newAttempt (d attemptNumber token : Nat) (now : Int) : DeliveryAttempt where
  delivery := d
  attemptNumber := attemptNumber
  claimToken := token
  startedAt := now

/-- The in-flight attempt of an expired claim is marked before the new one starts. -/
def Store.abandonClaim (s : Store) (d : Nat) (locked : Delivery) (now : Int) : Store :=
  match locked.status, locked.claim with
  | .claimed, some claim => s.updateActive d claim.token (·.abandon now)
  | _, _ => s

/-- `_claim_row`. A row that another transaction has locked is skipped, like a missing one. -/
def Store.claimRow (cfg : DeliverySettings) (s : Store) (d : Nat)
    (eligible : Delivery → Int → Bool) (contended : Bool) (leaseSeconds : Option Int)
    (token : Nat) (now : Int) : Except DeliveryError Store :=
  match s.deliveries[d]? with
  | none => .error .notClaimable
  | some locked =>
    if contended || !eligible locked now then .error .notClaimable
    else if locked.maxAttempts < locked.attemptCount + 1 then .error .notClaimable
    else
      let s := (s.abandonClaim d locked now).setDelivery d
        (locked.claimWith token (leaseSeconds.getD cfg.claimLeaseSeconds) now)
      .ok { s with attempts := s.attempts ++ [newAttempt d (locked.attemptCount + 1) token now] }

def Store.claimDelivery (cfg : DeliverySettings) (s : Store) (d : Nat) (contended : Bool)
    (leaseSeconds : Option Int) (token : Nat) (now : Int) : Except DeliveryError Store :=
  s.claimRow cfg d dueEligible contended leaseSeconds token now

def Store.reclaimExpiredDelivery (cfg : DeliverySettings) (s : Store) (d : Nat)
    (contended : Bool) (leaseSeconds : Option Int) (token : Nat) (now : Int) :
    Except DeliveryError Store :=
  s.claimRow cfg d expiredClaimEligible contended leaseSeconds token now

/-! ## Completion -/

/-- `_lock_delivery_or_raise` and `_assert_active_claim`. -/
def Store.lockActiveClaim (s : Store) (d token : Nat) : Except DeliveryError Delivery :=
  match s.deliveries[d]? with
  | none => .error .notFound
  | some locked =>
    if locked.status ≠ .claimed ∨ locked.claim.map (·.token) ≠ some token then .error .staleClaim
    else .ok locked

def latencyMs (startedAt now : Int) : Nat := ((now - startedAt) / 1000).toNat

/-- The attempt after `_complete_active_attempt`. -/
def DeliveryAttempt.complete (status : AttemptStatus) (safeErrorCode : String)
    (retryable : Option Bool) (now : Int) (responseStatusCode : Option Nat)
    (attempt : DeliveryAttempt) : DeliveryAttempt :=
  { attempt with
    status := status
    completedAt := some now
    latencyMs := some (Notifications.latencyMs attempt.startedAt now)
    safeErrorCode := safeErrorCodeOf safeErrorCode
    retryable := retryable
    responseStatusCode := responseStatusCode.or attempt.responseStatusCode }

/-- `_complete_active_attempt`: the lookup raises unless exactly one attempt matches. -/
def Store.completeActiveAttempt (s : Store) (d token : Nat)
    (f : DeliveryAttempt → DeliveryAttempt) : Except DeliveryError Store :=
  match s.attempts.filter (·.active d token) with
  | [] => .error .doesNotExist
  | [_] => .ok (s.updateActive d token f)
  | _ => .error .multipleObjectsReturned

def Delivery.deliver (locked : Delivery) (now : Int) : Delivery :=
  { locked with status := .delivered, deliveredAt := some now, claim := none }

def Store.completeDeliverySuccess (s : Store) (d token : Nat) (now : Int)
    (responseStatusCode : Option Nat) : Except DeliveryError Store := do
  let locked ← s.lockActiveClaim d token
  let s ← s.completeActiveAttempt d token
    (·.complete .succeeded "" none now responseStatusCode)
  .ok (s.setDelivery d (locked.deliver now))

/-- A retry is scheduled while attempts remain; otherwise the failure is final, `FAILED` when
it could have been retried and `DEAD` when not. -/
def Delivery.fail (cfg : DeliverySettings) (locked : Delivery) (safeErrorCode : String)
    (retryable : Bool) (retryDelaySeconds : Option Int) (now : Int) : Delivery :=
  let released := { locked with lastErrorCode := safeErrorCodeOf safeErrorCode, claim := none }
  if retryable && decide (locked.attemptCount < locked.maxAttempts) then
    { released with
      status := .retryScheduled
      nextAttemptAt := now +
        seconds (retryDelaySeconds.getD (computeRetryDelaySeconds cfg locked.attemptCount)) }
  else
    { released with status := if retryable then .failed else .dead, failedAt := some now }

def Store.completeDeliveryFailure (cfg : DeliverySettings) (s : Store) (d token : Nat)
    (safeErrorCode : String) (retryable : Bool) (retryDelaySeconds : Option Int) (now : Int)
    (responseStatusCode : Option Nat) : Except DeliveryError Store := do
  let locked ← s.lockActiveClaim d token
  let s ← s.completeActiveAttempt d token
    (·.complete .failed safeErrorCode (some retryable) now responseStatusCode)
  .ok (s.setDelivery d (locked.fail cfg safeErrorCode retryable retryDelaySeconds now))

/-! ## Redrive -/

def Delivery.redrive (locked : Delivery) (maxAttempts : Nat) (now : Int) : Delivery :=
  { locked with maxAttempts := maxAttempts, status := .pending, nextAttemptAt := now,
                failedAt := none }

/-- `redrive_webhook_delivery` on the delivery of a webhook; the check constraints refuse a
ceiling below the attempts made. -/
def Store.redriveWebhookDelivery (cfg : DeliverySettings) (s : Store) (d : Nat)
    (endpointActive : Bool) (now : Int) : Except DeliveryError Store :=
  if !endpointActive then .error .webhookEndpointDisabled
  else match s.deliveries[d]? with
  | none => .error .doesNotExist
  | some locked =>
    let ceiling := locked.maxAttempts + cfg.redriveAttemptAllowance
    if locked.status ≠ .failed ∧ locked.status ≠ .dead then
      .error .webhookDeliveryNotRedrivable
    else if ceiling ≤ 0 ∨ ceiling < locked.attemptCount then .error .integrityError
    else .ok (s.setDelivery d (locked.redrive ceiling.toNat now))

/-! ## The task and the sweep -/

/-- How `process_claimed_delivery` goes on: without a claim, or into the handler. -/
inductive ProcessOutcome
  | skipped
  | skippedUnsupportedChannel
  | claimed
  deriving DecidableEq, Repr

/-- `process_claimed_delivery` up to the call of the handler. `registered` tells which channels
have a handler, and the clock is read again before the reclaim. -/
def Store.processClaimedDelivery (cfg : DeliverySettings) (registered : DeliveryChannel → Bool)
    (s : Store) (d token : Nat) (claimedAt reclaimedAt : Int) : Store × ProcessOutcome :=
  match s.deliveries[d]? with
  | none => (s, .skipped)
  | some delivery =>
    if !registered delivery.channel then (s, .skippedUnsupportedChannel)
    else match s.claimDelivery cfg d false none token claimedAt with
    | .ok s' => (s', .claimed)
    | .error _ => match s.reclaimExpiredDelivery cfg d false none token reclaimedAt with
      | .ok s' => (s', .claimed)
      | .error _ => (s, .skipped)

/-- `expired_claimed_deliveries`: the candidates of the sweep, oldest lease first. -/
def Store.expiredClaimedDeliveries (s : Store) (now : Int) : List Nat :=
  let expired := (List.range s.deliveries.length).filter fun d =>
    (s.deliveries[d]?).any fun e => expiredClaimEligible e now
  let lease := fun d => ((s.deliveries[d]?).bind (·.claim)).map (·.leaseExpiresAt)
  expired.mergeSort fun d d' => (lease d).all fun t => (lease d').all fun t' => t ≤ t'

/-- The deliveries that `recover_expired_delivery_claims` publishes a task for. -/
def Store.recoverExpiredDeliveryClaims (cfg : DeliverySettings) (s : Store)
    (batchSize : Option Nat) (now : Int) : List Nat :=
  (s.expiredClaimedDeliveries now).take (batchSize.getD cfg.sweepBatchSize)

end SupportPilot.Notifications
