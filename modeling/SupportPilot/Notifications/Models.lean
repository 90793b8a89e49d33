import Mathlib.Data.List.Basic

/-!
# Deliveries and their attempts

The two tables of the delivery engine. A delivery's key is its position, an attempt points
to its delivery, times are microseconds, and claim tokens are the numbers of their UUIDs.
-/

namespace SupportPilot.Notifications

inductive DeliveryChannel
  | notification
  | webhook
  | channelResponse
  deriving DecidableEq, Repr

inductive DeliveryStatus
  | pending
  | claimed
  | retryScheduled
  | delivered
  | failed
  | dead
  deriving DecidableEq, Repr

/-- Membership in `DELIVERY_TERMINAL_STATUSES`. -/
def DeliveryStatus.terminal : DeliveryStatus → Bool
  | .delivered | .failed | .dead => true
  | .pending | .claimed | .retryScheduled => false

inductive AttemptStatus
  | inProgress
  | succeeded
  | failed
  | abandoned
  deriving DecidableEq, Repr

/-- The claim columns, which the check constraint sets and clears together. -/
structure Claim where
  token : Nat
  claimedAt : Int
  leaseExpiresAt : Int
  deriving DecidableEq, Repr

structure Delivery where
  workspace : Nat
  channel : DeliveryChannel
  status : DeliveryStatus := .pending
  attemptCount : Nat := 0
  maxAttempts : Nat
  nextAttemptAt : Int
  claim : Option Claim := none
  firstAttemptAt : Option Int := none
  deliveredAt : Option Int := none
  failedAt : Option Int := none
  lastErrorCode : String := ""
  deriving DecidableEq, Repr

structure DeliveryAttempt where
  delivery : Nat
  attemptNumber : Nat
  claimToken : Nat
  status : AttemptStatus := .inProgress
  startedAt : Int
  completedAt : Option Int := none
  latencyMs : Option Nat := none
  safeErrorCode : String := ""
  retryable : Option Bool := none
  responseStatusCode : Option Nat := none
  deriving DecidableEq, Repr

/-- The settings that the engine reads; durations are seconds. -/
structure DeliverySettings where
  defaultMaxAttempts : Int := 5
  claimLeaseSeconds : Int := 300
  retryBaseDelaySeconds : Int := 30
  retryMaxDelaySeconds : Int := 3600
  sweepBatchSize : Nat := 100
  redriveAttemptAllowance : Int := 3
  deriving DecidableEq, Repr

/-- What an operation raises, which rolls its transaction back. -/
inductive DeliveryError
  | notFound
  | notClaimable
  | staleClaim
  | doesNotExist
  | multipleObjectsReturned
  | integrityError
  | webhookEndpointDisabled
  | webhookDeliveryNotRedrivable
  deriving DecidableEq, Repr

structure Store where
  deliveries : List Delivery := []
  attempts : List DeliveryAttempt := []
  deriving DecidableEq, Repr

namespace Store

/-- `delivery.attempts`, in the order of creation. -/
def attemptsOf (s : Store) (d : Nat) : List DeliveryAttempt :=
  s.attempts.filter (·.delivery == d)

@[simp] def setDelivery (s : Store) (d : Nat) (row : Delivery) : Store :=
  { s with deliveries := s.deliveries.set d row }

end Store

end SupportPilot.Notifications
