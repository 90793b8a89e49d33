import SupportPilot.Properties.DeliveryAttempts

/-!
# Deliveries whose worker vanished

The sweep publishes a task for every claim that has expired, and the task reclaims the
delivery as long as an attempt is left. After the last attempt nobody but the vanished
worker itself can move it.
-/

namespace SupportPilot.Notifications

open Library

variable {cfg : DeliverySettings} {registered : DeliveryChannel → Bool} {s s' : Store}
  {d token : Nat} {now : Int} {e : Delivery} {event : DeliveryEvent}

/-- The steps that are left when the worker of delivery `d` has vanished. -/
def Unattended (d : Nat) (_ : Store) (event : DeliveryEvent) : Prop :=
  ∀ token, ¬ event.completesWith d token

/-- What the recovery does for a claim that expired by `now`: the published task takes a fresh
claim or ends the delivery, and some later step moves it away from its dead token. -/
structure Recoverable (cfg : DeliverySettings) (registered : DeliveryChannel → Bool) (s : Store)
    (d : Nat) (e : Delivery) (now : Int) : Prop where
  task : ∀ token claimedAt reclaimedAt, now ≤ reclaimedAt →
    ∃ e', (s.processClaimedDelivery cfg registered d token claimedAt
        reclaimedAt).1.deliveries[d]? = some e' ∧
      (e'.status = .claimed ∧ e'.attemptCount = e.attemptCount + 1 ∧
          e'.claim.map (·.token) = some token ∨ e'.status.terminal = true)
  freed : ∃ s' e', ((engine cfg).startedAt s).Reach (Unattended d) s' ∧
    s'.deliveries[d]? = some e' ∧
    ¬ (e'.status = .claimed ∧ e'.claim.map (·.token) = e.claim.map (·.token))

end SupportPilot.Notifications
