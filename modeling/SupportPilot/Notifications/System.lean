import SupportPilot.Notifications.Services

/-!
# The delivery engine

One label is one call of a service. Publication decides nothing, so a worker may call the
claims for any delivery at any time, and a completion may come with any token.
-/

namespace SupportPilot.Notifications

open Library

inductive DeliveryEvent
  | create (workspace : Nat) (channel : DeliveryChannel) (maxAttempts : Option Int) (now : Int)
  | claim (d : Nat) (contended : Bool) (leaseSeconds : Option Int) (token : Nat) (now : Int)
  | reclaim (d : Nat) (contended : Bool) (leaseSeconds : Option Int) (token : Nat) (now : Int)
  | completeSuccess (d token : Nat) (now : Int) (responseStatusCode : Option Nat)
  | completeFailure (d token : Nat) (safeErrorCode : String) (retryable : Bool)
      (retryDelaySeconds : Option Int) (now : Int) (responseStatusCode : Option Nat)
  | redrive (d : Nat) (endpointActive : Bool) (now : Int)

def Store.call (cfg : DeliverySettings) (s : Store) : DeliveryEvent → Except DeliveryError Store
  | .create workspace channel maxAttempts now =>
    (s.createDelivery cfg workspace channel maxAttempts now).map (·.1)
  | .claim d contended leaseSeconds token now =>
    s.claimDelivery cfg d contended leaseSeconds token now
  | .reclaim d contended leaseSeconds token now =>
    s.reclaimExpiredDelivery cfg d contended leaseSeconds token now
  | .completeSuccess d token now responseStatusCode =>
    s.completeDeliverySuccess d token now responseStatusCode
  | .completeFailure d token safeErrorCode retryable retryDelaySeconds now responseStatusCode =>
    s.completeDeliveryFailure cfg d token safeErrorCode retryable retryDelaySeconds now
      responseStatusCode
  | .redrive d endpointActive now => s.redriveWebhookDelivery cfg d endpointActive now

/-- A call that raises leaves the tables as they are. -/
def Store.after (cfg : DeliverySettings) (event : DeliveryEvent) (s : Store) : Store :=
  match s.call cfg event with
  | .ok s' => s'
  | .error _ => s

/-- The engine started on empty tables. -/
def engine (cfg : DeliverySettings) : System Store DeliveryEvent where
  initial s := s = {}
  step event s := some (s.after cfg event)

abbrev EngineReaches (cfg : DeliverySettings) (s : Store) : Prop :=
  (engine cfg).Reach (fun _ _ => True) s

/-! ## What one call can do -/

/-- The two ways a completion ends an attempt and its delivery. -/
inductive Completion (cfg : DeliverySettings) (locked : Delivery) :
    Delivery → (DeliveryAttempt → DeliveryAttempt) → Prop
  | success {now : Int} {code : Option Nat} :
      Completion cfg locked (locked.deliver now) (·.complete .succeeded "" none now code)
  | failure {safeErrorCode : String} {retryable : Bool} {delay : Option Int} {now : Int}
      {code : Option Nat} :
      Completion cfg locked (locked.fail cfg safeErrorCode retryable delay now)
        (·.complete .failed safeErrorCode (some retryable) now code)

/-- The outcomes of a call, with the guards that it passed. -/
inductive CallStep (cfg : DeliverySettings) (s : Store) : DeliveryEvent → Store → Prop
  | raised {event : DeliveryEvent} {e : DeliveryError} : s.call cfg event = .error e →
      CallStep cfg s event s
  | created {workspace : Nat} {channel : DeliveryChannel} {maxAttempts : Option Int} {now : Int}
      {ceiling : Nat} : 0 < ceiling →
      CallStep cfg s (.create workspace channel maxAttempts now)
        { s with deliveries := s.deliveries ++ [newDelivery workspace channel ceiling now] }
  | claimed {event : DeliveryEvent} {d token : Nat} {lease : Int} {now : Int} {locked : Delivery} :
      (∃ contended leaseSeconds, event = .claim d contended leaseSeconds token now ∧
          dueEligible locked now = true) ∨
        (∃ contended leaseSeconds, event = .reclaim d contended leaseSeconds token now ∧
          expiredClaimEligible locked now = true) →
      s.deliveries[d]? = some locked → locked.attemptCount < locked.maxAttempts →
      CallStep cfg s event
        { deliveries := s.deliveries.set d (locked.claimWith token lease now)
          attempts := (s.abandonClaim d locked now).attempts ++
            [newAttempt d (locked.attemptCount + 1) token now] }
  | completed {event : DeliveryEvent} {d token : Nat} {locked row : Delivery}
      {f : DeliveryAttempt → DeliveryAttempt} {attempt : DeliveryAttempt} :
      (∃ now code, event = .completeSuccess d token now code) ∨
        (∃ safeErrorCode retryable delay now code,
          event = .completeFailure d token safeErrorCode retryable delay now code) →
      s.deliveries[d]? = some locked → locked.status = .claimed →
      locked.claim.map (·.token) = some token →
      s.attempts.filter (·.active d token) = [attempt] → Completion cfg locked row f →
      CallStep cfg s event ((s.updateActive d token f).setDelivery d row)
  | redriven {d : Nat} {endpointActive : Bool} {now : Int} {locked : Delivery} {ceiling : Nat} :
      s.deliveries[d]? = some locked → (locked.status = .failed ∨ locked.status = .dead) →
      0 < ceiling → locked.attemptCount ≤ ceiling →
      CallStep cfg s (.redrive d endpointActive now)
        (s.setDelivery d (locked.redrive ceiling now))

variable {cfg : DeliverySettings} {s s' : Store} {d token : Nat} {now : Int}
  {leaseSeconds : Option Int} {contended : Bool} {event : DeliveryEvent}

theorem abandonClaim_deliveries (s : Store) (d : Nat) (locked : Delivery) (now : Int) :
    (s.abandonClaim d locked now).deliveries = s.deliveries := by
  unfold Store.abandonClaim
  split <;> rfl

theorem claimRow_ok {eligible : Delivery → Int → Bool}
    (h : s.claimRow cfg d eligible contended leaseSeconds token now = .ok s') :
    ∃ locked lease, s.deliveries[d]? = some locked ∧ eligible locked now = true ∧
      locked.attemptCount < locked.maxAttempts ∧
      s' = { deliveries := s.deliveries.set d (locked.claimWith token lease now)
             attempts := (s.abandonClaim d locked now).attempts ++
               [newAttempt d (locked.attemptCount + 1) token now] } := by
  unfold Store.claimRow at h
  split at h
  · cases h
  · rename_i locked hd
    split at h
    · cases h
    · rename_i heligible
      split at h
      · cases h
      · rename_i hceiling
        simp only [Bool.or_eq_true, Bool.not_eq_true', not_or, Bool.not_eq_false] at heligible
        simp only [Except.ok.injEq, Store.setDelivery, abandonClaim_deliveries] at h
        exact ⟨locked, _, hd, heligible.2, by omega, h.symm⟩

theorem lockActiveClaim_ok {locked : Delivery} (h : s.lockActiveClaim d token = .ok locked) :
    s.deliveries[d]? = some locked ∧ locked.status = .claimed ∧
      locked.claim.map (·.token) = some token := by
  unfold Store.lockActiveClaim at h
  split at h
  · cases h
  · rename_i row hd
    split at h
    · cases h
    · rename_i hactive
      cases h
      rw [not_or, not_not, not_not] at hactive
      exact ⟨hd, hactive⟩

theorem completeActiveAttempt_ok {f : DeliveryAttempt → DeliveryAttempt}
    (h : s.completeActiveAttempt d token f = .ok s') :
    ∃ attempt, s.attempts.filter (·.active d token) = [attempt] ∧
      s' = s.updateActive d token f := by
  unfold Store.completeActiveAttempt at h
  split at h
  · cases h
  · rename_i attempt hattempt
    cases h
    exact ⟨attempt, hattempt, rfl⟩
  · cases h

/-- The part that both completions share. -/
theorem completion_ok {f : DeliveryAttempt → DeliveryAttempt} {row : Delivery → Delivery}
    (h : (do
      let locked ← s.lockActiveClaim d token
      let s ← s.completeActiveAttempt d token f
      .ok (s.setDelivery d (row locked))) = Except.ok s') :
    ∃ locked attempt, s.deliveries[d]? = some locked ∧ locked.status = .claimed ∧
      locked.claim.map (·.token) = some token ∧
      s.attempts.filter (·.active d token) = [attempt] ∧
      s' = (s.updateActive d token f).setDelivery d (row locked) := by
  cases hlock : s.lockActiveClaim d token with
  | error e =>
    rw [hlock] at h
    cases h
  | ok locked =>
    obtain ⟨hd, hclaimed, htoken⟩ := lockActiveClaim_ok hlock
    cases hattempt : s.completeActiveAttempt d token f with
    | error e =>
      rw [hlock] at h
      change (s.completeActiveAttempt d token f >>= _) = _ at h
      rw [hattempt] at h
      cases h
    | ok t =>
      obtain ⟨attempt, hactive, rfl⟩ := completeActiveAttempt_ok hattempt
      rw [hlock] at h
      change (s.completeActiveAttempt d token f >>= _) = _ at h
      rw [hattempt] at h
      cases h
      exact ⟨locked, attempt, hd, hclaimed, htoken, hactive, rfl⟩

theorem createDelivery_ok {workspace : Nat} {channel : DeliveryChannel} {maxAttempts : Option Int}
    {out : Store × Nat} (h : s.createDelivery cfg workspace channel maxAttempts now = .ok out) :
    ∃ ceiling, 0 < ceiling ∧ out.2 = s.deliveries.length ∧
      out.1 = { s with deliveries :=
          s.deliveries ++ [newDelivery workspace channel ceiling now] } := by
  simp only [Store.createDelivery] at h
  split at h
  · cases h
  · cases h
    exact ⟨_, by omega, rfl, rfl⟩

theorem call_cases (h : s.call cfg event = .ok s') : CallStep cfg s event s' := by
  cases event with
  | create workspace channel maxAttempts now =>
    simp only [Store.call] at h
    cases hcreate : s.createDelivery cfg workspace channel maxAttempts now with
    | error e =>
      rw [hcreate] at h
      cases h
    | ok out =>
      rw [hcreate] at h
      obtain ⟨ceiling, hpositive, -, hstore⟩ := createDelivery_ok hcreate
      cases h
      show CallStep cfg s _ out.1
      rw [hstore]
      exact .created hpositive
  | claim d contended leaseSeconds token now =>
    obtain ⟨locked, lease, hd, heligible, hceiling, rfl⟩ := claimRow_ok h
    exact .claimed (.inl ⟨_, _, rfl, heligible⟩) hd hceiling
  | reclaim d contended leaseSeconds token now =>
    obtain ⟨locked, lease, hd, heligible, hceiling, rfl⟩ := claimRow_ok h
    exact .claimed (.inr ⟨_, _, rfl, heligible⟩) hd hceiling
  | completeSuccess d token now code =>
    obtain ⟨locked, attempt, hd, hclaimed, htoken, hactive, rfl⟩ := completion_ok h
    exact .completed (.inl ⟨_, _, rfl⟩) hd hclaimed htoken hactive .success
  | completeFailure d token safeErrorCode retryable delay now code =>
    obtain ⟨locked, attempt, hd, hclaimed, htoken, hactive, rfl⟩ := completion_ok h
    exact .completed (.inr ⟨_, _, _, _, _, rfl⟩) hd hclaimed htoken hactive .failure
  | redrive d endpointActive now =>
    simp only [Store.call, Store.redriveWebhookDelivery] at h
    split at h
    · cases h
    · split at h
      · cases h
      · rename_i locked hd
        split at h
        · cases h
        · rename_i hterminal
          split at h
          · cases h
          · rename_i hceiling
            cases h
            exact .redriven hd (by grind) (by omega) (by omega)

theorem after_cases (event : DeliveryEvent) : CallStep cfg s event (s.after cfg event) := by
  unfold Store.after
  cases hcall : s.call cfg event with
  | ok s' => exact call_cases hcall
  | error e => exact .raised hcall

/-- An invariant of the engine is one of every call. -/
theorem engine_invariant {I : Store → Prop} (hinit : I {})
    (hstep : ∀ (s : Store) (event : DeliveryEvent) (s' : Store), EngineReaches cfg s → I s →
      CallStep cfg s event s' → I s') (h : EngineReaches cfg s) : I s := by
  refine System.Reach.invariant ?_ ?_ h
  · rintro t rfl
    exact hinit
  · rintro t event t' hr hI - hnext
    cases hnext
    exact hstep t event _ hr hI (after_cases event)

/-! ## Scenarios -/

/-- Where a list of calls ends, from empty tables. -/
def engineEnd (cfg : DeliverySettings) (events : List DeliveryEvent) : Store :=
  (engine cfg).replayEnd (fun _ _ => True) events {}

theorem reaches_engineEnd (cfg : DeliverySettings) (events : List DeliveryEvent) :
    EngineReaches cfg (engineEnd cfg events) :=
  System.reach_replayEnd (.init rfl) events

end SupportPilot.Notifications
