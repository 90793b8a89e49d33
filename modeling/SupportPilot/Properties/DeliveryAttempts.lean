import SupportPilot.Library.Table
import SupportPilot.Notifications.System

/-!
# Deliveries and their attempts

The two tables of the engine tell one story: all attempts of a delivery but the last are
settled, and the delivery's status says how the last one stands.
-/

namespace SupportPilot.Notifications

open Library

variable {cfg : DeliverySettings} {s s' : Store} {d d' token : Nat} {now : Int}
  {e row : Delivery} {l : List DeliveryAttempt} {a : DeliveryAttempt}
  {f : DeliveryAttempt → DeliveryAttempt} {event : DeliveryEvent}

/-! ## Attempts of one delivery -/

theorem attemptsOf_append_self {rows : List Delivery} (ha : a.delivery = d) :
    (⟨rows, l ++ [a]⟩ : Store).attemptsOf d = (⟨rows, l⟩ : Store).attemptsOf d ++ [a] := by
  unfold Store.attemptsOf
  rw [List.filter_append, List.filter_cons_of_pos (by simp [ha]), List.filter_nil]

theorem attemptsOf_append_ne {rows : List Delivery} (ha : a.delivery ≠ d) :
    (⟨rows, l ++ [a]⟩ : Store).attemptsOf d = (⟨rows, l⟩ : Store).attemptsOf d := by
  unfold Store.attemptsOf
  rw [List.filter_append, List.filter_cons_of_neg (by simp [ha]), List.filter_nil,
    List.append_nil]

/-- The rewrite of the attempts that a token has in progress. -/
def rewriteActive (d token : Nat) (f : DeliveryAttempt → DeliveryAttempt)
    (a : DeliveryAttempt) : DeliveryAttempt :=
  if a.active d token then f a else a

theorem attemptsOf_updateActive (hf : ∀ a, (f a).delivery = a.delivery) :
    (s.updateActive d token f).attemptsOf d' =
      (s.attemptsOf d').map (rewriteActive d token f) := by
  unfold Store.attemptsOf Store.updateActive
  rw [List.filter_map]
  congr 1
  refine List.filter_congr fun a _ => ?_
  simp only [Function.comp_apply]
  split
  · rw [hf]
  · rfl

theorem attemptsOf_updateActive_ne (hf : ∀ a, (f a).delivery = a.delivery) (hne : d' ≠ d) :
    (s.updateActive d token f).attemptsOf d' = s.attemptsOf d' := by
  rw [attemptsOf_updateActive hf]
  refine (List.map_congr_left fun a ha => ?_).trans (List.map_id _)
  have hd : a.delivery = d' := by simpa using (List.mem_filter.mp ha).2
  rw [rewriteActive, if_neg (by simp [DeliveryAttempt.active, hd, hne])]
  rfl

/-! ## Histories -/

/-- The attempt is over, and it was not the one that delivered. -/
def Settled (a : DeliveryAttempt) : Prop := a.status = .failed ∨ a.status = .abandoned

/-- All attempts but the last are settled, and the last is as `P` says. -/
def SettledUpTo (P : DeliveryAttempt → Prop) (l : List DeliveryAttempt) : Prop :=
  ∃ earlier a, l = earlier ++ [a] ∧ (∀ b ∈ earlier, Settled b) ∧ P a

/-- How the attempts of a delivery stand, given its status and its claim. -/
def Standing (e : Delivery) (l : List DeliveryAttempt) : Prop :=
  match e.status with
  | .claimed => ∃ claim, e.claim = some claim ∧
    SettledUpTo (fun a => a.status = .inProgress ∧ a.claimToken = claim.token) l
  | .delivered => e.claim = none ∧ SettledUpTo (·.status = .succeeded) l
  | .pending | .retryScheduled | .failed | .dead => e.claim = none ∧ ∀ a ∈ l, Settled a

/-- What the row of a delivery and its attempts have to do with each other. -/
structure History (e : Delivery) (l : List DeliveryAttempt) : Prop where
  numbered : l.map (·.attemptNumber) = List.range' 1 e.attemptCount
  bounded : e.attemptCount ≤ e.maxAttempts
  standing : Standing e l

/-- The attempts are numbered without gaps, so one more attempt continues the numbering. -/
theorem numbered_append (h : l.map (·.attemptNumber) = List.range' 1 e.attemptCount)
    (ha : a.attemptNumber = e.attemptCount + 1) :
    (l ++ [a]).map (·.attemptNumber) = List.range' 1 (e.attemptCount + 1) := by
  rw [List.map_append, h, List.range'_concat, List.map_singleton, ha]
  congr 1
  simp [Nat.add_comm]

theorem history_created {workspace ceiling : Nat} {channel : DeliveryChannel} :
    History (newDelivery workspace channel ceiling now) [] :=
  ⟨rfl, Nat.zero_le _, rfl, List.forall_mem_nil _⟩

/-- A claim opens a new last attempt once all others are settled. -/
theorem history_claimed {lease : Int} (hnumbered : l.map (·.attemptNumber) =
      List.range' 1 e.attemptCount) (hsettled : ∀ a ∈ l, Settled a)
    (hceiling : e.attemptCount < e.maxAttempts) :
    History (e.claimWith token lease now)
      (l ++ [newAttempt d (e.attemptCount + 1) token now]) := by
  constructor
  · exact numbered_append hnumbered rfl
  · exact hceiling
  · exact ⟨_, rfl, l, _, rfl, hsettled, rfl, rfl⟩

/-- Rewriting the attempts of the active token touches only the last one. -/
theorem settledUpTo_rewrite {P : DeliveryAttempt → Prop} (hd : ∀ a ∈ l, a.delivery = d)
    (h : SettledUpTo (fun a => a.status = .inProgress ∧ a.claimToken = token) l)
    (hf : ∀ a, P (f a)) : SettledUpTo P (l.map (rewriteActive d token f)) := by
  obtain ⟨earlier, a, rfl, hearlier, hprogress, htoken⟩ := h
  have hkept : earlier.map (rewriteActive d token f) = earlier := by
    refine (List.map_congr_left fun b hb => ?_).trans (List.map_id _)
    have hne : b.status ≠ .inProgress := by
      rcases hearlier b hb with hs | hs <;> simp [hs]
    rw [rewriteActive, if_neg (by simp [DeliveryAttempt.active, hne])]
    rfl
  have hlast : rewriteActive d token f a = f a := by
    rw [rewriteActive, if_pos]
    simp [DeliveryAttempt.active, hd a (by simp), htoken, hprogress]
  refine ⟨earlier, f a, ?_, hearlier, hf a⟩
  rw [List.map_append, hkept, List.map_singleton, hlast]

theorem settledUpTo_settled (h : SettledUpTo Settled l) : ∀ a ∈ l, Settled a := by
  obtain ⟨earlier, a, rfl, hearlier, ha⟩ := h
  intro b hb
  rcases List.mem_append.mp hb with hb | hb
  · exact hearlier b hb
  · rwa [List.mem_singleton.mp hb]

theorem numbered_rewrite (d token : Nat) (hf : ∀ a, (f a).attemptNumber = a.attemptNumber) :
    (l.map (rewriteActive d token f)).map (·.attemptNumber) = l.map (·.attemptNumber) := by
  rw [List.map_map]
  refine List.map_congr_left fun a _ => ?_
  simp only [Function.comp_apply, rewriteActive]
  split
  · exact hf a
  · rfl

theorem Completion.keeps (h : Completion cfg e row f) (a : DeliveryAttempt) :
    (f a).delivery = a.delivery ∧ (f a).attemptNumber = a.attemptNumber := by
  cases h <;> exact ⟨rfl, rfl⟩

/-- Both completions end the last attempt, and the delivery's new status agrees with it. -/
theorem history_completed {claim : Claim} (h : History e l) (hd : ∀ a ∈ l, a.delivery = d)
    (hclaimed : e.status = .claimed) (hclaim : e.claim = some claim)
    (hcompletion : Completion cfg e row f) :
    History row (l.map (rewriteActive d claim.token f)) := by
  have hstanding := h.standing
  rw [Standing, hclaimed] at hstanding
  obtain ⟨claim', hclaim', hlast⟩ := hstanding
  cases hclaim.symm.trans hclaim'
  have hnumbered := (numbered_rewrite (l := l) d claim.token
    fun a => (hcompletion.keeps a).2).trans h.numbered
  cases hcompletion with
  | success =>
    exact ⟨hnumbered, h.bounded, rfl, settledUpTo_rewrite hd hlast fun _ => rfl⟩
  | @failure safeErrorCode retryable delay now code =>
    have hsettled := settledUpTo_settled (settledUpTo_rewrite (P := Settled)
      (f := (·.complete .failed safeErrorCode (some retryable) now code)) hd hlast
      fun _ => .inl rfl)
    unfold Delivery.fail
    dsimp only
    split
    · exact ⟨hnumbered, h.bounded, rfl, hsettled⟩
    · refine ⟨hnumbered, h.bounded, ?_⟩
      cases retryable <;> exact ⟨rfl, hsettled⟩

theorem history_redriven {ceiling : Nat} (h : History e l)
    (hstatus : e.status = .failed ∨ e.status = .dead) (hceiling : e.attemptCount ≤ ceiling) :
    History (e.redrive ceiling now) l := by
  refine ⟨h.numbered, hceiling, ?_⟩
  have hstanding := h.standing
  rcases hstatus with hs | hs <;> rw [Standing, hs] at hstanding <;> exact hstanding

/-! ## Every call of the engine -/

/-- Attempts belong to deliveries that exist, and each delivery agrees with its own. -/
structure StoreInvariant (s : Store) : Prop where
  owned : ∀ a ∈ s.attempts, a.delivery < s.deliveries.length
  histories : AllRows (fun d e => History e (s.attemptsOf d)) s.deliveries

theorem delivery_of_attemptsOf (s : Store) (d : Nat) : ∀ a ∈ s.attemptsOf d, a.delivery = d := by
  intro a ha
  simpa using (List.mem_filter.mp ha).2

theorem abandonClaim_of_none (h : e.claim = none) : s.abandonClaim d e now = s := by
  unfold Store.abandonClaim
  rw [h]
  split
  · simp_all
  · rfl

theorem abandonClaim_of_claimed {claim : Claim} (hclaimed : e.status = .claimed)
    (hclaim : e.claim = some claim) :
    s.abandonClaim d e now = s.updateActive d claim.token (·.abandon now) := by
  unfold Store.abandonClaim
  rw [hclaimed, hclaim]

/-- After the expired claim is abandoned, every attempt of the delivery is settled. -/
theorem abandonClaim_settled (h : History e (s.attemptsOf d))
    (heligible : dueEligible e now = true ∨ expiredClaimEligible e now = true) :
    (∀ a ∈ (s.abandonClaim d e now).attemptsOf d, Settled a) ∧
      ((s.abandonClaim d e now).attemptsOf d).map (·.attemptNumber) =
        List.range' 1 e.attemptCount := by
  have hstanding := h.standing
  rcases heligible with hdue | hexpired
  · simp only [dueEligible, decide_eq_true_eq] at hdue
    have hopen : e.claim = none ∧ ∀ a ∈ s.attemptsOf d, Settled a := by
      rcases hdue.1 with hs | hs <;> rw [Standing, hs] at hstanding <;> exact hstanding
    rw [abandonClaim_of_none hopen.1]
    exact ⟨hopen.2, h.numbered⟩
  · simp only [expiredClaimEligible, decide_eq_true_eq] at hexpired
    rw [Standing, hexpired.1] at hstanding
    obtain ⟨claim, hclaim, hlast⟩ := hstanding
    have hkeeps : ∀ a : DeliveryAttempt, (a.abandon now).delivery = a.delivery ∧
        (a.abandon now).attemptNumber = a.attemptNumber := fun _ => ⟨rfl, rfl⟩
    rw [abandonClaim_of_claimed hexpired.1 hclaim, attemptsOf_updateActive fun a => (hkeeps a).1,
      numbered_rewrite d claim.token fun a => (hkeeps a).2]
    refine ⟨settledUpTo_settled ?_, h.numbered⟩
    exact settledUpTo_rewrite (delivery_of_attemptsOf s d) hlast fun _ => .inr rfl

theorem abandonClaim_ne (hne : d' ≠ d) :
    (s.abandonClaim d e now).attemptsOf d' = s.attemptsOf d' := by
  have hkeeps : ∀ a : DeliveryAttempt, (a.abandon now).delivery = a.delivery := fun _ => rfl
  unfold Store.abandonClaim
  split
  · exact attemptsOf_updateActive_ne hkeeps hne
  · rfl

theorem abandonClaim_owned (h : ∀ a ∈ s.attempts, a.delivery < s.deliveries.length) :
    ∀ a ∈ (s.abandonClaim d e now).attempts, a.delivery < s.deliveries.length := by
  unfold Store.abandonClaim
  split
  · intro a ha
    obtain ⟨b, hb, rfl⟩ := List.mem_map.mp ha
    split
    · exact h b hb
    · exact h b hb
  · exact h

theorem storeInvariant_step (h : StoreInvariant s) (hstep : CallStep cfg s event s') :
    StoreInvariant s' := by
  cases hstep with
  | raised => exact h
  | created =>
    constructor
    · intro a ha
      have hlt := h.owned a ha
      simp only [List.length_append, List.length_singleton]
      omega
    · refine AllRows.append h.histories ?_
      have hnone : s.attemptsOf s.deliveries.length = [] := by
        refine List.filter_eq_nil_iff.mpr fun a ha => ?_
        have hlt := h.owned a ha
        simp only [beq_iff_eq]
        omega
      show History _ (s.attemptsOf s.deliveries.length)
      rw [hnone]
      exact history_created
  | @claimed event d token lease now locked hevent hd hceiling =>
    have hlt := (List.getElem?_eq_some_iff.mp hd).1
    constructor
    · intro a ha
      rw [List.length_set]
      rcases List.mem_append.mp ha with ha | ha
      · exact abandonClaim_owned h.owned a ha
      · rw [List.mem_singleton.mp ha]
        exact hlt
    · have heligible : dueEligible locked now = true ∨ expiredClaimEligible locked now = true := by
        rcases hevent with ⟨_, _, -, hdue⟩ | ⟨_, _, -, hexpired⟩
        · exact .inl hdue
        · exact .inr hexpired
      obtain ⟨hsettled, hnumbered⟩ := abandonClaim_settled (h.histories d locked hd) heligible
      refine .set_of_ne (fun d' e hne he => ?_) ?_
      · have hother : (newAttempt d (locked.attemptCount + 1) token now).delivery ≠ d' :=
          Ne.symm hne
        rw [attemptsOf_append_ne hother]
        show History e ((s.abandonClaim d locked now).attemptsOf d')
        rw [abandonClaim_ne hne]
        exact h.histories d' e he
      · have hown : (newAttempt d (locked.attemptCount + 1) token now).delivery = d := rfl
        rw [attemptsOf_append_self hown]
        exact history_claimed hnumbered hsettled hceiling
  | @completed event d token locked row f attempt hevent hd hclaimed htoken hactive hcompletion =>
    obtain ⟨claim, hclaim, rfl⟩ := Option.map_eq_some_iff.mp htoken
    have hkeeps := fun a => (hcompletion.keeps a).1
    constructor
    · intro a ha
      obtain ⟨b, hb, rfl⟩ := List.mem_map.mp ha
      rw [Store.setDelivery, List.length_set]
      split
      · rw [hkeeps]
        exact h.owned b hb
      · exact h.owned b hb
    · refine .set_of_ne (fun d' e hne he => ?_) ?_
      · show History e ((s.updateActive d claim.token f).attemptsOf d')
        rw [attemptsOf_updateActive_ne hkeeps hne]
        exact h.histories d' e he
      · show History row ((s.updateActive d claim.token f).attemptsOf d)
        rw [attemptsOf_updateActive hkeeps]
        exact history_completed (h.histories d locked hd) (delivery_of_attemptsOf s d) hclaimed
          hclaim hcompletion
  | @redriven d _ now locked ceiling hd hstatus hpositive hceiling =>
    constructor
    · intro a ha
      rw [Store.setDelivery, List.length_set]
      exact h.owned a ha
    · refine .set_of_ne (fun d' e _ he => h.histories d' e he) ?_
      exact history_redriven (h.histories d locked hd) hstatus hceiling

theorem storeInvariant (h : EngineReaches cfg s) : StoreInvariant s := by
  refine engine_invariant ⟨List.forall_mem_nil _, fun _ _ he => by simp at he⟩ ?_ h
  exact fun _ _ _ _ hI hstep => storeInvariant_step hI hstep

/-! ## What a history says -/

/-- The attempts with a status that is not one of a settled attempt. -/
theorem count_settled {status : AttemptStatus} (h : ∀ a ∈ l, Settled a)
    (hfailed : status ≠ .failed) (habandoned : status ≠ .abandoned) :
    l.countP (·.status == status) = 0 := by
  refine List.countP_eq_zero.mpr fun a ha hstatus => ?_
  rw [beq_iff_eq] at hstatus
  rcases h a ha with hs | hs
  · exact hfailed (hstatus.symm.trans hs)
  · exact habandoned (hstatus.symm.trans hs)

theorem count_settledUpTo {P : DeliveryAttempt → Prop} (status : AttemptStatus)
    (h : SettledUpTo P l) (hfailed : status ≠ .failed) (habandoned : status ≠ .abandoned) :
    ∃ a, l.getLast? = some a ∧ P a ∧
      l.countP (·.status == status) = if a.status = status then 1 else 0 := by
  obtain ⟨earlier, a, rfl, hearlier, ha⟩ := h
  refine ⟨a, List.getLast?_concat, ha, ?_⟩
  rw [List.countP_append, count_settled hearlier hfailed habandoned, List.countP_singleton,
    Nat.zero_add]
  simp only [beq_iff_eq]

theorem SettledUpTo.mem_last {P : DeliveryAttempt → Prop} (h : SettledUpTo P l) (ha : a ∈ l)
    (hopen : ¬ Settled a) : l.getLast? = some a ∧ P a := by
  obtain ⟨earlier, b, rfl, hearlier, hb⟩ := h
  rcases List.mem_append.mp ha with ha | ha
  · exact absurd (hearlier a ha) hopen
  · rw [List.mem_singleton.mp ha]
    exact ⟨List.getLast?_concat, hb⟩

theorem not_settled_of_inProgress (h : a.status = .inProgress) : ¬ Settled a := by
  rintro (hs | hs) <;> cases h.symm.trans hs

/-- The joint law of a delivery and its attempts. -/
structure AttemptLaw (e : Delivery) (l : List DeliveryAttempt) : Prop where
  numbered : l.map (·.attemptNumber) = List.range' 1 e.attemptCount
  bounded : e.attemptCount ≤ e.maxAttempts
  inProgress : (∃ a ∈ l, a.status = .inProgress) ↔ e.status = .claimed
  unique : l.countP (·.status == .inProgress) ≤ 1
  current : ∀ a ∈ l, a.status = .inProgress →
    l.getLast? = some a ∧ e.claim.map (·.token) = some a.claimToken
  delivered : e.status = .delivered ↔
    l.countP (·.status == .succeeded) = 1 ∧ ∃ a, l.getLast? = some a ∧ a.status = .succeeded

/-- Nothing is in progress and nothing has succeeded while all attempts are settled. -/
theorem attemptLaw_of_settled (h : History e l) (hsettled : ∀ a ∈ l, Settled a)
    (hclaimed : e.status ≠ .claimed) (hdelivered : e.status ≠ .delivered) : AttemptLaw e l where
  numbered := h.numbered
  bounded := h.bounded
  inProgress := by
    refine ⟨?_, fun hs => absurd hs hclaimed⟩
    rintro ⟨a, ha, hs⟩
    exact absurd (hsettled a ha) (not_settled_of_inProgress hs)
  unique := by
    rw [count_settled hsettled (by simp) (by simp)]
    omega
  current a ha hs := absurd (hsettled a ha) (not_settled_of_inProgress hs)
  delivered := by
    refine ⟨fun hs => absurd hs hdelivered, ?_⟩
    rintro ⟨hcount, -⟩
    rw [count_settled hsettled (by simp) (by simp)] at hcount
    cases hcount

theorem attemptLaw_of_claimed {claim : Claim} (h : History e l) (hclaimed : e.status = .claimed)
    (hclaim : e.claim = some claim)
    (hlast : SettledUpTo (fun a => a.status = .inProgress ∧ a.claimToken = claim.token) l) :
    AttemptLaw e l where
  numbered := h.numbered
  bounded := h.bounded
  inProgress := by
    refine ⟨fun _ => hclaimed, fun _ => ?_⟩
    obtain ⟨earlier, a, rfl, -, hs, -⟩ := hlast
    exact ⟨a, by simp, hs⟩
  unique := by
    obtain ⟨a, -, -, hcount⟩ := count_settledUpTo .inProgress hlast (by simp) (by simp)
    rw [hcount]
    split <;> omega
  current a ha hs := by
    obtain ⟨hget, -, htoken⟩ := hlast.mem_last ha (not_settled_of_inProgress hs)
    exact ⟨hget, by rw [hclaim, Option.map_some, htoken]⟩
  delivered := by
    refine ⟨fun hs => absurd (hclaimed.symm.trans hs) (by simp), ?_⟩
    rintro ⟨-, a, hget, hs⟩
    obtain ⟨b, hget', ⟨hb, -⟩, -⟩ := count_settledUpTo .inProgress hlast
      (by simp) (by simp)
    cases hget.symm.trans hget'
    cases hs.symm.trans hb

theorem attemptLaw_of_delivered (h : History e l) (hdelivered : e.status = .delivered)
    (hlast : SettledUpTo (·.status = .succeeded) l) : AttemptLaw e l where
  numbered := h.numbered
  bounded := h.bounded
  inProgress := by
    refine ⟨?_, fun hs => absurd (hdelivered.symm.trans hs) (by simp)⟩
    rintro ⟨a, ha, hs⟩
    have hsucceeded := (hlast.mem_last ha (not_settled_of_inProgress hs)).2
    cases hs.symm.trans hsucceeded
  unique := by
    obtain ⟨a, -, -, hcount⟩ := count_settledUpTo .inProgress hlast (by simp) (by simp)
    rw [hcount]
    split <;> omega
  current a ha hs := by
    have hsucceeded := (hlast.mem_last ha (not_settled_of_inProgress hs)).2
    cases hs.symm.trans hsucceeded
  delivered := by
    refine ⟨fun _ => ?_, fun _ => hdelivered⟩
    obtain ⟨a, hget, hs, hcount⟩ := count_settledUpTo .succeeded hlast (by simp)
      (by simp)
    rw [if_pos hs] at hcount
    exact ⟨hcount, a, hget, hs⟩

theorem History.attemptLaw (h : History e l) : AttemptLaw e l := by
  have hstanding := h.standing
  unfold Standing at hstanding
  split at hstanding
  · rename_i hclaimed
    obtain ⟨claim, hclaim, hlast⟩ := hstanding
    exact attemptLaw_of_claimed h hclaimed hclaim hlast
  · rename_i hdelivered
    exact attemptLaw_of_delivered h hdelivered hstanding.2
  all_goals
    rename_i hstatus
    exact attemptLaw_of_settled h hstanding.2 (by simp [hstatus]) (by simp [hstatus])

/-! ## Main results -/

/-- The event is a completion of the delivery that comes with this token. -/
def DeliveryEvent.completesWith (d token : Nat) : DeliveryEvent → Prop
  | .completeSuccess d' token' _ _ => d' = d ∧ token' = token
  | .completeFailure d' token' _ _ _ _ _ => d' = d ∧ token' = token
  | _ => False

/-- Why a call may write a row. -/
inductive Moves (event : DeliveryEvent) (d : Nat) (e : Delivery) : Prop
  | claimed {now : Int} : dueEligible e now = true ∨ expiredClaimEligible e now = true →
      e.attemptCount < e.maxAttempts → Moves event d e
  | completed {token : Nat} : event.completesWith d token → e.status = .claimed → Moves event d e
  | redriven : e.status = .failed ∨ e.status = .dead → Moves event d e

theorem CallStep.kept_or_moves (hd : s.deliveries[d]? = some e) (hstep : CallStep cfg s event s') :
    s'.deliveries[d]? = some e ∨ Moves event d e := by
  have hset : ∀ {k : Nat} {locked row : Delivery}, s.deliveries[k]? = some locked →
      (k = d → locked = e → Moves event d e) →
      (s.deliveries.set k row)[d]? = some e ∨ Moves event d e := by
    intro k locked row hk hmoves
    by_cases hkd : k = d
    · subst hkd
      exact .inr (hmoves rfl (Option.some.inj (hk.symm.trans hd)))
    · exact .inl (by rw [List.getElem?_set_ne hkd, hd])
  cases hstep with
  | raised => exact .inl hd
  | created =>
    exact .inl (getElem?_append_some hd _)
  | claimed hevent hk hopen =>
    refine hset hk ?_
    rintro rfl rfl
    rcases hevent with ⟨_, _, -, hdue⟩ | ⟨_, _, -, hexpired⟩
    · exact .claimed (.inl hdue) hopen
    · exact .claimed (.inr hexpired) hopen
  | @completed _ k token _ _ _ _ hcompletes hk hclaimed =>
    refine hset hk ?_
    rintro rfl rfl
    have hwith : event.completesWith k token := by
      rcases hcompletes with ⟨_, _, rfl⟩ | ⟨_, _, _, _, _, rfl⟩ <;> exact ⟨rfl, rfl⟩
    exact .completed hwith hclaimed
  | redriven hk hstatus =>
    refine hset hk ?_
    rintro rfl rfl
    exact .redriven hstatus

/-- No call takes a delivered row back. -/
theorem delivered_step (hd : s.deliveries[d]? = some e) (hdelivered : e.status = .delivered)
    (hstep : CallStep cfg s event s') : s'.deliveries[d]? = some e := by
  rcases hstep.kept_or_moves hd with hkept | hmoves
  · exact hkept
  · cases hmoves with
    | claimed heligible =>
      simp [dueEligible, expiredClaimEligible, hdelivered] at heligible
    | completed _ hclaimed => cases hdelivered.symm.trans hclaimed
    | redriven hstatus => rcases hstatus with hs | hs <;> cases hdelivered.symm.trans hs

theorem delivered_later (hd : s.deliveries[d]? = some e) (hdelivered : e.status = .delivered)
    (h : (engine cfg).Later s s') : s'.deliveries[d]? = some e := by
  let P : Store → Prop := fun t => t.deliveries[d]? = some e
  have hP : P s' := by
    refine System.Later.kept (P := P) ?_ h hd
    rintro t event t' ht hnext
    cases hnext
    exact delivered_step ht hdelivered (after_cases event)
  exact hP

theorem stale_completion (hd : s.deliveries[d]? = some e)
    (hstale : e.claim.map (·.token) ≠ some token) (hevent : event.completesWith d token) :
    s.call cfg event = .error .staleClaim ∧ s.after cfg event = s := by
  have hlock : s.lockActiveClaim d token = .error .staleClaim := by
    unfold Store.lockActiveClaim
    rw [hd]
    exact if_pos (.inr hstale)
  have hcall : s.call cfg event = .error .staleClaim := by
    cases event with
    | completeSuccess d' token' now code =>
      obtain ⟨rfl, rfl⟩ := hevent
      show s.completeDeliverySuccess d' token' now code = _
      rw [Store.completeDeliverySuccess, hlock]
      rfl
    | completeFailure d' token' safeErrorCode retryable delay now code =>
      obtain ⟨rfl, rfl⟩ := hevent
      show s.completeDeliveryFailure cfg d' token' safeErrorCode retryable delay now code = _
      rw [Store.completeDeliveryFailure, hlock]
      rfl
    | _ => exact hevent.elim
  refine ⟨hcall, ?_⟩
  rw [Store.after, hcall]

/-- In every run of the engine each delivery and its attempts obey the joint law, a delivered
delivery stays as it is, and a completion whose token is not the current one raises and writes
nothing. -/
theorem delivery_attempts (h : EngineReaches cfg s) :
    (∀ d e, s.deliveries[d]? = some e → AttemptLaw e (s.attemptsOf d)) ∧
      (∀ (d : Nat) (e : Delivery) (s' : Store), s.deliveries[d]? = some e →
        e.status = .delivered → (engine cfg).Later s s' → s'.deliveries[d]? = some e) ∧
      ∀ (d : Nat) (e : Delivery) (token : Nat) (event : DeliveryEvent),
        s.deliveries[d]? = some e → e.claim.map (·.token) ≠ some token →
        event.completesWith d token →
        s.call cfg event = .error .staleClaim ∧ s.after cfg event = s :=
  ⟨fun d e hd => ((storeInvariant h).histories d e hd).attemptLaw,
    fun _ _ _ hd hdelivered hlater => delivered_later hd hdelivered hlater,
    fun _ _ _ _ hd hstale hevent => stale_completion hd hstale hevent⟩

/-- The first worker vanishes, the second fails, and the third delivers after the first has
come back with its old token. -/
def recoveredDelivery : List DeliveryEvent :=
  [.create 1 .notification (some 3) 0, .claim 0 false (some 60) 7 10,
    .reclaim 0 false (some 60) 8 (seconds 61),
    .completeFailure 0 8 "integration_timeout" true (some 30) (seconds 62) none,
    .claim 0 false none 9 (seconds 100), .completeSuccess 0 7 (seconds 101) none,
    .completeSuccess 0 9 (seconds 102) none]

theorem delivery_attempts_recovered :
    ∃ e, (engineEnd {} recoveredDelivery).deliveries[0]? = some e ∧ e.status = .delivered ∧
      e.attemptCount = 3 ∧ AttemptLaw e ((engineEnd {} recoveredDelivery).attemptsOf 0) := by
  have hrow : ((engineEnd {} recoveredDelivery).deliveries[0]?).map
      (fun e => (e.status, e.attemptCount)) = some (.delivered, 3) := by decide
  obtain ⟨e, he, hfields⟩ := Option.map_eq_some_iff.mp hrow
  simp only [Prod.mk.injEq] at hfields
  exact ⟨e, he, hfields.1, hfields.2,
    (delivery_attempts (reaches_engineEnd {} recoveredDelivery)).1 0 e he⟩

end SupportPilot.Notifications
