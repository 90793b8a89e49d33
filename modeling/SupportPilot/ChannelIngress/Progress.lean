import SupportPilot.ChannelIngress.Reservations

/-!
# Workers can always finish

Every statement of a worker brings it closer to its end, and only an insert can wait for another
worker. Customers are inserted before conversations, so the worker that is waited for does not
wait itself, and without faults all claimed events can be finished.
-/

namespace SupportPilot.ChannelIngress

open Library

variable {lower : String → String} {cfg : IngressSettings} {s s' : Store} {c c' : Ingress}
  {i j d : Nat} {e event : InboundChannelEvent} {endpoint : ChannelEndpoint} {w w' : Worker}
  {a : IngressAction} {point : WorkerPoint} {key : UniqueKey}

/-! ## Runs without faults -/

/-- The action is not a crash, and what it publishes reaches the broker. -/
def IngressAction.faultless : IngressAction → Bool
  | raise | vanish => false
  | insert _ published => published
  | deliver _ dispatched => dispatched
  | _ => true

/-- Workers without faults on tasks that sweeps publish. -/
def FaultFree (cfg : IngressSettings) (c : Ingress) : IngressLabel → Prop
  | .env (.task d) => ∃ batchSize now, d ∈ c.store.recoverStuckInboundEvents cfg batchSize now
  | .env _ => False
  | .work _ a => a.faultless = true

theorem mem_recoverStuckInboundEvents {now : Nat} (he : s.events[d]? = some e)
    (hstatus : e.status = .received)
    (hstale : e.receivedAt + cfg.sweepStaleSeconds * 1000000 ≤ now) :
    d ∈ s.recoverStuckInboundEvents cfg (some s.events.length) now := by
  have hstuck : d ∈ s.stuckInboundEvents cfg now := by
    simp only [Store.stuckInboundEvents, List.mem_mergeSort, List.mem_filter, List.mem_range, he,
      Option.any_some, hstatus, hstale, and_self, decide_true, and_true]
    exact (List.getElem?_eq_some_iff.mp he).1
  have hlength : (s.stuckInboundEvents cfg now).length ≤ s.events.length := by
    rw [Store.stuckInboundEvents, List.length_mergeSort]
    exact (List.length_filter_le ..).trans_eq List.length_range
  rw [Store.recoverStuckInboundEvents, Option.getD_some, List.take_of_length_le hlength]
  exact hstuck

/-- A sweep publishes the task of a `RECEIVED` event, and a new worker claims it. -/
theorem claims_received (lower : String → String) (cfg : IngressSettings)
    (he : c.store.events[d]? = some e) (hstatus : e.status = .received) :
    ∃ c', ((ingress lower cfg).system.startedAt c).Reach (FaultFree cfg) c' ∧
      c'.store =
        c.store.setEvent d { e with status := .processing, processingStartedAt := some 0 } ∧
      c'.procs[c.procs.length]? = some (.worker { event := d, point := .identity }) := by
  let w : Worker := { event := d }
  let started : Ingress := ⟨c.store, c.procs ++ [.worker w]⟩
  have htask : (ingress lower cfg).system.step (.env (.task d)) c = some started := rfl
  have hw : started.procs[c.procs.length]? = some (.worker w) := List.getElem?_concat_length
  have hclaim : (ingress lower cfg).system.step (.work c.procs.length (.claim 0)) started =
      some _ :=
    step_worker cfg hw (workerStep_claim he hstatus)
  have hpicked : FaultFree cfg c (.env (.task d)) :=
    ⟨_, _, mem_recoverStuckInboundEvents he hstatus (Nat.le_refl _)⟩
  have hfaultless : FaultFree cfg started (.work c.procs.length (.claim 0)) := rfl
  refine ⟨_, .step (.step (.init rfl) hpicked htask) hfaultless hclaim, rfl, ?_⟩
  exact List.getElem?_set_self (List.getElem?_eq_some_iff.mp hw).1

/-! ## The statements that are left -/

/-- An upper bound for the statements that a worker has left. -/
def WorkerPoint.rank : WorkerPoint → Nat
  | identity => 6
  | createCustomer => 5
  | conversation _ => 4
  | createConversation _ => 3
  | deliver .. => 2
  | failing _ => 1
  | _ => 0

def Proc.rank : Proc → Nat
  | .submission _ => 0
  | .worker w => w.point.rank

theorem rank_of_inTransaction (h : point.inTransaction = true) : 1 < point.rank := by
  cases point <;> first | exact Nat.lt_of_sub_eq_succ rfl | cases h

/-- Each statement of a worker that has claimed its event leaves fewer of them. -/
theorem WorkerStep.rank_lt (h : WorkerStep lower s i w a s' point)
    (hclaimed : w.point.claimed = true) : point.rank < w.point.rank := by
  cases h with
  | claimed hw =>
    rw [hw] at hclaimed
    cases hclaimed
  | returned hw =>
    rw [hw] at hclaimed
    cases hclaimed
  | rolledBack hin => exact rank_of_inTransaction hin
  | vanished =>
    generalize w.point = q at hclaimed
    cases q <;> first | exact Nat.lt_of_sub_eq_succ rfl | cases hclaimed
  | foundConversation hw =>
    rcases hw with hw | hw <;> rw [hw] <;> exact Nat.lt_of_sub_eq_succ rfl
  | @delivered _ dispatched _ _ _ _ _ hw =>
    rw [hw]
    cases dispatched <;> exact Nat.lt_of_sub_eq_succ rfl
  | markedFailed hw => rw [hw]; exact Nat.lt_of_sub_eq_succ rfl
  | foundCustomer hw => rw [hw]; exact Nat.lt_of_sub_eq_succ rfl
  | missingCustomer hw => rw [hw]; exact Nat.lt_of_sub_eq_succ rfl
  | insertedCustomer hw => rw [hw]; exact Nat.lt_of_sub_eq_succ rfl
  | missingConversation hw => rw [hw]; exact Nat.lt_of_sub_eq_succ rfl
  | freshConversation hw => rw [hw]; exact Nat.lt_of_sub_eq_succ rfl
  | insertedConversation hw => rw [hw]; exact Nat.lt_of_sub_eq_succ rfl

/-! ## Enabled statements -/

/-- A worker that has claimed its event and can take its next statement without a fault. -/
def Ready (lower : String → String) (c : Ingress) (i : Nat) : Prop :=
  ∃ w a, c.procs[i]? = some (.worker w) ∧ w.point.claimed = true ∧ a.faultless = true ∧
    (workerStep lower i a w c.store).isSome = true

/-- The key is not held by another process. -/
theorem reservedByOther_eq_false (h : ∀ j, j ≠ i → (j, key) ∉ s.reserved) :
    s.reservedByOther i key = false := by
  refine List.any_eq_false.mpr fun entry hmem hp => ?_
  obtain ⟨hne, rfl⟩ := of_decide_eq_true hp
  exact h entry.1 hne hmem

theorem insertUnique_isSome {taken : Bool} {refused : Store × Worker}
    (h : ∀ j, j ≠ i → (j, key) ∉ s.reserved) :
    (s.insertUnique i w key taken refused point).isSome = true := by
  rw [Store.insertUnique, reservedByOther_eq_false h]
  cases taken <;> rfl

/-- An insert of a customer waits only for its key. -/
theorem createCustomerStep_isSome
    (h : ∀ j, j ≠ i → (j, customerKey endpoint event) ∉ s.reserved) :
    (createCustomerStep lower i w s endpoint event).isSome = true := by
  simp only [createCustomerStep, newCustomer_externalId]
  split
  · rfl
  · exact insertUnique_isSome h

theorem createConversationStep_isSome {customer : CustomerRef}
    (h : ∀ j, j ≠ i → (j, conversationKey endpoint event) ∉ s.reserved) :
    (createConversationStep i w s endpoint event customer).isSome = true := by
  simp only [createConversationStep, newConversation_externalId]
  split
  · rfl
  · by_cases hthread : event.providerThreadId = ""
    · rw [if_pos hthread]
      rfl
    · rw [if_neg hthread]
      exact insertUnique_isSome h

/-- The rows that a worker reads are there. -/
theorem Keyed.reads_claimed (hk : Keyed c) (ha : Accounted c)
    (hw : c.procs[i]? = some (.worker w)) (hclaimed : w.point.claimed = true) :
    ∃ event endpoint, Reads c.store w event endpoint := by
  obtain ⟨event, hevent, -⟩ := ha.held i w hw hclaimed
  have hlt := hk.events _ event hevent
  exact ⟨event, _, hevent, List.getElem?_eq_getElem hlt⟩

theorem Ready.of_process (hw : c.procs[i]? = some (.worker w))
    (hin : w.point.inTransaction = true) (hfaultless : a.faultless = true)
    (hreads : Reads c.store w event endpoint)
    (hsome : (processStep lower i w c.store endpoint event a).isSome = true) :
    Ready lower c i := by
  obtain ⟨out, hout⟩ := Option.isSome_iff_exists.mp hsome
  refine ⟨w, a, hw, claimed_of_inTransaction hin, hfaultless, ?_⟩
  rw [workerStep_process hreads hout]
  rfl

theorem ready_of_deliver {customer : CustomerRef} {conversation : ConversationRef}
    (hk : Keyed c) (ha : Accounted c) (hw : c.procs[i]? = some (.worker w))
    (hpoint : w.point = .deliver customer conversation) : Ready lower c i := by
  have hin : w.point.inTransaction = true := by rw [hpoint]; rfl
  obtain ⟨event, endpoint, hreads⟩ := hk.reads_claimed ha hw (claimed_of_inTransaction hin)
  refine .of_process (a := .deliver 0 true) hw hin rfl hreads ?_
  simp only [processStep, hpoint]
  split <;> rfl

/-- Who waits for a conversation waits for a worker that is about to commit. -/
theorem ready_of_createConversation {customer : CustomerRef} (hk : Keyed c) (ha : Accounted c)
    (hw : c.procs[i]? = some (.worker w)) (hpoint : w.point = .createConversation customer) :
    ∃ j, Ready lower c j := by
  have hin : w.point.inTransaction = true := by rw [hpoint]; rfl
  obtain ⟨event, endpoint, hreads⟩ := hk.reads_claimed ha hw (claimed_of_inTransaction hin)
  by_cases hfree : ∀ j, j ≠ i → (j, conversationKey endpoint event) ∉ c.store.reserved
  · refine ⟨i, .of_process (a := .createConversation) hw hin rfl hreads ?_⟩
    simp only [processStep, hpoint]
    exact createConversationStep_isSome hfree
  · push Not at hfree
    obtain ⟨j, -, hmem⟩ := hfree
    obtain ⟨w', hw', hholder⟩ := hk.holders j _ hmem
    cases hpoint' : w'.point with
    | deliver customer' conversation => exact ⟨j, ready_of_deliver hk ha hw' hpoint'⟩
    | _ =>
      rw [hpoint'] at hholder
      cases hholder

theorem ready_of_conversation {customer : CustomerRef} (hk : Keyed c) (ha : Accounted c)
    (hw : c.procs[i]? = some (.worker w)) (hpoint : w.point = .conversation customer) :
    Ready lower c i := by
  have hin : w.point.inTransaction = true := by rw [hpoint]; rfl
  obtain ⟨event, endpoint, hreads⟩ := hk.reads_claimed ha hw (claimed_of_inTransaction hin)
  refine .of_process (a := .findConversation) hw hin rfl hreads ?_
  simp only [processStep, hpoint]
  rfl

/-- Who waits for a customer waits for a worker behind its own insert of the customer. -/
theorem ready_of_createCustomer (hk : Keyed c) (ha : Accounted c)
    (hw : c.procs[i]? = some (.worker w)) (hpoint : w.point = .createCustomer) :
    ∃ j, Ready lower c j := by
  have hin : w.point.inTransaction = true := by rw [hpoint]; rfl
  obtain ⟨event, endpoint, hreads⟩ := hk.reads_claimed ha hw (claimed_of_inTransaction hin)
  by_cases hfree : ∀ j, j ≠ i → (j, customerKey endpoint event) ∉ c.store.reserved
  · refine ⟨i, .of_process (a := .createCustomer) hw hin rfl hreads ?_⟩
    simp only [processStep, hpoint, if_true]
    exact createCustomerStep_isSome hfree
  · push Not at hfree
    obtain ⟨j, -, hmem⟩ := hfree
    obtain ⟨w', hw', hholder⟩ := hk.holders j _ hmem
    cases hpoint' : w'.point with
    | conversation customer => exact ⟨j, ready_of_conversation hk ha hw' hpoint'⟩
    | createConversation customer => exact ready_of_createConversation hk ha hw' hpoint'
    | deliver customer conversation => exact ⟨j, ready_of_deliver hk ha hw' hpoint'⟩
    | _ =>
      rw [hpoint'] at hholder
      cases hholder

theorem ready_of_identity (hk : Keyed c) (ha : Accounted c)
    (hw : c.procs[i]? = some (.worker w)) (hpoint : w.point = .identity) : Ready lower c i := by
  have hin : w.point.inTransaction = true := by rw [hpoint]; rfl
  obtain ⟨event, endpoint, hreads⟩ := hk.reads_claimed ha hw (claimed_of_inTransaction hin)
  refine .of_process (a := .resolveIdentity) hw hin rfl hreads ?_
  simp only [processStep, hpoint, if_true]
  split
  · rfl
  · split <;> rfl

theorem ready_of_failing {code : String} (hw : c.procs[i]? = some (.worker w))
    (hpoint : w.point = .failing code) : Ready lower c i := by
  refine ⟨w, .markFailed 0, hw, by rw [hpoint]; rfl, rfl, ?_⟩
  simp only [workerStep, hpoint]
  rfl

/-- While an event is claimed, some worker can take its next statement. -/
theorem exists_ready (hk : Keyed c) (ha : Accounted c) (hw : c.procs[i]? = some (.worker w))
    (hclaimed : w.point.claimed = true) : ∃ j, Ready lower c j := by
  cases hpoint : w.point with
  | identity => exact ⟨i, ready_of_identity hk ha hw hpoint⟩
  | createCustomer => exact ready_of_createCustomer hk ha hw hpoint
  | conversation customer => exact ⟨i, ready_of_conversation hk ha hw hpoint⟩
  | createConversation customer => exact ready_of_createConversation hk ha hw hpoint
  | deliver customer conversation => exact ⟨i, ready_of_deliver hk ha hw hpoint⟩
  | failing code => exact ⟨i, ready_of_failing hw hpoint⟩
  | _ =>
    rw [hpoint] at hclaimed
    cases hclaimed

/-! ## Finishing the claimed events -/

/-- No worker has claimed an event that it has not finished. -/
def Idle (c : Ingress) : Prop :=
  ∀ (i : Nat) (w : Worker), c.procs[i]? = some (.worker w) → w.point.claimed = false

/-- The statements that all workers have left. -/
def statementsLeft (c : Ingress) : Nat := (c.procs.map Proc.rank).sum

theorem Ready.step (cfg : IngressSettings) (h : Ready lower c i) :
    ∃ l c', FaultFree cfg c l ∧ (ingress lower cfg).system.step l c = some c' ∧
      statementsLeft c' < statementsLeft c := by
  obtain ⟨w, a, hw, hclaimed, hfaultless, hsome⟩ := h
  obtain ⟨⟨s', w'⟩, hout⟩ := Option.isSome_iff_exists.mp hsome
  obtain ⟨point, rfl, hcase⟩ := workerStep_cases hout
  exact ⟨.work i a, _, hfaultless, step_worker cfg hw hout,
    sum_map_set_lt hw (hcase.rank_lt hclaimed)⟩

/-- Without faults all claimed events can be finished. -/
theorem reaches_idle (h : (ingress lower cfg).system.Reach (fun _ _ => True) c)
    {P : Ingress → Prop} (hP : P c)
    (hkeep : ∀ t l t', (ingress lower cfg).system.Reach (fun _ _ => True) t → P t →
      FaultFree cfg t l → (ingress lower cfg).system.step l t = some t' → P t') :
    ∃ c', ((ingress lower cfg).system.startedAt c).Reach (FaultFree cfg) c' ∧ P c' ∧ Idle c' := by
  have hdescend : ∃ c', ((ingress lower cfg).system.startedAt c).Reach (FaultFree cfg) c' ∧
      ((ingress lower cfg).system.Reach (fun _ _ => True) c' ∧ P c') ∧ Idle c' := by
    refine System.Reach.descend statementsLeft ?_ (.init rfl) ⟨h, hP⟩
    rintro t ⟨ht, hPt⟩ hbusy
    unfold Idle at hbusy
    push Not at hbusy
    obtain ⟨i, w, hw, hclaimed⟩ := hbusy
    obtain ⟨j, hready⟩ := exists_ready (keyed ht) (accounted ht) hw (by simpa using hclaimed)
    obtain ⟨l, t', hp, hstep, hlt⟩ := hready.step cfg
    exact ⟨l, t', hp, hstep, ⟨.step ht trivial hstep, hkeep t l t' ht hPt hp hstep⟩, hlt⟩
  obtain ⟨c', hreach, ⟨-, hP'⟩, hidle⟩ := hdescend
  exact ⟨c', hreach, hP', hidle⟩

end SupportPilot.ChannelIngress
