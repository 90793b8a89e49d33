import SupportPilot.Notifications.Producers
import SupportPilot.Properties.DeliveryAttempts

/-!
# Deliveries and their snapshots

A worker that claims a delivery needs the snapshot that its producer writes. Both are there
together exactly when the producer's caller holds an outer transaction.
-/

namespace SupportPilot.Notifications

open Library

variable {cfg : DeliverySettings} {s s' : OutboxStore} {c c' : Outbox} {d i : Nat}
  {event : OutboxEvent} {started : Option Producer} {p p' : Producer} {a : ProducerAction}
  {l : OutboxLabel}

/-! ## Steps -/

def SameChannel (e e' : Delivery) : Prop := e'.channel = e.channel

theorem SameChannel.refl (e : Delivery) : SameChannel e e := rfl

/-- A call of the engine changes no channel, and only a creation adds a delivery. -/
theorem deliveries_after (cfg : DeliverySettings) (t : Store) (call : DeliveryEvent) :
    Rows SameChannel t.deliveries (t.after cfg call).deliveries ∧
      ((t.after cfg call).deliveries.length = t.deliveries.length ∨
        ∃ workspace channel maxAttempts now, call = .create workspace channel maxAttempts now) := by
  have hstep : CallStep cfg t call (t.after cfg call) := after_cases call
  generalize t.after cfg call = t' at hstep
  cases hstep with
  | raised => exact ⟨.refl .refl _, .inl rfl⟩
  | created => exact ⟨.append .refl _ _, .inr ⟨_, _, _, _, rfl⟩⟩
  | claimed _ hd => exact ⟨.set .refl hd rfl, .inl List.length_set⟩
  | @completed _ _ _ locked row _ _ _ hd _ _ _ hcompletion =>
    have hchannel : SameChannel locked row := by
      cases hcompletion with
      | success => rfl
      | failure =>
        unfold Delivery.fail
        dsimp only
        split <;> rfl
    exact ⟨.set .refl hd hchannel, .inl List.length_set⟩
  | redriven hd => exact ⟨.set .refl hd rfl, .inl List.length_set⟩

/-- What an event does: one call of the engine, which creates nothing, and perhaps the note
that a handler has found no snapshot. -/
structure EventStep (cfg : DeliverySettings) (s s' : OutboxStore) : Prop where
  snapshots : s'.snapshots = s.snapshots
  engine : s'.engine = s.engine ∨ ∃ call, s'.engine = s.engine.after cfg call ∧
    ∀ workspace channel maxAttempts now, call ≠ .create workspace channel maxAttempts now
  missed : s'.missed = s.missed ∨ ∃ d e, s.engine.deliveries[d]? = some e ∧
    s.findSnapshot e.channel d = none ∧ s'.missed = s.missed ++ [d]

theorem EventStep.same (s : OutboxStore) : EventStep cfg s s := ⟨rfl, .inl rfl, .inl rfl⟩

theorem EventStep.of_call {t : Store} (call : DeliveryEvent) (h : s.engine.call cfg call = .ok t)
    (hcall : ∀ workspace channel maxAttempts now,
      call ≠ .create workspace channel maxAttempts now) :
    EventStep cfg s { s with engine := t } :=
  ⟨rfl, .inr ⟨call, by rw [Store.after, h], hcall⟩, .inl rfl⟩

theorem handleAttempt_ok {token : Nat} {outcome : ProviderOutcome} {now : Int}
    (h : s.handleAttempt cfg d token outcome now = .ok s') : EventStep cfg s s' := by
  unfold OutboxStore.handleAttempt at h
  split at h
  · cases h
  · rename_i e hd
    dsimp only at h
    generalize hcompletion : attemptCompletion e.channel (s.findSnapshot e.channel d).isSome d
      token outcome now = completion at h
    have hnew : ∀ workspace channel maxAttempts now,
        completion ≠ .create workspace channel maxAttempts now := by
      rintro _ _ _ _ rfl
      unfold attemptCompletion at hcompletion
      split at hcompletion
      · cases hcompletion
      · cases outcome <;> cases hcompletion
    cases hcall : s.engine.call cfg completion with
    | error err =>
      rw [hcall] at h
      cases h
    | ok t =>
      rw [hcall] at h
      cases h
      refine ⟨rfl, (EventStep.of_call completion hcall hnew).engine, ?_⟩
      cases hfound : s.findSnapshot e.channel d with
      | none => exact .inr ⟨d, e, hd, hfound, rfl⟩
      | some snapshot => exact .inl rfl

theorem outboxStep_cases (h : outboxStep cfg event s = some (s', started)) :
    EventStep cfg s s' ∧ ∀ p ∈ started, p.point = .check := by
  cases event with
  | produce production outer =>
    cases h
    exact ⟨.same s, fun p hp => by cases hp; rfl⟩
  | claim d contended leaseSeconds token now =>
    cases h
    refine ⟨?_, nofun⟩
    cases hclaim : s.engine.claimDelivery cfg d contended leaseSeconds token now with
    | error err => exact .same s
    | ok t => exact .of_call (.claim d contended leaseSeconds token now) hclaim (by simp)
  | reclaim d contended leaseSeconds token now =>
    cases h
    refine ⟨?_, nofun⟩
    cases hclaim : s.engine.reclaimExpiredDelivery cfg d contended leaseSeconds token now with
    | error err => exact .same s
    | ok t => exact .of_call (.reclaim d contended leaseSeconds token now) hclaim (by simp)
  | handle d token outcome now =>
    cases h
    refine ⟨?_, nofun⟩
    cases hhandle : s.handleAttempt cfg d token outcome now with
    | error err => exact .same s
    | ok t => exact handleAttempt_ok hhandle

/-- What a producer's statement does: nothing to the tables, one of the two writes by itself, or
both writes at the commit of the outer transaction. -/
inductive ProducerStep (cfg : DeliverySettings) (s : OutboxStore) (p : Producer) :
    ProducerAction → OutboxStore → ProducerPoint → Prop
  | moved {a : ProducerAction} {q : ProducerPoint} : (∀ d, q ≠ .insert d) →
      ProducerStep cfg s p a s q
  | created {now : Int} {ceiling : Nat} : 0 < ceiling → p.outer = false →
      ProducerStep cfg s p (.createDelivery now)
        { s with engine := { s.engine with deliveries := s.engine.deliveries ++
          [newDelivery p.production.workspace p.production.channel ceiling now] } }
        (.insert s.engine.deliveries.length)
  | inserted {d : Nat} : p.point = .insert d →
      ProducerStep cfg s p .insertSnapshot
        { s with snapshots := s.snapshots ++ [p.production.snapshot d] } .returned
  | committed {now : Int} {ceiling : Nat} : 0 < ceiling → p.outer = true →
      ProducerStep cfg s p (.commitBoth now)
        { s with
          engine := { s.engine with deliveries := s.engine.deliveries ++
            [newDelivery p.production.workspace p.production.channel ceiling now] }
          snapshots := s.snapshots ++ [p.production.snapshot s.engine.deliveries.length] }
        .returned

theorem insertSnapshot_ok {snapshot : Snapshot} (h : s.insertSnapshot snapshot = .ok s') :
    s' = { s with snapshots := s.snapshots ++ [snapshot] } := by
  unfold OutboxStore.insertSnapshot at h
  split at h
  · cases h
  · split at h
    · cases h
    · cases h
      rfl

theorem producerStep_cases (h : producerStep cfg i a p s = some (s', p')) :
    ∃ q, p' = { p with point := q } ∧ ProducerStep cfg s p a s' q := by
  cases a with
  | checkExisting =>
    simp only [producerStep] at h
    split at h
    · cases h
      exact ⟨_, rfl, .moved (by intro d; split <;> simp)⟩
    · cases h
  | createDelivery now =>
    simp only [producerStep] at h
    split at h
    · rename_i hpoint
      split at h
      · rename_i engine d hcreate
        obtain ⟨ceiling, hpositive, hkey, hstore⟩ := createDelivery_ok hcreate
        cases h
        dsimp only at hkey hstore
        subst hkey hstore
        exact ⟨_, rfl, .created hpositive hpoint.2⟩
      · cases h
        exact ⟨_, rfl, .moved (by simp)⟩
    · cases h
  | insertSnapshot =>
    simp only [producerStep] at h
    split at h
    · rename_i d hpoint
      split at h
      · rename_i t hinsert
        cases h
        rw [insertSnapshot_ok hinsert]
        exact ⟨_, rfl, .inserted hpoint⟩
      · cases h
        exact ⟨_, rfl, .moved (by simp)⟩
    · cases h
  | commitBoth now =>
    simp only [producerStep] at h
    split at h
    · rename_i hpoint
      split at h
      · rename_i engine d hcreate
        obtain ⟨ceiling, hpositive, hkey, hstore⟩ := createDelivery_ok hcreate
        dsimp only at hkey hstore
        subst hkey hstore
        split at h
        · rename_i t hinsert
          cases h
          rw [insertSnapshot_ok hinsert]
          exact ⟨_, rfl, .committed hpositive hpoint.2⟩
        · cases h
          exact ⟨_, rfl, .moved (by simp)⟩
      · cases h
        exact ⟨_, rfl, .moved (by simp)⟩
    · cases h
  | fail =>
    simp only [producerStep] at h
    split at h
    · cases h
    · cases h
      exact ⟨_, rfl, .moved (by simp)⟩

/-! ## Snapshots point to deliveries -/

/-- Snapshots are rows of deliveries that exist, and so is what a producer is about to write. -/
structure Pointed (c : Outbox) : Prop where
  snapshots : ∀ snapshot ∈ c.store.snapshots,
    snapshot.delivery < c.store.engine.deliveries.length
  producers : ∀ (i : Nat) (p : Producer) (d : Nat), c.procs[i]? = some p →
    p.point = .insert d → d < c.store.engine.deliveries.length

theorem EventStep.length (h : EventStep cfg s s') :
    s'.engine.deliveries.length = s.engine.deliveries.length := by
  rcases h.engine with hsame | ⟨call, hafter, hnew⟩
  · rw [hsame]
  · rcases (deliveries_after cfg s.engine call).2 with hlength | ⟨_, _, _, _, hcreate⟩
    · rw [hafter, hlength]
    · exact absurd hcreate (hnew _ _ _ _)

theorem EventStep.channels (h : EventStep cfg s s') :
    Rows SameChannel s.engine.deliveries s'.engine.deliveries := by
  rcases h.engine with hsame | ⟨call, hafter, -⟩
  · rw [hsame]
    exact .refl .refl _
  · rw [hafter]
    exact (deliveries_after cfg s.engine call).1

theorem Pointed.afterEvent (hc : Pointed c) (h : EventStep cfg c.store s')
    (hstarted : ∀ p ∈ started, p.point = .check) :
    Pointed ⟨s', c.procs ++ started.toList⟩ := by
  constructor
  · intro snapshot hsnapshot
    rw [h.length]
    exact hc.snapshots snapshot (h.snapshots ▸ hsnapshot)
  · intro i p d hp hpoint
    rw [h.length]
    rcases Program.proc_append hp with hold | hnew
    · exact hc.producers i p d hold hpoint
    · cases (hstarted p hnew).symm.trans hpoint

theorem Pointed.afterProducer {q : ProducerPoint} (hc : Pointed c) (hp : c.procs[i]? = some p)
    (h : ProducerStep cfg c.store p a s' q) :
    Pointed ⟨s', c.procs.set i { p with point := q }⟩ := by
  have hgrows : c.store.engine.deliveries.length ≤ s'.engine.deliveries.length := by
    cases h <;> simp
  constructor
  · intro snapshot hsnapshot
    cases h with
    | moved => exact hc.snapshots snapshot hsnapshot
    | created => exact Nat.lt_of_lt_of_le (hc.snapshots snapshot hsnapshot) hgrows
    | inserted hpoint =>
      rcases List.mem_append.mp hsnapshot with hold | hnew
      · exact hc.snapshots snapshot hold
      · rw [List.mem_singleton.mp hnew, Production.snapshot_delivery]
        exact hc.producers i p _ hp hpoint
    | committed =>
      rcases List.mem_append.mp hsnapshot with hold | hnew
      · exact Nat.lt_of_lt_of_le (hc.snapshots snapshot hold) hgrows
      · rw [List.mem_singleton.mp hnew, Production.snapshot_delivery]
        simp
  · intro j m d hm hpoint
    rcases getElem?_set_cases hm with ⟨rfl, rfl⟩ | ⟨-, hother⟩
    · cases h with
      | moved hq => exact absurd hpoint (hq d)
      | created =>
        cases hpoint
        simp
      | inserted => cases hpoint
      | committed => cases hpoint
    · exact Nat.lt_of_lt_of_le (hc.producers j m d hother hpoint) hgrows

theorem pointed {permits : Outbox → OutboxLabel → Prop}
    (h : (outbox cfg).system.Reach permits c) : Pointed c := by
  refine System.Reach.invariant ?_ ?_ h
  · rintro ⟨t, procs⟩ ⟨rfl, rfl⟩
    exact ⟨nofun, fun _ _ _ hp => by simp at hp⟩
  · intro c l c' _ hc _ hstep
    cases l with
    | env event =>
      obtain ⟨s', started, hout, rfl⟩ := Program.step_env hstep
      obtain ⟨hevent, hstarted⟩ := outboxStep_cases hout
      exact hc.afterEvent hevent hstarted
    | work i a =>
      obtain ⟨p, s', p', hp, hout, rfl⟩ := Program.step_work hstep
      have hwork : producerStep cfg i a p c.store = some (s', p') := hout
      obtain ⟨q, rfl, hcase⟩ := producerStep_cases hwork
      exact hc.afterProducer hp hcase

/-! ## Main results -/

/-- Every committed delivery has its snapshot, and no handler has found one without. -/
structure SnapshotLaw (c : Outbox) : Prop where
  snapshot : ∀ (d : Nat) (e : Delivery), c.store.engine.deliveries[d]? = some e →
    ∃ snapshot ∈ c.store.snapshots, snapshot.delivery = d ∧ snapshot.channel = e.channel
  missed : c.store.missed = []

/-- A producer commits its delivery only under the transaction of its caller. -/
def CommitsTogether (c : Outbox) : OutboxLabel → Prop
  | .work i (.createDelivery _) => (c.procs[i]?).all (·.outer) = true
  | _ => True

instance (c : Outbox) (l : OutboxLabel) : Decidable (CommitsTogether c l) := by
  unfold CommitsTogether
  split <;> infer_instance

theorem SnapshotLaw.afterEvent (hc : SnapshotLaw c) (h : EventStep cfg c.store s') :
    SnapshotLaw ⟨s', c.procs ++ started.toList⟩ := by
  constructor
  · intro d e' he'
    rcases h.channels.back he' with ⟨e, he, hchannel⟩ | hnew
    · obtain ⟨snapshot, hmem, hd, hsame⟩ := hc.snapshot d e he
      exact ⟨snapshot, h.snapshots ▸ hmem, hd, hsame.trans hchannel.symm⟩
    · have hlt := (List.getElem?_eq_some_iff.mp he').1
      have hlength := h.length
      dsimp only at hlt
      omega
  · rcases h.missed with hsame | ⟨d, e, he, hnone, -⟩
    · exact hsame.trans hc.missed
    · obtain ⟨snapshot, hmem, hd, hchannel⟩ := hc.snapshot d e he
      have hmiss := List.find?_eq_none.mp hnone snapshot hmem
      simp [hd, hchannel] at hmiss

theorem SnapshotLaw.afterProducer {q : ProducerPoint} (hp : CommitsTogether c (.work i a))
    (hc : SnapshotLaw c) (hprocs : c.procs[i]? = some p) (h : ProducerStep cfg c.store p a s' q) :
    SnapshotLaw ⟨s', c.procs.set i { p with point := q }⟩ := by
  cases h with
  | moved => exact ⟨hc.snapshot, hc.missed⟩
  | created hpositive houter => simp [CommitsTogether, hprocs, houter] at hp
  | inserted =>
    refine ⟨fun d e he => ?_, hc.missed⟩
    obtain ⟨snapshot, hmem, hsame⟩ := hc.snapshot d e he
    exact ⟨snapshot, List.mem_append_left _ hmem, hsame⟩
  | committed =>
    refine ⟨fun d e he => ?_, hc.missed⟩
    rcases getElem?_concat_cases he with hold | ⟨rfl, rfl⟩
    · obtain ⟨snapshot, hmem, hsame⟩ := hc.snapshot d e hold
      exact ⟨snapshot, List.mem_append_left _ hmem, hsame⟩
    · exact ⟨_, List.mem_append_right _ (List.mem_singleton_self _),
        Production.snapshot_delivery _ _, Production.snapshot_channel _ _⟩

theorem snapshotLaw_run (h : (outbox cfg).system.Reach CommitsTogether c) : SnapshotLaw c := by
  refine System.Reach.invariant ?_ ?_ h
  · rintro ⟨t, procs⟩ ⟨rfl, rfl⟩
    exact ⟨fun _ _ he => by simp at he, rfl⟩
  · intro c l c' _ hc hp hstep
    cases l with
    | env event =>
      obtain ⟨s', started, hout, rfl⟩ := Program.step_env hstep
      exact hc.afterEvent (outboxStep_cases hout).1
    | work i a =>
      obtain ⟨p, s', p', hprocs, hout, rfl⟩ := Program.step_work hstep
      have hwork : producerStep cfg i a p c.store = some (s', p') := hout
      obtain ⟨q, rfl, hcase⟩ := producerStep_cases hwork
      exact hc.afterProducer hp hprocs hcase

/-- A delivery that commits by itself is there without a snapshot. -/
theorem not_snapshotLaw_of_created (hc : Pointed c) (h : ¬ CommitsTogether c l)
    (hstep : (outbox cfg).system.step l c = some c')
    (hcommit : c'.store.engine ≠ c.store.engine) : ¬ SnapshotLaw c' := by
  intro hlaw
  cases l with
  | env event => exact h trivial
  | work i a =>
    obtain ⟨p, s', p', hprocs, hout, rfl⟩ := Program.step_work hstep
    have hwork : producerStep cfg i a p c.store = some (s', p') := hout
    obtain ⟨q, rfl, hcase⟩ := producerStep_cases hwork
    cases hcase with
    | moved => exact hcommit rfl
    | created =>
      obtain ⟨snapshot, hmem, hd, -⟩ := hlaw.snapshot c.store.engine.deliveries.length _
        List.getElem?_concat_length
      have hlt := hc.snapshots snapshot hmem
      omega
    | inserted => exact hcommit rfl
    | committed => exact h trivial

/-- In every run whose producers commit under the transaction of their callers, each committed
delivery has its snapshot and no delivery ends for want of one; and a delivery that commits
outside such a transaction breaks this at once. -/
theorem snapshots_accompany_deliveries (cfg : DeliverySettings) :
    (∀ c, (outbox cfg).system.Reach CommitsTogether c → SnapshotLaw c) ∧
      ∀ c l c', (outbox cfg).system.Reach (fun _ _ => True) c → ¬ CommitsTogether c l →
        (outbox cfg).system.step l c = some c' → c'.store.engine ≠ c.store.engine →
        ¬ SnapshotLaw c' :=
  ⟨fun _ h => snapshotLaw_run h,
    fun _ _ _ h hp hstep hcommit => not_snapshotLaw_of_created (pointed h) hp hstep hcommit⟩

/-- A producer under its caller's transaction, and the worker that sends what it wrote. -/
def transactionalProducer : List OutboxLabel :=
  [.env (.produce (.notification 0 1 "a@example.com" "s" "b") true), .work 0 .checkExisting,
    .work 0 (.commitBoth 0), .env (.claim 0 false none 7 1), .env (.handle 0 7 .sent 2)]

/-- A producer whose delivery is claimed and handled before it writes the snapshot. -/
def overtakenProducer : List OutboxLabel :=
  [.env (.produce (.notification 0 1 "a@example.com" "s" "b") false), .work 0 .checkExisting,
    .work 0 (.createDelivery 0), .env (.claim 0 false none 7 1), .env (.handle 0 7 .sent 2),
    .work 0 .insertSnapshot]

theorem reaches_outboxEnd (permits : Outbox → OutboxLabel → Prop)
    [∀ c l, Decidable (permits c l)] (labels : List OutboxLabel) :
    (outbox {}).system.Reach permits
      ((outbox {}).system.replayEnd permits labels ⟨{}, []⟩) := by
  have hinit : (outbox {}).system.initial ⟨{}, []⟩ := ⟨rfl, rfl⟩
  exact System.reach_replayEnd (.init hinit) labels

theorem snapshots_accompany_transactional :
    SnapshotLaw ((outbox {}).system.replayEnd CommitsTogether transactionalProducer ⟨{}, []⟩) ∧
      (((outbox {}).system.replayEnd CommitsTogether transactionalProducer
        ⟨{}, []⟩).store.engine.deliveries[0]?).map (·.status) = some .delivered :=
  ⟨(snapshots_accompany_deliveries {}).1 _ (reaches_outboxEnd _ _), by decide⟩

/-- The producer ends well, and its delivery is dead for want of the snapshot. -/
theorem overtaken_missed :
    let c := (outbox {}).system.replayEnd (fun _ _ => True) overtakenProducer ⟨{}, []⟩
    c.store.missed = [0] ∧ (c.procs[0]?).map (·.point) = some .returned ∧
      (c.store.engine.deliveries[0]?).map (·.status) = some .dead := by
  decide

theorem snapshots_not_always_accompany :
    ¬ ∀ (cfg : DeliverySettings) (c : Outbox),
      (outbox cfg).system.Reach (fun _ _ => True) c → SnapshotLaw c := by
  intro hlaw
  have hmissed := (hlaw {} _ (reaches_outboxEnd _ overtakenProducer)).missed
  rw [overtaken_missed.1] at hmissed
  cases hmissed

end SupportPilot.Notifications
