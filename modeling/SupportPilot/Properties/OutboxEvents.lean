import SupportPilot.Library.Outcomes
import SupportPilot.Webhooks.Transactions

/-!
# Events and their deliveries

The committed events are what the committed approval requests and handoffs call for, and each has
one delivery for every endpoint that was to get it when it was emitted, over all interleavings of
the transactions with each other and with what others commit.
-/

namespace SupportPilot.Webhooks

open Library Notifications

variable {cfg : DeliverySettings} {s s' : EventStore}

/-! ## What others commit -/

/-- An event of the environment is quiet, keeps the links, emits nothing and takes no lock. -/
structure Outside (s s' : EventStore) : Prop where
  quiet : Quiet s s'
  links : SameLinks s s'
  emissions : s'.emissions = s.emissions
  locks : s'.locks = s.locks

/-- Runs and endpoints are not read by the law. -/
theorem Outside.unread (s : EventStore) (agentRuns : List Nat)
    (endpoints : List SubscribedEndpoint) : Outside s { s with agentRuns, endpoints } where
  quiet := ⟨{ Keeps.refl s with }, fun _ => rfl, rfl⟩
  links := .of_eq rfl rfl
  emissions := rfl
  locks := rfl

theorem Outside.createExecution {row : ToolExecution} (hrow : row.approvalRequest = none) :
    Outside s { s with executions := s.executions ++ [row] } where
  quiet := by
    refine ⟨{ Keeps.refl s with
      executions := Rows.append (R := fun a b : ToolExecution => b.workspace = a.workspace)
        (fun _ => rfl) _ _ }, fun k => ?_, rfl⟩
    unfold EventStore.approval
    show ((s.executions ++ [row])[k]?).bind _ = _
    by_cases hk : k < s.executions.length
    · rw [List.getElem?_append_left hk]
    · have hnone : s.executions[k]? = none := List.getElem?_eq_none (by omega)
      rw [List.getElem?_append_right (by omega), hnone]
      cases hlast : [row][k - s.executions.length]? with
      | none => rfl
      | some found =>
        rw [List.mem_singleton.mp (List.mem_of_getElem? hlast)]
        exact hrow
  links := .of_eq rfl rfl
  emissions := rfl
  locks := rfl

theorem Outside.writeExecution {k : Nat} {row row' : ToolExecution}
    (hrow : s.executions[k]? = some row) (hworkspace : row'.workspace = row.workspace)
    (hrequest : row'.approvalRequest = row.approvalRequest) :
    Outside s { s with executions := s.executions.set k row' } where
  quiet := by
    refine ⟨{ Keeps.refl s with
      executions := Rows.set (R := fun a b : ToolExecution => b.workspace = a.workspace)
        (fun _ => rfl) hrow hworkspace }, fun n => ?_, rfl⟩
    rw [approval_set (List.getElem?_eq_some_iff.mp hrow).1]
    split
    · rename_i hn
      rw [hn, hrequest]
      unfold EventStore.approval
      rw [hrow]
      rfl
    · rfl
  links := .of_eq rfl rfl
  emissions := rfl
  locks := rfl

theorem Outside.writeHandoff {h : Nat} {row row' : HumanHandoff} (hrow : s.handoffs[h]? = some row)
    (hsame : row'.conversation = row.conversation) :
    Outside s { s with handoffs := s.handoffs.set h row' } where
  quiet := by
    refine ⟨{ Keeps.refl s with
      handoffs := Rows.set (R := fun a b : HumanHandoff => b.conversation = a.conversation)
        (fun _ => rfl) hrow hsame }, fun _ => rfl, ?_⟩
    exact List.length_set
  links := .of_eq rfl rfl
  emissions := rfl
  locks := rfl

theorem Outside.createConversation (workspace : Nat) :
    Outside s { s with conversations := s.conversations ++ [workspace] } where
  quiet := ⟨{ Keeps.refl s with conversations := .append (fun _ => rfl) _ _ }, fun _ => rfl, rfl⟩
  links := .of_eq rfl rfl
  emissions := rfl
  locks := rfl

theorem Outside.createDelivery {delivery : Delivery} (hchannel : delivery.channel ≠ .webhook) :
    Outside s { s with deliveries := s.deliveries ++ [delivery] } where
  quiet := ⟨{ Keeps.refl s with }, fun _ => rfl, rfl⟩
  links := by
    refine ⟨rfl, fun d old hold => ⟨old, ?_, rfl, rfl⟩, fun d found hfound hwebhook => ?_⟩
    · exact getElem?_append_some hold _
    · rcases getElem?_concat_cases hfound with hold | ⟨-, rfl⟩
      · exact ⟨found, hold, hwebhook⟩
      · exact absurd hwebhook hchannel
  emissions := rfl
  locks := rfl

theorem Outside.writeDelivery {d : Nat} {row row' : Delivery} (hrow : s.deliveries[d]? = some row)
    (hworkspace : row'.workspace = row.workspace) (hchannel : row'.channel = row.channel) :
    Outside s { s with deliveries := s.deliveries.set d row' } where
  quiet := ⟨{ Keeps.refl s with }, fun _ => rfl, rfl⟩
  links := by
    have hself : (s.deliveries.set d row')[d]? = some row' :=
      List.getElem?_set_self (List.getElem?_eq_some_iff.mp hrow).1
    constructor
    · rfl
    · intro n old hold
      by_cases hn : d = n
      · subst hn
        rw [hrow] at hold
        cases hold
        exact ⟨row', hself, hworkspace, hchannel⟩
      · refine ⟨old, ?_, rfl, rfl⟩
        show (s.deliveries.set d row')[n]? = some old
        rw [List.getElem?_set_ne hn]
        exact hold
    · intro n found hfound hwebhook
      have hfound : (s.deliveries.set d row')[n]? = some found := hfound
      by_cases hn : d = n
      · subst hn
        rw [hself] at hfound
        cases hfound
        exact ⟨row, hrow, by rw [← hchannel, hwebhook]⟩
      · rw [List.getElem?_set_ne hn] at hfound
        exact ⟨found, hfound, hwebhook⟩
  emissions := rfl
  locks := rfl

theorem domainEventStep_outside {e : DomainEvent} {started : Option DomainTransaction}
    (h : domainEventStep e s = some (s', started)) :
    Outside s s' ∧ ∀ t ∈ started, t.point = .called := by
  have hnone : ∀ t ∈ (none : Option DomainTransaction), t.point = .called := by
    intro t ht
    cases ht
  cases e with
  | createExecution row =>
    simp only [domainEventStep] at h
    split at h
    · rename_i hrow
      cases h
      exact ⟨.createExecution hrow, hnone⟩
    · cases h
  | writeExecution k row =>
    obtain ⟨old, hold, hout⟩ := Option.bind_eq_some_iff.mp h
    split at hout
    · rename_i hsame
      cases hout
      exact ⟨.writeExecution hold hsame.1 hsame.2, hnone⟩
    · cases hout
  | createConversation workspace =>
    cases h
    exact ⟨.createConversation workspace, hnone⟩
  | createRun =>
    cases h
    exact ⟨.unread s _ _, hnone⟩
  | writeHandoff =>
    obtain ⟨old, hold, hout⟩ := Option.bind_eq_some_iff.mp h
    split at hout
    · cases hout
      exact ⟨.writeHandoff hold rfl, hnone⟩
    · cases hout
  | createEndpoint =>
    cases h
    exact ⟨.unread s _ _, hnone⟩
  | updateEndpoint | setEndpointStatus =>
    obtain ⟨old, -, heq⟩ := Option.map_eq_some_iff.mp h
    cases heq
    exact ⟨.unread s _ _, hnone⟩
  | createDelivery =>
    simp only [domainEventStep] at h
    split at h
    · rename_i hchannel
      cases h
      exact ⟨.createDelivery hchannel, hnone⟩
    · cases h
  | writeDelivery =>
    obtain ⟨old, hold, hout⟩ := Option.bind_eq_some_iff.mp h
    split at hout
    · rename_i hsame
      cases hout
      exact ⟨.writeDelivery hold hsame.1 hsame.2, hnone⟩
    · cases hout
  | start call =>
    cases h
    refine ⟨.unread s _ _, fun t ht => ?_⟩
    cases ht
    rfl

/-! ## Runs -/

/-- The invariant of a run: the law, one owner for each lock, and what every open transaction
knows. -/
structure Sound (c : Config DomainTransaction EventStore) : Prop where
  exact : Exact c.store
  owners : (c.store.locks.map (·.1)).Nodup
  knows : ∀ i t, c.procs[i]? = some t → Knows c.store i t

theorem owner_unique {locks : List (LockKey × Nat)} (h : (locks.map (·.1)).Nodup) {key : LockKey}
    {i j : Nat} (hi : (key, i) ∈ locks) (hj : (key, j) ∈ locks) : i = j := by
  have heq : (key, i) = (key, j) := List.inj_on_of_nodup_map h hi hj rfl
  exact congrArg Prod.snd heq

theorem DomainCall.Checked.mono {call : DomainCall} (h : call.Checked s) (hkeeps : Keeps s s') :
    call.Checked s' := by
  cases call with
  | createOrReuseHandoff workspace conversation =>
    obtain ⟨found, hfound, heq⟩ := hkeeps.conversations _ _ h
    show s'.conversations[conversation]? = some workspace
    rw [hfound, heq]
  | requestApproval | decideApproval | expireStaleApproval | cancelApproval => trivial

theorem Knows.mono {i : Nat} {t : DomainTransaction} (h : Knows s i t) (hkeeps : Keeps s s')
    (hholds : ∀ change k, t.point.change = some change → change.target = some k →
      (.approval k, i) ∈ s'.locks ∧ s'.approval k = s.approval k) : Knows s' i t where
  checked hpoint := (h.checked hpoint).mono hkeeps
  guarded change hchange :=
    (h.guarded change hchange).mono hkeeps fun k => hholds change k hchange

theorem sound_env {c : Config DomainTransaction EventStore} {e : DomainEvent}
    {started : Option DomainTransaction} (hc : Sound c)
    (h : domainEventStep e c.store = some (s', started)) :
    Sound ⟨s', c.procs ++ started.toList⟩ := by
  obtain ⟨hout, hstarted⟩ := domainEventStep_outside h
  constructor
  · exact hc.exact.quiet hout.quiet.keeps hout.quiet.owes hout.emissions hout.links
  · show (s'.locks.map (·.1)).Nodup
    rw [hout.locks]
    exact hc.owners
  · intro i t ht
    rcases Program.proc_append ht with hold | hnew
    · refine (hc.knows i t hold).mono hout.quiet.keeps fun change k hchange htarget => ?_
      have hlock := ((hc.knows i t hold).guarded change hchange).lock htarget
      refine ⟨?_, hout.quiet.approval k⟩
      show _ ∈ s'.locks
      rw [hout.locks]
      exact hlock
    · have hcalled := hstarted t hnew
      constructor
      · intro hpoint
        rw [hcalled] at hpoint
        cases hpoint
      · intro change hchange
        rw [hcalled] at hchange
        cases hchange

theorem sound_work {c : Config DomainTransaction EventStore} {i : Nat} {a : DomainAction}
    {t t' : DomainTransaction} (hc : Sound c) (ht : c.procs[i]? = some t)
    (h : domainStep cfg i a t c.store = some (s', t')) : Sound ⟨s', c.procs.set i t'⟩ := by
  rcases (domainStep_cases (hc.knows i t ht) h).ends with ⟨⟨locks, hstore, hlocking⟩, hknows⟩ |
    ⟨hended, change, hchange, hcommit⟩
  · have hkeeps : Keeps c.store s' := by
      rw [hstore]
      exact { Keeps.refl c.store with }
    have happroval : ∀ k, s'.approval k = c.store.approval k := by
      intro k
      rw [hstore]
      rfl
    constructor
    · show Exact s'
      have hs := hc.exact
      rw [hstore]
      exact ⟨hs.events, hs.placed, hs.fannedOut, ⟨hs.linked.rows, hs.linked.once⟩⟩
    · show (s'.locks.map (·.1)).Nodup
      rw [hstore]
      exact hlocking.nodup hc.owners
    · intro j u hu
      rcases getElem?_set_cases hu with ⟨rfl, rfl⟩ | ⟨hji, hold⟩
      · exact hknows
      · refine (hc.knows j u hold).mono hkeeps fun change k hchange htarget => ?_
        have hlock := ((hc.knows j u hold).guarded change hchange).lock htarget
        refine ⟨?_, happroval k⟩
        show _ ∈ s'.locks
        rw [hstore]
        exact hlocking.kept hji hlock
  · have hguard := (hc.knows i t ht).guarded change hchange
    obtain ⟨hexact, hkeeps, hothers, hlocks⟩ := committed_spec hc.exact hguard hcommit
    have hreleased : Locking c.store i s'.locks := by
      rw [hlocks]
      exact .released
    constructor
    · exact hexact
    · exact hreleased.nodup hc.owners
    · intro j u hu
      rcases getElem?_set_cases hu with ⟨rfl, rfl⟩ | ⟨hji, hold⟩
      · constructor
        · intro hpoint
          rw [hended] at hpoint
          cases hpoint
        · intro other hother
          rw [hended] at hother
          cases hother
      · refine (hc.knows j u hold).mono hkeeps fun other k hother htarget => ?_
        have hlock := ((hc.knows j u hold).guarded other hother).lock htarget
        refine ⟨hreleased.kept hji hlock, hothers k fun hsame => ?_⟩
        exact hji (owner_unique hc.owners hlock (hguard.lock hsame))

theorem exact_empty : Exact {} where
  events eventType n := by cases eventType <;> rfl
  placed x hx := by cases hx
  fannedOut e x hx := by cases hx
  linked := ⟨(fun row hrow => by cases hrow), fun d delivery hdelivery => by cases hdelivery⟩

theorem sound_reach {c : Config DomainTransaction EventStore}
    (h : (domainTransactions cfg).system.Reach (fun _ _ => True) c) : Sound c := by
  refine h.invariant ?_ ?_
  · rintro ⟨store, procs⟩ ⟨hstore, hprocs⟩
    cases hstore
    cases hprocs
    exact ⟨exact_empty, .nil, fun i t ht => by cases ht⟩
  · intro c l c' _ hc _ hs
    cases l with
    | env e =>
      obtain ⟨s', started, hout, rfl⟩ := Program.step_env hs
      exact sound_env hc hout
    | work i a =>
      obtain ⟨t, s', t', ht, hout, rfl⟩ := Program.step_work hs
      exact sound_work hc ht hout

/-! ## The moment of an emission -/

theorem deliverTo_emissions {workspace event p : Nat} {now : Int}
    (h : s.deliverTo cfg workspace event p now = .ok s') : s'.emissions = s.emissions := by
  unfold EventStore.deliverTo at h
  obtain ⟨⟨engine, delivery⟩, -, hout⟩ := bind_eq_ok.mp h
  dsimp only at hout
  split at hout <;> cases hout <;> rfl

theorem fanOut_emissions {workspace event : Nat} {now : Int} {targets : List Nat}
    (h : EventStore.fanOut cfg workspace event now targets s = .ok s') :
    s'.emissions = s.emissions := by
  induction targets generalizing s with
  | nil =>
    cases h
    rfl
  | cons p rest ih =>
    obtain ⟨t, hdeliver, hrest⟩ := bind_eq_ok.mp h
    rw [ih hrest, deliverTo_emissions hdeliver]

/-- A commit adds the event with the endpoints that the transaction has read. -/
theorem commitEmitted_emissions {i : Nat} {change : Change} {endpoints : List SubscribedEndpoint}
    {now : Int} (h : s.commitEmitted cfg i change endpoints now = some s') :
    ∃ event, s'.emissions = s.emissions ++ [⟨event, endpoints⟩] := by
  obtain ⟨changed, hchange, hout⟩ := Option.bind_eq_some_iff.mp h
  obtain ⟨event, -, hout⟩ := Option.bind_eq_some_iff.mp hout
  obtain ⟨emitted, hemit, rfl⟩ := Option.map_eq_some_iff.mp hout
  have hok : changed.emitEvent cfg event endpoints now = .ok emitted := by
    cases hresult : changed.emitEvent cfg event endpoints now with
    | error e =>
      rw [hresult] at hemit
      cases hemit
    | ok t =>
      rw [hresult] at hemit
      exact congrArg _ (Option.some.inj hemit)
  refine ⟨event, (fanOut_emissions hok).trans ?_⟩
  rw [(applyChange_frame hchange).1]

/-- Only the commit of an emitted event adds one, with the endpoints that were read for it. -/
theorem TransactionStep.emissions {i : Nat} {a : DomainAction} {t t' : DomainTransaction}
    (h : TransactionStep cfg s i t a s' t') : s'.emissions = s.emissions ∨
      ∃ now change endpoints event, a = .commit now ∧ t.point = .emitted change endpoints ∧
        s'.emissions = s.emissions ++ [⟨event, endpoints⟩] := by
  cases h with
  | stated hlocks =>
    obtain ⟨locks, rfl, -⟩ := hlocks
    exact .inl rfl
  | read => exact .inl rfl
  | silent hpoint hcommit =>
    unfold EventStore.commitSilent at hcommit
    split at hcommit
    · cases hcommit
    · obtain ⟨changed, hchange, rfl⟩ := Option.map_eq_some_iff.mp hcommit
      exact .inl (applyChange_frame hchange).1
  | emitted hpoint hcommit =>
    obtain ⟨event, hevent⟩ := commitEmitted_emissions hcommit
    exact .inr ⟨_, _, _, event, rfl, hpoint, hevent⟩

/-- The endpoints for an event are read from the table by the statement that emits it. -/
theorem TransactionStep.endpoints_read {i : Nat} {a : DomainAction} {t t' : DomainTransaction}
    {change : Change} {endpoints : List SubscribedEndpoint}
    (h : TransactionStep cfg s i t a s' t') (hpoint : t'.point = .emitted change endpoints) :
    a = .emit ∧ endpoints = s.endpoints := by
  cases h with
  | stated hlocks hknows hnot => exact absurd hpoint (hnot change endpoints)
  | read =>
    cases hpoint
    exact ⟨rfl, rfl⟩
  | silent => cases hpoint
  | emitted => cases hpoint

/-- The steps of a run, the latest first. -/
abbrev DomainHistory := List (Config DomainTransaction EventStore ×
  Label DomainEvent DomainAction × Config DomainTransaction EventStore)

/-- Transaction `i` has read the endpoints for its event in state `d`. -/
def ReadBy (steps : DomainHistory) (i : Nat) (d : Config DomainTransaction EventStore) : Prop :=
  ∃ d' later before, steps = later ++ (d, .work i .emit, d') :: before

/-- The transaction that has committed event `e` has read the endpoints for it in state `d`. -/
def EmittedIn (steps : DomainHistory) (e : Nat) (x : Emission)
    (d : Config DomainTransaction EventStore) : Prop :=
  ∃ i f now f' later before, steps = later ++ (f, .work i (.commit now), f') :: before ∧
    ReadBy before i d ∧ f.store.emissions.length = e ∧
    f'.store.emissions = f.store.emissions ++ [x]

/-- Endpoints that a transaction has read, and those of a committed event, are the table of the
moment of the read. -/
structure Traced (steps : DomainHistory) (c : Config DomainTransaction EventStore) : Prop where
  read : ∀ i t change endpoints, c.procs[i]? = some t → t.point = .emitted change endpoints →
    ∃ d, ReadBy steps i d ∧ endpoints = d.store.endpoints
  committed : ∀ e x, c.store.emissions[e]? = some x →
    ∃ d, EmittedIn steps e x d ∧ x.endpoints = d.store.endpoints

section Traced

variable {steps : DomainHistory} {i e : Nat} {x : Emission}
  {d : Config DomainTransaction EventStore}

theorem ReadBy.cons (h : ReadBy steps i d) (step) : ReadBy (step :: steps) i d := by
  obtain ⟨d', later, before, rfl⟩ := h
  exact ⟨d', step :: later, before, rfl⟩

theorem EmittedIn.cons (h : EmittedIn steps e x d) (step) : EmittedIn (step :: steps) e x d := by
  obtain ⟨i, f, now, f', later, before, rfl, hrest⟩ := h
  exact ⟨i, f, now, f', step :: later, before, rfl, hrest⟩

theorem Traced.env {c : Config DomainTransaction EventStore} {l : DomainEvent}
    {started : Option DomainTransaction} (hc : Traced steps c)
    (h : domainEventStep l c.store = some (s', started)) :
    Traced ((c, .env l, ⟨s', c.procs ++ started.toList⟩) :: steps)
      ⟨s', c.procs ++ started.toList⟩ := by
  obtain ⟨hout, hstarted⟩ := domainEventStep_outside h
  constructor
  · intro i t change endpoints ht hpoint
    rcases Program.proc_append ht with hold | hnew
    · obtain ⟨d, hread, heq⟩ := hc.read i t change endpoints hold hpoint
      exact ⟨d, hread.cons _, heq⟩
    · rw [hstarted t hnew] at hpoint
      cases hpoint
  · intro e x hx
    have hold : c.store.emissions[e]? = some x := hout.emissions ▸ hx
    obtain ⟨d, hemitted, heq⟩ := hc.committed e x hold
    exact ⟨d, hemitted.cons _, heq⟩

theorem Traced.work {c : Config DomainTransaction EventStore} {a : DomainAction}
    {t t' : DomainTransaction} (hc : Traced steps c) (ht : c.procs[i]? = some t)
    (h : TransactionStep cfg c.store i t a s' t') :
    Traced ((c, .work i a, ⟨s', c.procs.set i t'⟩) :: steps) ⟨s', c.procs.set i t'⟩ := by
  constructor
  · intro j u change endpoints hu hpoint
    rcases getElem?_set_cases hu with ⟨rfl, rfl⟩ | ⟨-, hold⟩
    · obtain ⟨rfl, hread⟩ := h.endpoints_read hpoint
      exact ⟨c, ⟨_, [], steps, rfl⟩, hread⟩
    · obtain ⟨d, hread, heq⟩ := hc.read j u change endpoints hold hpoint
      exact ⟨d, hread.cons _, heq⟩
  · intro e x hx
    have hkept : c.store.emissions[e]? = some x →
        ∃ d, EmittedIn ((c, .work i a, ⟨s', c.procs.set i t'⟩) :: steps) e x d ∧
          x.endpoints = d.store.endpoints := by
      intro hold
      obtain ⟨d, hemitted, heq⟩ := hc.committed e x hold
      exact ⟨d, hemitted.cons _, heq⟩
    rcases h.emissions with hsame | ⟨now, change, endpoints, event, rfl, hpoint, hnew⟩
    · exact hkept (hsame ▸ hx)
    · have hx' : (c.store.emissions ++ [(⟨event, endpoints⟩ : Emission)])[e]? = some x := hnew ▸ hx
      rcases getElem?_concat_cases hx' with hold | ⟨rfl, rfl⟩
      · exact hkept hold
      · obtain ⟨d, hread, heq⟩ := hc.read i t change endpoints ht hpoint
        exact ⟨d, ⟨i, c, now, _, [], steps, rfl, hread, rfl, hnew⟩, heq⟩

theorem traced_run {c : Config DomainTransaction EventStore}
    (h : (domainTransactions cfg).system.Run (fun _ _ => True) steps c) : Traced steps c := by
  refine h.invariant ?_ ?_
  · rintro ⟨store, procs⟩ ⟨hstore, hprocs⟩
    cases hstore
    cases hprocs
    constructor
    · intro i t change endpoints ht
      cases ht
    · intro e x hx
      cases hx
  · intro steps c l c' hrun hc _ hs
    cases l with
    | env e =>
      obtain ⟨s', started, hout, rfl⟩ := Program.step_env hs
      exact hc.env hout
    | work i a =>
      obtain ⟨t, s', t', ht, hout, rfl⟩ := Program.step_work hs
      exact hc.work ht (domainStep_cases ((sound_reach hrun.reach).knows i t ht) hout)

end Traced

/-- In every run the committed events are exactly those that the committed approval requests and
handoffs call for, and each has one delivery with its link for every endpoint that it addresses,
and no other: the endpoints of its workspace that were active and subscribed when its transaction
emitted it. -/
theorem committed_events {steps : DomainHistory} {c : Config DomainTransaction EventStore}
    (h : (domainTransactions cfg).system.Run (fun _ _ => True) steps c) :
    (∀ eventType subject, c.store.eventCount eventType subject =
      if c.store.owes eventType subject then 1 else 0) ∧
    (∀ x ∈ c.store.emissions, c.store.Placed x.event) ∧
    (∀ e x, c.store.emissions[e]? = some x →
      (∃ d, EmittedIn steps e x d ∧ x.endpoints = d.store.endpoints) ∧
        ∀ p, c.store.deliveryCount e p = if x.addresses p then 1 else 0) ∧
    c.store.Linked := by
  have hexact := (sound_reach h.reach).exact
  exact ⟨hexact.events, hexact.placed,
    fun e x hx => ⟨(traced_run h).committed e x hx, hexact.fannedOut e x hx⟩, hexact.linked⟩

def refundExecution : ToolExecution where
  workspace := 0
  agentRun := 0
  agentVersion := {}
  toolDefinition := "refund"
  idempotencyKey := "k"

/-- Two decisions race for one request while an endpoint is disabled, and another one rolls
back. -/
def decidedTwice : List (Label DomainEvent DomainAction) :=
  [ .env (.createExecution refundExecution),
    .env (.createEndpoint 0 [.approvalRequested, .approvalApproved]),
    .env (.createEndpoint 0 [.approvalApproved]),
    .env (.start (.requestApproval 0 none "admin" "refund" "high" "refund: amount=5" 60)),
    .work 0 (.query 1 1), .work 0 (.insert 1), .work 0 .emit, .work 0 (.commit 1),
    .env (.start (.decideApproval 0 0 7 "owner" .approve)),
    .env (.start (.decideApproval 0 0 8 "owner" .reject)),
    .env (.start (.decideApproval 0 0 9 "owner" .approve)),
    .work 1 (.query 2 2), .work 1 .emit, .work 1 .rollback,
    .work 2 (.query 3 3), .work 2 .rollback,
    .work 3 (.query 4 4), .env (.setEndpointStatus 0 false), .work 3 .emit, .work 3 (.commit 4) ]

def decidedTwiceEnd : Config DomainTransaction EventStore :=
  (domainTransactions {}).system.replayEnd (fun _ _ => True) decidedTwice ⟨{}, []⟩

theorem committed_events_decidedTwice :
    decidedTwiceEnd.store.emissions.length = 2 ∧
      decidedTwiceEnd.store.eventCount .approvalApproved 0 = 1 ∧
      decidedTwiceEnd.store.eventCount .approvalRejected 0 = 0 ∧
      decidedTwiceEnd.store.deliveries.length = 2 ∧ decidedTwiceEnd.store.Linked := by
  have hinit : (domainTransactions {}).system.initial ⟨{}, []⟩ := ⟨rfl, rfl⟩
  have hreach : (domainTransactions {}).system.Reach (fun _ _ => True) decidedTwiceEnd :=
    System.reach_replayEnd (.init hinit) decidedTwice
  obtain ⟨steps, hrun⟩ := hreach.run
  have hlaw := committed_events hrun
  refine ⟨by decide, ?_, ?_, by decide, hlaw.2.2.2⟩
  · exact (hlaw.1 .approvalApproved 0).trans (by decide)
  · exact (hlaw.1 .approvalRejected 0).trans (by decide)

end SupportPilot.Webhooks
