import SupportPilot.ChannelIngress.Accounting

/-!
# One message and one run for each event

Over any interleaving of submissions, task deliveries and sweeps an event is stored once and
leads to at most one message with one run. An attempt that fails leaves nothing behind, unless
the publication of the run's task raises after the commit.
-/

namespace SupportPilot.ChannelIngress

open Library

variable {lower : String → String} {cfg : IngressSettings} {s s' : Store} {c c' : Ingress}
  {i d : Nat} {e event : InboundChannelEvent} {endpoint : ChannelEndpoint} {w w' : Worker}
  {p p' : Submission} {a : IngressAction} {q : WorkerPoint} {l : IngressLabel}

/-! ## What a failed attempt leaves -/

/-- The publication of the run's task does not raise. -/
def Dispatched (_ : Ingress) : IngressLabel → Prop
  | .work _ (.deliver _ dispatched) => dispatched = true
  | _ => True

instance (c : Ingress) (l : IngressLabel) : Decidable (Dispatched c l) := by
  unfold Dispatched
  split <;> infer_instance

abbrev History := List (Ingress × IngressLabel × Ingress)

/-- The steps of a process have left the written tables as they were. -/
def PersistsNothing (steps : History) (i : Nat) : Prop :=
  ∀ (t : Ingress) (a : IngressAction) (t' : Ingress), (t, .work i a, t') ∈ steps →
    t'.store.persisted = t.store.persisted

/-- An attempt that ends `FAILED` has persisted none of its writes. -/
def FailedPersistsNothing (steps : History) (c : Ingress) : Prop :=
  ∀ (i : Nat) (w : Worker), c.procs[i]? = some (.worker w) → w.point = .failed →
    PersistsNothing steps i

/-- A step that ends elsewhere than in `PROCESSED` leaves the written tables alone. -/
theorem WorkerEffect.persisted (h : WorkerEffect lower s w a s' q) (hq : q ≠ .processed)
    (hdispatched : ∀ now dispatched, a = .deliver now dispatched → dispatched = true) :
    s'.persisted = s.persisted := by
  cases h with
  | quiet _ hpersisted => exact hpersisted
  | claimed => rfl
  | delivered =>
    rw [hdispatched _ _ rfl] at hq
    exact absurd rfl hq
  | markedFailed => rfl

/-- Only a worker that has ended `PROCESSED` has changed the written tables. -/
structure QuietHistory (steps : History) (c : Ingress) : Prop where
  bound : ∀ (t : Ingress) (i : Nat) (a : IngressAction) (t' : Ingress),
    (t, .work i a, t') ∈ steps → i < c.procs.length
  quiet : ∀ (i : Nat) (w : Worker), c.procs[i]? = some (.worker w) → w.point ≠ .processed →
    PersistsNothing steps i

theorem quietHistory {steps : History}
    (h : (ingress lower cfg).system.Run Dispatched steps c) : QuietHistory steps c := by
  refine System.Run.invariant ?_ ?_ h
  · intro c _
    exact ⟨nofun, fun _ _ _ _ => nofun⟩
  · intro steps c l c' _ hc hp hstep
    obtain ⟨hbound, hquiet⟩ := hc
    cases l with
    | env label =>
      obtain ⟨s', started, hout, rfl⟩ := Program.step_env hstep
      obtain ⟨-, hstarted⟩ := ingressStep_cases hout
      have hold : ∀ {t i a t'}, (t, .work i a, t') ∈
          (c, Label.env label, ⟨s', c.procs ++ started.toList⟩) :: steps →
          (t, .work i a, t') ∈ steps := by
        intro t i a t' hmem
        rcases List.mem_cons.mp hmem with heq | hmem
        · cases heq
        · exact hmem
      refine ⟨fun t i a t' hmem => ?_, fun i w hw hpoint t a t' hmem => ?_⟩
      · have hlt := hbound t i a t' (hold hmem)
        simp only [List.length_append]
        omega
      · have hlt := hbound t i a t' (hold hmem)
        rw [List.getElem?_append_left hlt] at hw
        exact hquiet i w hw hpoint t a t' (hold hmem)
    | work j b =>
      obtain ⟨proc, s', proc', hproc, hout, rfl⟩ := Program.step_work hstep
      have hlt := (List.getElem?_eq_some_iff.mp hproc).1
      refine ⟨fun t i a t' hmem => ?_, fun i w hw hpoint t a t' hmem => ?_⟩
      · rw [List.length_set]
        rcases List.mem_cons.mp hmem with heq | hmem
        · cases heq
          exact hlt
        · exact hbound t i a t' hmem
      · by_cases hij : i = j
        · subst hij
          rw [List.getElem?_set_self hlt] at hw
          rcases work_cases hout with ⟨p, point, rfl, rfl, -⟩ | ⟨w₀, point, rfl, rfl, hcase⟩
          · cases hw
          · cases hw
            have hactive : w₀.point ≠ .processed := by
              intro hprocessed
              have hended := hcase.not_ended
              rw [hprocessed] at hended
              cases hended
            rcases List.mem_cons.mp hmem with heq | hmem
            · cases heq
              refine hcase.effect.persisted hpoint fun now dispatched hdeliver => ?_
              subst hdeliver
              exact hp
            · exact hquiet i w₀ hproc hactive t a t' hmem
        · rw [List.getElem?_set_ne (Ne.symm hij)] at hw
          rcases List.mem_cons.mp hmem with heq | hmem
          · cases heq
            exact absurd rfl hij
          · exact hquiet i w hw hpoint t a t' hmem

/-! ## Main results -/

/-- One event for each key, at most one message and one run for each event, and exactly one of
each, linked, once the event is `PROCESSED`. -/
structure IngressLaw (c : Ingress) : Prop where
  events : UniqueIndex InboundChannelEvent.uniqueKey c.store.events
  messages : ∀ d m m', MessageOf c.store d m → MessageOf c.store d m' → m = m'
  runs : ∀ d m m' r r', MessageOf c.store d m → MessageOf c.store d m' → RunOf c.store m r →
    RunOf c.store m' r' → r = r'
  processed : ∀ (d : Nat) (e : InboundChannelEvent), c.store.events[d]? = some e →
    e.status = .processed → Linked c.store d e

/-- A resubmission of a stored event changes nothing, and is accepted only with its digest. -/
def ResubmissionLaw (lower : String → String) (cfg : IngressSettings) (c : Ingress) : Prop :=
  ∀ (i d : Nat) (p : Submission) (e : InboundChannelEvent) (a : IngressAction) (c' : Ingress),
    c.procs[i]? = some (.submission p) → c.store.events[d]? = some e →
    e.endpoint = p.endpoint → e.providerEventId = p.canonical.providerEventId →
    (ingress lower cfg).system.step (.work i a) c = some c' →
    c'.store = c.store ∧ ∃ p', c'.procs[i]? = some (.submission p') ∧
      (p'.point = (if e.payloadDigest ≠ p.payloadDigest then .conflict else .accepted d) ∨
        p'.point = .raised)

theorem EventLaw.cases (h : EventLaw s d e) : Untouched s d e ∨ Linked s d e := by
  unfold EventLaw at h
  split at h
  · exact .inl h
  · exact .inl h
  · exact .inr h
  · exact h

/-- Whatever message an event has, the event is linked to it. -/
theorem Accounted.linked {m : Nat} (hc : Accounted c) (hm : MessageOf c.store d m) :
    ∃ e r row run, LinkedTo c.store d e m r row run := by
  have hlt := hc.bounded.messages d m hm
  obtain ⟨e, he⟩ : ∃ e, c.store.events[d]? = some e := ⟨_, List.getElem?_eq_getElem hlt⟩
  rcases (hc.laws d e he).cases with hnone | ⟨m', r, row, run, hl⟩
  · exact absurd hm (hnone.messages m)
  · obtain rfl := hl.onlyMessage m hm
    exact ⟨e, r, row, run, hl⟩

theorem Accounted.ingressLaw (hc : Accounted c) : IngressLaw c := by
  constructor
  · exact hc.unique
  · intro d m m' hm hm'
    obtain ⟨e, r, row, run, hl⟩ := hc.linked hm
    exact (hl.onlyMessage m' hm').symm
  · intro d m m' r r' hm hm' hr hr'
    obtain ⟨e, r₀, row, run, hl⟩ := hc.linked hm
    obtain rfl := hl.onlyMessage m' hm'
    rw [hl.onlyRun r hr, hl.onlyRun r' hr']
  · intro d e he hstatus
    have hlaw := hc.laws d e he
    simp only [EventLaw, hstatus] at hlaw
    exact hlaw

theorem Accounted.resubmissionLaw (hc : Accounted c) : ResubmissionLaw lower cfg c := by
  intro i d p e a c' hp he hendpoint hid hstep
  obtain ⟨proc, s', proc', hproc, hout, rfl⟩ := Program.step_work hstep
  rw [hp] at hproc
  cases hproc
  have hlt := (List.getElem?_eq_some_iff.mp hp).1
  rcases work_cases hout with ⟨p₀, point, heq, rfl, hcase⟩ | ⟨w, point, heq, -, -⟩
  · cases heq
    cases hcase with
    | missing hpoint hnone => exact absurd ⟨hendpoint, hid⟩ (findEvent_none hnone he)
    | @resolved _ d' event hfound hevent =>
      obtain ⟨hendpoint', hid'⟩ := findEvent_some hfound hevent
      have hkey : event.uniqueKey = e.uniqueKey := by
        rw [InboundChannelEvent.uniqueKey, InboundChannelEvent.uniqueKey, hendpoint, hid,
          hendpoint', hid']
      obtain rfl := hc.unique d d' e event _ he hevent rfl hkey
      rw [he] at hevent
      cases hevent
      exact ⟨rfl, _, List.getElem?_set_self hlt, .inl rfl⟩
    | refused => exact ⟨rfl, _, List.getElem?_set_self hlt, .inr rfl⟩
    | inserted hpoint haccepted hnone =>
      exact absurd ⟨hendpoint, hid⟩ (findEvent_none hnone he)
  · cases heq

/-- Over every run of submissions, task deliveries and sweeps, events are stored, answered and
processed once; and if no publication of a run's task raises after the commit, an attempt that
ends `FAILED` has persisted nothing. -/
theorem inbound_events_once (lower : String → String) (cfg : IngressSettings) :
    (∀ c, (ingress lower cfg).system.Reach (fun _ _ => True) c →
        IngressLaw c ∧ ResubmissionLaw lower cfg c) ∧
      ∀ steps c, (ingress lower cfg).system.Run Dispatched steps c →
        FailedPersistsNothing steps c := by
  refine ⟨fun c h => ⟨(accounted h).ingressLaw, (accounted h).resubmissionLaw⟩, ?_⟩
  intro steps c h i w hw hfailed
  exact (quietHistory h).quiet i w hw (by rw [hfailed]; nofun)

/-! ## Runs -/

/-- An event of a new customer, claimed by its worker. -/
def claimedEvent : List IngressLabel :=
  [.env (.createEndpoint
      { id := .replicate 0, workspace := 1, channel := .genericWebhook }),
    .env (.receiveWebhook 0 { eventId := "evt-1", sender := "cust-1", body := "hi" } "digest"),
    .work 0 .lookup, .work 0 (.insert 1 true), .env (.task 0), .work 1 (.claim 2),
    .work 1 .resolveIdentity]

/-- The endpoint stops accepting unknown customers before the event is processed. -/
def rejectedEvent : List IngressLabel :=
  claimedEvent.dropLast ++ [.env (.configureEndpoint 0 true .reject true),
    .work 1 .resolveIdentity, .work 1 (.markFailed 3)]

/-- The event is processed up to its commit. -/
def resolvedEvent : List IngressLabel :=
  claimedEvent ++ [.work 1 .createCustomer, .work 1 .findConversation,
    .work 1 .createConversation]

def ingressEnd (permits : Ingress → IngressLabel → Prop) [∀ c l, Decidable (permits c l)]
    (labels : List IngressLabel) : Ingress :=
  (ingress String.toLower {}).system.replayEnd permits labels ⟨{}, []⟩

theorem reaches_ingressEnd (permits : Ingress → IngressLabel → Prop)
    [∀ c l, Decidable (permits c l)] (labels : List IngressLabel) :
    (ingress String.toLower {}).system.Reach permits (ingressEnd permits labels) := by
  have hinit : (ingress String.toLower {}).system.initial ⟨{}, []⟩ := ⟨rfl, rfl⟩
  exact System.reach_replayEnd (.init hinit) labels

theorem inbound_events_once_rejected :
    IngressLaw (ingressEnd (fun _ _ => True) resolvedEvent) ∧
      ∃ steps, FailedPersistsNothing steps (ingressEnd Dispatched rejectedEvent) ∧
        (ingressEnd Dispatched rejectedEvent).procs[1]? =
          some (.worker { event := 0, point := .failed }) := by
  obtain ⟨hlaw, hfailed⟩ := inbound_events_once String.toLower {}
  obtain ⟨steps, hrun⟩ := (reaches_ingressEnd Dispatched rejectedEvent).run
  exact ⟨(hlaw _ (reaches_ingressEnd _ _)).1, steps, hfailed steps _ hrun, by decide⟩

/-- The broker refuses the task of the run after the commit, and the event becomes `FAILED`. -/
theorem failed_not_always_persists_nothing :
    ¬ ∀ (lower : String → String) (cfg : IngressSettings) (steps : History) (c : Ingress),
      (ingress lower cfg).system.Run (fun _ _ => True) steps c →
        FailedPersistsNothing steps c := by
  intro hlaw
  let M := (ingress String.toLower {}).system
  let t := ingressEnd (fun _ _ => True) resolvedEvent
  obtain ⟨steps, hrun⟩ := (reaches_ingressEnd (fun _ _ => True) resolvedEvent).run
  have hcommit : (M.step (.work 1 (.deliver 3 false)) t).map
      (fun t' => (t.store.messages.length, t'.store.messages.length,
        (M.step (.work 1 (.markFailed 4)) t').map fun t'' => t''.procs[1]?)) =
      some (0, 1, some (some (.worker { event := 0, point := .failed }))) := by decide
  obtain ⟨t', ht', hfields⟩ := Option.map_eq_some_iff.mp hcommit
  simp only [Prod.mk.injEq] at hfields
  obtain ⟨hbefore, hafter, hfailed⟩ := hfields
  obtain ⟨t'', ht'', hpoint⟩ := Option.map_eq_some_iff.mp hfailed
  have hrun' := (hrun.step trivial ht').step trivial ht''
  have hsame := hlaw String.toLower {} _ t'' hrun' 1 _ hpoint rfl t _ t'
    (List.mem_cons_of_mem _ List.mem_cons_self)
  have hmessages : t'.store.messages = t.store.messages := congrArg (·.2.2.2.1) hsame
  rw [hmessages, hbefore] at hafter
  cases hafter

end SupportPilot.ChannelIngress
