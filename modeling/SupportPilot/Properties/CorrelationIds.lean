import SupportPilot.Library.Growth
import SupportPilot.Properties.TelemetryTransparency
import Mathlib.Logic.Relation

/-!
# What requests and tasks leave behind

Records and messages are only added, and spans nest, whatever the telemetry libraries raise. What
is added in a request whose code takes the id along has the id of its response. Over whole runs no
id is ever found that is not of the allowed form, and none is missing but on a record of code that
runs in a thread of its own or around the middlewares.
-/

namespace SupportPilot.Common

open Library Observability

variable {β τ ε α γ : Type}

/-! ## Trails -/

/-- A record that is written under an id with `R`. -/
def StampedBy (R : Option String → Prop) (r : LogRecord) : Prop :=
  ∃ id, R id ∧ r.correlationId = filtered id

/-- From `p` to `q` records were added under ids with `R`, and messages whose ids have `M`. -/
structure Noted (R M : Option String → Prop) (p q : Process β τ) : Prop where
  records : Grown (StampedBy R) p.records q.records
  warnings : Grown (StampedBy R) p.warnings q.warnings
  published : Grown M p.published q.published
  correlationId : q.correlationId = p.correlationId

/-- The spans that were entered on the way were left again. -/
structure Trail (R M : Option String → Prop) (p q : Process β τ) : Prop
    extends Noted R M p q where
  spans : ∃ word, Balanced word ∧ q.spans = p.spans ++ word

variable {R M : Option String → Prop}

namespace Noted

variable {p q r : Process β τ}

theorem trans (h : Noted R M p q) (h' : Noted R M q r) : Noted R M p r :=
  ⟨h.records.trans h'.records, h.warnings.trans h'.warnings, h.published.trans h'.published,
    h'.correlationId.trans h.correlationId⟩

end Noted

namespace Trail

variable {p q r : Process β τ}

theorem of_noted (h : Noted R M p q) (hspans : q.spans = p.spans) : Trail R M p q :=
  ⟨h, [], .nil, by rw [hspans, List.append_nil]⟩

theorem refl (p : Process β τ) : Trail R M p p :=
  of_noted ⟨.refl _, .refl _, .refl _, rfl⟩ rfl

theorem trans (h : Trail R M p q) (h' : Trail R M q r) : Trail R M p r := by
  obtain ⟨word, hword, hspans⟩ := h.spans
  obtain ⟨word', hword', hspans'⟩ := h'.spans
  exact ⟨h.toNoted.trans h'.toNoted, word ++ word', hword.append hword',
    by rw [hspans', hspans, List.append_assoc]⟩

theorem warn (hR : R p.correlationId) (event : String) : Trail R M p (warn event p) :=
  of_noted ⟨.refl _, .snoc _ ⟨_, hR, rfl⟩, .refl _, rfl⟩ rfl

theorem drawn (p : Process β τ) : Trail R M p { p with drawn := p.drawn + 1 } :=
  of_noted ⟨.refl _, .refl _, .refl _, rfl⟩ rfl

/-- The libraries move on without a trace. -/
theorem telemetry (t : τ) (h : Trail R M { p with telemetry := t } q) : Trail R M p q :=
  ⟨⟨h.records, h.warnings, h.published, h.correlationId⟩, h.spans⟩

end Trail

/-! ## Calls of the libraries -/

section Calls

variable (T : Telemetry τ) {p : Process β τ}

theorem trail_tryTrace (hR : R p.correlationId) (call : TracingCall) (warning : String) :
    Trail R M p (tryTrace T call warning p).2 := by
  unfold tryTrace
  split
  · exact .telemetry _ (.refl _)
  · rename_i t _
    exact .telemetry t (.warn (p := { p with telemetry := t }) hR warning)

theorem trail_tryTraces (warning : String) (calls : List TracingCall) (hR : R p.correlationId) :
    Trail R M p (tryTraces T warning calls p) := by
  induction calls generalizing p with
  | nil => exact .refl p
  | cons call rest ih =>
    have hcall := trail_tryTrace (M := M) T hR call warning
    rw [tryTraces]
    split
    · rename_i p' heq
      rw [heq] at hcall
      exact hcall.trans (ih (hcall.correlationId ▸ hR))
    · rename_i p' heq
      rw [heq] at hcall
      exact hcall

theorem trail_tryRecord (warning : String) (calls : List MetricCall) (hR : R p.correlationId) :
    Trail R M p (tryRecord T warning calls p) := by
  induction calls generalizing p with
  | nil => exact .refl p
  | cons call rest ih =>
    rw [tryRecord]
    split
    · exact .telemetry _ (ih hR)
    · rename_i t _
      exact .telemetry t (.warn (p := { p with telemetry := t }) hR warning)

theorem trail_recordAll (failure : ε) (calls : List MetricCall) :
    Trail R M p (recordAll T failure calls p).2 := by
  induction calls generalizing p with
  | nil => exact .refl p
  | cons call rest ih =>
    rw [recordAll]
    split
    · exact .telemetry _ ih
    · exact .telemetry _ (.refl _)

theorem trail_onSpan (warning : String) (calls : Handle → List TracingCall)
    (span : Option Handle) (hR : R p.correlationId) :
    Trail R M p (onSpan T warning calls span p) := by
  cases span with
  | none => exact .refl p
  | some s => exact trail_tryTraces T warning (calls s) hR

end Calls

/-! ## Code around code -/

/-- Under an id with `R` the code leaves a trail with `R` and `M`. -/
def Leaves (R M : Option String → Prop) (m : Py β τ ε α) : Prop :=
  ∀ p, R p.correlationId → Trail R M p (m p).2

namespace Leaves

variable {m : Py β τ ε α}

theorem bind {f : α → Py β τ ε γ} (hm : Leaves R M m) (hf : ∀ a, Leaves R M (f a)) :
    Leaves R M (Py.bind m f) := by
  intro p hR
  have hfirst := hm p hR
  unfold Py.bind
  split
  · rename_i a p' heq
    rw [heq] at hfirst
    exact hfirst.trans (hf a p' (hfirst.correlationId ▸ hR))
  · rename_i e p' heq
    rw [heq] at hfirst
    exact hfirst

theorem handle {f : Raised ε → Py β τ ε α} (hm : Leaves R M m) (hf : ∀ e, Leaves R M (f e)) :
    Leaves R M (Py.handle m f) := by
  intro p hR
  have hfirst := hm p hR
  unfold Py.handle
  split
  · rename_i a p' heq
    rw [heq] at hfirst
    exact hfirst
  · rename_i e p' heq
    rw [heq] at hfirst
    exact hfirst.trans (hf e p' (hfirst.correlationId ▸ hR))

theorem after {note : Except (Raised ε) α → Process β τ → Process β τ} (hm : Leaves R M m)
    (hnote : ∀ out q, R q.correlationId → Trail R M q (note out q)) :
    Leaves R M (Py.after m note) :=
  fun p hR =>
    have hfirst := hm p hR
    hfirst.trans (hnote _ _ (hfirst.correlationId ▸ hR))

/-- Within a scope only the id of the scope counts. -/
theorem correlationScope {id : Option String} (hm : Leaves R M m) (hid : R id) (p : Process β τ) :
    Trail R M p (correlationScope id m p).2 :=
  have h := hm { p with correlationId := id } hid
  ⟨⟨h.records, h.warnings, h.published, rfl⟩, h.spans⟩

end Leaves

section Spans

variable (T : Telemetry τ) (cfg : TracingSettings)

theorem leaves_safeSpan {name : String} {kind : SpanKind} {parent : Option Handle}
    {attributes : Headers} {body : Option Handle → Py β τ ε α}
    (hbody : ∀ span, Leaves R M (body span)) :
    Leaves R M (safeSpan T cfg name kind parent attributes body) := by
  intro p hR
  unfold safeSpan
  split
  · have hstart := trail_tryTrace (M := M) T hR (.startSpan name kind parent attributes)
      "tracing_span_start_failed"
    split
    · rename_i p' heq
      rw [heq] at hstart
      exact hstart.trans (hbody none p' (hstart.correlationId ▸ hR))
    · rename_i span p' heq
      rw [heq] at hstart
      have hR' : R p'.correlationId := hstart.correlationId ▸ hR
      have hinside := hbody (some span) { p' with spans := p'.spans ++ [.enter span] } hR'
      refine hstart.trans ?_
      -- the span encloses the balanced word of its body
      generalize body (some span) { p' with spans := p'.spans ++ [.enter span] } = out at hinside ⊢
      obtain ⟨word, hword, hspans⟩ := hinside.spans
      have hleft : Trail R M p' { out.2 with spans := out.2.spans ++ [.leave span] } :=
        ⟨⟨hinside.records, hinside.warnings, hinside.published, hinside.correlationId⟩,
          _, hword.enclose span, by rw [hspans]; simp⟩
      exact hleft.trans (trail_tryTrace T (hleft.correlationId ▸ hR') _ _)
  · exact hbody none p hR

theorem leaves_taskSpan {taskName : String} {headers : Headers}
    {body : Option Handle → Py β τ ε α} (hbody : ∀ span, Leaves R M (body span)) :
    Leaves R M (taskSpan T cfg taskName headers body) := by
  intro p hR
  have hextract : Trail R M p (extractContext T cfg headers p).2 := by
    unfold extractContext
    split
    · exact trail_tryTrace T hR _ _
    · exact .refl p
  exact hextract.trans (leaves_safeSpan T cfg hbody _ (hextract.correlationId ▸ hR))

end Spans

/-! ## The ids that are bound -/

/-- A task that is given this id has an id with `R`. -/
def Binds (R : Option String → Prop) (uuid4 : Nat → Uuid) (given : Option String) : Prop :=
  (∀ id, given = some id → id ≠ "" → R (some id)) ∧
    (filtered given = "" → ∀ n, R (some (uuid4 n).text))

theorem boundCorrelationId_ok {uuid4 : Nat → Uuid} {given : Option String}
    (hgiven : Binds R uuid4 given) (p : Process β τ) :
    ∃ id p', (boundCorrelationId uuid4 given : Py β τ ε String) p = (.ok id, p') ∧
      R (some id) ∧ Trail R M p p' := by
  have hdrawn : filtered given = "" → ∃ id p', (newCorrelationId uuid4 : Py β τ ε String) p =
      (.ok id, p') ∧ R (some id) ∧ Trail R M p p' := fun hempty =>
    ⟨_, _, rfl, hgiven.2 hempty _, .drawn p⟩
  cases given with
  | none => exact hdrawn rfl
  | some id =>
    rw [boundCorrelationId]
    split
    · rename_i hempty
      exact hdrawn hempty
    · rename_i hid
      exact ⟨id, p, rfl, hgiven.1 id rfl hid, .refl p⟩

section Machine

variable (P : Platform τ)

theorem trail_correlatedTask {name : String} {headers : Headers} {given : Option String}
    {body : Py β τ ε α} (hgiven : Binds R P.uuid4 given) (hbody : Leaves R M body)
    (p : Process β τ) : Trail R M p (correlatedTask P name headers given body p).2 := by
  obtain ⟨id, p', hbound, hid, htrail⟩ := boundCorrelationId_ok (ε := ε) (M := M) hgiven p
  have hobserve : ∀ span outcome (q : Process β τ), R q.correlationId →
      Trail R M q (observeTask P name span outcome q) := by
    intro span outcome q hR
    have hsamples := trail_tryRecord (M := M) P.telemetry "celery_metrics_recording_failed"
      (observeCeleryTask name outcome) hR
    exact hsamples.trans (trail_onSpan P.telemetry _ _ span (hsamples.correlationId ▸ hR))
  simp only [correlatedTask, Py.bind, hbound]
  refine htrail.trans (Leaves.correlationScope ?_ hid p')
  refine leaves_taskSpan P.telemetry P.settings fun span => hbody.after fun out q hR => ?_
  rcases out with (_ | e | _) | a
  · exact hobserve span "retry" q hR
  · exact hobserve span "failure" q hR
  · exact .refl q
  · exact hobserve span "success" q hR

namespace Code

/-- The messages and the tasks of the code take the current id along, which no other thread has. -/
def Carries {α : Type} : Code β ε α → Prop
  | .publish carried => carried = true
  | .bind first next => first.Carries ∧ ∀ a, (next a).Carries
  | .handle body handler => body.Carries ∧ ∀ e, (handler e).Carries
  | .span _ _ body => body.Carries
  | .task _ _ carried body => carried = true ∧ body.Carries
  | .thread _ => False
  | _ => True

/-- No part of the code runs in another thread. -/
def SingleThreaded {α : Type} : Code β ε α → Prop
  | .bind first next => first.SingleThreaded ∧ ∀ a, (next a).SingleThreaded
  | .handle body handler => body.SingleThreaded ∧ ∀ e, (handler e).SingleThreaded
  | .span _ _ body | .task _ _ _ body => body.SingleThreaded
  | .thread _ => False
  | _ => True

theorem Carries.singleThreaded {c : Code β ε α} (hc : c.Carries) : c.SingleThreaded := by
  induction c with
  | bind first next ihfirst ihnext => exact ⟨ihfirst hc.1, fun a => ihnext a (hc.2 a)⟩
  | handle body handler ihbody ihhandler => exact ⟨ihbody hc.1, fun e => ihhandler e (hc.2 e)⟩
  | span name attributes body ih => exact ih hc
  | task name headers carried body ih => exact ih hc.2
  | thread body => exact hc
  | _ => trivial

/-- Code leaves a trail with `R` and `M` when an id with `R` may be taken along, where none is
taken along none is needed, and a thread of its own needs none either. -/
theorem run_leaves {c : Code β ε α} (hcarried : ∀ id, R id → M id ∧ Binds R P.uuid4 id)
    (hfresh : c.Carries ∨ M none ∧ Binds R P.uuid4 none) (hthread : c.SingleThreaded ∨ R none)
    (open' : List (Option Handle)) : Leaves R M (c.run P open') := by
  induction c generalizing open' with
  | step f => exact fun p _ => .of_noted ⟨.refl _, .refl _, .refl _, rfl⟩ rfl
  | log event => exact fun p hR => .of_noted ⟨.snoc _ ⟨_, hR, rfl⟩, .refl _, .refl _, rfl⟩ rfl
  | publish carried =>
    intro p hR
    have hinject := trail_tryTrace (M := M) P.telemetry hR .inject
      "tracing_context_inject_failed"
    have hmessage : ∀ q : Process β τ, q.correlationId = p.correlationId →
        M (if carried then q.correlationId else none) := by
      intro q hq
      cases carried with
      | true => exact hq ▸ (hcarried _ hR).1
      | false => exact (hfresh.resolve_left Bool.false_ne_true).1
    simp only [Code.run, Common.publish]
    split
    · exact hinject.trans (.of_noted ⟨.refl _, .refl _,
        .snoc _ (hmessage _ hinject.correlationId), rfl⟩ rfl)
    · exact .of_noted ⟨.refl _, .refl _, .snoc _ (hmessage p rfl), rfl⟩ rfl
  | bind first next ihfirst ihnext =>
    exact (ihfirst (hfresh.imp_left And.left) (hthread.imp_left And.left) open').bind fun a =>
      ihnext a (hfresh.imp_left fun h => h.2 a) (hthread.imp_left fun h => h.2 a) open'
  | handle body handler ihbody ihhandler =>
    exact (ihbody (hfresh.imp_left And.left) (hthread.imp_left And.left) open').handle fun e =>
      ihhandler e (hfresh.imp_left fun h => h.2 e) (hthread.imp_left fun h => h.2 e) open'
  | observe warning calls => exact fun p hR => trail_tryRecord P.telemetry warning calls hR
  | record failure calls => exact fun p _ => trail_recordAll P.telemetry failure calls
  | span name attributes body ih =>
    exact leaves_safeSpan P.telemetry P.settings fun span => ih hfresh hthread (span :: open')
  | finalize depth outcome isError extraAttributes =>
    exact fun p hR => trail_onSpan P.telemetry _ _ _ hR
  | task name headers carried body ih =>
    intro p hR
    have hgiven : Binds R P.uuid4 (if carried then p.correlationId else none) := by
      cases carried with
      | true => exact (hcarried _ hR).2
      | false => exact (hfresh.resolve_left fun h => Bool.false_ne_true h.1).2
    exact trail_correlatedTask P hgiven (ih (hfresh.imp_left And.right) hthread []) p
  | thread body ih =>
    -- within the thread the current id is none
    intro p _
    have hnone : R none := hthread.resolve_left id
    exact (ih (.inr (hcarried none hnone)) (.inr hnone) []).correlationScope hnone p

end Code

/-! ## Requests -/

theorem leaves_handlers (request : Request) {view : Py β τ ε Response} (hview : Leaves R M view) :
    Leaves R M (tracingMiddleware P request (structuredLoggingMiddleware
      (metricsMiddleware P request view))) := by
  have hmetrics : Leaves R M (metricsMiddleware P request view) := by
    refine hview.after fun out q hR => ?_
    rcases out with e | response
    · exact .refl q
    · simp only
      split
      · exact .refl q
      · exact trail_tryRecord P.telemetry _ _ hR
  have hlogged : Leaves R M (structuredLoggingMiddleware (metricsMiddleware P request view)) :=
    hmetrics.bind fun response => .bind
      (fun p hR => .of_noted ⟨.snoc _ ⟨_, hR, rfl⟩, .refl _, .refl _, rfl⟩ rfl)
      fun _ p _ => .refl p
  intro p hR
  unfold tracingMiddleware
  split
  · exact hlogged p hR
  · have hextract : Trail R M p
        (extractContext P.telemetry P.settings (w3cCarrier request) p).2 := by
      unfold extractContext
      split
      · exact trail_tryTrace P.telemetry hR _ _
      · exact .refl p
    refine hextract.trans (leaves_safeSpan P.telemetry P.settings (fun span =>
      hlogged.after fun out q hR => ?_) _ (hextract.correlationId ▸ hR))
    rcases out with (_ | e | _) | response
    · exact trail_onSpan P.telemetry _ _ span hR
    · exact trail_onSpan P.telemetry _ _ span hR
    · exact .refl q
    · exact trail_onSpan P.telemetry _ _ span hR

theorem allowedRequestId_text (u : Uuid) : allowedRequestId u.text = true := by
  have hdigit : ∀ d, requestIdChar (Uuid.hexDigit d) = true := by decide
  have hchars : u.text.toList.all requestIdChar = true := by
    refine List.all_eq_true.mpr fun c hc => ?_
    by_cases hhyphen : c = '-'
    · rw [hhyphen]
      decide
    · have hhex : c ∈ u.hex := by
        rw [← Uuid.filter_text]
        exact List.mem_filter.mpr ⟨hc, decide_eq_true hhyphen⟩
      obtain ⟨d, -, rfl⟩ := List.mem_map.mp hhex
      exact hdigit d
  have hlength : u.text.toList.length = 36 := by
    have hhex : u.hex.length = 32 := (List.length_map _).trans u.length_digits
    simp [Uuid.text, hhex]
  rw [allowedRequestId, hchars, hlength]
  decide

/-- The id of a request is allowed, and it is the one of the header when that is. -/
theorem validateRequestId_ok (uuid4 : Nat → Uuid) (header : Option String) (p : Process β τ) :
    ∃ id p', (validateRequestId uuid4 header : Py β τ ε String) p = (.ok id, p') ∧
      allowedRequestId id = true ∧
      (∀ given, header = some given → allowedRequestId given = true → id = given) ∧
      ∀ R M, Trail R M p p' := by
  cases header with
  | none => exact ⟨_, _, rfl, allowedRequestId_text _, nofun, fun _ _ => .drawn p⟩
  | some given =>
    rw [validateRequestId]
    split
    · rename_i hallowed
      exact ⟨given, p, rfl, hallowed, fun _ h _ => Option.some.inj h, fun _ _ => .refl p⟩
    · rename_i hallowed
      exact ⟨_, _, rfl, allowedRequestId_text _,
        fun _ h hgiven => absurd (Option.some.inj h ▸ hgiven) hallowed, fun _ _ => .drawn p⟩

/-- A request has one id: its handlers run under it, and the response brings it back. -/
theorem handleRequest_bound (request : Request) (view : Py β τ ε Response) (p : Process β τ) :
    ∃ id, allowedRequestId id = true ∧
      (∀ given, request.requestIdHeader = some given → allowedRequestId given = true →
        id = given) ∧
      (∀ response, (handleRequest P request view p).1 = .ok response →
        response.requestIdHeader = some id) ∧
      ∀ R M, R (some id) → Leaves R M view → Trail R M p (handleRequest P request view p).2 := by
  obtain ⟨id, p', hid, hallowed, hheader, hdrawn⟩ :=
    validateRequestId_ok (ε := ε) P.uuid4 request.requestIdHeader p
  refine ⟨id, hallowed, hheader, ?_, ?_⟩
  · intro response
    simp only [handleRequest, requestIdMiddleware, Py.bind, hid]
    split
    · rintro ⟨⟩
      rfl
    · rintro ⟨⟩
  · intro R M hR hview
    refine (hdrawn R M).trans ?_
    have hscope := (leaves_handlers P request hview).correlationScope hR p'
    simp only [handleRequest, requestIdMiddleware, Py.bind, hid]
    split
    · rename_i heq
      rw [heq] at hscope
      exact hscope
    · rename_i heq
      rw [heq] at hscope
      exact hscope

/-- Every span that is entered in a request or a task is left again, the last entered first. -/
theorem spans_balanced (request : Request) (view : Code β ε Response) (name : String)
    (headers : Headers) (given : Option String) (body : Code β ε α) (p : Process β τ) :
    (∃ word, Balanced word ∧
        (handleRequest P request (view.run P []) p).2.spans = p.spans ++ word) ∧
      ∃ word, Balanced word ∧
        (correlatedTask P name headers given (body.run P []) p).2.spans = p.spans ++ word := by
  -- no id is asked for anything
  have hbinds : ∀ id, Binds (fun _ => True) P.uuid4 id := fun _ =>
    ⟨fun _ _ _ => trivial, fun _ _ => trivial⟩
  have hleaves : ∀ {δ : Type} (c : Code β ε δ), Leaves (fun _ => True) (fun _ => True)
      (c.run P []) := fun c =>
    c.run_leaves P (fun id _ => ⟨trivial, hbinds id⟩) (.inr ⟨trivial, hbinds none⟩)
      (.inr trivial) []
  obtain ⟨_, -, -, -, hrequest⟩ := handleRequest_bound P request (view.run P []) p
  exact ⟨(hrequest _ _ trivial (hleaves view)).spans,
    (trail_correlatedTask P (hbinds given) (hleaves body) p).spans⟩

/-- In a request whose code takes the id along everything that is added has one id: the one that the
response brings back, and the one of the header when that is allowed. -/
theorem handleRequest_one_id (request : Request) (view : Code β ε Response) (hview : view.Carries)
    (p : Process β τ) :
    ∃ id, allowedRequestId id = true ∧
      (∀ given, request.requestIdHeader = some given → allowedRequestId given = true →
        id = given) ∧
      (∀ response, (handleRequest P request (view.run P []) p).1 = .ok response →
        response.requestIdHeader = some id) ∧
      Grown (·.correlationId = id) p.records
        (handleRequest P request (view.run P []) p).2.records ∧
      Grown (·.correlationId = id) p.warnings
        (handleRequest P request (view.run P []) p).2.warnings ∧
      Grown (· = some id) p.published
        (handleRequest P request (view.run P []) p).2.published := by
  obtain ⟨id, hallowed, hheader, hresponse, htrail⟩ :=
    handleRequest_bound P request (view.run P []) p
  have hcarried : ∀ i, i = some id → i = some id ∧ Binds (· = some id) P.uuid4 i := by
    rintro i rfl
    refine ⟨rfl, fun _ h _ => h.symm, fun hempty => ?_⟩
    have hid : id = "" := hempty
    rw [hid] at hallowed
    cases hallowed
  have h := htrail (· = some id) (· = some id) rfl
    (view.run_leaves P hcarried (.inl hview) (.inl hview.singleThreaded) [])
  have hstamp : ∀ r : LogRecord, StampedBy (· = some id) r → r.correlationId = id := by
    rintro r ⟨i, rfl, hr⟩
    exact hr
  exact ⟨id, hallowed, hheader, hresponse, h.records.mono hstamp, h.warnings.mono hstamp,
    h.published⟩

end Machine

/-- A view that counts, says so, and publishes a message with the current id. -/
def publishingView : Code Nat Unit Response :=
  .bind (.log "counted") fun _ => .bind (.publish true) fun _ => .step fun n => (.ok {}, n + 1)

theorem publishingView_carries : publishingView.Carries :=
  ⟨trivial, fun _ => ⟨rfl, fun _ => trivial⟩⟩

def freshProcess : Process Nat Nat := { application := 0, telemetry := 0 }

theorem publishingView_one_id :
    ∃ id, allowedRequestId id = true ∧
      (∀ given, ({} : Request).requestIdHeader = some given → allowedRequestId given = true →
        id = given) ∧
      (∀ response, (handleRequest brokenTracing {} (publishingView.run brokenTracing [])
        freshProcess).1 = .ok response → response.requestIdHeader = some id) ∧
      Grown (·.correlationId = id) freshProcess.records
        (handleRequest brokenTracing {} (publishingView.run brokenTracing [])
          freshProcess).2.records ∧
      Grown (·.correlationId = id) freshProcess.warnings
        (handleRequest brokenTracing {} (publishingView.run brokenTracing [])
          freshProcess).2.warnings ∧
      Grown (· = some id) freshProcess.published
        (handleRequest brokenTracing {} (publishingView.run brokenTracing [])
          freshProcess).2.published :=
  handleRequest_one_id brokenTracing {} publishingView publishingView_carries freshProcess

/-! ## Runs of the system -/

/-- All that the processes have left behind. -/
structure Site (β : Type) extends World β where
  warnings : List LogRecord := []
  responses : List Response := []

namespace Site

/-- A process at the start of a request or of a task, with any telemetry. -/
def process (s : Site β) (t : τ) : Process β τ :=
  { toWorld := s.toWorld, telemetry := t, warnings := s.warnings }

def after (s : Site β) (p : Process β τ) (responses : List Response) : Site β :=
  { toWorld := p.toWorld, warnings := p.warnings, responses := s.responses ++ responses }

end Site

/-- A request with any header, or a task: from the beat with no id, or one that was published. A
message may be delivered again and again. Where code may be `detached` from them, its parts may run
in other threads, and code may run under no id: a handler that outlives its call, or what the
server does around the middlewares. -/
inductive Step (P : Platform τ) (ε : Type) (detached : Prop) : Site β → Site β → Prop
  | request (s : Site β) (t : τ) (request : Request) (view : Code β ε Response)
      (hview : view.SingleThreaded ∨ detached) :
      Step P ε detached s (s.after (handleRequest P request (view.run P []) (s.process t)).2
        (handleRequest P request (view.run P []) (s.process t)).1.toOption.toList)
  | task (s : Site β) (t : τ) (name : String) (headers : Headers) (given : Option String)
      (body : Code β ε Unit) (hgiven : given = none ∨ given ∈ s.published)
      (hbody : body.SingleThreaded ∨ detached) :
      Step P ε detached s
        (s.after (correlatedTask P name headers given (body.run P []) (s.process t)).2 [])
  | outside (s : Site β) (t : τ) (body : Code β ε Unit) (hdetached : detached) :
      Step P ε detached s (s.after (body.run P [] (s.process t)).2 [])

/-- Records have allowed ids, or none where code may be detached; messages have allowed ids or none;
and responses have allowed ids. -/
structure WellStamped (detached : Prop) (s : Site β) : Prop where
  records : ∀ r ∈ s.records ++ s.warnings,
    allowedRequestId r.correlationId = true ∨ detached ∧ r.correlationId = ""
  published : ∀ id ∈ s.published, ∀ value, id = some value → allowedRequestId value = true
  responses : ∀ r ∈ s.responses, ∃ value, r.requestIdHeader = some value ∧
    allowedRequestId value = true

section Runs

variable (P : Platform τ)

/-- What is bound around a record: an allowed id, or none where code may be detached. -/
def Bound (detached : Prop) (id : Option String) : Prop :=
  (∃ value, id = some value ∧ allowedRequestId value = true) ∨ detached ∧ id = none

/-- What a message takes along: an allowed id or none. -/
def Taken (id : Option String) : Prop := ∀ value, id = some value → allowedRequestId value = true

variable {detached : Prop}

theorem binds_of_taken {given : Option String} (h : Taken given) :
    Binds (Bound detached) P.uuid4 given := by
  refine ⟨?_, fun _ n => .inl ⟨_, rfl, allowedRequestId_text _⟩⟩
  rintro id rfl -
  exact .inl ⟨id, rfl, h id rfl⟩

theorem run_allowed (c : Code β ε α) (hc : c.SingleThreaded ∨ detached) :
    Leaves (Bound detached) Taken (c.run P []) := by
  have htaken : ∀ id, Bound detached id → Taken id := by
    rintro id (⟨value, rfl, hvalue⟩ | ⟨-, rfl⟩)
    · rintro _ ⟨⟩
      exact hvalue
    · exact nofun
  have hnone : Taken none := nofun
  exact c.run_leaves P (fun id hid => ⟨htaken id hid, binds_of_taken P (htaken id hid)⟩)
    (.inr ⟨hnone, binds_of_taken P hnone⟩) (hc.imp_right fun h => .inr ⟨h, rfl⟩) []

theorem WellStamped.of_trail {s : Site β} (hs : WellStamped detached s) {t : τ} {p : Process β τ}
    (h : Trail (Bound detached) Taken (s.process t) p) {responses : List Response}
    (hresponses : ∀ r ∈ responses, ∃ value, r.requestIdHeader = some value ∧
      allowedRequestId value = true) : WellStamped detached (s.after p responses) := by
  have hstamp : ∀ r : LogRecord, StampedBy (Bound detached) r →
      allowedRequestId r.correlationId = true ∨ detached ∧ r.correlationId = "" := by
    rintro r ⟨_, ⟨value, rfl, hvalue⟩ | ⟨hdetached, rfl⟩, hr⟩
    · exact .inl (hr ▸ hvalue)
    · exact .inr ⟨hdetached, hr⟩
  refine ⟨fun r hr => ?_, h.published.forall_mem hs.published, fun r hr => ?_⟩
  · rcases List.mem_append.mp hr with hr | hr
    · exact (h.records.mono hstamp).forall_mem
        (fun r hr => hs.records r (List.mem_append_left _ hr)) r hr
    · exact (h.warnings.mono hstamp).forall_mem
        (fun r hr => hs.records r (List.mem_append_right _ hr)) r hr
  · rcases List.mem_append.mp hr with hr | hr
    · exact hs.responses r hr
    · exact hresponses r hr

theorem WellStamped.step {s s' : Site β} (hs : WellStamped detached s)
    (h : Step P ε detached s s') : WellStamped detached s' := by
  cases h with
  | request t request view hview =>
    obtain ⟨id, hallowed, -, hresponse, htrail⟩ :=
      handleRequest_bound P request (view.run P []) (s.process t)
    refine hs.of_trail (htrail _ _ (.inl ⟨id, rfl, hallowed⟩) (run_allowed P view hview))
      fun r hr => ?_
    rcases hout : (handleRequest P request (view.run P []) (s.process t)).1 with e | response
    · rw [hout] at hr
      cases hr
    · rw [hout] at hr
      rw [List.mem_singleton.mp hr]
      exact ⟨id, hresponse response hout, hallowed⟩
  | task t name headers given body hgiven hbody =>
    have htaken : Taken given := by
      rintro id rfl
      exact hs.published _ (hgiven.resolve_left nofun) id rfl
    exact hs.of_trail
      (trail_correlatedTask P (binds_of_taken P htaken) (run_allowed P body hbody) _)
      fun _ h => absurd h List.not_mem_nil
  | outside t body hdetached =>
    exact hs.of_trail (run_allowed P body (.inr hdetached) _ (.inr ⟨hdetached, rfl⟩))
      fun _ h => absurd h List.not_mem_nil

end Runs

end SupportPilot.Common
