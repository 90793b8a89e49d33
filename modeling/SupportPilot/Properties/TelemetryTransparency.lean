import SupportPilot.Common.Requests

/-!
# Telemetry does not touch the application

Instrumented code does to the world what the same code does with no telemetry at all, whatever the
telemetry libraries raise. There the id of a record or of a message is the one of the innermost
request or task around it, and the context variable is back to what it was. Every span that is
entered is left again, the last entered first.
-/

namespace SupportPilot.Common

open Library Observability

variable {β τ ε α γ : Type}

/-! ## Code without telemetry -/

/-- What code does to the world, with the id that is bound around it. -/
abbrev Bare (β ε α : Type) := Option String → World β → Except (Raised ε) α × World β

/-- The id of a task: the one it is given, unless that is empty. -/
def bindId (uuid4 : Nat → Uuid) (given : Option String) (w : World β) : String × World β :=
  match given with
  | none => ((uuid4 w.drawn).text, { w with drawn := w.drawn + 1 })
  | some id =>
    if id = "" then ((uuid4 w.drawn).text, { w with drawn := w.drawn + 1 }) else (id, w)

namespace Bare

def bind (b : Bare β ε α) (g : α → Bare β ε γ) : Bare β ε γ := fun id w =>
  match b id w with
  | (.ok a, w') => g a id w'
  | (.error e, w') => (.error e, w')

def handle (b : Bare β ε α) (g : Raised ε → Bare β ε α) : Bare β ε α := fun id w =>
  match b id w with
  | (.ok a, w') => (.ok a, w')
  | (.error e, w') => g e id w'

/-- `b` with an id that is drawn when none is given. -/
def withId (uuid4 : Nat → Uuid) (given : Option String) (b : Bare β ε α) : Bare β ε α := fun _ w =>
  let (bound, w') := bindId uuid4 given w
  b (some bound) w'

end Bare

/-- The id of a request: the one of its header, if that is allowed. -/
def acceptId (uuid4 : Nat → Uuid) (header : Option String) (w : World β) : String × World β :=
  bindId uuid4 (header.filter allowedRequestId) w

namespace Code

def plain (uuid4 : Nat → Uuid) {α : Type} : Code β ε α → Bare β ε α
  | .step f => fun _ w =>
    let out := f w.application
    (out.1, { w with application := out.2 })
  | .log event => fun id w => (.ok (), { w with records := w.records ++ [⟨event, filtered id⟩] })
  | .publish carried => fun id w =>
    (.ok (), { w with published := w.published ++ [if carried then id else none] })
  | .bind first next => .bind (first.plain uuid4) fun a => (next a).plain uuid4
  | .handle body handler => .handle (body.plain uuid4) fun e => (handler e).plain uuid4
  | .observe _ _ | .record _ _ | .finalize _ _ _ _ => fun _ w => (.ok (), w)
  | .span _ _ body => body.plain uuid4
  | .task _ _ carried body => fun id =>
    (body.plain uuid4).withId uuid4 (if carried then id else none) id
  | .thread body => fun _ => body.plain uuid4 none

/-- The library takes the samples that have nothing around them. -/
def RecordsSafely (T : Telemetry τ) {α : Type} : Code β ε α → Prop
  | .record _ calls => ∀ call ∈ calls, ∀ t, (T.record call t).1 = true
  | .bind first next => first.RecordsSafely T ∧ ∀ a, (next a).RecordsSafely T
  | .handle body handler => body.RecordsSafely T ∧ ∀ e, (handler e).RecordsSafely T
  | .span _ _ body | .task _ _ _ body | .thread body => body.RecordsSafely T
  | _ => True

end Code

/-- A request without telemetry: the view runs under the id of the request, which is also in the
header of the response. -/
def plainRequest (uuid4 : Nat → Uuid) (request : Request) (view : Bare β ε Response) :
    Bare β ε Response := fun _ w =>
  let (id, w') := acceptId uuid4 request.requestIdHeader w
  match view (some id) w' with
  | (.ok response, w'') =>
    (.ok { response with requestIdHeader := some id },
      { w'' with records := w''.records ++ [⟨"request_completed", id⟩] })
  | (.error e, w'') => (.error e, w'')

/-! ## What telemetry may change -/

/-- Between the two processes only the telemetry has moved on. -/
structure Unobserved (p q : Process β τ) : Prop where
  world : q.toWorld = p.toWorld
  correlationId : q.correlationId = p.correlationId

/-- No span was entered or left either. -/
structure Silent (p q : Process β τ) : Prop extends Unobserved p q where
  spans : q.spans = p.spans

namespace Silent

variable {p q r : Process β τ}

theorem refl (p : Process β τ) : Silent p p := ⟨⟨rfl, rfl⟩, rfl⟩

theorem trans (h : Silent p q) (h' : Silent q r) : Silent p r :=
  ⟨⟨h'.world.trans h.world, h'.correlationId.trans h.correlationId⟩, h'.spans.trans h.spans⟩

theorem telemetry (p : Process β τ) (t : τ) : Silent p { p with telemetry := t } :=
  ⟨⟨rfl, rfl⟩, rfl⟩

end Silent

section Calls

variable (T : Telemetry τ)

theorem silent_tryTrace (call : TracingCall) (warning : String) (p : Process β τ) :
    Silent p (tryTrace T call warning p).2 := by
  unfold tryTrace
  split <;> exact ⟨⟨rfl, rfl⟩, rfl⟩

theorem silent_tryTraces (warning : String) (calls : List TracingCall) (p : Process β τ) :
    Silent p (tryTraces T warning calls p) := by
  induction calls generalizing p with
  | nil => exact .refl p
  | cons call rest ih =>
    have hcall := silent_tryTrace T call warning p
    rw [tryTraces]
    split
    · rename_i p' heq
      rw [heq] at hcall
      exact hcall.trans (ih p')
    · rename_i p' heq
      rw [heq] at hcall
      exact hcall

theorem silent_tryRecord (warning : String) (calls : List MetricCall) (p : Process β τ) :
    Silent p (tryRecord T warning calls p) := by
  induction calls generalizing p with
  | nil => exact .refl p
  | cons call rest ih =>
    rw [tryRecord]
    split
    · exact (Silent.telemetry p _).trans (ih _)
    · exact ⟨⟨rfl, rfl⟩, rfl⟩

theorem silent_recordAll (failure : ε) (calls : List MetricCall) (p : Process β τ) :
    Silent p (recordAll T failure calls p).2 := by
  induction calls generalizing p with
  | nil => exact .refl p
  | cons call rest ih =>
    rw [recordAll]
    split
    · exact (Silent.telemetry p _).trans (ih _)
    · exact .telemetry p _

theorem silent_onSpan (warning : String) (calls : Handle → List TracingCall)
    (span : Option Handle) (p : Process β τ) : Silent p (onSpan T warning calls span p) := by
  cases span with
  | none => exact .refl p
  | some s => exact silent_tryTraces T warning (calls s) p

theorem silent_extractContext (cfg : TracingSettings) (carrier : Headers) (p : Process β τ) :
    Silent p (extractContext T cfg carrier p).2 := by
  unfold extractContext
  split
  · exact silent_tryTrace T _ _ p
  · exact .refl p

/-- Samples that the library takes do not stop the code around them. -/
theorem recordAll_ok {failure : ε} {calls : List MetricCall}
    (h : ∀ call ∈ calls, ∀ t, (T.record call t).1 = true) (p : Process β τ) :
    (recordAll T failure calls p).1 = .ok () := by
  induction calls generalizing p with
  | nil => rfl
  | cons call rest ih =>
    have hcall := h call List.mem_cons_self p.telemetry
    rw [recordAll]
    split
    · exact ih (fun c hc => h c (List.mem_cons_of_mem _ hc)) _
    · rename_i heq
      rw [heq] at hcall
      cases hcall

end Calls

/-! ## Instrumented and plain code -/

/-- `m` has the result of `b` and does to the world what `b` does, and the context variable is
back to what it was. -/
def Transparent (m : Py β τ ε α) (b : Bare β ε α) : Prop :=
  ∀ p, ((m p).1, (m p).2.toWorld) = b p.correlationId p.toWorld ∧
    (m p).2.correlationId = p.correlationId

namespace Transparent

variable {m : Py β τ ε α} {b : Bare β ε α} {p q : Process β τ}

/-- What telemetry does before `m` does not matter. -/
theorem of_unobserved (hm : Transparent m b) (h : Unobserved p q) :
    ((m q).1, (m q).2.toWorld) = b p.correlationId p.toWorld ∧
      (m q).2.correlationId = p.correlationId := by
  obtain ⟨hout, hid⟩ := hm q
  rw [h.correlationId, h.world] at hout
  exact ⟨hout, hid.trans h.correlationId⟩

/-- What telemetry does after `m` does not matter either. -/
theorem after {note : Except (Raised ε) α → Process β τ → Process β τ}
    (hm : Transparent m b) (hnote : ∀ out q, Unobserved q (note out q)) :
    Transparent (Py.after m note) b := by
  intro p
  obtain ⟨hout, hid⟩ := hm p
  have hafter := hnote (m p).1 (m p).2
  refine ⟨?_, hafter.correlationId.trans hid⟩
  rw [← hout, ← hafter.world]
  rfl

theorem bind {f : α → Py β τ ε γ} {g : α → Bare β ε γ} (hm : Transparent m b)
    (hf : ∀ a, Transparent (f a) (g a)) :
    Transparent (Py.bind m f) (b.bind g) := by
  intro p
  obtain ⟨hout, hid⟩ := hm p
  rw [Bare.bind, ← hout]
  rcases hmp : m p with ⟨out, p'⟩
  rw [hmp] at hid
  simp only [Py.bind, hmp]
  cases out with
  | ok a =>
    obtain ⟨hout', hid'⟩ := hf a p'
    exact ⟨hid ▸ hout', hid'.trans hid⟩
  | error e => exact ⟨rfl, hid⟩

theorem handle {f : Raised ε → Py β τ ε α} {g : Raised ε → Bare β ε α} (hm : Transparent m b)
    (hf : ∀ e, Transparent (f e) (g e)) :
    Transparent (Py.handle m f) (b.handle g) := by
  intro p
  obtain ⟨hout, hid⟩ := hm p
  rw [Bare.handle, ← hout]
  rcases hmp : m p with ⟨out, p'⟩
  rw [hmp] at hid
  simp only [Py.handle, hmp]
  cases out with
  | ok a => exact ⟨rfl, hid⟩
  | error e =>
    obtain ⟨hout', hid'⟩ := hf e p'
    exact ⟨hid ▸ hout', hid'.trans hid⟩

theorem correlationScope (id : Option String) (hm : Transparent m b) :
    Transparent (correlationScope id m) fun _ w => b id w := fun p =>
  ⟨(hm { p with correlationId := id }).1, rfl⟩

end Transparent

section Spans

variable (T : Telemetry τ) (cfg : TracingSettings)

theorem transparent_safeSpan {name : String} {kind : SpanKind} {parent : Option Handle}
    {attributes : Headers} {body : Option Handle → Py β τ ε α} {b : Bare β ε α}
    (hbody : ∀ span, Transparent (body span) b) :
    Transparent (safeSpan T cfg name kind parent attributes body) b := by
  intro p
  unfold safeSpan
  split
  · have hstart := silent_tryTrace T (.startSpan name kind parent attributes)
      "tracing_span_start_failed" p
    split
    · rename_i p' heq
      rw [heq] at hstart
      exact (hbody none).of_unobserved hstart.toUnobserved
    · rename_i span p' heq
      rw [heq] at hstart
      -- neither the entry of the span nor what ends it is part of the world
      let leave : Process β τ → Process β τ := fun q =>
        (tryTrace T (.endSpan span) "tracing_span_end_failed"
          { q with spans := q.spans ++ [.leave span] }).2
      have hleave : ∀ q, Unobserved q (leave q) := fun q =>
        let h := silent_tryTrace T (.endSpan span) "tracing_span_end_failed"
          { q with spans := q.spans ++ [.leave span] }
        ⟨h.world, h.correlationId⟩
      exact ((hbody (some span)).after fun _ => hleave).of_unobserved
        ⟨hstart.world, hstart.correlationId⟩
  · exact hbody none p

theorem transparent_taskSpan {taskName : String} {headers : Headers}
    {body : Option Handle → Py β τ ε α} {b : Bare β ε α}
    (hbody : ∀ span, Transparent (body span) b) :
    Transparent (taskSpan T cfg taskName headers body) b := fun p =>
  (transparent_safeSpan T cfg hbody).of_unobserved
    (silent_extractContext T cfg headers p).toUnobserved

end Spans

/-! ## Tasks and code -/

section Machine

variable (P : Platform τ)

theorem silent_observeTask (name : String) (span : Option Handle) (outcome : String)
    (p : Process β τ) : Silent p (observeTask P name span outcome p) :=
  (silent_tryRecord P.telemetry _ _ p).trans (silent_onSpan P.telemetry _ _ span _)

theorem transparent_correlatedTask {name : String} {headers : Headers} {given : Option String}
    {body : Py β τ ε α} {b : Bare β ε α} (hbody : Transparent body b) :
    Transparent (correlatedTask P name headers given body) (b.withId P.uuid4 given) := by
  have hspan : Transparent (taskSpan P.telemetry P.settings name headers fun span =>
      Py.after body (observeOutcome P name span)) b := by
    refine transparent_taskSpan P.telemetry P.settings fun span => hbody.after fun out q => ?_
    rcases out with (_ | e | _) | a
    · exact (silent_observeTask P name span "retry" q).toUnobserved
    · exact (silent_observeTask P name span "failure" q).toUnobserved
    · exact ⟨rfl, rfl⟩
    · exact (silent_observeTask P name span "success" q).toUnobserved
  intro p
  unfold correlatedTask boundCorrelationId Bare.withId bindId
  cases given with
  | none => exact ⟨(hspan _).1, rfl⟩
  | some id =>
    by_cases hempty : id = ""
    · simp only [hempty, if_true]
      exact ⟨(hspan _).1, rfl⟩
    · simp only [hempty, if_false]
      exact ⟨(hspan { p with correlationId := some id }).1, rfl⟩

theorem Code.run_transparent {c : Code β ε α} (hc : c.RecordsSafely P.telemetry)
    (open' : List (Option Handle)) : Transparent (c.run P open') (c.plain P.uuid4) := by
  induction c generalizing open' with
  | step f => exact fun p => ⟨rfl, rfl⟩
  | log event => exact fun p => ⟨rfl, rfl⟩
  | publish carried =>
    intro p
    have hinject := silent_tryTrace P.telemetry .inject "tracing_context_inject_failed" p
    simp only [Code.run, Common.publish, Code.plain]
    split
    · exact ⟨by rw [hinject.world, hinject.correlationId], hinject.correlationId⟩
    · exact ⟨rfl, rfl⟩
  | bind first next ihfirst ihnext =>
    exact (ihfirst hc.1 open').bind fun a => ihnext a (hc.2 a) open'
  | handle body handler ihbody ihhandler =>
    exact (ihbody hc.1 open').handle fun e => ihhandler e (hc.2 e) open'
  | observe warning calls =>
    intro p
    have hsamples := silent_tryRecord P.telemetry warning calls p
    exact ⟨Prod.ext rfl hsamples.world, hsamples.correlationId⟩
  | record failure calls =>
    intro p
    have hsamples := silent_recordAll P.telemetry failure calls p
    exact ⟨Prod.ext (recordAll_ok P.telemetry hc p) hsamples.world, hsamples.correlationId⟩
  | span name attributes body ih =>
    exact transparent_safeSpan P.telemetry P.settings fun span => ih hc (span :: open')
  | finalize depth outcome isError extraAttributes =>
    intro p
    have hcalls := silent_onSpan P.telemetry "tracing_span_finalize_failed" (fun s =>
      .setAttribute s "supportpilot.outcome" outcome ::
        extraAttributes.map (fun kv => .setAttribute s kv.1 kv.2) ++ [.setStatus s isError])
      (open'.getD depth none) p
    exact ⟨Prod.ext rfl hcalls.world, hcalls.correlationId⟩
  | task name headers carried body ih =>
    exact fun p => transparent_correlatedTask P (ih hc []) p
  | thread body ih => exact (ih hc []).correlationScope none

/-! ## Requests -/

theorem transparent_metricsMiddleware {request : Request} {view : Py β τ ε Response}
    {b : Bare β ε Response} (hview : Transparent view b) :
    Transparent (metricsMiddleware P request view) b := by
  refine hview.after fun out q => ?_
  rcases out with e | response
  · exact ⟨rfl, rfl⟩
  · simp only
    split
    · exact ⟨rfl, rfl⟩
    · exact (silent_tryRecord P.telemetry _ _ q).toUnobserved

theorem transparent_tracingMiddleware {request : Request} {view : Py β τ ε Response}
    {b : Bare β ε Response} (hview : Transparent view b) :
    Transparent (tracingMiddleware P request view) b := by
  intro p
  unfold tracingMiddleware
  split
  · exact hview p
  · refine (transparent_safeSpan P.telemetry P.settings fun span => hview.after fun out q => ?_)
      |>.of_unobserved (silent_extractContext P.telemetry P.settings _ p).toUnobserved
    rcases out with (_ | e | _) | response
    · exact (silent_onSpan P.telemetry _ _ span q).toUnobserved
    · exact (silent_onSpan P.telemetry _ _ span q).toUnobserved
    · exact ⟨rfl, rfl⟩
    · exact (silent_onSpan P.telemetry _ _ span q).toUnobserved

theorem allowed_ne_empty {value : String} (h : allowedRequestId value = true) : value ≠ "" := by
  rintro rfl
  cases h

/-- The id of a request is drawn unless the header brings an allowed one. -/
theorem validateRequestId_eq (uuid4 : Nat → Uuid) (header : Option String) (p : Process β τ) :
    (validateRequestId uuid4 header : Py β τ ε String) p =
      (.ok (acceptId uuid4 header p.toWorld).1,
        { p with toWorld := (acceptId uuid4 header p.toWorld).2 }) := by
  cases header with
  | none => rfl
  | some value =>
    by_cases hvalue : allowedRequestId value = true
    · rw [validateRequestId, if_pos hvalue, acceptId, Option.filter_some_pos hvalue, bindId]
      simp only [if_neg (allowed_ne_empty hvalue)]
      rfl
    · rw [validateRequestId, if_neg hvalue, acceptId,
        Option.filter_some_neg (Bool.eq_false_iff.mpr hvalue)]
      rfl

theorem handleRequest_transparent (request : Request) {view : Code β ε Response}
    (hview : view.RecordsSafely P.telemetry) :
    Transparent (handleRequest P request (view.run P []))
      (plainRequest P.uuid4 request (view.plain P.uuid4)) := by
  have hinner : Transparent (tracingMiddleware P request (structuredLoggingMiddleware
      (metricsMiddleware P request (view.run P []))))
      ((view.plain P.uuid4).bind fun response id w =>
        (.ok response, { w with records := w.records ++ [⟨"request_completed", filtered id⟩] })) :=
    transparent_tracingMiddleware P ((transparent_metricsMiddleware P
      (Code.run_transparent P hview [])).bind fun _ _ => ⟨rfl, rfl⟩)
  intro p
  set bound : String × World β := acceptId P.uuid4 request.requestIdHeader p.toWorld with hbound
  obtain ⟨hout, hid⟩ := (hinner.correlationScope (some bound.1)).bind
    (f := fun response => Py.pure { response with requestIdHeader := some bound.1 })
    (g := fun response _ w => (.ok { response with requestIdHeader := some bound.1 }, w))
    (fun _ _ => ⟨rfl, rfl⟩) { p with toWorld := bound.2 }
  rw [handleRequest, requestIdMiddleware, Py.bind, validateRequestId_eq]
  refine ⟨hout.trans ?_, hid⟩
  simp only [plainRequest, Bare.bind, ← hbound]
  rcases view.plain P.uuid4 (some bound.1) bound.2 with ⟨e | response, w⟩
  · rfl
  · rfl

/-- Requests and tasks end as they would without telemetry and leave the same world behind. -/
theorem telemetry_transparent (request : Request) (view : Code β ε Response)
    (hview : view.RecordsSafely P.telemetry) (name : String) (headers : Headers)
    (given : Option String) (body : Code β ε α) (hbody : body.RecordsSafely P.telemetry) :
    Transparent (handleRequest P request (view.run P []))
        (plainRequest P.uuid4 request (view.plain P.uuid4)) ∧
      Transparent (correlatedTask P name headers given (body.run P []))
        ((body.plain P.uuid4).withId P.uuid4 given) :=
  ⟨handleRequest_transparent P request hview,
    transparent_correlatedTask P (Code.run_transparent P hbody [])⟩

end Machine

/-! ## A machine whose tracing library always raises -/

def brokenTracing : Platform Nat where
  uuid4 := fun n => .replicate (Fin.ofNat 16 n)
  telemetry :=
    { trace := fun _ n => (none, n + 1)
      record := fun _ n => (true, n) }
  settings := {}
  upper := id

/-- A view that counts, in a span, and samples with nothing around it. -/
def countingView : Code Nat Unit Response :=
  .span "count" [] <| .bind (.record () (observeStuckRunRecovery "agent" 1)) fun _ =>
    .bind (.step fun n => (.ok (), n + 1)) fun _ =>
      .bind (.log "counted") fun _ => .step fun n => (.ok {}, n)

theorem countingView_recordsSafely : countingView.RecordsSafely brokenTracing.telemetry :=
  ⟨fun _ _ _ => rfl, fun _ => ⟨trivial, fun _ => ⟨trivial, fun _ => trivial⟩⟩⟩

theorem countingView_transparent :
    Transparent (handleRequest brokenTracing {} (countingView.run brokenTracing []))
        (plainRequest brokenTracing.uuid4 {} (countingView.plain brokenTracing.uuid4)) ∧
      Transparent (correlatedTask brokenTracing "count" [] none
          (countingView.run brokenTracing []))
        ((countingView.plain brokenTracing.uuid4).withId brokenTracing.uuid4 none) :=
  telemetry_transparent brokenTracing {} countingView countingView_recordsSafely "count" [] none
    countingView countingView_recordsSafely

end SupportPilot.Common
