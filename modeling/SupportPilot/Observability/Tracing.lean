import SupportPilot.Library.Brackets
import SupportPilot.Observability.Metrics

/-!
# The tracing boundary

Spans over a tracing library of which only this is known: a call comes back with a value or raises
an `Exception`. What a process holds is the application with what it logs and publishes, the state
of the telemetry libraries, and the context variable with the correlation id. Clocks and durations
are left out.
-/

namespace SupportPilot.Observability

open Library

/-- What Python raises: celery's `Retry`, any other `Exception`, or a `BaseException` that is no
`Exception`. -/
inductive Raised (ε : Type)
  | retry
  | exception (e : ε)
  | interrupt
  deriving DecidableEq, Repr

inductive SpanKind
  | server
  | consumer
  | internal
  deriving DecidableEq, Repr

abbrev Headers := List (String × String)

/-- A span of the library, or a context that it has read. -/
abbrev Handle := Nat

inductive TracingCall
  | extract (carrier : Headers)
  | inject
  | startSpan (name : String) (kind : SpanKind) (parent : Option Handle) (attributes : Headers)
  | endSpan (span : Handle)
  | updateName (span : Handle) (name : String)
  | setAttribute (span : Handle) (key value : String)
  | setStatus (span : Handle) (error : Bool)
  deriving DecidableEq, Repr

/-- The libraries: `none` and `false` stand for a call that raises. -/
structure Telemetry (τ : Type) where
  trace : TracingCall → τ → Option Handle × τ
  record : MetricCall → τ → Bool × τ

/-- A record with the id that `CorrelationIdLogFilter` attaches. -/
structure LogRecord where
  event : String
  correlationId : String
  deriving DecidableEq, Repr

/-- What the application does to the world; `drawn` counts the UUIDs, and of a published message
only its `correlation_id` is kept. -/
structure World (β : Type) where
  application : β
  drawn : Nat := 0
  records : List LogRecord := []
  published : List (Option String) := []

structure Process (β τ : Type) extends World β where
  telemetry : τ
  correlationId : Option String := none
  warnings : List LogRecord := []
  spans : List (Bracket Handle) := []

/-- What a call does in a process: it ends with a value or raises. -/
abbrev Py (β τ ε α : Type) := Process β τ → Except (Raised ε) α × Process β τ

variable {β τ ε α γ : Type}

namespace Py

def pure (a : α) : Py β τ ε α := fun p => (.ok a, p)

def bind (m : Py β τ ε α) (f : α → Py β τ ε γ) : Py β τ ε γ := fun p =>
  match m p with
  | (.ok a, p') => f a p'
  | (.error e, p') => (.error e, p')

/-- `try` with a clause for whatever is raised. -/
def handle (m : Py β τ ε α) (handler : Raised ε → Py β τ ε α) : Py β τ ε α := fun p =>
  match m p with
  | (.ok a, p') => (.ok a, p')
  | (.error e, p') => handler e p'

/-- What telemetry does when a call has ended, by how it has ended. -/
def after (m : Py β τ ε α) (note : Except (Raised ε) α → Process β τ → Process β τ) :
    Py β τ ε α := fun p =>
  let out := m p
  (out.1, note out.1 out.2)

end Py

/-! ## The context variable -/

/-- `get_correlation_id() or ""` -/
def filtered (correlationId : Option String) : String := correlationId.getD ""

/-- The id is bound while `body` runs; what was bound before is put back, whatever `body` does. -/
def correlationScope (correlationId : Option String) (body : Py β τ ε α) : Py β τ ε α := fun p =>
  let out := body { p with correlationId := correlationId }
  (out.1, { out.2 with correlationId := p.correlationId })

/-- A record of the application. -/
def logInfo (event : String) : Py β τ ε Unit := fun p =>
  (.ok (), { p with records := p.records ++ [⟨event, filtered p.correlationId⟩] })

/-- A record that a telemetry call has failed. -/
def warn (event : String) (p : Process β τ) : Process β τ :=
  { p with warnings := p.warnings ++ [⟨event, filtered p.correlationId⟩] }

/-! ## Calls that fail open -/

variable (T : Telemetry τ)

/-- One call of the tracing library between `try` and `except Exception`. -/
def tryTrace (call : TracingCall) (warning : String) (p : Process β τ) :
    Option Handle × Process β τ :=
  match T.trace call p.telemetry with
  | (some value, t) => (some value, { p with telemetry := t })
  | (none, t) => (none, warn warning { p with telemetry := t })

/-- Several calls in one `try`: the first that raises is the last. -/
def tryTraces (warning : String) : List TracingCall → Process β τ → Process β τ
  | [], p => p
  | call :: rest, p =>
    match tryTrace T call warning p with
    | (some _, p') => tryTraces warning rest p'
    | (none, p') => p'

/-- Samples in one `try`. -/
def tryRecord (warning : String) : List MetricCall → Process β τ → Process β τ
  | [], p => p
  | call :: rest, p =>
    match T.record call p.telemetry with
    | (true, t) => tryRecord warning rest { p with telemetry := t }
    | (false, t) => warn warning { p with telemetry := t }

/-- Samples with no `try` around them; `failure` is what the metrics library raises. -/
def recordAll (failure : ε) : List MetricCall → Py β τ ε Unit
  | [], p => (.ok (), p)
  | call :: rest, p =>
    match T.record call p.telemetry with
    | (true, t) => recordAll failure rest { p with telemetry := t }
    | (false, t) => (.error (.exception failure), { p with telemetry := t })

/-! ## Spans -/

structure TracingSettings where
  tracingEnabled : Bool := true

variable (cfg : TracingSettings)

def extractContext (carrier : Headers) (p : Process β τ) : Option Handle × Process β τ :=
  if cfg.tracingEnabled then tryTrace T (.extract carrier) "tracing_context_extract_failed" p
  else (none, p)

/-- The span around `body` is ended whatever `body` does; when it cannot be started, `body` runs
without one. -/
def safeSpan (name : String) (kind : SpanKind) (parent : Option Handle) (attributes : Headers)
    (body : Option Handle → Py β τ ε α) : Py β τ ε α := fun p =>
  if cfg.tracingEnabled then
    match tryTrace T (.startSpan name kind parent attributes) "tracing_span_start_failed" p with
    | (none, p') => body none p'
    | (some span, p') =>
      let out := body (some span) { p' with spans := p'.spans ++ [.enter span] }
      (out.1, (tryTrace T (.endSpan span) "tracing_span_end_failed"
        { out.2 with spans := out.2.spans ++ [.leave span] }).2)
  else body none p

def serverSpan (name : String) (parent : Option Handle) (body : Option Handle → Py β τ ε α) :
    Py β τ ε α :=
  safeSpan T cfg name .server parent [] body

def domainSpan (name : String) (attributes : Headers) (body : Option Handle → Py β τ ε α) :
    Py β τ ε α :=
  safeSpan T cfg name .internal none attributes body

def taskSpan (taskName : String) (headers : Headers) (body : Option Handle → Py β τ ε α) :
    Py β τ ε α := fun p =>
  let (parent, p') := extractContext T cfg headers p
  safeSpan T cfg ("celery.task " ++ taskName) .consumer parent [("celery.task_name", taskName)]
    body p'

/-- Nothing is called for a span that was not started. -/
def onSpan (warning : String) (calls : Handle → List TracingCall) (span : Option Handle)
    (p : Process β τ) : Process β τ :=
  match span with
  | none => p
  | some s => tryTraces T warning (calls s) p

def markSpanError (span : Option Handle) (p : Process β τ) : Process β τ :=
  onSpan T "tracing_span_status_failed" (fun s => [.setStatus s true]) span p

def finalizeServerSpan (span : Option Handle) (method route : String) (statusCode : Int)
    (p : Process β τ) : Process β τ :=
  let requestId : Handle → List TracingCall := fun s =>
    match p.correlationId with
    | none => []
    | some id => if id = "" then [] else [.setAttribute s "supportpilot.request_id" id]
  onSpan T "tracing_span_finalize_failed" (fun s =>
    [.updateName s ("HTTP " ++ method ++ " " ++ route),
      .setAttribute s "http.request.method" method, .setAttribute s "http.route" route,
      .setAttribute s "http.response.status_code" (toString statusCode)] ++ requestId s ++
      [.setStatus s (decide (500 ≤ statusCode))]) span p

def taskOutcomes : List String := ["success", "failure", "retry"]

def finalizeTaskSpan (span : Option Handle) (outcome : String) (p : Process β τ) :
    Process β τ :=
  let label := if outcome ∈ taskOutcomes then outcome else "failure"
  onSpan T "tracing_span_finalize_failed" (fun s =>
    [.setAttribute s "supportpilot.task_outcome" label,
      .setStatus s (decide (label ≠ "success"))]) span p

def finalizeDomainSpan (span : Option Handle) (outcome : String) (isError : Bool)
    (extraAttributes : Headers) (p : Process β τ) : Process β τ :=
  onSpan T "tracing_span_finalize_failed" (fun s =>
    .setAttribute s "supportpilot.outcome" outcome ::
      extraAttributes.map (fun kv => .setAttribute s kv.1 kv.2) ++ [.setStatus s isError]) span p

end SupportPilot.Observability
