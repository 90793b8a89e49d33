import SupportPilot.Library.Identifiers
import SupportPilot.Observability.Tracing

/-!
# Requests and tasks under observation

The middlewares around a view, the base class of the Celery tasks, and the code between them:
application code that records samples, opens spans, publishes messages, runs tasks in place and
waits for code in another thread.
-/

namespace SupportPilot.Common

open Library Observability

variable {β τ ε α γ : Type}

/-! ## Request ids -/

def maxRequestIdLength : Nat := 128

def requestIdChar (c : Char) : Bool := c.isAlphanum || c = '.' || c = '_' || c = '-'

/-- `_ALLOWED_REQUEST_ID.fullmatch(value)` -/
def allowedRequestId (value : String) : Bool :=
  value.toList.all requestIdChar && 1 ≤ value.toList.length &&
    value.toList.length ≤ maxRequestIdLength

/-- `str(uuid.uuid4())` -/
def newCorrelationId (uuid4 : Nat → Uuid) : Py β τ ε String := fun p =>
  (.ok (uuid4 p.drawn).text, { p with drawn := p.drawn + 1 })

def validateRequestId (uuid4 : Nat → Uuid) : Option String → Py β τ ε String
  | none => newCorrelationId uuid4
  | some value => if allowedRequestId value then Py.pure value else newCorrelationId uuid4

/-! ## The middlewares -/

structure Request where
  requestIdHeader : Option String := none
  traceparent : Option String := none
  tracestate : Option String := none
  method : String := "GET"
  path : String := "/"
  viewName : Option String := none

structure Response where
  statusCode : Int := 200
  requestIdHeader : Option String := none
  deriving DecidableEq, Repr

/-- The machine: the clock of UUIDs, the telemetry libraries and `str.upper`. -/
structure Platform (τ : Type) where
  uuid4 : Nat → Uuid
  telemetry : Telemetry τ
  settings : TracingSettings
  upper : String → String

variable (P : Platform τ)

def requestIdMiddleware (request : Request) (getResponse : Py β τ ε Response) :
    Py β τ ε Response :=
  Py.bind (validateRequestId P.uuid4 request.requestIdHeader) fun requestId =>
    Py.bind (correlationScope (some requestId) getResponse) fun response =>
      Py.pure { response with requestIdHeader := some requestId }

def routeLabel (request : Request) : String :=
  match request.viewName with
  | none => "unmatched"
  | some name => if name = "" then "unmatched" else name

def w3cCarrier (request : Request) : Headers :=
  (request.traceparent.map ("traceparent", ·)).toList ++
    (request.tracestate.map ("tracestate", ·)).toList

def tracingExcludedPaths : List String := ["/metrics/"]

def tracingMiddleware (request : Request) (getResponse : Py β τ ε Response) :
    Py β τ ε Response := fun p =>
  if request.path ∈ tracingExcludedPaths then getResponse p
  else
    let (parent, p') := extractContext P.telemetry P.settings (w3cCarrier request) p
    serverSpan P.telemetry P.settings "HTTP request" parent (fun span =>
      Py.after getResponse fun
        | .error .interrupt => id
        | .error _ => markSpanError P.telemetry span
        | .ok response => finalizeServerSpan P.telemetry span request.method (routeLabel request)
            response.statusCode) p'

def structuredLoggingMiddleware (getResponse : Py β τ ε Response) : Py β τ ε Response :=
  Py.bind getResponse fun response =>
    Py.bind (logInfo "request_completed") fun _ => Py.pure response

def excludedRouteNames : List String := ["metrics", "health:health", "health:readiness"]

def metricsMiddleware (request : Request) (getResponse : Py β τ ε Response) :
    Py β τ ε Response :=
  Py.after getResponse fun
    | .error _ => id
    | .ok response =>
      if routeLabel request ∈ excludedRouteNames then id
      else tryRecord P.telemetry "http_metrics_recording_failed"
        (observeHttpRequest P.upper request.method (routeLabel request) response.statusCode)

/-- The middlewares of this application in the order of the settings. -/
def handleRequest (request : Request) (view : Py β τ ε Response) : Py β τ ε Response :=
  requestIdMiddleware P request (tracingMiddleware P request
    (structuredLoggingMiddleware (metricsMiddleware P request view)))

/-! ## Tasks -/

/-- `CorrelatedTask._observe` and the end of the span. -/
def observeTask (name : String) (span : Option Handle) (outcome : String) (p : Process β τ) :
    Process β τ :=
  finalizeTaskSpan P.telemetry span outcome
    (tryRecord P.telemetry "celery_metrics_recording_failed" (observeCeleryTask name outcome) p)

/-- A task is observed unless an exception ends it that is no `Exception`. -/
def observeOutcome (name : String) (span : Option Handle) :
    Except (Raised ε) α → Process β τ → Process β τ
  | .error .retry => observeTask P name span "retry"
  | .error (.exception _) => observeTask P name span "failure"
  | .error .interrupt => id
  | .ok _ => observeTask P name span "success"

/-- `correlation_id or new_correlation_id()` -/
def boundCorrelationId (uuid4 : Nat → Uuid) : Option String → Py β τ ε String
  | none => newCorrelationId uuid4
  | some given => if given = "" then newCorrelationId uuid4 else Py.pure given

/-- `CorrelatedTask.__call__` -/
def correlatedTask (name : String) (headers : Headers) (correlationId : Option String)
    (body : Py β τ ε α) : Py β τ ε α :=
  Py.bind (boundCorrelationId P.uuid4 correlationId) fun bound =>
    correlationScope (some bound) (taskSpan P.telemetry P.settings name headers fun span =>
      Py.after body (observeOutcome P name span))

/-- `_inject_trace_context` and the message itself: a message takes the current id with it
(`carried`), or none. -/
def publish (carried : Bool) : Py β τ ε Unit := fun p =>
  let p' := if P.settings.tracingEnabled then
    (tryTrace P.telemetry .inject "tracing_context_inject_failed" p).2 else p
  (.ok (), { p' with
    published := p'.published ++ [if carried then p'.correlationId else none] })

/-! ## Instrumented code -/

/-- Application code with its instrumentation. A span is named by how many spans of the code
around it are still to be left first. -/
inductive Code (β ε : Type) : Type → Type 1
  | step {α : Type} (run : β → Except (Raised ε) α × β) : Code β ε α
  | log (event : String) : Code β ε Unit
  | publish (carried : Bool) : Code β ε Unit
  | bind {α γ : Type} (first : Code β ε α) (next : α → Code β ε γ) : Code β ε γ
  | handle {α : Type} (body : Code β ε α) (handler : Raised ε → Code β ε α) : Code β ε α
  /-- Samples between `try` and `except Exception`. -/
  | observe (warning : String) (calls : List MetricCall) : Code β ε Unit
  /-- Samples with nothing around them. -/
  | record (failure : ε) (calls : List MetricCall) : Code β ε Unit
  | span {α : Type} (name : String) (attributes : Headers) (body : Code β ε α) : Code β ε α
  | finalize (depth : Nat) (outcome : String) (isError : Bool) (extraAttributes : Headers) :
      Code β ε Unit
  /-- A task that is run in place, with the current id or with none. -/
  | task {α : Type} (name : String) (headers : Headers) (carried : Bool) (body : Code β ε α) :
      Code β ε α
  /-- A tool handler in the pool of `_invoke_with_timeout`, which is waited for. A new thread has
  neither the id nor the spans of the code around it. -/
  | thread {α : Type} (body : Code β ε α) : Code β ε α

namespace Code

/-- What the code does within the open spans. -/
def run {α : Type} (open' : List (Option Handle)) : Code β ε α → Py β τ ε α
  | .step f => fun p =>
    let out := f p.application
    (out.1, { p with application := out.2 })
  | .log event => logInfo event
  | .publish carried => Common.publish P carried
  | .bind first next => Py.bind (first.run open') fun a => (next a).run open'
  | .handle body handler => Py.handle (body.run open') fun e => (handler e).run open'
  | .observe warning calls => fun p => (.ok (), tryRecord P.telemetry warning calls p)
  | .record failure calls => recordAll P.telemetry failure calls
  | .span name attributes body => domainSpan P.telemetry P.settings name attributes fun span =>
      body.run (span :: open')
  | .finalize depth outcome isError extraAttributes => fun p =>
      (.ok (), finalizeDomainSpan P.telemetry (open'.getD depth none) outcome isError
        extraAttributes p)
  | .task name headers carried body => fun p =>
      correlatedTask P name headers (if carried then p.correlationId else none)
        (body.run []) p
  | .thread body => correlationScope none (body.run [])

end Code

end SupportPilot.Common
