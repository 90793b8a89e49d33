import SupportPilot.Library.Binary64
import SupportPilot.Library.Json
import SupportPilot.Policies.Evaluator

/-!
# The trusted predicate registry

The registered predicates on the decoded parameters of an entry and the decoded arguments of an
action. What a predicate raises is normalized to one error with a safe message.
-/

namespace SupportPilot.Policies

open Library

/-- A parsed date and time, in microseconds of its own clock, with its offset if it has one. -/
structure Moment where
  microseconds : Int
  utcOffset : Option Int := none
  deriving DecidableEq, Repr

/-- What Python makes of texts and of JSON values as text. -/
structure Python where
  upper : String → String
  str : Json → String
  repr : Json → String
  floatOfText : String → Option Binary64
  fromisoformat : String → Option Moment
  loads : String → Option Json

/-- The fields of a document that is an object. -/
def Python.fields (py : Python) (text : String) : JsonObject :=
  match py.loads text with
  | some (.object fields) => fields
  | _ => []

/-- What the body of a predicate raises: the error of the evaluator, or any other. -/
inductive Raised
  | evaluationFailed (safeMessage : String)
  | other
  deriving DecidableEq, Repr

/-- The trusted facts, with the arguments decoded. -/
structure Facts where
  toolKey : String
  riskLevel : RiskLevel
  sideEffectType : SideEffectType
  arguments : JsonObject

abbrev Predicate := Python → Facts → JsonObject → Except Raised Bool

/-! ## Values -/

def RiskLevel.value : RiskLevel → String
  | .readOnly => "read_only"
  | .low => "low"
  | .medium => "medium"
  | .high => "high"
  | .critical => "critical"

def SideEffectType.value : SideEffectType → String
  | .none => "none"
  | .read => "read"
  | .internalWrite => "internal_write"
  | .externalWrite => "external_write"
  | .financial => "financial"
  | .destructive => "destructive"

/-- `_RISK_ORDER` -/
def riskOrder : List (String × Nat) :=
  [("read_only", 0), ("low", 1), ("medium", 2), ("high", 3), ("critical", 4)]

/-- `params[key]` -/
def param (params : JsonObject) (key : String) : Except Raised Json :=
  match params.lookup key with
  | some value => .ok value
  | none => .error .other

/-- `float(value)` -/
def toFloat (py : Python) : Json → Except Raised Binary64
  | .bool b => .ok (.finite (if b then 1 else 0))
  | .int n =>
    match Binary64.round n with
    | .infinite _ => .error .other
    | x => .ok x
  | .float q => .ok (.finite q)
  | .string text =>
    match py.floatOfText text with
    | some x => .ok x
    | none => .error .other
  | .null | .list _ | .object _ => .error .other

/-- `_numeric_argument` -/
def numericArgument (py : Python) (facts : Facts) (field : String) :
    Except Raised (Option Binary64) :=
  match facts.arguments.lookup field with
  | some (.int n) => (toFloat py (.int n)).map some
  | some (.float q) => (toFloat py (.float q)).map some
  | _ => .ok none

/-- `(end - start).total_seconds() / 60` -/
def durationMinutes (start finish : Moment) : Except Raised Binary64 :=
  match start.utcOffset, finish.utcOffset with
  | none, none => .ok (minutes (finish.microseconds - start.microseconds))
  | some offset, some offset' =>
    .ok (minutes ((finish.microseconds - offset') - (start.microseconds - offset)))
  | _, _ => .error .other
where
  minutes (microseconds : Int) : Binary64 :=
    match Binary64.round ((microseconds : Rat) / 1000000) with
    | .finite seconds => Binary64.round (seconds / 60)
    | x => x

/-! ## Predicates -/

def toolIs : Predicate := fun _ facts params => do
  let value ← param params "value"
  .ok ((Json.string facts.toolKey).equal value)

def riskLevelAtLeast : Predicate := fun py facts params => do
  let threshold ← param params "value"
  let unknown := Raised.evaluationFailed
    ("Unknown risk level in rule config: " ++ py.repr threshold ++ ".")
  match threshold with
  | .string level =>
    match riskOrder.lookup level with
    | some order => .ok (order ≤ (riskOrder.lookup facts.riskLevel.value).getD 0)
    | none => .error unknown
  | .list _ | .object _ => .error .other
  | _ => .error unknown

def sideEffectTypeIs : Predicate := fun _ facts params => do
  let value ← param params "value"
  .ok ((Json.string facts.sideEffectType.value).equal value)

/-- The four comparisons of the amount with a parameter. -/
def amountMinor (compare : Binary64 → Binary64 → Bool) : Predicate := fun py facts params => do
  match ← numericArgument py facts "amount_minor" with
  | none => .ok false
  | some amount =>
    let bound ← param params "value"
    let limit ← toFloat py bound
    .ok (compare amount limit)

def amountMinorGt : Predicate := amountMinor fun amount limit => limit.lt amount
def amountMinorGte : Predicate := amountMinor fun amount limit => limit.le amount
def amountMinorLt : Predicate := amountMinor fun amount limit => amount.lt limit
def amountMinorLte : Predicate := amountMinor fun amount limit => amount.le limit

def currencyIs : Predicate := fun py facts params =>
  match facts.arguments.lookup "currency" with
  | some (.string currency) => do
    let value ← param params "value"
    .ok (py.upper currency = py.upper (py.str value))
  | _ => .ok false

/-- `context.arguments.get(params["field"])` -/
def fieldArgument (facts : Facts) (params : JsonObject) : Except Raised Json := do
  let field ← param params "field"
  match Json.get facts.arguments field with
  | some value => .ok value
  | none => .error .other

def argumentEquals : Predicate := fun _ facts params => do
  let argument ← fieldArgument facts params
  let value ← param params "value"
  .ok (argument.equal value)

def argumentInAllowedValues : Predicate := fun _ facts params => do
  let argument ← fieldArgument facts params
  let values ← param params "values"
  match argument.member values with
  | some found => .ok found
  | none => .error .other

def bookingDurationMinutesGt : Predicate := fun py facts params =>
  match facts.arguments.lookup "start", facts.arguments.lookup "end" with
  | some (.string start), some (.string finish) =>
    match py.fromisoformat start, py.fromisoformat finish with
    | some start, some finish => do
      let duration ← durationMinutes start finish
      let bound ← param params "value"
      let limit ← toFloat py bound
      .ok (limit.lt duration)
    | _, _ => .ok false
  | _, _ => .ok false

/-! ## The registry -/

def registry : List (String × Predicate) :=
  [("tool_is", toolIs), ("risk_level_at_least", riskLevelAtLeast),
    ("side_effect_type_is", sideEffectTypeIs), ("amount_minor_gt", amountMinorGt),
    ("amount_minor_gte", amountMinorGte), ("amount_minor_lt", amountMinorLt),
    ("amount_minor_lte", amountMinorLte), ("currency_is", currencyIs),
    ("argument_equals", argumentEquals), ("argument_in_allowed_values", argumentInAllowedValues),
    ("booking_duration_minutes_gt", bookingDurationMinutesGt)]

/-- The facts of a context, with its arguments decoded. -/
def factsOf (py : Python) (context : PredicateContext) : Facts :=
  ⟨context.toolKey, context.riskLevel, context.sideEffectType,
    py.fields context.arguments.canonical⟩

/-- How an error of a predicate leaves `evaluate_predicate`. -/
def normalized (py : Python) (name : String) : Except Raised Bool → Except String Bool
  | .ok holds => .ok holds
  | .error (.evaluationFailed safeMessage) => .error safeMessage
  | .error .other =>
    .error ("Predicate " ++ py.repr (.string name) ++ " received invalid parameters.")

/-- The settings with the registered predicates. -/
def registeredSettings (py : Python) (defaultApprovalTtlSeconds : Nat)
    (refundAutoAllowMaxMinor refundApprovalMaxMinor : Rat) : PolicySettings where
  predicate name := (registry.lookup name).map fun predicate context params =>
    normalized py name (predicate py (factsOf py context) (py.fields params))
  defaultApprovalTtlSeconds := defaultApprovalTtlSeconds
  refundAutoAllowMaxMinor := refundAutoAllowMaxMinor
  refundApprovalMaxMinor := refundApprovalMaxMinor
  repr := fun text => py.repr (.string text)
  upper := py.upper

end SupportPilot.Policies
