import SupportPilot.Policies.Predicates
import SupportPilot.Tools.Redaction

/-!
# Input models of the registered tools

The input model of a tool is a list of fields with their constraints and one check of the whole.
What the validation library makes of a single number or date is a function of its own; models
carry that their names are distinct and that their defaults pass their own checks.
-/

namespace SupportPilot.Tools

open Library Policies

/-- A validated value. -/
inductive Value
  | null
  | text (s : String)
  | integer (n : Int)
  | number (q : Rat)
  | moment (m : Moment)
  deriving DecidableEq, Repr

/-- What the validation library, the e-mail validator and Python do with single values. -/
structure Validation where
  integer : Json → Option Int
  number : Json → Option Rat
  moment : Json → Option Moment
  dumpMoment : Moment → String
  validEmail : String → Bool
  upper : String → String
  lower : String → String

/-- What is documented of them: a value that was dumped is read again as it was, and the
placeholder is neither a number nor a date nor an address. -/
structure Validation.Documented (lib : Validation) : Prop where
  integer : ∀ n, lib.integer (.int n) = some n
  number : ∀ q, lib.number (.float q) = some q
  moment : ∀ json m, lib.moment json = some m → lib.moment (.string (lib.dumpMoment m)) = some m
  noInteger : lib.integer (.string redactedText) = none
  noNumber : lib.number (.string redactedText) = none
  noMoment : lib.moment (.string redactedText) = none
  noEmail : lib.validEmail redactedText = false

inductive FieldKind
  | text (minLength : Nat) (maxLength : Option Nat)
  | upperText (minLength maxLength : Nat)
  | choice (values : List String)
  | email
  | integer (least greatest : Int)
  | number (least greatest : Rat)
  | moment
  deriving DecidableEq, Repr

structure Field where
  name : String
  kind : FieldKind
  nullable : Bool := false
  default : Option Value := none

def fits (minLength : Nat) (maxLength : Option Nat) (s : String) : Bool :=
  minLength ≤ s.length && maxLength.all (s.length ≤ ·)

variable (lib : Validation)

/-- A value that is given for a field that is not null. -/
def validateKind : FieldKind → Json → Option Value
  | .text lo hi, .string s => if fits lo hi s then some (.text s) else none
  | .upperText lo hi, .string s => if fits lo (some hi) s then some (.text (lib.upper s)) else none
  | .choice values, .string s => if s ∈ values then some (.text s) else none
  | .email, .string s => if lib.validEmail s then some (.text s) else none
  | .integer lo hi, json =>
    match lib.integer json with
    | some n => if lo ≤ n ∧ n ≤ hi then some (.integer n) else none
    | none => none
  | .number lo hi, json =>
    match lib.number json with
    | some q => if lo ≤ q ∧ q ≤ hi then some (.number q) else none
    | none => none
  | .moment, json => (lib.moment json).map .moment
  | _, _ => none

def validateField (field : Field) (json : Json) : Option Value :=
  match field.nullable, json with
  | true, .null => some .null
  | _, json => validateKind lib field.kind json

/-- The value of a field: a default is not validated. -/
def readField (field : Field) (raw : JsonObject) : Option Value :=
  match raw.lookup field.name with
  | some json => validateField lib field json
  | none => field.default

def validateFields (raw : JsonObject) : List Field → Option (List (String × Value))
  | [] => some []
  | field :: rest =>
    match readField lib field raw, validateFields raw rest with
    | some value, some values => some ((field.name, value) :: values)
    | _, _ => none

/-- The fields are read one by one, and each of them has to be read. -/
theorem validateFields_eq (raw : JsonObject) (fields : List Field) :
    validateFields lib raw fields =
      if ∀ field ∈ fields, (readField lib field raw).isSome then
        some (fields.map fun field => (field.name, (readField lib field raw).getD .null))
      else none := by
  induction fields with
  | nil => simp [validateFields]
  | cons field rest ih =>
    rw [validateFields, ih]
    cases hvalue : readField lib field raw with
    | none => simp [hvalue]
    | some value =>
      by_cases hrest : ∀ field ∈ rest, (readField lib field raw).isSome
      · rw [if_pos hrest, if_pos (List.forall_mem_cons.mpr ⟨by simp [hvalue], hrest⟩)]
        simp [hvalue]
      · rw [if_neg hrest, if_neg fun h => hrest (List.forall_mem_cons.mp h).2]

/-- The default is one that the field would accept. -/
def Field.defaultOk (field : Field) : Bool :=
  match field.default, field.kind with
  | none, _ => true
  | some .null, _ => field.nullable
  | some (.text s), .text lo hi => fits lo hi s
  | some (.integer n), .integer lo hi => lo ≤ n && n ≤ hi
  | some (.number q), .number lo hi => lo ≤ q && q ≤ hi
  | some _, _ => false

structure InputModel where
  fields : List Field
  valid : (String → Option Value) → Bool := fun _ => true
  names_nodup : (fields.map (·.name)).Nodup := by decide
  defaults_ok : ∀ field ∈ fields, field.defaultOk = true := by decide

/-- `model_validate`, with `extra="forbid"`. -/
def InputModel.validate (model : InputModel) (raw : JsonObject) :
    Option (List (String × Value)) :=
  if raw.all fun (key, _) => model.fields.any fun field => field.name = key then
    (validateFields lib raw model.fields).filter fun values =>
      model.valid fun name => values.lookup name
  else none

/-- `model_dump(mode="json")` of one value. -/
def dumpValue : Value → Json
  | .null => .null
  | .text s => .string s
  | .integer n => .int n
  | .number q => .float q
  | .moment m => .string (lib.dumpMoment m)

def dump (values : List (String × Value)) : JsonObject :=
  values.map fun (name, value) => (name, dumpValue lib value)

theorem InputModel.validate_eq_some {model : InputModel} {raw : JsonObject}
    {values : List (String × Value)} (h : model.validate lib raw = some values) :
    validateFields lib raw model.fields = some values ∧
      model.valid (fun name => values.lookup name) = true := by
  unfold InputModel.validate at h
  split at h
  · exact Option.filter_eq_some_iff.mp h
  · cases h

/-! ## The registered tools -/

/-- What the executor reads of a specification for its arguments. -/
structure ToolInput where
  key : String
  model : InputModel
  inputSensitiveFields : List String := []

def maxTextLength : Nat := 5000
def maxStringLength : Nat := 2000

/-- `_exactly_one_identifier` -/
def exactlyOne (names : List String) (value : String → Option Value) : Bool :=
  (names.filter fun name =>
    match value name with
    | some (.text s) => s ≠ ""
    | _ => false).length = 1

/-- `_require_tz_aware_range` -/
def tzAwareRange (value : String → Option Value) : Bool :=
  match value "start", value "end" with
  | some (.moment start), some (.moment finish) =>
    match start.utcOffset, finish.utcOffset with
    | some offset, some offset' =>
      start.microseconds - offset < finish.microseconds - offset'
    | _, _ => false
  | _, _ => false

def ticketStatuses : List String := ["open", "in_progress", "pending", "resolved", "closed"]
def ticketPriorities : List String := ["low", "normal", "high", "urgent"]

def echoInput : InputModel where
  fields := [⟨"message", .text 1 (some maxStringLength), false, none⟩]

def addInput : InputModel where
  fields := [⟨"a", .integer (-1000000) 1000000, false, none⟩,
    ⟨"b", .integer (-1000000) 1000000, false, none⟩]

def flakyInput : InputModel where
  fields := [⟨"fail_attempts", .integer 0 5, false, some (.integer 0)⟩,
    ⟨"sleep_seconds", .number 0 5, false, some (.number 0)⟩]

def customerLookupInput : InputModel where
  fields := [⟨"customer_id", .text 0 (some 64), true, some .null⟩,
    ⟨"email", .email, true, some .null⟩,
    ⟨"external_reference", .text 0 (some 255), true, some .null⟩]
  valid := exactlyOne ["customer_id", "email", "external_reference"]

def orderLookupInput : InputModel where
  fields := [⟨"order_reference", .text 1 (some 128), false, none⟩]

def shipmentLookupInput : InputModel where
  fields := [⟨"shipment_reference", .text 1 (some 128), false, none⟩]

def paymentLookupInput : InputModel where
  fields := [⟨"payment_reference", .text 1 (some 128), false, none⟩]

def paymentRefundInput : InputModel where
  fields := [⟨"payment_reference", .text 1 (some 128), false, none⟩,
    ⟨"amount_minor", .integer 1 100000000, false, none⟩,
    ⟨"currency", .upperText 3 3, false, none⟩,
    ⟨"reason", .text 0 (some 200), false, some (.text "requested_by_customer")⟩]

def calendarAvailabilityInput : InputModel where
  fields := [⟨"start", .moment, false, none⟩, ⟨"end", .moment, false, none⟩]
  valid := tzAwareRange

def calendarBookingInput : InputModel where
  fields := [⟨"start", .moment, false, none⟩, ⟨"end", .moment, false, none⟩,
    ⟨"title", .text 1 (some 200), false, none⟩, ⟨"customer_id", .text 1 (some 64), false, none⟩]
  valid := tzAwareRange

def ticketCreateInput : InputModel where
  fields := [⟨"customer_id", .text 1 (some 64), false, none⟩,
    ⟨"subject", .text 1 (some 300), false, none⟩,
    ⟨"description", .text 0 (some maxTextLength), false, some (.text "")⟩,
    ⟨"priority", .choice ticketPriorities, true, some .null⟩]

def ticketUpdateInput : InputModel where
  fields := [⟨"ticket_id", .text 1 (some 64), false, none⟩,
    ⟨"status", .choice ticketStatuses, true, some .null⟩,
    ⟨"priority", .choice ticketPriorities, true, some .null⟩,
    ⟨"note", .text 0 (some maxTextLength), true, some .null⟩]

def notificationSendInput : InputModel where
  fields := [⟨"customer_id", .text 1 (some 64), false, none⟩,
    ⟨"subject", .text 1 (some 200), false, none⟩,
    ⟨"body", .text 1 (some maxTextLength), false, none⟩]

/-- The tools that the two applications register. -/
def registeredTools : List ToolInput :=
  [{ key := "demo.echo", model := echoInput }, { key := "demo.add", model := addInput },
    { key := "demo.flaky", model := flakyInput },
    { key := "customer.lookup", model := customerLookupInput },
    { key := "order.lookup", model := orderLookupInput },
    { key := "shipment.lookup", model := shipmentLookupInput },
    { key := "payment.lookup", model := paymentLookupInput },
    { key := "payment.refund", model := paymentRefundInput },
    { key := "calendar.check_availability", model := calendarAvailabilityInput },
    { key := "calendar.create_booking", model := calendarBookingInput },
    { key := "ticket.create", model := ticketCreateInput },
    { key := "ticket.update", model := ticketUpdateInput },
    { key := "notification.send", model := notificationSendInput }]

end SupportPilot.Tools
