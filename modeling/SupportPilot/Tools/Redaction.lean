import SupportPilot.Library.Json

/-!
# Redaction

`redact` hides the values under sensitive keys, at any depth. Which keys are sensitive is a
predicate here, and `redact` of the source is its instance for the markers and the extra keys.
Tuples are lists already, as the dumps that are redacted are JSON.
-/

namespace SupportPilot.Tools

open Library

/-- `REDACTED` -/
def redactedText : String := "***REDACTED***"

def sensitiveKeyMarkers : List String :=
  ["password", "secret", "token", "api_key", "apikey", "authorization", "access_key",
    "private_key", "signing_key", "card_number", "cvv", "ssn", "credential", "key"]

def isSensitiveKey (lower : String → String) (key : String) : Bool :=
  sensitiveKeyMarkers.any fun marker => marker.toList <:+: (lower key).toList

mutual

/-- The values under hidden keys are replaced by the placeholder. -/
def hide (hidden : String → Bool) : Json → Json
  | .list items => .list (hideItems hidden items)
  | .object fields => .object (hideFields hidden fields)
  | value => value

def hideItems (hidden : String → Bool) : List Json → List Json
  | [] => []
  | item :: rest => hide hidden item :: hideItems hidden rest

def hideFields (hidden : String → Bool) : JsonObject → JsonObject
  | [] => []
  | (key, value) :: rest =>
    (key, if hidden key then .string redactedText else hide hidden value) ::
      hideFields hidden rest

end

/-- The keys that `redact` hides when it is given these extra keys. -/
def hiddenKey (lower : String → String) (extraKeys : List String) (key : String) : Bool :=
  isSensitiveKey lower key || extraKeys.contains (lower key)

def redact (lower : String → String) (extraKeys : List String) (value : Json) : Json :=
  hide (hiddenKey lower extraKeys) value

/-! ## When two redactions agree -/

section Agreement

variable (hidden shown : String → Bool)

mutual

/-- Every key that is reached is hidden by both redactions or by neither, or has the placeholder
for its value already. -/
def Agrees : Json → Prop
  | .list items => AgreesItems items
  | .object fields => AgreesFields fields
  | _ => True

def AgreesItems : List Json → Prop
  | [] => True
  | item :: rest => Agrees item ∧ AgreesItems rest

def AgreesFields : JsonObject → Prop
  | [] => True
  | (key, value) :: rest =>
    (match hidden key, shown key with
      | true, true => True
      | false, false => Agrees value
      | _, _ => value = .string redactedText) ∧ AgreesFields rest

end

theorem hide_eq_placeholder {hidden : String → Bool} {value : Json} :
    hide hidden value = .string redactedText ↔ value = .string redactedText := by
  cases value <;> simp [hide]

mutual

theorem hide_eq_iff (value : Json) :
    hide hidden value = hide shown value ↔ Agrees hidden shown value := by
  cases value with
  | list items => simp only [hide, Agrees, Json.list.injEq, hideItems_eq_iff items]
  | object fields => simp only [hide, Agrees, Json.object.injEq, hideFields_eq_iff fields]
  | null | bool | int | float | string => simp [hide, Agrees]

theorem hideItems_eq_iff (items : List Json) :
    hideItems hidden items = hideItems shown items ↔ AgreesItems hidden shown items := by
  cases items with
  | nil => simp [hideItems, AgreesItems]
  | cons item rest =>
    simp only [hideItems, AgreesItems, List.cons.injEq, hide_eq_iff item, hideItems_eq_iff rest]

theorem hideFields_eq_iff (fields : JsonObject) :
    hideFields hidden fields = hideFields shown fields ↔ AgreesFields hidden shown fields := by
  cases fields with
  | nil => simp [hideFields, AgreesFields]
  | cons field rest =>
    obtain ⟨key, value⟩ := field
    simp only [hideFields, AgreesFields, List.cons.injEq, Prod.mk.injEq, true_and,
      hideFields_eq_iff rest]
    refine and_congr_left fun _ => ?_
    cases hidden key with
    | true =>
      cases shown key with
      | true => simp
      | false => simp [eq_comm, hide_eq_placeholder]
    | false =>
      cases shown key with
      | true => simp [hide_eq_placeholder]
      | false => simp [hide_eq_iff value]

end

end Agreement

end SupportPilot.Tools
