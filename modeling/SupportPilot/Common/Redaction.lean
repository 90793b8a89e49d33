import SupportPilot.Library.Nested
import SupportPilot.Tools.Redaction

/-!
# Redaction of nested values

`redact` on the values that logging and tracing hand to it: dictionaries, lists and tuples, with
keys and scalars of any kind, of which only strings are looked into. A dictionary is filled by
assignment in the order of the old one, so the one that comes out has the same keys in the same
order when the old one repeats none.
-/

namespace SupportPilot.Common

open Library

/-- A key or a scalar: a string, or something else that is only carried along. -/
inductive Atom (α : Type)
  | text (s : String)
  | other (x : α)
deriving DecidableEq

variable {κ σ : Type}

abbrev Value (κ σ : Type) := Nested (Atom κ) (Atom σ)

/-- `REDACTED` -/
def redactedValue : Value κ σ := .scalar (.text Tools.redactedText)

def isSensitiveKey (lower : String → String) : Atom κ → Bool
  | .text key => Tools.isSensitiveKey lower key
  | .other _ => false

/-- The test on the extra keys. -/
def isExtraKey (lower : String → String) (extraKeys : List String) : Atom κ → Bool
  | .text key => extraKeys.contains (lower key)
  | .other _ => false

variable [DecidableEq κ]

/-- `redacted[key] = value` -/
def setItem {α : Type} (key : Atom κ) (value : α) : List (Atom κ × α) → List (Atom κ × α)
  | [] => [(key, value)]
  | (name, old) :: rest =>
    if name = key then (name, value) :: rest else (name, old) :: setItem key value rest

section Redact

variable (lower : String → String) (extraKeys : List String)

mutual

def redact : Value κ σ → Value κ σ
  | .dict fields => .dict (redactFields [] fields)
  | .list items => .list (redactItems items)
  | .tuple items => .tuple (redactItems items)
  | .scalar value => .scalar value

def redactItems : List (Value κ σ) → List (Value κ σ)
  | [] => []
  | item :: rest => redact item :: redactItems rest

/-- The loop over the items of a dictionary. -/
def redactFields (redacted : List (Atom κ × Value κ σ)) :
    List (Atom κ × Value κ σ) → List (Atom κ × Value κ σ)
  | [] => redacted
  | (key, val) :: rest =>
    if isSensitiveKey lower key || isExtraKey lower extraKeys key then
      redactFields (setItem key redactedValue redacted) rest
    else redactFields (setItem key (redact val) redacted) rest

end

/-- The keys whose values are replaced. -/
def isHidden (key : Atom κ) : Bool := isSensitiveKey lower key || isExtraKey lower extraKeys key

/-- What becomes of the value under a key. -/
def redactField (key : Atom κ) (val : Value κ σ) : Value κ σ :=
  if isHidden lower extraKeys key then redactedValue else redact lower extraKeys val

end Redact

theorem setItem_new {α : Type} {key : Atom κ} (value : α) {fields : List (Atom κ × α)}
    (h : key ∉ fields.map Prod.fst) : setItem key value fields = fields ++ [(key, value)] := by
  induction fields with
  | nil => rfl
  | cons field rest ih =>
    obtain ⟨name, old⟩ := field
    rw [List.map_cons, List.mem_cons, not_or] at h
    rw [setItem, if_neg (Ne.symm h.1), ih h.2, List.cons_append]

section Characterised

variable {lower : String → String} {extraKeys : List String}

theorem redactItems_eq_map (items : List (Value κ σ)) :
    redactItems lower extraKeys items = items.map (redact lower extraKeys) := by
  induction items with
  | nil => rfl
  | cons item rest ih => rw [redactItems, ih, List.map_cons]

theorem redactFields_cons (redacted : List (Atom κ × Value κ σ)) (key : Atom κ) (val : Value κ σ)
    (rest : List (Atom κ × Value κ σ)) :
    redactFields lower extraKeys redacted ((key, val) :: rest) =
      redactFields lower extraKeys
        (setItem key (redactField lower extraKeys key val) redacted) rest := by
  rw [redactFields, redactField, isHidden]
  split <;> rfl

/-- The loop rewrites the values and keeps the keys. -/
theorem redactFields_eq_map (redacted fields : List (Atom κ × Value κ σ))
    (h : ((redacted ++ fields).map Prod.fst).Nodup) :
    redactFields lower extraKeys redacted fields =
      redacted ++ fields.map fun field =>
        (field.1, redactField lower extraKeys field.1 field.2) := by
  induction fields generalizing redacted with
  | nil => rw [redactFields, List.map_nil, List.append_nil]
  | cons field rest ih =>
    obtain ⟨key, val⟩ := field
    have hnew : key ∉ redacted.map Prod.fst := by
      rw [List.map_append, List.map_cons] at h
      exact fun hmem => List.disjoint_of_nodup_append h hmem List.mem_cons_self
    rw [redactFields_cons, setItem_new _ hnew, ih, List.append_assoc]
    · rfl
    · simpa using h

theorem redact_dict {fields : List (Atom κ × Value κ σ)}
    (h : (Nested.dict fields).DistinctKeys) :
    redact lower extraKeys (.dict fields) =
      .dict (fields.map fun field => (field.1, redactField lower extraKeys field.1 field.2)) := by
  rw [redact, redactFields_eq_map [] fields h.keys, List.nil_append]

/-- Nothing changes at the head. -/
theorem head_redact {value : Value κ σ} (h : value.DistinctKeys) :
    (redact lower extraKeys value).head = value.head := by
  cases value with
  | scalar => rw [redact]
  | list items => simp [redact, redactItems_eq_map, Nested.head]
  | tuple items => simp [redact, redactItems_eq_map, Nested.head]
  | dict fields => simp [redact_dict h, Nested.head]

/-- What a step leads to, when it goes by a key that is not hidden or by a position. -/
def redactChild (lower : String → String) (extraKeys : List String) :
    Nested.Step (Atom κ) → Value κ σ → Value κ σ
  | .item _ => redact lower extraKeys
  | .field key => redactField lower extraKeys key

/-- The values one step below are redacted each for itself. -/
theorem child_redact {value : Value κ σ} (h : value.DistinctKeys) (step : Nested.Step (Atom κ)) :
    (redact lower extraKeys value).child step =
      (value.child step).map (redactChild lower extraKeys step) := by
  cases value with
  | scalar => rw [redact]; rfl
  | list items | tuple items =>
    cases step with
    | item i => simp [redact, redactItems_eq_map, Nested.child, redactChild]
    | field => simp [redact, Nested.child]
  | dict fields =>
    rw [redact_dict h]
    cases step with
    | item => rfl
    | field key => exact Nested.lookup_map_fields (redactField lower extraKeys) fields key

end Characterised

/-! ## JSON -/

section Documents

mutual

/-- A JSON document as a nested value. -/
def ofJson : Json → Value κ Json
  | .string s => .scalar (.text s)
  | .list items => .list (ofItems items)
  | .object fields => .dict (ofFields fields)
  | value => .scalar (.other value)

def ofItems : List Json → List (Value κ Json)
  | [] => []
  | item :: rest => ofJson item :: ofItems rest

def ofFields : JsonObject → List (Atom κ × Value κ Json)
  | [] => []
  | (key, value) :: rest => (.text key, ofJson value) :: ofFields rest

end

variable {lower : String → String} {extraKeys : List String}

omit [DecidableEq κ] in
theorem isHidden_text (key : String) :
    isHidden lower extraKeys (.text key : Atom κ) = Tools.hiddenKey lower extraKeys key := rfl

mutual

/-- On JSON documents this is the redaction of the stored arguments. -/
theorem redact_ofJson (value : Json) (h : (ofJson value : Value κ Json).DistinctKeys) :
    redact lower extraKeys (ofJson value : Value κ Json) =
      ofJson (Tools.redact lower extraKeys value) := by
  cases value with
  | null | bool | int | float | string => simp [ofJson, redact, Tools.redact, Tools.hide]
  | list items =>
    rw [ofJson] at h
    rw [ofJson, redact, Tools.redact, Tools.hide, ofJson, redactItems_eq_map, map_ofItems items]
    exact fun item hitem => h.item hitem
  | object fields =>
    rw [ofJson] at h
    rw [ofJson, redact_dict h, Tools.redact, Tools.hide, ofJson, map_ofFields fields]
    exact fun field hfield => h.field hfield

theorem map_ofItems (items : List Json)
    (h : ∀ item ∈ (ofItems items : List (Value κ Json)), item.DistinctKeys) :
    (ofItems items : List (Value κ Json)).map (redact lower extraKeys) =
      ofItems (Tools.hideItems (Tools.hiddenKey lower extraKeys) items) := by
  cases items with
  | nil => rfl
  | cons item rest =>
    rw [ofItems, List.map_cons, Tools.hideItems, ofItems,
      redact_ofJson item (h _ List.mem_cons_self),
      map_ofItems rest fun item hitem => h item (List.mem_cons_of_mem _ hitem)]
    rfl

theorem map_ofFields (fields : JsonObject)
    (h : ∀ field ∈ (ofFields fields : List (Atom κ × Value κ Json)), field.2.DistinctKeys) :
    (ofFields fields : List (Atom κ × Value κ Json)).map
        (fun field => (field.1, redactField lower extraKeys field.1 field.2)) =
      ofFields (Tools.hideFields (Tools.hiddenKey lower extraKeys) fields) := by
  cases fields with
  | nil => rfl
  | cons field rest =>
    obtain ⟨key, value⟩ := field
    rw [ofFields, List.map_cons, Tools.hideFields, ofFields,
      map_ofFields rest fun field hfield => h field (List.mem_cons_of_mem _ hfield)]
    congr 2
    rw [redactField, isHidden_text]
    split
    · rfl
    · exact redact_ofJson value (h _ List.mem_cons_self)

end

end Documents

end SupportPilot.Common
