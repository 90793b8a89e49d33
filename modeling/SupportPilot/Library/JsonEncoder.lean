import SupportPilot.Library.Integers
import SupportPilot.Library.Outcomes

/-!
# Writing JSON within the limits of the interpreter

`json.dumps` with its options and the exceptions that it raises. The sorted encoder looks at the
fields in the order that they are stored in, and sorts their texts.
-/

namespace SupportPilot.Library

/-- `ValueError`, `RecursionError` and `TypeError`. -/
inductive EncodeError
  | tooManyDigits
  | tooDeep
  | notSerializable
  deriving DecidableEq, Repr

structure EncoderOptions where
  maxDigits : Nat
  itemSeparator : List Char := ", ".toList
  keySeparator : List Char := ": ".toList
  sortKeys : Bool := false
  /-- `default=str` -/
  defaultStr : Bool := false

/-- `sort_keys=True, separators=(",", ":")` -/
def EncoderOptions.canonical (maxDigits : Nat) : EncoderOptions where
  maxDigits := maxDigits
  itemSeparator := [',']
  keySeparator := [':']
  sortKeys := true

section Encoding

variable (options : EncoderOptions)

def fieldsText (fields : List (CodePoints × List Char)) : List Char :=
  let sorted := if options.sortKeys then sortedFields fields else fields
  let texts := sorted.map fun field => stringText field.1 ++ options.keySeparator ++ field.2
  '\x7b' :: options.itemSeparator.intercalate texts ++ ['\x7d']

mutual

/-- `json.dumps(value)` where `depth` more containers can be entered. -/
def encode : Nat → JsonValue → Except EncodeError (List Char)
  | _, .null => .ok "null".toList
  | _, .bool b => .ok (if b then "true" else "false").toList
  | _, .int n =>
    match showInt options.maxDigits n with
    | some text => .ok text
    | none => .error .tooManyDigits
  | _, .float x => .ok x.text
  | _, .negativeZero => .ok "-0.0".toList
  | _, .string s => .ok (stringText s)
  | 0, .list _ | 0, .object _ => .error .tooDeep
  | depth + 1, .list items => do
    let texts ← encodeItems depth items
    .ok ('[' :: options.itemSeparator.intercalate texts ++ [']'])
  | depth + 1, .object fields => do
    let texts ← encodeFields depth fields
    .ok (fieldsText options texts)
  | depth, .other shown =>
    if !options.defaultStr then .error .notSerializable
    else if depth = 0 then .error .tooDeep
    else .ok (stringText shown)

def encodeItems : Nat → List JsonValue → Except EncodeError (List (List Char))
  | _, [] => .ok []
  | depth, item :: rest => do
    let text ← encode depth item
    let texts ← encodeItems depth rest
    .ok (text :: texts)

def encodeFields : Nat → JsonFields → Except EncodeError (List (CodePoints × List Char))
  | _, [] => .ok []
  | depth, (key, value) :: rest => do
    let text ← encode depth value
    let texts ← encodeFields depth rest
    .ok ((key, text) :: texts)

end

/-! ## What can be written -/

mutual

/-- The containers that are open at once. -/
def nesting : JsonValue → Nat
  | .list items => nestingItems items + 1
  | .object fields => nestingFields fields + 1
  | .other _ => 1
  | _ => 0

def nestingItems : List JsonValue → Nat
  | [] => 0
  | item :: rest => max (nesting item) (nestingItems rest)

def nestingFields : JsonFields → Nat
  | [] => 0
  | field :: rest => max (nesting field.2) (nestingFields rest)

end

mutual

/-- The integers are within the limit, and only `default` makes a text of what is no JSON. -/
def Writable : JsonValue → Prop
  | .int n => (showInt options.maxDigits n).isSome = true
  | .list items => WritableItems items
  | .object fields => WritableFields fields
  | .other _ => options.defaultStr = true
  | _ => True

def WritableItems : List JsonValue → Prop
  | [] => True
  | item :: rest => Writable item ∧ WritableItems rest

def WritableFields : JsonFields → Prop
  | [] => True
  | field :: rest => Writable field.2 ∧ WritableFields rest

end

mutual

/-- A value is written exactly when it does not nest too deep and each of its parts can be
written. -/
theorem encode_ok_iff (depth : Nat) (value : JsonValue) :
    (∃ text, encode options depth value = .ok text) ↔
      nesting value ≤ depth ∧ Writable options value := by
  cases value with
  | int n =>
    cases hshown : showInt options.maxDigits n <;> simp [encode, nesting, Writable, hshown]
  | list items =>
    have hitems := fun depth => encodeItems_ok_iff depth items
    cases depth with
    | zero => simp [encode, nesting]
    | succ depth =>
      simp only [nesting, Writable, Nat.add_le_add_iff_right, ← hitems, encode, bind_eq_ok]
      exact ⟨fun ⟨_, texts, h, _⟩ => ⟨texts, h⟩, fun ⟨texts, h⟩ => ⟨_, texts, h, rfl⟩⟩
  | object fields =>
    have hfields := fun depth => encodeFields_ok_iff depth fields
    cases depth with
    | zero => simp [encode, nesting]
    | succ depth =>
      simp only [nesting, Writable, Nat.add_le_add_iff_right, ← hfields, encode, bind_eq_ok]
      exact ⟨fun ⟨_, texts, h, _⟩ => ⟨texts, h⟩, fun ⟨texts, h⟩ => ⟨_, texts, h, rfl⟩⟩
  | other shown =>
    cases depth with
    | zero => cases hdefault : options.defaultStr <;> simp [encode, nesting, hdefault]
    | succ depth =>
      cases hdefault : options.defaultStr <;> simp [encode, nesting, Writable, hdefault]
  | null | bool | float | negativeZero | string => simp [encode, nesting, Writable]

theorem encodeItems_ok_iff (depth : Nat) (items : List JsonValue) :
    (∃ texts, encodeItems options depth items = .ok texts) ↔
      nestingItems items ≤ depth ∧ WritableItems options items := by
  cases items with
  | nil => simp [encodeItems, nestingItems, WritableItems]
  | cons item rest =>
    simp only [nestingItems, WritableItems, Nat.max_le]
    rw [and_and_and_comm, ← encode_ok_iff, ← encodeItems_ok_iff]
    simp only [encodeItems, bind_eq_ok]
    exact ⟨fun ⟨_, text, h, texts, hrest, _⟩ => ⟨⟨text, h⟩, texts, hrest⟩,
      fun ⟨⟨text, h⟩, texts, hrest⟩ => ⟨_, text, h, texts, hrest, rfl⟩⟩

theorem encodeFields_ok_iff (depth : Nat) (fields : JsonFields) :
    (∃ texts, encodeFields options depth fields = .ok texts) ↔
      nestingFields fields ≤ depth ∧ WritableFields options fields := by
  cases fields with
  | nil => simp [encodeFields, nestingFields, WritableFields]
  | cons field rest =>
    simp only [nestingFields, WritableFields, Nat.max_le]
    rw [and_and_and_comm, ← encode_ok_iff, ← encodeFields_ok_iff]
    simp only [encodeFields, bind_eq_ok]
    exact ⟨fun ⟨_, text, h, texts, hrest, _⟩ => ⟨⟨text, h⟩, texts, hrest⟩,
      fun ⟨⟨text, h⟩, texts, hrest⟩ => ⟨_, text, h, texts, hrest, rfl⟩⟩

end

end Encoding

end SupportPilot.Library
