import SupportPilot.Library.Decimals

/-!
# Reading JSON

What `json.loads` makes of a text. The literals that are no JSON are read too, the last of the
fields of one name counts, and a surrogate may be written without its half. The interpreter sets
limits to the digits of an integer and to the containers that are open at once.
-/

namespace SupportPilot.Library

/-- Why a text is not read: `JSONDecodeError`, `ValueError` and `RecursionError`. -/
inductive ReadError
  | malformed
  | tooManyDigits
  | tooDeep
  deriving DecidableEq, Repr

structure ReaderLimits where
  maxDigits : Nat
  /-- The containers that can be open at once. -/
  depth : Nat
  deriving DecidableEq, Repr

def isBlank (c : Char) : Bool := c = ' ' || c = '\t' || c = '\n' || c = '\r'

def skipBlank (text : List Char) : List Char := text.dropWhile isBlank

/-! ## Strings -/

def hexValue (c : Char) : Option Nat :=
  if c.isDigit then some (c.toNat - '0'.toNat)
  else if 'a' ≤ c ∧ c ≤ 'f' then some (c.toNat - 'a'.toNat + 10)
  else if 'A' ≤ c ∧ c ≤ 'F' then some (c.toNat - 'A'.toNat + 10)
  else none

/-- Four hexadecimal digits. -/
def scanUnit : List Char → Option (Nat × List Char)
  | a :: b :: c :: d :: rest => do
    let w ← hexValue a
    let x ← hexValue b
    let y ← hexValue c
    let z ← hexValue d
    some (((w * 16 + x) * 16 + y) * 16 + z, rest)
  | _ => none

def isHighSurrogate (n : Nat) : Bool := 0xD800 ≤ n && n ≤ 0xDBFF

def isLowSurrogate (n : Nat) : Bool := 0xDC00 ≤ n && n ≤ 0xDFFF

/-- The character of one unit, or of two where they are the halves of a pair. -/
def scanUnicode (text : List Char) : Option (CodePoint × List Char) := do
  let (unit, rest) ← scanUnit text
  match rest with
  | '\\' :: 'u' :: later =>
    if isHighSurrogate unit then do
      let (low, later) ← scanUnit later
      if isLowSurrogate low then
        some (Fin.ofNat _ (0x10000 + (unit - 0xD800) * 0x400 + (low - 0xDC00)), later)
      else some (Fin.ofNat _ unit, rest)
    else some (Fin.ofNat _ unit, rest)
  | _ => some (Fin.ofNat _ unit, rest)

/-- The characters that stand for others behind a backslash. -/
def escapes : List (Char × Char) :=
  [('"', '"'), ('\\', '\\'), ('/', '/'), ('b', '\x08'), ('f', '\x0C'), ('n', '\n'), ('r', '\r'),
    ('t', '\t')]

/-- What stands behind a backslash. -/
def scanEscape : List Char → Option (CodePoint × List Char)
  | [] => none
  | 'u' :: rest => scanUnicode rest
  | c :: rest => (escapes.lookup c).map fun escaped => (codePoint escaped, rest)

/-- The characters up to the closing quote. -/
def scanString : Nat → List Char → Option (CodePoints × List Char)
  | 0, _ | _, [] => none
  | _ + 1, '"' :: rest => some ([], rest)
  | fuel + 1, '\\' :: rest => do
    let (c, rest) ← scanEscape rest
    let (text, rest) ← scanString fuel rest
    some (c :: text, rest)
  | fuel + 1, c :: rest =>
    if c.toNat < 0x20 then none
    else do
      let (text, rest) ← scanString fuel rest
      some (codePoint c :: text, rest)

/-! ## Numbers -/

/-- The digits in front of a point or an exponent; only a single zero starts with a zero. -/
def scanWhole : List Char → List Char × List Char
  | '0' :: rest => (['0'], rest)
  | text => text.span Char.isDigit

/-- A point with digits behind it. -/
def scanFraction : List Char → List Char × List Char
  | '.' :: rest =>
    let (digits, later) := rest.span Char.isDigit
    if digits = [] then ([], '.' :: rest) else ('.' :: digits, later)
  | text => ([], text)

/-- The sign of an exponent. -/
def scanSign : List Char → List Char × List Char
  | '-' :: rest => (['-'], rest)
  | '+' :: rest => (['+'], rest)
  | text => ([], text)

/-- An exponent with digits. -/
def scanExponent : List Char → List Char × List Char
  | [] => ([], [])
  | c :: rest =>
    if c = 'e' ∨ c = 'E' then
      let (sign, unsigned) := scanSign rest
      let (digits, later) := unsigned.span Char.isDigit
      if digits = [] then ([], c :: rest) else (c :: sign ++ digits, later)
    else ([], c :: rest)

def floatValue (negative : Bool) (q : Rat) : JsonValue :=
  match Binary64.round (if negative then -q else q) with
  | .finite r => if r = 0 ∧ negative then .negativeZero else .float (.finite r)
  | x => .float x

def scanNumber (maxDigits : Nat) (text : List Char) :
    Except ReadError (JsonValue × List Char) :=
  let (negative, unsigned) :=
    match text with
    | '-' :: rest => (true, rest)
    | _ => (false, text)
  let (whole, rest) := scanWhole unsigned
  let (fraction, rest) := scanFraction rest
  let (exponent, rest) := scanExponent rest
  if whole = [] then .error .malformed
  else if fraction = [] ∧ exponent = [] then
    if whole.length ≤ maxDigits then
      let value : Int := Nat.ofDigitChars 10 whole 0
      .ok (.int (if negative then -value else value), rest)
    else .error .tooManyDigits
  else
    match unsignedDecimal (whole ++ fraction ++ exponent) with
    | some q => .ok (floatValue negative q, rest)
    | none => .error .malformed

/-! ## Values -/

def literals : List (List Char × JsonValue) :=
  [("null".toList, .null), ("true".toList, .bool true), ("false".toList, .bool false),
    ("NaN".toList, .float .nan), ("Infinity".toList, .float (.infinite false)),
    ("-Infinity".toList, .float (.infinite true))]

/-- A literal, or else a number. -/
def scanPlain (maxDigits : Nat) (text : List Char) : Except ReadError (JsonValue × List Char) :=
  match literals.find? fun literal => literal.1.isPrefixOf text with
  | some (word, value) => .ok (value, text.drop word.length)
  | none => scanNumber maxDigits text

/-- The values up to the closing bracket. -/
def scanItems (value : List Char → Except ReadError (JsonValue × List Char)) :
    Nat → List Char → Except ReadError (List JsonValue × List Char)
  | 0, _ => .error .malformed
  | fuel + 1, text => do
    let (item, rest) ← value text
    match skipBlank rest with
    | ']' :: rest => .ok ([item], rest)
    | ',' :: rest => do
      let (items, rest) ← scanItems value fuel (skipBlank rest)
      .ok (item :: items, rest)
    | _ => .error .malformed

/-- A name with the colon behind it. -/
def scanName : List Char → Except ReadError (CodePoints × List Char)
  | '"' :: text =>
    match scanString text.length text with
    | none => .error .malformed
    | some (name, rest) =>
      match skipBlank rest with
      | ':' :: rest => .ok (name, skipBlank rest)
      | _ => .error .malformed
  | _ => .error .malformed

/-- The fields up to the closing brace. -/
def scanFields (value : List Char → Except ReadError (JsonValue × List Char)) :
    Nat → List Char → Except ReadError (JsonFields × List Char)
  | 0, _ => .error .malformed
  | fuel + 1, text => do
    let (name, rest) ← scanName text
    let (item, rest) ← value rest
    match skipBlank rest with
    | '\x7d' :: rest => .ok ([(name, item)], rest)
    | ',' :: rest => do
      let (fields, rest) ← scanFields value fuel (skipBlank rest)
      .ok ((name, item) :: fields, rest)
    | _ => .error .malformed

/-- `fields[name] = value` -/
def setField (fields : JsonFields) (name : CodePoints) (value : JsonValue) : JsonFields :=
  if fields.any (·.1 = name) then
    fields.map fun field => if field.1 = name then (name, value) else field
  else fields ++ [(name, value)]

/-- The dictionary of fields in the order of the text. -/
def dictionary (fields : JsonFields) : JsonFields :=
  fields.foldl (fun read field => setField read field.1 field.2) []

/-- The value in front; each container that is opened takes one from the depth. -/
def scanOnce (maxDigits : Nat) : Nat → List Char → Except ReadError (JsonValue × List Char)
  | _, '"' :: text =>
    match scanString text.length text with
    | some (s, rest) => .ok (.string s, rest)
    | none => .error .malformed
  | 0, '[' :: _ | 0, '\x7b' :: _ => .error .tooDeep
  | depth + 1, '[' :: text =>
    match skipBlank text with
    | ']' :: rest => .ok (.list [], rest)
    | rest => do
      let (items, rest) ← scanItems (scanOnce maxDigits depth) rest.length rest
      .ok (.list items, rest)
  | depth + 1, '\x7b' :: text =>
    match skipBlank text with
    | '\x7d' :: rest => .ok (.object [], rest)
    | rest => do
      let (fields, rest) ← scanFields (scanOnce maxDigits depth) rest.length rest
      .ok (.object (dictionary fields), rest)
  | _, text => scanPlain maxDigits text

/-- `json.loads(text)` -/
def loads (limits : ReaderLimits) (text : List Char) : Except ReadError JsonValue :=
  if text.head? = some '\uFEFF' then .error .malformed
  else do
    let (value, rest) ← scanOnce limits.maxDigits limits.depth (skipBlank text)
    if skipBlank rest = [] then .ok value else .error .malformed

/-- `bool(value)` -/
def JsonValue.truthy : JsonValue → Bool
  | .null | .negativeZero => false
  | .bool b => b
  | .int n => n ≠ 0
  | .float x => x ≠ .finite 0
  | .string s => s ≠ []
  | .list items => !items.isEmpty
  | .object fields => !fields.isEmpty
  | .other _ => true

end SupportPilot.Library
