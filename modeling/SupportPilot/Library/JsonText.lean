import Mathlib.Data.List.DropRight
import Mathlib.Data.List.Lex
import Mathlib.Data.Nat.Log
import Mathlib.Order.Fin.Basic
import SupportPilot.Library.Binary64

/-!
# The text of JSON values

Values as Python holds them, with strings of any code points and with the floats that JSON itself
does not have, and the canonical text of a value: ASCII, with sorted keys and no white space. The
limits that the interpreter sets to recursion and to the length of integers are left out.
-/

namespace SupportPilot.Library

/-- A character of a Python string. Surrogates may stand alone. -/
abbrev CodePoint := Fin 0x110000

instance : LawfulBEq CodePoint := inferInstance

abbrev CodePoints := List CodePoint

def codePoint (c : Char) : CodePoint := ⟨c.toNat, by
  obtain h | ⟨-, h⟩ := c.valid
  · exact h.trans (by decide)
  · exact h⟩

theorem codePoint_injective : Function.Injective codePoint := fun _ _ h =>
  Char.toNat_inj.mp (Fin.mk.inj h)

/-- A literal. -/
def codePoints (s : String) : CodePoints := s.toList.map codePoint

inductive JsonValue
  | null
  | bool (b : Bool)
  | int (n : Int)
  | float (x : Binary64)
  | negativeZero
  | string (s : CodePoints)
  | list (items : List JsonValue)
  | object (fields : List (CodePoints × JsonValue))
  /-- Anything else, with what `str` makes of it. -/
  | other (shown : CodePoints)

abbrev JsonFields := List (CodePoints × JsonValue)

/-! ## Numbers -/

namespace Binary64

def pow10 (e : Int) : Rat :=
  if 0 ≤ e then ((10 ^ e.toNat : Nat) : Rat) else 1 / ((10 ^ (-e).toNat : Nat) : Rat)

/-- The decimal exponent of a positive number. -/
def decimalExponent (q : Rat) : Int :=
  let e : Int := (Nat.log 10 q.num.toNat : Int) - (Nat.log 10 q.den : Int)
  if q < pow10 e then e - 1 else e

/-- The neighbour of `q` among the multiples of the unit that is read back as `q`. -/
def neighbour (q unit : Rat) : Option Nat :=
  let low := (q / unit).floor.toNat
  let fits (n : Nat) : Bool := round (n * unit) = .finite q
  let below := q - low * unit
  let above := (low + 1) * unit - q
  if fits low && fits (low + 1) then
    some (if below < above || below = above && low % 2 = 0 then low else low + 1)
  else if fits low then some low
  else if fits (low + 1) then some (low + 1)
  else none

/-- The fewest digits, from this number on, that are read back as `q`, and what they are. -/
def shortestDigits (q : Rat) (e : Int) : Nat → Nat → Nat × Nat
  | 0, digits => ((q / pow10 (e + 1 - digits)).floor.toNat, digits)
  | fuel + 1, digits =>
    match neighbour q (pow10 (e + 1 - digits)) with
    | some n => (n, digits)
    | none => shortestDigits q e fuel (digits + 1)

/-- The digits of a positive number and the position of its decimal point. No number needs more
digits than there are turns. -/
def decimal (q : Rat) : List Char × Int :=
  let e := decimalExponent q
  let (n, digits) := shortestDigits q e (e.natAbs + q.den.log2 + 2) 1
  let text := Nat.toDigits 10 n
  (text.rdropWhile (· = '0'), e + 1 + (text.length - digits : Int))

def mantissa : List Char → List Char
  | first :: second :: rest => first :: '.' :: second :: rest
  | text => text

def exponentText (e : Int) : List Char :=
  let digits := Nat.toDigits 10 e.natAbs
  (if e < 0 then '-' else '+') :: (if digits.length < 2 then '0' :: digits else digits)

/-- `float.__repr__` of a positive number. -/
def positiveText (q : Rat) : List Char :=
  let (text, point) := decimal q
  if point ≤ -4 ∨ 16 < point then mantissa text ++ 'e' :: exponentText (point - 1)
  else if point ≤ 0 then '0' :: '.' :: List.replicate (-point).toNat '0' ++ text
  else
    (text ++ List.replicate (point.toNat - text.length) '0').take point.toNat ++
      '.' :: (if text.length ≤ point.toNat then ['0'] else text.drop point.toNat)

def text : Binary64 → List Char
  | .nan => "NaN".toList
  | .infinite false => "Infinity".toList
  | .infinite true => "-Infinity".toList
  | .finite q =>
    if q = 0 then "0.0".toList
    else if q < 0 then '-' :: positiveText (-q)
    else positiveText q

end Binary64

def intText (n : Int) : List Char :=
  if n < 0 then '-' :: Nat.toDigits 10 n.natAbs else Nat.toDigits 10 n.natAbs

/-! ## Strings -/

def hexChar (n : Nat) : Char := Nat.digitChar (n % 16)

/-- `\\uXXXX` -/
def unicodeEscape (n : Nat) : List Char :=
  ['\\', 'u', hexChar (n / 4096), hexChar (n / 256), hexChar (n / 16), hexChar n]

/-- A character within a string. All but the printable ASCII characters are escaped, with two
surrogates for those beyond the basic plane. -/
def escapeChar (c : CodePoint) : List Char :=
  let n := c.val
  if n = 0x22 then ['\\', '"']
  else if n = 0x5C then ['\\', '\\']
  else if n = 0x08 then ['\\', 'b']
  else if n = 0x0C then ['\\', 'f']
  else if n = 0x0A then ['\\', 'n']
  else if n = 0x0D then ['\\', 'r']
  else if n = 0x09 then ['\\', 't']
  else if 0x20 ≤ n ∧ n ≤ 0x7E then [Char.ofNat n]
  else if n < 0x10000 then unicodeEscape n
  else unicodeEscape (0xD800 + (n - 0x10000) / 0x400) ++
    unicodeEscape (0xDC00 + (n - 0x10000) % 0x400)

def stringText (s : CodePoints) : List Char := '"' :: s.flatMap escapeChar ++ ['"']

/-! ## Values -/

def sortedFields {α : Type} (fields : List (CodePoints × α)) : List (CodePoints × α) :=
  fields.mergeSort fun a b => decide (a.1 ≤ b.1)

def fieldText (field : CodePoints × List Char) : List Char :=
  stringText field.1 ++ ':' :: field.2

mutual

/-- `json.dumps(value, sort_keys=True, separators=(",", ":"), default=str)` -/
def dumps : JsonValue → List Char
  | .null => "null".toList
  | .bool true => "true".toList
  | .bool false => "false".toList
  | .int n => intText n
  | .float x => x.text
  | .negativeZero => "-0.0".toList
  | .string s => stringText s
  | .other shown => stringText shown
  | .list items => '[' :: [','].intercalate (dumpsItems items) ++ [']']
  | .object fields =>
    '{' :: [','].intercalate ((sortedFields (dumpsFields fields)).map fieldText) ++ ['}']

def dumpsItems : List JsonValue → List (List Char)
  | [] => []
  | item :: rest => dumps item :: dumpsItems rest

def dumpsFields : JsonFields → List (CodePoints × List Char)
  | [] => []
  | (key, value) :: rest => (key, dumps value) :: dumpsFields rest

end

/-! ## The characters of a text -/

/-- The characters of ASCII that are printed, the blank among them. -/
def Printable (c : Char) : Prop := 0x20 ≤ c.toNat ∧ c.toNat ≤ 0x7E

instance : DecidablePred Printable := fun _ => inferInstanceAs (Decidable (_ ∧ _))

def Plain (text : List Char) : Prop := ∀ c ∈ text, Printable c

instance : DecidablePred Plain := fun text => List.decidableBAll Printable text

@[simp] theorem plain_nil : Plain [] := nofun

@[simp] theorem plain_cons {c : Char} {text : List Char} :
    Plain (c :: text) ↔ Printable c ∧ Plain text := List.forall_mem_cons

@[simp] theorem plain_append {text later : List Char} :
    Plain (text ++ later) ↔ Plain text ∧ Plain later := List.forall_mem_append

theorem Plain.subset {text part : List Char} (h : Plain text) (hpart : part ⊆ text) :
    Plain part := fun c hc => h c (hpart hc)

theorem plain_join {texts : List (List Char)} (h : ∀ text ∈ texts, Plain text) :
    Plain ([','].intercalate texts) := by
  induction texts with
  | nil => exact plain_nil
  | cons text rest ih =>
    have hrest := ih fun other hother => h other (List.mem_cons_of_mem _ hother)
    cases rest with
    | nil => simpa using h text List.mem_cons_self
    | cons next rest =>
      rw [List.intercalate_cons_cons]
      simp only [plain_append, plain_cons, plain_nil]
      exact ⟨⟨h text List.mem_cons_self, by decide, trivial⟩, hrest⟩

theorem plain_toDigits (n : Nat) : Plain (Nat.toDigits 10 n) := by
  intro c hc
  have hdigit := Nat.isDigit_of_mem_toDigits (by decide) (Nat.le_refl 10) hc
  simp only [Char.isDigit, Bool.and_eq_true, decide_eq_true_eq, ge_iff_le] at hdigit
  exact ⟨Nat.le_trans (by decide) hdigit.1, Nat.le_trans hdigit.2 (by decide)⟩

theorem plain_intText (n : Int) : Plain (intText n) := by
  rw [intText]
  split
  · exact plain_cons.mpr ⟨by decide, plain_toDigits _⟩
  · exact plain_toDigits _

theorem plain_zeros (n : Nat) : Plain (List.replicate n '0') := by
  intro c hc
  rw [List.eq_of_mem_replicate hc]
  decide

theorem plain_mantissa {text : List Char} (h : Plain text) : Plain (Binary64.mantissa text) := by
  unfold Binary64.mantissa
  split
  · simp only [plain_cons] at h ⊢
    exact ⟨h.1, by decide, h.2⟩
  · exact h

theorem plain_exponentText (e : Int) : Plain (Binary64.exponentText e) := by
  have hdigits := plain_toDigits e.natAbs
  rw [Binary64.exponentText, plain_cons]
  refine ⟨by split <;> decide, ?_⟩
  split
  · exact plain_cons.mpr ⟨by decide, hdigits⟩
  · exact hdigits

theorem plain_positiveText (q : Rat) : Plain (Binary64.positiveText q) := by
  have hdigits : Plain (Binary64.decimal q).1 :=
    (plain_toDigits _).subset (List.rdropWhile_prefix _ _).subset
  rw [Binary64.positiveText]
  generalize Binary64.decimal q = d at hdigits ⊢
  obtain ⟨text, point⟩ := d
  dsimp only at hdigits ⊢
  split
  · rw [plain_append, plain_cons]
    exact ⟨plain_mantissa hdigits, by decide, plain_exponentText _⟩
  · split
    · simp only [List.cons_append, plain_append, plain_cons]
      exact ⟨by decide, by decide, plain_zeros _, hdigits⟩
    · have hwhole : Plain (text ++ List.replicate (point.toNat - text.length) '0') :=
        plain_append.mpr ⟨hdigits, plain_zeros _⟩
      rw [plain_append, plain_cons]
      refine ⟨hwhole.subset (List.take_subset _ _), by decide, ?_⟩
      split
      · decide
      · exact hdigits.subset (List.drop_subset _ _)

theorem plain_floatText (x : Binary64) : Plain x.text := by
  cases x with
  | nan => decide
  | infinite negative => cases negative <;> decide
  | finite q =>
    unfold Binary64.text
    dsimp only
    split_ifs
    · decide
    · exact plain_cons.mpr ⟨by decide, plain_positiveText _⟩
    · exact plain_positiveText q

theorem printable_hexChar (n : Nat) : Printable (hexChar n) := by
  have hdigit : ∀ d < 16, Printable (Nat.digitChar d) := by decide
  exact hdigit (n % 16) (Nat.mod_lt n (by decide))

theorem plain_unicodeEscape (n : Nat) : Plain (unicodeEscape n) := by
  simp only [unicodeEscape, plain_cons, plain_nil, printable_hexChar]
  decide

theorem plain_escapeChar (c : CodePoint) : Plain (escapeChar c) := by
  rw [escapeChar]
  split_ifs with h₁ h₂ h₃ h₄ h₅ h₆ h₇ hprinted
  case pos => decide
  case pos => decide
  case pos => decide
  case pos => decide
  case pos => decide
  case pos => decide
  case pos => decide
  case pos =>
    have hvalid : c.val.isValidChar := .inl (Nat.lt_of_le_of_lt hprinted.2 (by decide))
    have hchar : (Char.ofNat c.val).toNat = c.val := by
      rw [Char.ofNat, dif_pos hvalid]
      rfl
    simpa [Printable, hchar] using hprinted
  case pos => exact plain_unicodeEscape _
  case neg => exact plain_append.mpr ⟨plain_unicodeEscape _, plain_unicodeEscape _⟩

theorem plain_stringText (s : CodePoints) : Plain (stringText s) := by
  have hbody : Plain (s.flatMap escapeChar) := by
    intro c hc
    obtain ⟨point, -, hc⟩ := List.mem_flatMap.mp hc
    exact plain_escapeChar point c hc
  simp only [stringText, List.cons_append, plain_cons, plain_append, plain_nil]
  exact ⟨by decide, hbody, by decide, trivial⟩

mutual

/-- Whatever a value holds, its text is printable ASCII. -/
theorem plain_dumps (value : JsonValue) : Plain (dumps value) := by
  cases value with
  | null | negativeZero => decide
  | bool b => cases b <;> decide
  | int n => exact plain_intText n
  | float x => exact plain_floatText x
  | string s => exact plain_stringText s
  | other shown => exact plain_stringText shown
  | list items =>
    have hitems := plain_join (plain_dumpsItems items)
    simp only [dumps, List.cons_append, plain_cons, plain_append, plain_nil]
    exact ⟨by decide, hitems, by decide, trivial⟩
  | object fields =>
    have hfields : ∀ text ∈ (sortedFields (dumpsFields fields)).map fieldText, Plain text := by
      intro text htext
      obtain ⟨field, hfield, rfl⟩ := List.mem_map.mp htext
      have hvalue := plain_dumpsFields fields field (List.mem_mergeSort.mp hfield)
      simp only [fieldText, plain_append, plain_cons]
      exact ⟨plain_stringText field.1, by decide, hvalue⟩
    simp only [dumps, List.cons_append, plain_cons, plain_append, plain_nil]
    exact ⟨by decide, plain_join hfields, by decide, trivial⟩

theorem plain_dumpsItems (items : List JsonValue) : ∀ text ∈ dumpsItems items, Plain text := by
  cases items with
  | nil => nofun
  | cons item rest => exact List.forall_mem_cons.mpr ⟨plain_dumps item, plain_dumpsItems rest⟩

theorem plain_dumpsFields (fields : JsonFields) :
    ∀ field ∈ dumpsFields fields, Plain field.2 := by
  cases fields with
  | nil => nofun
  | cons field rest =>
    obtain ⟨key, value⟩ := field
    exact List.forall_mem_cons.mpr ⟨plain_dumps value, plain_dumpsFields rest⟩

end

end SupportPilot.Library
