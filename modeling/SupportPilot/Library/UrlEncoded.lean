import Mathlib.Data.List.Basic
import Mathlib.Data.UInt
import SupportPilot.Library.FileTrees

/-!
# Query strings

The form-urlencoded text of a list of named values, and how it is read. Texts are sequences of
Unicode scalar values; what a reader makes of bytes that are no UTF-8 is a parameter.
-/

namespace SupportPilot.Library

/-! ## Bytes of a query -/

/-- A byte that stands for itself: a letter, a digit, `*`, `-`, `.` or `_`. -/
def unreserved (b : UInt8) : Bool :=
  let n := b.toNat
  (48 ≤ n && n ≤ 57) || (65 ≤ n && n ≤ 90) || (97 ≤ n && n ≤ 122) || n = 42 || n = 45 || n = 46 ||
    n = 95

def queryHexDigit (n : Nat) : UInt8 := .ofNat (if n < 10 then 48 + n else 55 + n)

def queryHexValue (b : UInt8) : Option Nat :=
  let n := b.toNat
  if 48 ≤ n ∧ n ≤ 57 then some (n - 48)
  else if 65 ≤ n ∧ n ≤ 70 then some (n - 55)
  else if 97 ≤ n ∧ n ≤ 102 then some (n - 87)
  else none

/-- A space is written as `+`, and any other byte that is reserved with a `%`. -/
def encodeQueryByte (b : UInt8) : List UInt8 :=
  if b = 32 then [43]
  else if unreserved b then [b]
  else [37, queryHexDigit (b.toNat / 16), queryHexDigit (b.toNat % 16)]

def plainByte (b : UInt8) : UInt8 := if b = 43 then 32 else b

def escapedByte (b high low : UInt8) : Option UInt8 :=
  if b = 37 then
    (queryHexValue high).bind fun x => (queryHexValue low).map fun y => .ofNat (16 * x + y)
  else none

/-- A `%` without two hexadecimal digits behind it stands for itself. -/
def decodeQueryBytes : List UInt8 → List UInt8
  | [] => []
  | [b] => [plainByte b]
  | [b, c] => [plainByte b, plainByte c]
  | b :: high :: low :: later =>
    match escapedByte b high low with
    | some value => value :: decodeQueryBytes later
    | none => plainByte b :: decodeQueryBytes (high :: low :: later)

theorem decodeQueryBytes_plain {b : UInt8} (h : b ≠ 37) (rest : List UInt8) :
    decodeQueryBytes (b :: rest) = plainByte b :: decodeQueryBytes rest := by
  match rest with
  | [] => rfl
  | [_] => rfl
  | high :: low :: later => rw [decodeQueryBytes, escapedByte, if_neg h]

theorem queryHexValue_digit {n : Nat} (h : n < 16) : queryHexValue (queryHexDigit n) = some n := by
  have hall : ∀ n : Fin 16, queryHexValue (queryHexDigit n) = some n.val := by decide
  exact hall ⟨n, h⟩

theorem queryHexDigit_ne {n : Nat} (h : n < 16) :
    queryHexDigit n ≠ 38 ∧ queryHexDigit n ≠ 61 := by
  have hall : ∀ n : Fin 16, queryHexDigit n ≠ 38 ∧ queryHexDigit n ≠ 61 := by decide
  exact hall ⟨n, h⟩

theorem decodeQueryBytes_encode (b : UInt8) (rest : List UInt8) :
    decodeQueryBytes (encodeQueryByte b ++ rest) = b :: decodeQueryBytes rest := by
  have hb : b.toNat < 256 := b.toNat_lt
  unfold encodeQueryByte
  split
  · rename_i hspace
    rw [List.singleton_append, decodeQueryBytes_plain (by decide), hspace]
    rfl
  · split
    · rename_i hplain
      have hpercent : b ≠ 37 := by
        rintro rfl
        exact absurd hplain (by decide)
      have hplus : b ≠ 43 := by
        rintro rfl
        exact absurd hplain (by decide)
      rw [List.singleton_append, decodeQueryBytes_plain hpercent, plainByte, if_neg hplus]
    · have hescaped : escapedByte 37 (queryHexDigit (b.toNat / 16))
          (queryHexDigit (b.toNat % 16)) = some b := by
        have hhigh : b.toNat / 16 < 16 := by omega
        have hlow : b.toNat % 16 < 16 := by omega
        rw [escapedByte, if_pos rfl, queryHexValue_digit hhigh, queryHexValue_digit hlow,
          Option.bind_some, Option.map_some, Nat.div_add_mod, UInt8.ofNat_toNat]
      simp only [List.cons_append, List.nil_append, decodeQueryBytes, hescaped]

/-- No byte is written with a `&` or a `=`. -/
theorem encodeQueryByte_ne (b : UInt8) : 38 ∉ encodeQueryByte b ∧ 61 ∉ encodeQueryByte b := by
  have hb : b.toNat < 256 := b.toNat_lt
  unfold encodeQueryByte
  split
  · decide
  · split
    · rename_i hplain
      constructor
      · intro hmem
        rw [← List.mem_singleton.mp hmem] at hplain
        revert hplain
        decide
      · intro hmem
        rw [← List.mem_singleton.mp hmem] at hplain
        revert hplain
        decide
    · have hhigh := queryHexDigit_ne (show b.toNat / 16 < 16 by omega)
      have hlow := queryHexDigit_ne (show b.toNat % 16 < 16 by omega)
      simp [hhigh.1.symm, hhigh.2.symm, hlow.1.symm, hlow.2.symm]

/-! ## Texts -/

def encodeQueryText (text : String) : List UInt8 :=
  text.toByteArray.data.toList.flatMap encodeQueryByte

section Reading

variable (malformed : List UInt8 → String)

def decodeQueryText (bytes : List UInt8) : String :=
  (String.fromUTF8? ⟨(decodeQueryBytes bytes).toArray⟩).getD (malformed (decodeQueryBytes bytes))

theorem decodeQueryText_encode (text : String) :
    decodeQueryText malformed (encodeQueryText text) = text := by
  have hbytes : ∀ bytes : List UInt8,
      decodeQueryBytes (bytes.flatMap encodeQueryByte) = bytes := by
    intro bytes
    induction bytes with
    | nil => rfl
    | cons b bytes ih => rw [List.flatMap_cons, decodeQueryBytes_encode, ih]
  unfold decodeQueryText encodeQueryText
  rw [hbytes, Array.toArray_toList]
  have hread : String.fromUTF8? ⟨text.toByteArray.data⟩ = some text := by
    unfold String.fromUTF8?
    simp only [text.isValidUTF8, dif_pos]
    rfl
  rw [hread, Option.getD_some]

theorem encodeQueryText_ne (text : String) :
    38 ∉ encodeQueryText text ∧ 61 ∉ encodeQueryText text := by
  unfold encodeQueryText
  simp only [List.mem_flatMap, not_exists, not_and]
  exact ⟨fun b _ => (encodeQueryByte_ne b).1, fun b _ => (encodeQueryByte_ne b).2⟩

/-! ## Named values -/

/-- What `URLSearchParams` holds: names with their values, in order. -/
abbrev SearchParams := List (String × String)

namespace SearchParams

def get (params : SearchParams) (name : String) : Option String := params.lookup name

/-- The first value of the name is replaced and its others removed; a new name comes last. -/
def set (params : SearchParams) (name value : String) : SearchParams :=
  match params with
  | [] => [(name, value)]
  | (other, old) :: rest =>
    if other = name then (name, value) :: rest.filter (·.1 ≠ name)
    else (other, old) :: set rest name value

@[simp] theorem get_set (params : SearchParams) (name value other : String) :
    (params.set name value).get other = if other = name then some value else params.get other := by
  unfold get
  induction params with
  | nil => by_cases h : other = name <;> simp [set, h]
  | cons entry rest ih =>
    obtain ⟨first, old⟩ := entry
    by_cases hfirst : first = name
    · subst hfirst
      rw [set, if_pos rfl, List.lookup_cons, List.lookup_cons]
      by_cases h : other = first
      · simp [h]
      · rw [beq_false_of_ne h, FileTree.lookup_filter_of_ne rest h, if_neg h]
    · rw [set, if_neg hfirst, List.lookup_cons, List.lookup_cons, ih]
      by_cases hother : other = first
      · subst hother
        simp [hfirst]
      · rw [beq_false_of_ne hother]

def entryText (entry : String × String) : List UInt8 :=
  encodeQueryText entry.1 ++ 61 :: encodeQueryText entry.2

/-- `toString` -/
def serialize (params : SearchParams) : List UInt8 := [38].intercalate (params.map entryText)

def entryOf (sequence : List UInt8) : String × String :=
  (decodeQueryText malformed (sequence.takeWhile (· ≠ 61)),
    decodeQueryText malformed ((sequence.dropWhile (· ≠ 61)).drop 1))

/-- The constructor, on a query without its question mark. -/
def parse (query : List UInt8) : SearchParams :=
  ((query.splitOn 38).filter (· ≠ [])).map (entryOf malformed)

theorem entryOf_entryText (entry : String × String) :
    entryOf malformed (entryText entry) = entry := by
  have hname : ∀ b ∈ encodeQueryText entry.1, decide (b ≠ 61) = true := by
    intro b hb
    refine decide_eq_true ?_
    rintro rfl
    exact (encodeQueryText_ne entry.1).2 hb
  unfold entryOf entryText
  rw [List.takeWhile_append_of_pos hname, List.dropWhile_append_of_pos hname]
  simp [decodeQueryText_encode]

/-- What is written is read back. -/
theorem parse_serialize (params : SearchParams) : parse malformed params.serialize = params := by
  unfold parse serialize
  cases params with
  | nil => rfl
  | cons entry params =>
    have hsafe : ∀ text ∈ (entry :: params).map entryText, (38 : UInt8) ∉ text := by
      intro text htext hmem
      obtain ⟨e, -, rfl⟩ := List.mem_map.mp htext
      rcases List.mem_append.mp hmem with hname | hvalue
      · exact (encodeQueryText_ne e.1).1 hname
      · rcases List.mem_cons.mp hvalue with heq | hvalue
        · exact absurd heq (by decide)
        · exact (encodeQueryText_ne e.2).1 hvalue
    have hfull : ((entry :: params).map entryText).filter (· ≠ []) =
        (entry :: params).map entryText := by
      refine List.filter_eq_self.mpr fun text htext => ?_
      obtain ⟨e, -, rfl⟩ := List.mem_map.mp htext
      simp [entryText]
    rw [List.splitOn_intercalate 38 hsafe (List.cons_ne_nil _ _), hfull, List.map_map]
    exact (List.map_congr_left fun e _ => entryOf_entryText malformed e).trans (List.map_id _)

end SearchParams

end Reading

end SupportPilot.Library
