import SupportPilot.Library.JsonText
import SupportPilot.Library.Identifiers
import SupportPilot.Library.Text

/-!
# Integers and their texts

What `int` makes of a text and `str` of an integer, with the limit that the interpreter sets to
the number of digits. The decimal digits of other scripts are a parameter.
-/

namespace SupportPilot.Library

section Reading

variable (decimal : CodePoint → Option (Fin 10))

/-- White space and the digits of other scripts stand for those of ASCII. -/
def asciiChar (c : CodePoint) : Char :=
  let character := Char.ofNat c.val
  if c.val < 127 then character
  else if isSpace character then ' '
  else
    match decimal c with
    | some d => Nat.digitChar d
    | none => '?'

def isAsciiSpace (c : Char) : Bool := c = ' ' || (9 ≤ c.toNat && c.toNat ≤ 13)

/-- What follows a sign, and whether it is a minus. -/
def signed : List Char → Bool × List Char
  | '-' :: rest => (true, rest)
  | '+' :: rest => (false, rest)
  | rest => (false, rest)

/-- Digits, with single underscores between them. -/
def digitGroups (text : List Char) : Bool :=
  (text.splitOn '_').all (· ≠ []) && text.all fun c => c.isDigit || c = '_'

/-- The number that an ASCII text without white space in front stands for. -/
def asciiInt (maxDigits : Nat) (text : List Char) : Option Int :=
  let (negative, unsigned) := signed text
  let number := unsigned.rdropWhile isAsciiSpace
  let digits := number.filter (· ≠ '_')
  if digitGroups number && digits.length ≤ maxDigits then
    let value : Int := Nat.ofDigitChars 10 digits 0
    some (if negative then -value else value)
  else none

/-- `int(text)`; `none` where it raises `ValueError`. -/
def parseInt (maxDigits : Nat) (text : CodePoints) : Option Int :=
  asciiInt maxDigits ((text.map (asciiChar decimal)).dropWhile isAsciiSpace)

end Reading

/-- `str(n)`; `none` where it raises `ValueError`. -/
def showInt (maxDigits : Nat) (n : Int) : Option (List Char) :=
  if (Nat.toDigits 10 n.natAbs).length ≤ maxDigits then some (intText n) else none

/-! ## What is shown is read back -/

theorem isDigit_of_mem {n : Nat} {c : Char} (h : c ∈ Nat.toDigits 10 n) : c.isDigit = true :=
  Nat.isDigit_of_mem_toDigits (by decide) (Nat.le_refl 10) h

theorem not_isAsciiSpace {c : Char} (h : c.isDigit = true) : isAsciiSpace c = false := by
  simp only [Char.isDigit, Bool.and_eq_true, decide_eq_true_eq, ge_iff_le] at h
  have hlow : 48 ≤ c.toNat := h.1
  simp only [isAsciiSpace, Bool.or_eq_false_iff, decide_eq_false_iff_not, Bool.and_eq_false_iff]
  refine ⟨?_, .inr (by omega)⟩
  rintro rfl
  exact absurd hlow (by decide)

theorem asciiChar_codePoint (decimal : CodePoint → Option (Fin 10)) {c : Char}
    (h : Printable c) : asciiChar decimal (codePoint c) = c := by
  have hascii : (codePoint c).val < 127 := Nat.lt_of_le_of_lt h.2 (by decide)
  rw [asciiChar, if_pos hascii]
  exact Char.ofNat_toNat c

theorem map_asciiChar (decimal : CodePoint → Option (Fin 10)) {text : List Char}
    (h : Plain text) : (text.map codePoint).map (asciiChar decimal) = text := by
  rw [List.map_map]
  exact (List.map_congr_left fun c hc => asciiChar_codePoint decimal (h c hc)).trans
    (List.map_id text)

theorem signed_digits {text : List Char} (h : ∀ c ∈ text, c.isDigit = true) :
    signed text = (false, text) := by
  unfold signed
  split
  · exact absurd (h '-' List.mem_cons_self) (by decide)
  · exact absurd (h '+' List.mem_cons_self) (by decide)
  · rfl

/-- A text of digits alone is a number, behind a sign or without one. -/
theorem asciiInt_digits {maxDigits : Nat} {text digits : List Char} {negative : Bool}
    (hsigned : signed text = (negative, digits)) (h : ∀ c ∈ digits, c.isDigit = true)
    (hne : digits ≠ []) (hlength : digits.length ≤ maxDigits) :
    asciiInt maxDigits text = some (if negative then -(Nat.ofDigitChars 10 digits 0 : Int)
      else Nat.ofDigitChars 10 digits 0) := by
  have htrimmed : digits.rdropWhile isAsciiSpace = digits := by
    rw [List.rdropWhile_eq_self_iff]
    intro hne
    rw [not_isAsciiSpace (h _ (List.getLast_mem hne))]
    decide
  have hunderscore : '_' ∉ digits := fun hmem => absurd (h '_' hmem) (by decide)
  have hkept : digits.filter (· ≠ '_') = digits := by
    refine List.filter_eq_self.mpr fun c hc => decide_eq_true ?_
    rintro rfl
    exact hunderscore hc
  have hgroups : digitGroups digits = true := by
    rw [digitGroups, List.splitOn_eq_singleton hunderscore, Bool.and_eq_true]
    exact ⟨by simpa using hne, List.all_eq_true.mpr fun c hc => by simp [h c hc]⟩
  rw [asciiInt, hsigned]
  dsimp only
  rw [htrimmed, hkept, hgroups, if_pos (by simpa using hlength)]

/-- An integer is read back from its text. -/
theorem parseInt_showInt (decimal : CodePoint → Option (Fin 10)) {maxDigits : Nat} {n : Int}
    {text : List Char} (h : showInt maxDigits n = some text) :
    parseInt decimal maxDigits (text.map codePoint) = some n := by
  rw [showInt] at h
  split at h
  case isFalse => cases h
  case isTrue hlength =>
    obtain rfl := Option.some.inj h
    have hdigits : ∀ c ∈ Nat.toDigits 10 n.natAbs, c.isDigit = true := fun c hc =>
      isDigit_of_mem hc
    have hne : Nat.toDigits 10 n.natAbs ≠ [] := List.ne_nil_of_length_pos Nat.length_toDigits_pos
    rw [parseInt, map_asciiChar decimal (plain_intText n), intText]
    split
    case isTrue hnegative =>
      have hsigned : signed ('-' :: Nat.toDigits 10 n.natAbs) = (true, Nat.toDigits 10 n.natAbs) :=
        rfl
      rw [List.dropWhile_cons_of_neg (by decide), asciiInt_digits hsigned hdigits hne hlength,
        Nat.ofDigitChars_ten_toDigits]
      simp only [if_true, Option.some.injEq]
      omega
    case isFalse hpositive =>
      have hstart : (Nat.toDigits 10 n.natAbs).dropWhile isAsciiSpace =
          Nat.toDigits 10 n.natAbs := by
        rw [List.dropWhile_eq_self_iff]
        intro hlength
        rw [not_isAsciiSpace (hdigits _ (List.getElem_mem hlength))]
        decide
      rw [hstart, asciiInt_digits (signed_digits hdigits) hdigits hne hlength,
        Nat.ofDigitChars_ten_toDigits]
      simp only [Bool.false_eq_true, if_false, Option.some.injEq]
      omega

theorem intText_injective {m n : Int} (h : intText m = intText n) : m = n := by
  have hm : showInt (max (Nat.toDigits 10 m.natAbs).length (Nat.toDigits 10 n.natAbs).length) m =
      some (intText m) := if_pos (Nat.le_max_left _ _)
  have hn : showInt (max (Nat.toDigits 10 m.natAbs).length (Nat.toDigits 10 n.natAbs).length) n =
      some (intText n) := if_pos (Nat.le_max_right _ _)
  have hread := parseInt_showInt (fun _ => none) hm
  rw [h, parseInt_showInt (fun _ => none) hn] at hread
  exact (Option.some.inj hread).symm

/-! ## What is read can be shown -/

theorem ofDigitChars_lt {digits : List Char} (h : ∀ c ∈ digits, c.isDigit = true) :
    Nat.ofDigitChars 10 digits 0 < 10 ^ digits.length := by
  induction digits with
  | nil => decide
  | cons c digits ih =>
    have hlater := ih fun other hother => h other (List.mem_cons_of_mem _ hother)
    have hfirst := h c List.mem_cons_self
    simp only [Char.isDigit, Bool.and_eq_true, decide_eq_true_eq, ge_iff_le] at hfirst
    have hdigit : c.toNat ≤ 57 := hfirst.2
    have hvalue : c.toNat - '0'.toNat ≤ 9 := by
      show c.toNat - 48 ≤ 9
      omega
    rw [Nat.ofDigitChars_cons, Nat.ofDigitChars_eq_ofDigitChars_zero, List.length_cons,
      Nat.mul_zero, Nat.zero_add]
    calc 10 ^ digits.length * (c.toNat - '0'.toNat) + Nat.ofDigitChars 10 digits 0
        < 10 ^ digits.length * (c.toNat - '0'.toNat) + 10 ^ digits.length := by omega
      _ = 10 ^ digits.length * (c.toNat - '0'.toNat + 1) := (Nat.mul_succ _ _).symm
      _ ≤ 10 ^ digits.length * 10 := Nat.mul_le_mul_left _ (Nat.succ_le_succ hvalue)
      _ = 10 ^ (digits.length + 1) := (Nat.pow_succ ..).symm

/-- Groups of digits hold some digit, and nothing but digits besides the underscores. -/
theorem digits_of_digitGroups {text : List Char} (h : digitGroups text = true) :
    text.filter (· ≠ '_') ≠ [] ∧ ∀ c ∈ text.filter (· ≠ '_'), c.isDigit = true := by
  rw [digitGroups, Bool.and_eq_true, List.all_eq_true, List.all_eq_true] at h
  obtain ⟨hgroups, hchars⟩ := h
  constructor
  · cases text with
    | nil => exact absurd (hgroups [] (by simp)) (by decide)
    | cons c rest =>
      have hfirst : c ≠ '_' := by
        rintro rfl
        exact absurd (hgroups [] (by simp [List.splitOn_cons_eq_if_modifyHead])) (by decide)
      simp [hfirst]
  · intro c hc
    obtain ⟨hc, hne⟩ := List.mem_filter.mp hc
    simpa [of_decide_eq_true hne] using hchars c hc

/-- An integer that was read has a text. -/
theorem showInt_of_parseInt {decimal : CodePoint → Option (Fin 10)} {maxDigits : Nat}
    {text : CodePoints} {n : Int} (h : parseInt decimal maxDigits text = some n) :
    showInt maxDigits n = some (intText n) := by
  rw [parseInt, asciiInt] at h
  dsimp only at h
  split at h
  case isFalse => cases h
  case isTrue hread =>
    rw [Bool.and_eq_true, decide_eq_true_eq] at hread
    obtain ⟨hgroups, hlength⟩ := hread
    obtain ⟨hne, hdigits⟩ := digits_of_digitGroups hgroups
    have hvalue := Nat.lt_of_lt_of_le (ofDigitChars_lt hdigits)
      (Nat.pow_le_pow_right (by decide) hlength)
    have hmax : 0 < maxDigits := Nat.lt_of_lt_of_le (List.length_pos_of_ne_nil hne) hlength
    have habs : n.natAbs < 10 ^ maxDigits := by
      have hn := Option.some.inj h
      split at hn <;> omega
    rw [showInt, if_pos ((Nat.length_toDigits_le_iff (by decide) hmax).mpr habs)]

end SupportPilot.Library
