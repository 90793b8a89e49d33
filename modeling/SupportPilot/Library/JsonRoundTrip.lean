import Mathlib.Data.List.Chain
import SupportPilot.Library.FloatTexts
import SupportPilot.Library.JsonEncoder
import SupportPilot.Library.JsonReader

/-!
# Values are read back from their canonical texts

The reader makes of the text of a value the value again, with its fields in the order of their
names. A text that stands within a longer one ends where the comma or the bracket of what is
around it stands.
-/

namespace SupportPilot.Library

/-- What follows a value within a canonical text. -/
def Delimited (rest : List Char) : Prop :=
  ∀ c ∈ rest.head?, c = ',' ∨ c = ']' ∨ c = '\x7d'

theorem delimited_nil : Delimited [] := nofun

theorem Delimited.skipBlank {rest : List Char} (h : Delimited rest) : skipBlank rest = rest := by
  cases rest with
  | nil => rfl
  | cons c rest =>
    refine List.dropWhile_cons_of_neg ?_
    obtain rfl | rfl | rfl := h c rfl <;> decide

/-! ## Numbers -/

section Numbers

variable {rest : List Char}

theorem Delimited.no_digit (h : Delimited rest) : ∀ c ∈ rest.head?, c.isDigit = false := by
  intro c hc
  obtain rfl | rfl | rfl := h c hc <;> decide

theorem Delimited.scanFraction (h : Delimited rest) : scanFraction rest = ([], rest) := by
  cases rest with
  | nil => rfl
  | cons c rest => obtain rfl | rfl | rfl := h c rfl <;> rfl

theorem Delimited.scanExponent (h : Delimited rest) : scanExponent rest = ([], rest) := by
  cases rest with
  | nil => rfl
  | cons c rest => obtain rfl | rfl | rfl := h c rfl <;> rfl

theorem scanWhole_digits {whole : List Char} (hdigits : ∀ c ∈ whole, c.isDigit = true)
    (hhead : whole.head? ≠ some '0' ∨ whole = ['0']) (hne : whole ≠ [])
    (hrest : ∀ c ∈ rest.head?, c.isDigit = false) : scanWhole (whole ++ rest) = (whole, rest) := by
  obtain hhead | rfl := hhead
  · cases whole with
    | nil => exact absurd rfl hne
    | cons first whole =>
      have hfirst : ∀ later, first :: (whole ++ rest) = '0' :: later → False := fun later hlater =>
        hhead (congrArg some (List.cons.inj hlater).1)
      rw [List.cons_append, scanWhole.eq_2 _ hfirst, ← List.cons_append]
      exact Binary64.span_append hdigits hrest
  · rfl

theorem scanFraction_places {places : List Char} (hdigits : ∀ c ∈ places, c.isDigit = true)
    (hne : places ≠ []) (hrest : ∀ c ∈ rest.head?, c.isDigit = false) :
    scanFraction ('.' :: places ++ rest) = ('.' :: places, rest) := by
  rw [List.cons_append, scanFraction, Binary64.span_append hdigits hrest]
  exact if_neg hne

theorem scanExponent_text (e : Int) (hrest : ∀ c ∈ rest.head?, c.isDigit = false) :
    scanExponent ('e' :: Binary64.exponentText e ++ rest) =
      ('e' :: Binary64.exponentText e, rest) := by
  have hsign : ∀ sign : Char, sign = '-' ∨ sign = '+' →
      scanExponent ('e' :: sign :: (Binary64.exponentDigits e ++ rest)) =
        ('e' :: sign :: Binary64.exponentDigits e, rest) := by
    rintro sign (rfl | rfl) <;>
    · rw [scanExponent, if_pos (.inl rfl), scanSign]
      dsimp only
      rw [Binary64.span_append (Binary64.exponentDigits_digits e) hrest]
      exact if_neg (Binary64.exponentDigits_ne e)
  rw [Binary64.exponentText_eq]
  exact hsign _ (by split <;> simp)

/-- The scanner of a number goes through its parts. -/
structure Scans (text whole fraction exponent rest : List Char) : Prop where
  sign : text.head? ≠ some '-'
  ne : whole ≠ []
  parts : ∃ rest₁ rest₂, scanWhole text = (whole, rest₁) ∧ scanFraction rest₁ = (fraction, rest₂) ∧
    scanExponent rest₂ = (exponent, rest)

variable {maxDigits : Nat} {text whole fraction exponent : List Char}

theorem Scans.int (h : Scans text whole [] [] rest) (hlength : whole.length ≤ maxDigits)
    (negative : Bool) :
    scanNumber maxDigits (if negative then '-' :: text else text) =
      .ok (.int (if negative then -(Nat.ofDigitChars 10 whole 0 : Int)
        else Nat.ofDigitChars 10 whole 0), rest) := by
  obtain ⟨rest₁, rest₂, hwhole, hfraction, hexponent⟩ := h.parts
  cases negative with
  | true => simp [scanNumber, hwhole, hfraction, hexponent, h.ne, hlength]
  | false =>
    rw [if_neg (by decide), scanNumber]
    · simp [hwhole, hfraction, hexponent, h.ne, hlength]
    · rintro later rfl
      exact h.sign rfl

theorem Scans.float (h : Scans text whole fraction exponent rest)
    (hparts : fraction ≠ [] ∨ exponent ≠ []) {q : Rat}
    (hq : unsignedDecimal (whole ++ fraction ++ exponent) = some q) (negative : Bool)
    (maxDigits : Nat) :
    scanNumber maxDigits (if negative then '-' :: text else text) =
      .ok (floatValue negative q, rest) := by
  obtain ⟨rest₁, rest₂, hwhole, hfraction, hexponent⟩ := h.parts
  have hnot : ¬(fraction = [] ∧ exponent = []) := fun hboth =>
    hparts.elim (· hboth.1) (· hboth.2)
  rw [List.append_assoc] at hq
  cases negative with
  | true => simp [scanNumber, hwhole, hfraction, hexponent, h.ne, hnot, hq]
  | false =>
    rw [if_neg (by decide), scanNumber]
    · simp [hwhole, hfraction, hexponent, h.ne, hnot, hq]
    · rintro later rfl
      exact h.sign rfl

theorem head_digit_ne {text : List Char} (h : ∀ c ∈ text, c.isDigit = true) (hne : text ≠ [])
    {c : Char} (hc : c.isDigit = false) : (text ++ rest).head? ≠ some c := by
  cases text with
  | nil => exact absurd rfl hne
  | cons first text =>
    rintro hhead
    obtain rfl := Option.some.inj hhead
    exact absurd (h first List.mem_cons_self) (by rw [hc]; decide)

theorem head_intDigits (n : Nat) :
    (Nat.toDigits 10 n).head? ≠ some '0' ∨ Nat.toDigits 10 n = ['0'] := by
  rcases Nat.eq_zero_or_pos n with rfl | hpos
  · exact .inr rfl
  · exact .inl (Binary64.head_toDigits hpos)

theorem scans_toDigits (n : Nat) (h : Delimited rest) :
    Scans (Nat.toDigits 10 n ++ rest) (Nat.toDigits 10 n) [] [] rest := by
  have hdigits : ∀ c ∈ Nat.toDigits 10 n, c.isDigit = true := fun c hc => isDigit_of_mem hc
  refine ⟨head_digit_ne hdigits Nat.toDigits_ne_nil (by decide), Nat.toDigits_ne_nil, rest, rest,
    ?_, h.scanFraction, h.scanExponent⟩
  exact scanWhole_digits hdigits (head_intDigits n) Nat.toDigits_ne_nil h.no_digit

theorem scanNumber_intText {n : Int} (hshown : (showInt maxDigits n).isSome = true)
    (h : Delimited rest) :
    scanNumber maxDigits (intText n ++ rest) = .ok (.int n, rest) := by
  have hlength : (Nat.toDigits 10 n.natAbs).length ≤ maxDigits := by
    rw [showInt] at hshown
    split at hshown
    case isTrue hlength => exact hlength
    case isFalse => cases hshown
  have hscan := (scans_toDigits n.natAbs h).int hlength (decide (n < 0))
  rw [Nat.ofDigitChars_ten_toDigits] at hscan
  rw [intText]
  rcases lt_or_ge n 0 with hnegative | hpositive
  · rw [decide_eq_true hnegative, if_pos rfl, if_pos rfl] at hscan
    rw [if_pos hnegative, List.cons_append, hscan]
    congr 3
    omega
  · rw [decide_eq_false (not_lt.mpr hpositive), if_neg (by decide), if_neg (by decide)] at hscan
    rw [if_neg (not_lt.mpr hpositive), hscan]
    congr 3
    omega

theorem scans_layout (hlayout : Binary64.Layout whole fraction exponent) (h : Delimited rest) :
    Scans (whole ++ fraction ++ exponent ++ rest) whole fraction exponent rest := by
  have hexponent : scanExponent (exponent ++ rest) = (exponent, rest) := by
    obtain rfl | ⟨e, rfl⟩ := hlayout.exponent_sign
    · exact h.scanExponent
    · exact scanExponent_text e h.no_digit
  have hlater : ∀ c ∈ (exponent ++ rest).head?, c.isDigit = false := by
    obtain rfl | ⟨e, rfl⟩ := hlayout.exponent_sign
    · exact h.no_digit
    · intro c hc
      obtain rfl := Option.some.inj hc
      decide
  have hfraction : scanFraction (fraction ++ (exponent ++ rest)) =
      (fraction, exponent ++ rest) := by
    obtain rfl | ⟨places, hne, rfl⟩ := hlayout.fraction_point
    · obtain rfl | ⟨e, rfl⟩ := hlayout.exponent_sign
      · exact h.scanFraction
      · rfl
    · exact scanFraction_places hlayout.fraction_digits hne hlater
  have hbehind : ∀ c ∈ (fraction ++ (exponent ++ rest)).head?, c.isDigit = false := by
    obtain rfl | ⟨places, -, rfl⟩ := hlayout.fraction_point
    · exact hlater
    · intro c hc
      obtain rfl := Option.some.inj hc
      decide
  rw [List.append_assoc, List.append_assoc]
  refine ⟨head_digit_ne hlayout.whole_digits hlayout.whole_ne (by decide), hlayout.whole_ne, _, _,
    ?_, hfraction, hexponent⟩
  exact scanWhole_digits hlayout.whole_digits hlayout.whole_head hlayout.whole_ne hbehind

theorem scanNumber_positiveText {q : Rat} (hpos : 0 < q)
    (hround : Binary64.round q = .finite q) (h : Delimited rest) (negative : Bool)
    (maxDigits : Nat) :
    scanNumber maxDigits (if negative then '-' :: (Binary64.positiveText q ++ rest)
      else Binary64.positiveText q ++ rest) =
      .ok (.float (.finite (if negative then -q else q)), rest) := by
  obtain ⟨whole, fraction, exponent, htext, hlayout, r, hr, hq⟩ :=
    Binary64.positiveText_readBack hpos hround
  rw [htext, (scans_layout hlayout h).float hlayout.not_whole hr, floatValue]
  cases negative with
  | true =>
    rw [if_pos rfl, Binary64.round_neg, hq]
    simp [Binary64.neg, hpos.ne']
  | false =>
    rw [if_neg (by decide), hq]
    simp

/-- A number is no literal. -/
theorem scanPlain_number {first : Char} {text : List Char}
    (h : first.isDigit = true ∨ first = '-' ∧ ∀ c ∈ text.head?, c.isDigit = true)
    (maxDigits : Nat) :
    scanPlain maxDigits (first :: text) = scanNumber maxDigits (first :: text) := by
  have hnone : literals.find? (fun literal => literal.1.isPrefixOf (first :: text)) = none := by
    rw [List.find?_eq_none]
    obtain hdigit | ⟨rfl, htext⟩ := h
    · have hne := fun (c : Char) (hc : c.isDigit = false) => Ne.symm (Binary64.isDigit_ne hdigit hc)
      simp [literals, hne 'n' (by decide), hne 't' (by decide), hne 'f' (by decide),
        hne 'N' (by decide), hne 'I' (by decide), hne '-' (by decide)]
    · cases text with
      | nil => simp [literals]
      | cons second text =>
        simp [literals, Ne.symm (Binary64.isDigit_ne (htext second rfl)
          (show 'I'.isDigit = false by decide))]
  rw [scanPlain, hnone]

theorem cons_of_digits {text : List Char} (hne : text ≠ []) (h : ∀ c ∈ text, c.isDigit = true)
    (rest : List Char) : ∃ first later, text ++ rest = first :: later ∧ first.isDigit = true := by
  cases text with
  | nil => exact absurd rfl hne
  | cons first text => exact ⟨first, _, rfl, h first List.mem_cons_self⟩

theorem scanPlain_intText {n : Int} (hshown : (showInt maxDigits n).isSome = true)
    (h : Delimited rest) : scanPlain maxDigits (intText n ++ rest) = .ok (.int n, rest) := by
  obtain ⟨first, later, htext, hdigit⟩ := cons_of_digits (Nat.toDigits_ne_nil (b := 10))
    (fun c hc => isDigit_of_mem (n := n.natAbs) hc) rest
  rw [← scanNumber_intText hshown h, intText]
  split
  · rw [List.cons_append, htext]
    refine scanPlain_number (.inr ⟨rfl, fun c hc => ?_⟩) maxDigits
    obtain rfl := Option.some.inj hc
    exact hdigit
  · rw [htext]
    exact scanPlain_number (.inl hdigit) maxDigits

theorem positiveText_cons {q : Rat} (hpos : 0 < q) (hround : Binary64.round q = .finite q)
    (rest : List Char) : ∃ first later,
      Binary64.positiveText q ++ rest = first :: later ∧ first.isDigit = true := by
  obtain ⟨whole, fraction, exponent, htext, hlayout, -⟩ :=
    Binary64.positiveText_readBack hpos hround
  rw [htext, List.append_assoc, List.append_assoc]
  exact cons_of_digits hlayout.whole_ne hlayout.whole_digits _

theorem scanPlain_zero (h : Delimited rest) (negative : Bool) :
    scanPlain maxDigits ((if negative then "-0.0" else "0.0").toList ++ rest) =
      .ok (if negative then .negativeZero else .float (.finite 0), rest) := by
  have hlayout : Binary64.Layout ['0'] ['.', '0'] [] :=
    ⟨List.cons_ne_nil _ _, Binary64.zero_digits, .inr rfl,
      .inr ⟨['0'], List.cons_ne_nil _ _, rfl⟩, Binary64.zero_digits, .inl rfl,
      .inl (List.cons_ne_nil _ _)⟩
  have hzero : unsignedDecimal (['0'] ++ ['.', '0'] ++ []) = some 0 := by
    rw [Binary64.unsignedDecimal_layout hlayout, exponentOf, Option.map_some]
    simp [Nat.ofDigitChars_cons]
  have hscan := (scans_layout hlayout h).float hlayout.not_whole hzero
  cases negative with
  | true =>
    refine (scanPlain_number (.inr ⟨rfl, fun c hc => ?_⟩) maxDigits).trans (hscan true maxDigits)
    obtain rfl := Option.some.inj hc
    decide
  | false => exact (scanPlain_number (.inl (by decide)) maxDigits).trans (hscan false maxDigits)

theorem scanPlain_floatText {x : Binary64} (hx : x.Representable) (h : Delimited rest) :
    scanPlain maxDigits (x.text ++ rest) = .ok (.float x, rest) := by
  cases x with
  | nan => rfl
  | infinite negative => cases negative <;> rfl
  | finite q =>
    unfold Binary64.text
    dsimp only
    rcases lt_trichotomy q 0 with hneg | rfl | hpos
    · have hround : Binary64.round (-q) = .finite (-q) := by
        rw [Binary64.round_neg, show Binary64.round q = .finite q from hx]
        rfl
      have hscan := scanNumber_positiveText (neg_pos.mpr hneg) hround h true maxDigits
      obtain ⟨first, later, htext, hdigit⟩ := positiveText_cons (neg_pos.mpr hneg) hround rest
      rw [if_pos rfl, if_pos rfl, neg_neg] at hscan
      rw [if_neg hneg.ne, if_pos hneg, List.cons_append, ← hscan, htext]
      refine scanPlain_number (.inr ⟨rfl, fun c hc => ?_⟩) maxDigits
      obtain rfl := Option.some.inj hc
      exact hdigit
    · exact scanPlain_zero h false
    · have hscan := scanNumber_positiveText hpos hx h false maxDigits
      obtain ⟨first, later, htext, hdigit⟩ := positiveText_cons hpos hx rest
      rw [if_neg (by decide), if_neg (by decide)] at hscan
      rw [if_neg hpos.ne', if_neg hpos.not_gt, ← hscan, htext]
      exact scanPlain_number (.inl hdigit) maxDigits

end Numbers

/-! ## Strings -/

/-- No two characters in a row are the halves of a pair of surrogates. -/
def Unpaired (s : CodePoints) : Prop :=
  s.IsChain fun c d => (isHighSurrogate c.val && isLowSurrogate d.val) = false

instance : DecidablePred Unpaired := fun _ => inferInstanceAs (Decidable (List.IsChain _ _))

theorem hexValue_hexChar (n : Nat) : hexValue (hexChar n) = some (n % 16) := by
  have hdigit : ∀ d < 16, hexValue (Nat.digitChar d) = some d := by decide
  exact hdigit (n % 16) (Nat.mod_lt n (by decide))

theorem scanUnit_digits {n : Nat} (h : n < 0x10000) (rest : List Char) :
    scanUnit (hexChar (n / 4096) :: hexChar (n / 256) :: hexChar (n / 16) :: hexChar n :: rest) =
      some (n, rest) := by
  rw [scanUnit, hexValue_hexChar, hexValue_hexChar, hexValue_hexChar, hexValue_hexChar]
  simp only [Option.bind_eq_bind, Option.bind_some, Option.some.injEq, Prod.mk.injEq, and_true]
  omega

/-- The text does not start with the second half of a pair. -/
def NoLowHalf (text : List Char) : Prop :=
  ∀ later, text = '\\' :: 'u' :: later →
    ∃ low rest, scanUnit later = some (low, rest) ∧ isLowSurrogate low = false

theorem scanUnicode_single {n : Nat} (h : n < 0x10000) {rest : List Char}
    (hlow : isHighSurrogate n = true → NoLowHalf rest) :
    scanUnicode (hexChar (n / 4096) :: hexChar (n / 256) :: hexChar (n / 16) :: hexChar n :: rest) =
      some (Fin.ofNat _ n, rest) := by
  rw [scanUnicode, scanUnit_digits h]
  simp only [Option.bind_eq_bind, Option.bind_some]
  split
  case h_1 later =>
    split
    case isTrue hhigh =>
      obtain ⟨low, behind, hunit, hnot⟩ := hlow hhigh later rfl
      rw [hunit, Option.bind_some]
      exact if_neg (by simp [hnot])
    case isFalse => rfl
  case h_2 => rfl

theorem scanUnicode_pair {high low : Nat} (hhigh : isHighSurrogate high = true)
    (hlow : isLowSurrogate low = true) (rest : List Char) :
    scanUnicode (hexChar (high / 4096) :: hexChar (high / 256) :: hexChar (high / 16) ::
      hexChar high :: (unicodeEscape low ++ rest)) =
      some (Fin.ofNat _ (0x10000 + (high - 0xD800) * 0x400 + (low - 0xDC00)), rest) := by
  have hbounds := hhigh
  have hbelow := hlow
  rw [isHighSurrogate, Bool.and_eq_true, decide_eq_true_eq, decide_eq_true_eq] at hbounds
  rw [isLowSurrogate, Bool.and_eq_true, decide_eq_true_eq, decide_eq_true_eq] at hbelow
  rw [scanUnicode, scanUnit_digits (by omega)]
  simp only [Option.bind_eq_bind, Option.bind_some, unicodeEscape, List.cons_append,
    List.nil_append, hhigh, if_true, scanUnit_digits (show low < 0x10000 by omega), hlow]

theorem ofNat_toNat {n : Nat} (h : n ≤ 0x7E) : (Char.ofNat n).toNat = n := by
  have hvalid : n.isValidChar := .inl (Nat.lt_of_le_of_lt h (by decide))
  rw [Char.ofNat, dif_pos hvalid]
  rfl

theorem scanString_plain {c : Char} (hquote : c ≠ '"') (hslash : c ≠ '\\')
    (h : 0x20 ≤ c.toNat) (fuel : Nat) (following : List Char) :
    scanString (fuel + 1) (c :: following) =
      (scanString fuel following).map fun read => (codePoint c :: read.1, read.2) := by
  rw [scanString]
  · rw [if_neg (Nat.not_lt.mpr h)]
    simp only [Option.bind_eq_bind]
    cases scanString fuel following <;> rfl
  · exact hquote
  · exact hslash

/-- A character is read back from its text. -/
theorem scanString_escapeChar {c : CodePoint} {following : List Char}
    (h : isHighSurrogate c.val = true → NoLowHalf following) (fuel : Nat) :
    scanString (fuel + 1) (escapeChar c ++ following) =
      (scanString fuel following).map fun read => (c :: read.1, read.2) := by
  have hescape : ∀ {later : List Char}, scanEscape later = some (c, following) →
      scanString (fuel + 1) ('\\' :: later) =
        (scanString fuel following).map fun read => (c :: read.1, read.2) := by
    intro later hlater
    rw [scanString, hlater]
    simp only [Option.bind_eq_bind, Option.bind_some]
    cases scanString fuel following <;> rfl
  rw [escapeChar]
  split_ifs with h₁ h₂ h₃ h₄ h₅ h₆ h₇ hprinted hbasic
  case pos => exact hescape (by rw [show c = codePoint '"' from Fin.ext h₁]; rfl)
  case pos => exact hescape (by rw [show c = codePoint '\\' from Fin.ext h₂]; rfl)
  case pos => exact hescape (by rw [show c = codePoint '\x08' from Fin.ext h₃]; rfl)
  case pos => exact hescape (by rw [show c = codePoint '\x0C' from Fin.ext h₄]; rfl)
  case pos => exact hescape (by rw [show c = codePoint '\n' from Fin.ext h₅]; rfl)
  case pos => exact hescape (by rw [show c = codePoint '\r' from Fin.ext h₆]; rfl)
  case pos => exact hescape (by rw [show c = codePoint '\t' from Fin.ext h₇]; rfl)
  case pos =>
    have hchar := ofNat_toNat hprinted.2
    have hc : c = codePoint (Char.ofNat c.val) := Fin.ext hchar.symm
    have hne : ∀ d : Char, c.val ≠ d.toNat → Char.ofNat c.val ≠ d := by
      rintro d hd rfl
      exact hd hchar.symm
    exact (scanString_plain (hne _ h₁) (hne _ h₂) (by rw [hchar]; exact hprinted.1) fuel
      following).trans (by rw [← hc])
  case pos =>
    refine hescape ?_
    have hc : c = Fin.ofNat _ c.val := Fin.ext (Nat.mod_eq_of_lt c.isLt).symm
    exact (scanUnicode_single hbasic h).trans (by rw [← hc])
  case neg =>
    have hlt := c.isLt
    have hhigh : isHighSurrogate (0xD800 + (c.val - 0x10000) / 0x400) = true := by
      simp only [isHighSurrogate, Bool.and_eq_true, decide_eq_true_eq]
      omega
    have hlow : isLowSurrogate (0xDC00 + (c.val - 0x10000) % 0x400) = true := by
      simp only [isLowSurrogate, Bool.and_eq_true, decide_eq_true_eq]
      omega
    have hjoined : 0x10000 + (0xD800 + (c.val - 0x10000) / 0x400 - 0xD800) * 0x400 +
        (0xDC00 + (c.val - 0x10000) % 0x400 - 0xDC00) = c.val := by omega
    have hread := scanUnicode_pair hhigh hlow following
    rw [hjoined, show (Fin.ofNat 0x110000 c.val) = c from Fin.ext (Nat.mod_eq_of_lt hlt)] at hread
    rw [List.append_assoc]
    exact hescape hread

theorem noLowHalf_escapeChar {c : CodePoint} (h : isLowSurrogate c.val = false)
    (following : List Char) : NoLowHalf (escapeChar c ++ following) := by
  intro later hlater
  rw [escapeChar] at hlater
  have hunit : ∀ n, n < 0x10000 → ∀ behind, unicodeEscape n ++ behind = '\\' :: 'u' :: later →
      isLowSurrogate n = false →
      ∃ low rest, scanUnit later = some (low, rest) ∧ isLowSurrogate low = false := by
    intro n hn behind hlater hnot
    obtain rfl := (List.cons.inj (List.cons.inj hlater).2).2
    exact ⟨n, behind, scanUnit_digits hn behind, hnot⟩
  split_ifs at hlater with h₁ h₂ h₃ h₄ h₅ h₆ h₇ hprinted hbasic
  case pos => exact absurd (List.cons.inj (List.cons.inj hlater).2).1 (by decide)
  case pos => exact absurd (List.cons.inj (List.cons.inj hlater).2).1 (by decide)
  case pos => exact absurd (List.cons.inj (List.cons.inj hlater).2).1 (by decide)
  case pos => exact absurd (List.cons.inj (List.cons.inj hlater).2).1 (by decide)
  case pos => exact absurd (List.cons.inj (List.cons.inj hlater).2).1 (by decide)
  case pos => exact absurd (List.cons.inj (List.cons.inj hlater).2).1 (by decide)
  case pos => exact absurd (List.cons.inj (List.cons.inj hlater).2).1 (by decide)
  case pos =>
    have hslash := congrArg Char.toNat (List.cons.inj hlater).1
    rw [ofNat_toNat hprinted.2] at hslash
    exact absurd hslash h₂
  case pos => exact hunit c.val hbasic following hlater h
  case neg =>
    have hlt := c.isLt
    rw [List.append_assoc] at hlater
    refine hunit _ (by omega) _ hlater ?_
    simp only [isLowSurrogate, Bool.and_eq_false_iff, decide_eq_false_iff_not]
    omega

theorem escapeChar_ne (c : CodePoint) : escapeChar c ≠ [] := by
  rw [escapeChar]
  split_ifs <;> exact List.cons_ne_nil _ _

/-- A string is read back up to its closing quote. -/
theorem scanString_flatMap {s : CodePoints} (h : Unpaired s) {fuel : Nat} (hfuel : s.length < fuel)
    (rest : List Char) :
    scanString fuel (s.flatMap escapeChar ++ '"' :: rest) = some (s, rest) := by
  induction s generalizing fuel with
  | nil =>
    obtain ⟨fuel, rfl⟩ := Nat.exists_eq_succ_of_ne_zero (Nat.ne_zero_of_lt hfuel)
    rfl
  | cons c s ih =>
    obtain ⟨fuel, rfl⟩ := Nat.exists_eq_succ_of_ne_zero (Nat.ne_zero_of_lt hfuel)
    have hfollowing : isHighSurrogate c.val = true →
        NoLowHalf (s.flatMap escapeChar ++ '"' :: rest) := by
      intro hhigh
      cases s with
      | nil => nofun
      | cons d s =>
        have hpair := (List.isChain_cons_cons.mp h).1
        rw [hhigh, Bool.true_and] at hpair
        rw [List.flatMap_cons, List.append_assoc]
        exact noLowHalf_escapeChar hpair _
    rw [List.flatMap_cons, List.append_assoc, scanString_escapeChar hfollowing,
      ih h.tail (Nat.lt_of_succ_lt_succ hfuel)]
    rfl

theorem length_flatMap_escapeChar (s : CodePoints) :
    s.length ≤ (s.flatMap escapeChar).length := by
  induction s with
  | nil => exact Nat.zero_le _
  | cons c s ih =>
    have hpos := List.length_pos_of_ne_nil (escapeChar_ne c)
    rw [List.flatMap_cons, List.length_append, List.length_cons]
    omega

theorem scanString_stringText {s : CodePoints} (h : Unpaired s) (rest : List Char) :
    ∃ text, stringText s ++ rest = '"' :: text ∧
      scanString text.length text = some (s, rest) := by
  refine ⟨s.flatMap escapeChar ++ '"' :: rest, by simp [stringText], ?_⟩
  refine scanString_flatMap h ?_ rest
  have hlength := length_flatMap_escapeChar s
  rw [List.length_append, List.length_cons]
  omega

/-! ## Values -/

mutual

/-- The value with the fields of each object in the order of their names. -/
def sorted : JsonValue → JsonValue
  | .list items => .list (sortedItems items)
  | .object fields => .object (sortedFields (sortedEach fields))
  | value => value

def sortedItems : List JsonValue → List JsonValue
  | [] => []
  | item :: rest => sorted item :: sortedItems rest

def sortedEach : JsonFields → JsonFields
  | [] => []
  | (key, value) :: rest => (key, sorted value) :: sortedEach rest

end

mutual

/-- What can stand in a JSON document that a dictionary is read from: values of the format, names
that differ and no halves of a pair side by side. -/
def Proper : JsonValue → Prop
  | .float x => x.Representable
  | .string s => Unpaired s
  | .list items => ProperItems items
  | .object fields => (fields.map Prod.fst).Nodup ∧ ProperFields fields
  | .other _ => False
  | _ => True

def ProperItems : List JsonValue → Prop
  | [] => True
  | item :: rest => Proper item ∧ ProperItems rest

def ProperFields : JsonFields → Prop
  | [] => True
  | (key, value) :: rest => (Unpaired key ∧ Proper value) ∧ ProperFields rest

end

theorem sortedItems_eq (items : List JsonValue) : sortedItems items = items.map sorted := by
  induction items with
  | nil => rfl
  | cons item rest ih => rw [sortedItems, ih, List.map_cons]

theorem sortedEach_eq (fields : JsonFields) :
    sortedEach fields = fields.map fun field => (field.1, sorted field.2) := by
  induction fields with
  | nil => rfl
  | cons field rest ih => rw [sortedEach, ih, List.map_cons]

theorem dumpsItems_eq (items : List JsonValue) : dumpsItems items = items.map dumps := by
  induction items with
  | nil => rfl
  | cons item rest ih => rw [dumpsItems, ih, List.map_cons]

theorem dumpsFields_eq (fields : JsonFields) :
    dumpsFields fields = fields.map fun field => (field.1, dumps field.2) := by
  induction fields with
  | nil => rfl
  | cons field rest ih => rw [dumpsFields, ih, List.map_cons]

/-- Sorting looks at the names alone. -/
theorem sortedFields_map {α β : Type} (f : α → β) (fields : List (CodePoints × α)) :
    sortedFields (fields.map fun field => (field.1, f field.2)) =
      (sortedFields fields).map fun field => (field.1, f field.2) := by
  refine (List.map_mergeSort ?_).symm
  intro field _ other _
  rfl

theorem mem_sortedFields {α : Type} {fields : List (CodePoints × α)} {field : CodePoints × α} :
    field ∈ sortedFields fields ↔ field ∈ fields := List.mem_mergeSort

/-- The first character of the text of a value. -/
theorem dumps_cons {value : JsonValue} (h : Proper value) :
    ∃ first later, dumps value = first :: later ∧ isBlank first = false ∧ first ≠ ']' := by
  have hdigit : ∀ c : Char, c.isDigit = true → isBlank c = false ∧ c ≠ ']' := by
    intro c hc
    have hne := fun (d : Char) (hd : d.isDigit = false) => Binary64.isDigit_ne hc hd
    refine ⟨?_, hne ']' (by decide)⟩
    simp [isBlank, hne ' ' (by decide), hne '\t' (by decide), hne '\n' (by decide),
      hne '\r' (by decide)]
  have hpositive : ∀ {q : Rat}, 0 < q → Binary64.round q = .finite q →
      ∃ first later, Binary64.positiveText q = first :: later ∧ isBlank first = false ∧
        first ≠ ']' := by
    intro q hpos hround
    obtain ⟨first, later, htext, hfirst⟩ := positiveText_cons hpos hround []
    exact ⟨first, later, by rw [← htext, List.append_nil], hdigit first hfirst⟩
  cases value with
  | null => exact ⟨_, _, rfl, by decide⟩
  | bool b => cases b <;> exact ⟨_, _, rfl, by decide⟩
  | int n =>
    obtain ⟨first, later, htext, hfirst⟩ := cons_of_digits (Nat.toDigits_ne_nil (b := 10))
      (fun c hc => isDigit_of_mem (n := n.natAbs) hc) []
    rw [List.append_nil] at htext
    rw [dumps, intText, htext]
    split
    · exact ⟨_, _, rfl, by decide⟩
    · exact ⟨_, _, rfl, hdigit first hfirst⟩
  | float x =>
    rw [dumps]
    cases x with
    | nan => exact ⟨_, _, rfl, by decide⟩
    | infinite negative => cases negative <;> exact ⟨_, _, rfl, by decide⟩
    | finite q =>
      unfold Binary64.text
      dsimp only
      split_ifs with hzero hneg
      · exact ⟨_, _, rfl, by decide⟩
      · exact ⟨_, _, rfl, by decide⟩
      · exact hpositive (lt_of_le_of_ne (not_lt.mp hneg) (Ne.symm hzero)) h
  | negativeZero => exact ⟨_, _, rfl, by decide⟩
  | string s => exact ⟨_, _, rfl, by decide⟩
  | list items => exact ⟨_, _, rfl, by decide⟩
  | object fields => exact ⟨_, _, rfl, by decide⟩
  | other shown => exact h.elim

theorem skipBlank_dumps {value : JsonValue} (h : Proper value) (rest : List Char) :
    skipBlank (dumps value ++ rest) = dumps value ++ rest := by
  obtain ⟨first, later, htext, hblank, -⟩ := dumps_cons h
  rw [htext]
  exact List.dropWhile_cons_of_neg (by simp [hblank])

/-- What is read as a literal or a number starts no string and no container. -/
theorem scanOnce_of_scanPlain {maxDigits : Nat} {text : List Char}
    {read : JsonValue × List Char} (h : scanPlain maxDigits text = .ok read) (depth : Nat) :
    scanOnce maxDigits depth text = .ok read := by
  have hstart : ∀ first later, text = first :: later →
      first ≠ '"' ∧ first ≠ '[' ∧ first ≠ '\x7b' := by
    rintro first later rfl
    have hmalformed : ∀ c : Char, c = '"' ∨ c = '[' ∨ c = '\x7b' →
        scanPlain maxDigits (c :: later) = .error .malformed := by
      rintro c (rfl | rfl | rfl) <;> rfl
    refine ⟨?_, ?_, ?_⟩ <;>
    · rintro rfl
      rw [hmalformed _ (by simp)] at h
      cases h
  rw [scanOnce, h]
  all_goals
    intros
    simp_all

theorem skipBlank_join {first : Char} {text : List Char} (h : isBlank first = false)
    (texts : List (List Char)) (rest : List Char) :
    skipBlank ([','].intercalate ((first :: text) :: texts) ++ rest) =
      [','].intercalate ((first :: text) :: texts) ++ rest := by
  cases texts with
  | nil => exact List.dropWhile_cons_of_neg (by simp [h])
  | cons => exact List.dropWhile_cons_of_neg (by simp [h])

section Reading

variable {reader : List Char → Except ReadError (JsonValue × List Char)}

/-- The reader makes of a text the value of which it is the text. -/
def Reads (reader : List Char → Except ReadError (JsonValue × List Char)) (value : JsonValue) :
    Prop :=
  ∀ rest, Delimited rest → reader (dumps value ++ rest) = .ok (sorted value, rest)

theorem scanItems_last {text rest : List Char} {item : JsonValue}
    (h : reader text = .ok (item, ']' :: rest)) (fuel : Nat) :
    scanItems reader (fuel + 1) text = .ok ([item], rest) := by
  exact bind_eq_ok.mpr ⟨_, h, rfl⟩

theorem scanItems_next {text later rest : List Char} {item : JsonValue} {items : List JsonValue}
    {fuel : Nat} (h : reader text = .ok (item, ',' :: later))
    (hlater : scanItems reader fuel (skipBlank later) = .ok (items, rest)) :
    scanItems reader (fuel + 1) text = .ok (item :: items, rest) := by
  exact bind_eq_ok.mpr ⟨_, h, bind_eq_ok.mpr ⟨_, hlater, rfl⟩⟩

theorem scanItems_texts {item : JsonValue} {items : List JsonValue}
    (hread : ∀ other ∈ item :: items, Reads reader other)
    (hproper : ∀ other ∈ items, Proper other) {fuel : Nat} (hfuel : items.length < fuel)
    (rest : List Char) :
    scanItems reader fuel ([','].intercalate ((item :: items).map dumps) ++ ']' :: rest) =
      .ok ((item :: items).map sorted, rest) := by
  induction items generalizing item fuel with
  | nil =>
    obtain ⟨fuel, rfl⟩ := Nat.exists_eq_succ_of_ne_zero (Nat.ne_zero_of_lt hfuel)
    refine scanItems_last ?_ fuel
    simpa using hread item List.mem_cons_self _ (show Delimited (']' :: rest) by simp [Delimited])
  | cons next items ih =>
    obtain ⟨fuel, rfl⟩ := Nat.exists_eq_succ_of_ne_zero (Nat.ne_zero_of_lt hfuel)
    have hlater := @ih next (fun other hother => hread other (List.mem_cons_of_mem _ hother))
      (fun other hother => hproper other (List.mem_cons_of_mem _ hother)) fuel
      (Nat.lt_of_succ_lt_succ hfuel)
    obtain ⟨first, later, hnext, hblank, -⟩ := dumps_cons (hproper next List.mem_cons_self)
    have htext : [','].intercalate ((item :: next :: items).map dumps) ++ ']' :: rest =
        dumps item ++ ',' :: ([','].intercalate ((next :: items).map dumps) ++ ']' :: rest) := by
      simp [List.intercalate_cons_cons]
    rw [htext, List.map_cons]
    refine scanItems_next (hread item List.mem_cons_self _ (by simp [Delimited])) ?_
    rw [List.map_cons, hnext, skipBlank_join hblank, ← hnext]
    exact hlater

theorem scanName_text {name : CodePoints} (h : Unpaired name) {rest : List Char}
    (hrest : skipBlank rest = rest) :
    scanName (stringText name ++ ':' :: rest) = .ok (name, rest) := by
  obtain ⟨text, htext, hscan⟩ := scanString_stringText h (':' :: rest)
  rw [htext, scanName, hscan]
  show Except.ok (name, skipBlank rest) = _
  rw [hrest]

theorem scanFields_last {text behind rest : List Char} {name : CodePoints} {value : JsonValue}
    (hname : scanName text = .ok (name, behind)) (h : reader behind = .ok (value, '\x7d' :: rest))
    (fuel : Nat) : scanFields reader (fuel + 1) text = .ok ([(name, value)], rest) := by
  exact bind_eq_ok.mpr ⟨_, hname, bind_eq_ok.mpr ⟨_, h, rfl⟩⟩

theorem scanFields_next {text behind later rest : List Char} {name : CodePoints}
    {value : JsonValue} {fields : JsonFields} {fuel : Nat}
    (hname : scanName text = .ok (name, behind)) (h : reader behind = .ok (value, ',' :: later))
    (hlater : scanFields reader fuel (skipBlank later) = .ok (fields, rest)) :
    scanFields reader (fuel + 1) text = .ok ((name, value) :: fields, rest) := by
  exact bind_eq_ok.mpr ⟨_, hname, bind_eq_ok.mpr ⟨_, h, bind_eq_ok.mpr ⟨_, hlater, rfl⟩⟩⟩

def valueText (field : CodePoints × JsonValue) : List Char := fieldText (field.1, dumps field.2)

theorem scanName_valueText {field : CodePoints × JsonValue} (hname : Unpaired field.1)
    (hvalue : Proper field.2) (rest : List Char) :
    scanName (valueText field ++ rest) = .ok (field.1, dumps field.2 ++ rest) := by
  have htext : valueText field ++ rest = stringText field.1 ++ ':' :: (dumps field.2 ++ rest) := by
    simp [valueText, fieldText]
  rw [htext]
  exact scanName_text hname (skipBlank_dumps hvalue rest)

theorem scanFields_texts {field : CodePoints × JsonValue} {fields : JsonFields}
    (hread : ∀ other ∈ field :: fields, Reads reader other.2)
    (hproper : ∀ other ∈ field :: fields, Unpaired other.1 ∧ Proper other.2) {fuel : Nat}
    (hfuel : fields.length < fuel) (rest : List Char) :
    scanFields reader fuel ([','].intercalate ((field :: fields).map valueText) ++ '\x7d' :: rest) =
      .ok ((field :: fields).map fun other => (other.1, sorted other.2), rest) := by
  induction fields generalizing field fuel with
  | nil =>
    obtain ⟨fuel, rfl⟩ := Nat.exists_eq_succ_of_ne_zero (Nat.ne_zero_of_lt hfuel)
    obtain ⟨hname, hvalue⟩ := hproper field List.mem_cons_self
    refine scanFields_last ?_ (hread field List.mem_cons_self _
      (show Delimited ('\x7d' :: rest) by simp [Delimited])) fuel
    simpa using scanName_valueText hname hvalue ('\x7d' :: rest)
  | cons next fields ih =>
    obtain ⟨fuel, rfl⟩ := Nat.exists_eq_succ_of_ne_zero (Nat.ne_zero_of_lt hfuel)
    obtain ⟨hname, hvalue⟩ := hproper field List.mem_cons_self
    have hlater := @ih next (fun other hother => hread other (List.mem_cons_of_mem _ hother))
      (fun other hother => hproper other (List.mem_cons_of_mem _ hother)) fuel
      (Nat.lt_of_succ_lt_succ hfuel)
    have htext : [','].intercalate ((field :: next :: fields).map valueText) ++ '\x7d' :: rest =
        valueText field ++
          ',' :: ([','].intercalate ((next :: fields).map valueText) ++ '\x7d' :: rest) := by
      simp [List.intercalate_cons_cons]
    rw [htext, List.map_cons]
    refine scanFields_next (scanName_valueText hname hvalue _)
      (hread field List.mem_cons_self _ (by simp [Delimited])) ?_
    have hquote : ∃ text, valueText next = '"' :: text := ⟨_, rfl⟩
    obtain ⟨text, hnext⟩ := hquote
    rw [List.map_cons, hnext, skipBlank_join (by decide), ← hnext]
    exact hlater

end Reading

theorem setField_new {fields : JsonFields} {name : CodePoints} (value : JsonValue)
    (h : name ∉ fields.map Prod.fst) : setField fields name value = fields ++ [(name, value)] := by
  have hnone : fields.any (·.1 = name) = false := by
    rw [List.any_eq_false]
    intro field hfield hname
    exact h (of_decide_eq_true hname ▸ List.mem_map_of_mem hfield)
  rw [setField, hnone, if_neg (by decide)]

/-- Fields with names that differ are a dictionary. -/
theorem dictionary_eq {fields : JsonFields} (h : (fields.map Prod.fst).Nodup) :
    dictionary fields = fields := by
  suffices hfold : ∀ read : JsonFields, ((read ++ fields).map Prod.fst).Nodup →
      fields.foldl (fun read field => setField read field.1 field.2) read = read ++ fields from
    hfold [] h
  clear h
  induction fields with
  | nil => exact fun read _ => (List.append_nil read).symm
  | cons field fields ih =>
    intro read hnodup
    have hnew : field.1 ∉ read.map Prod.fst := by
      rw [List.map_append, List.nodup_append] at hnodup
      exact fun hmem => hnodup.2.2 _ hmem _ List.mem_cons_self rfl
    rw [List.foldl_cons, setField_new _ hnew, ih _ (by simpa using hnodup)]
    simp

theorem length_join (text : List Char) (texts : List (List Char)) :
    texts.length ≤ ([','].intercalate (text :: texts)).length := by
  induction texts generalizing text with
  | nil => exact Nat.zero_le _
  | cons next texts ih =>
    have hlater := ih next
    rw [List.intercalate_cons_cons]
    simp only [List.length_append, List.length_cons, List.length_nil]
    omega

section Containers

variable {maxDigits depth : Nat} {text rest : List Char}

theorem scanOnce_list {items : List JsonValue} (hblank : skipBlank text = text)
    (hhead : ∀ later, text ≠ ']' :: later)
    (h : scanItems (scanOnce maxDigits depth) text.length text = .ok (items, rest)) :
    scanOnce maxDigits (depth + 1) ('[' :: text) = .ok (.list items, rest) := by
  rw [scanOnce, hblank]
  split
  case h_1 later => exact absurd rfl (hhead later)
  case h_2 => exact bind_eq_ok.mpr ⟨_, h, rfl⟩

theorem scanOnce_object {fields : JsonFields} (hblank : skipBlank text = text)
    (hhead : ∀ later, text ≠ '\x7d' :: later)
    (h : scanFields (scanOnce maxDigits depth) text.length text = .ok (fields, rest)) :
    scanOnce maxDigits (depth + 1) ('\x7b' :: text) = .ok (.object (dictionary fields), rest) := by
  rw [scanOnce, hblank]
  split
  case h_1 later => exact absurd rfl (hhead later)
  case h_2 => exact bind_eq_ok.mpr ⟨_, h, rfl⟩

theorem scanOnce_items {items : List JsonValue} (hproper : ∀ item ∈ items, Proper item)
    (hread : ∀ item ∈ items, Reads (scanOnce maxDigits depth) item) (rest : List Char) :
    scanOnce maxDigits (depth + 1) (dumps (.list items) ++ rest) =
      .ok (.list (items.map sorted), rest) := by
  have htext : dumps (.list items) ++ rest =
      '[' :: ([','].intercalate (items.map dumps) ++ ']' :: rest) := by
    simp [dumps, dumpsItems_eq]
  rw [htext]
  cases items with
  | nil => rfl
  | cons item items =>
    obtain ⟨first, later, hitem, hblank, hclosed⟩ := dumps_cons (hproper item List.mem_cons_self)
    have hlength := length_join (dumps item) (items.map dumps)
    refine scanOnce_list ?_ ?_ (scanItems_texts hread
      (fun other hother => hproper other (List.mem_cons_of_mem _ hother)) ?_ rest)
    · rw [List.map_cons, hitem]
      exact skipBlank_join hblank _ _
    · intro behind hbehind
      rw [List.map_cons, hitem] at hbehind
      cases items with
      | nil => exact hclosed (List.cons.inj hbehind).1
      | cons => exact hclosed (List.cons.inj hbehind).1
    · rw [List.length_map] at hlength
      rw [List.length_append, List.length_cons, List.map_cons]
      omega

theorem scanOnce_fields {fields : JsonFields} (hnames : (fields.map Prod.fst).Nodup)
    (hproper : ∀ field ∈ fields, Unpaired field.1 ∧ Proper field.2)
    (hread : ∀ field ∈ fields, Reads (scanOnce maxDigits depth) field.2) (rest : List Char) :
    scanOnce maxDigits (depth + 1) (dumps (.object fields) ++ rest) =
      .ok (.object ((sortedFields fields).map fun field => (field.1, sorted field.2)), rest) := by
  have htext : dumps (.object fields) ++ rest =
      '\x7b' :: ([','].intercalate ((sortedFields fields).map valueText) ++ '\x7d' :: rest) := by
    rw [dumps, dumpsFields_eq, sortedFields_map, List.map_map]
    exact congrArg _ (List.append_assoc _ _ _)
  rw [htext]
  have hsorted := (List.mergeSort_perm fields fun a b => decide (a.1 ≤ b.1)).map Prod.fst
  have hdictionary : dictionary ((sortedFields fields).map fun field => (field.1, sorted field.2)) =
      (sortedFields fields).map fun field => (field.1, sorted field.2) := by
    refine dictionary_eq ?_
    rw [List.map_map]
    exact hsorted.nodup_iff.mpr hnames
  replace hproper : ∀ field ∈ sortedFields fields, Unpaired field.1 ∧ Proper field.2 :=
    fun field hfield => hproper field (mem_sortedFields.mp hfield)
  replace hread : ∀ field ∈ sortedFields fields, Reads (scanOnce maxDigits depth) field.2 :=
    fun field hfield => hread field (mem_sortedFields.mp hfield)
  rw [← hdictionary]
  generalize sortedFields fields = fields at hproper hread
  cases fields with
  | nil => rfl
  | cons field fields =>
    have hlength := length_join (valueText field) (fields.map valueText)
    have hquote : ∃ text, valueText field = '"' :: text := ⟨_, rfl⟩
    obtain ⟨text, hfield⟩ := hquote
    refine scanOnce_object ?_ ?_ (scanFields_texts hread hproper ?_ rest)
    · rw [List.map_cons, hfield]
      exact skipBlank_join (by decide) _ _
    · intro behind hbehind
      rw [List.map_cons, hfield] at hbehind
      cases fields <;> exact absurd (List.cons.inj hbehind).1 (by decide)
    · rw [List.length_map] at hlength
      rw [List.length_append, List.length_cons, List.map_cons]
      omega

end Containers

theorem properItems_iff (items : List JsonValue) :
    ProperItems items ↔ ∀ item ∈ items, Proper item := by
  induction items with
  | nil => simp [ProperItems]
  | cons item rest ih => simp [ProperItems, ih]

theorem properFields_iff (fields : JsonFields) :
    ProperFields fields ↔ ∀ field ∈ fields, Unpaired field.1 ∧ Proper field.2 := by
  induction fields with
  | nil => simp [ProperFields]
  | cons field rest ih =>
    obtain ⟨key, value⟩ := field
    simp only [ProperFields, ih, List.forall_mem_cons]

section RoundTrip

variable (options : EncoderOptions)

mutual

/-- What the encoder writes is read back, with the fields in the order of their names. -/
theorem scanOnce_dumps (value : JsonValue) {depth : Nat} (hproper : Proper value)
    (hdepth : nesting value ≤ depth) (hwritable : Writable options value) :
    Reads (scanOnce options.maxDigits depth) value := by
  intro rest hrest
  cases value with
  | null => exact scanOnce_of_scanPlain rfl depth
  | bool b => cases b <;> exact scanOnce_of_scanPlain rfl depth
  | int n => exact scanOnce_of_scanPlain (scanPlain_intText hwritable hrest) depth
  | float x => exact scanOnce_of_scanPlain (scanPlain_floatText hproper hrest) depth
  | negativeZero => exact scanOnce_of_scanPlain (scanPlain_zero hrest true) depth
  | string s =>
    obtain ⟨text, htext, hscan⟩ := scanString_stringText hproper rest
    rw [dumps, htext, scanOnce, hscan]
    rfl
  | other shown => exact hproper.elim
  | list items =>
    obtain ⟨depth, rfl⟩ := Nat.exists_eq_succ_of_ne_zero (Nat.ne_zero_of_lt hdepth)
    have hitems := (properItems_iff items).mp hproper
    rw [sorted, sortedItems_eq]
    exact scanOnce_items hitems (scanOnce_dumpsItems items hproper (Nat.le_of_succ_le_succ hdepth)
      hwritable) rest
  | object fields =>
    obtain ⟨depth, rfl⟩ := Nat.exists_eq_succ_of_ne_zero (Nat.ne_zero_of_lt hdepth)
    have hfields := (properFields_iff fields).mp hproper.2
    rw [sorted, sortedEach_eq, sortedFields_map]
    exact scanOnce_fields hproper.1 hfields (scanOnce_dumpsFields fields hproper.2
      (Nat.le_of_succ_le_succ hdepth) hwritable) rest

theorem scanOnce_dumpsItems (items : List JsonValue) {depth : Nat} (hproper : ProperItems items)
    (hdepth : nestingItems items ≤ depth) (hwritable : WritableItems options items) :
    ∀ item ∈ items, Reads (scanOnce options.maxDigits depth) item := by
  cases items with
  | nil => nofun
  | cons item rest =>
    rw [nestingItems, Nat.max_le] at hdepth
    exact List.forall_mem_cons.mpr ⟨scanOnce_dumps item hproper.1 hdepth.1 hwritable.1,
      scanOnce_dumpsItems rest hproper.2 hdepth.2 hwritable.2⟩

theorem scanOnce_dumpsFields (fields : JsonFields) {depth : Nat} (hproper : ProperFields fields)
    (hdepth : nestingFields fields ≤ depth) (hwritable : WritableFields options fields) :
    ∀ field ∈ fields, Reads (scanOnce options.maxDigits depth) field.2 := by
  cases fields with
  | nil => nofun
  | cons field rest =>
    obtain ⟨key, value⟩ := field
    rw [nestingFields, Nat.max_le] at hdepth
    exact List.forall_mem_cons.mpr ⟨scanOnce_dumps value hproper.1.2 hdepth.1 hwritable.1,
      scanOnce_dumpsFields rest hproper.2 hdepth.2 hwritable.2⟩

end

theorem loads_dumps {depth : Nat} {value : JsonValue} (hproper : Proper value)
    (hdepth : nesting value ≤ depth) (hwritable : Writable options value) :
    loads ⟨options.maxDigits, depth⟩ (dumps value) = .ok (sorted value) := by
  have hread := scanOnce_dumps options value hproper hdepth hwritable [] delimited_nil
  have hblank := skipBlank_dumps hproper []
  rw [List.append_nil] at hread hblank
  have hmark : (dumps value).head? ≠ some '\uFEFF' := by
    intro hhead
    have hprinted := plain_dumps value '\uFEFF' (List.mem_of_head? hhead)
    exact absurd hprinted (by decide)
  rw [loads, if_neg hmark, hblank]
  exact bind_eq_ok.mpr ⟨_, hread, rfl⟩

end RoundTrip

end SupportPilot.Library
