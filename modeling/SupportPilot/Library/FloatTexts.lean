import Mathlib.Algebra.Order.Field.Power
import Mathlib.Data.Nat.Prime.Basic
import Mathlib.Tactic.FieldSimp
import SupportPilot.Library.Decimals

/-!
# Floats are read back from their texts

The shortest digits of a number are rounded to the number again, and each of the three layouts of
`repr` keeps what the digits stand for.
-/

namespace SupportPilot.Library

namespace Binary64

/-- A value of the format. -/
def Representable : Binary64 → Prop
  | .finite q => round q = .finite q
  | _ => True

instance : DecidablePred Representable
  | .finite q => inferInstanceAs (Decidable (round q = .finite q))
  | .infinite _ | .nan => .isTrue trivial

theorem pow10_eq (e : Int) : pow10 e = (10 : Rat) ^ e := by
  rw [pow10]
  split
  case isTrue h =>
    lift e to Nat using h
    simp
  case isFalse h =>
    obtain ⟨n, rfl⟩ : ∃ n : Nat, e = -(n : Int) := ⟨e.natAbs, by omega⟩
    simp

theorem pow10_ne_zero (e : Int) : pow10 e ≠ 0 := by
  rw [pow10_eq]
  positivity

theorem pow10_add (e f : Int) : pow10 (e + f) = pow10 e * pow10 f := by
  rw [pow10_eq, pow10_eq, pow10_eq, zpow_add₀ (by norm_num)]

theorem pow10_nat (n : Nat) : pow10 n = ((10 ^ n : Nat) : Rat) := by
  rw [pow10_eq]
  simp

theorem pow2_eq (e : Int) : pow2 e = (2 : Rat) ^ e := by
  rw [pow2]
  split
  case isTrue h =>
    lift e to Nat using h
    simp
  case isFalse h =>
    obtain ⟨n, rfl⟩ : ∃ n : Nat, e = -(n : Int) := ⟨e.natAbs, by omega⟩
    simp

/-! ## The other sign -/

theorem floor_neg {q : Rat} (h : q ≠ q.floor) : (-q).floor = -q.floor - 1 := by
  have hlow : (q.floor : Rat) < q := lt_of_le_of_ne (Rat.floor_le q) (Ne.symm h)
  have hhigh := Rat.lt_floor_add_one q
  push_cast at hhigh
  refine le_antisymm (Int.le_of_lt_add_one (Rat.floor_lt_iff.mpr ?_)) (Rat.le_floor_iff.mpr ?_)
  · push_cast
    linarith
  · push_cast
    linarith

theorem roundHalfEven_intCast (n : Int) : roundHalfEven n = n := by
  rw [roundHalfEven, Rat.floor_intCast]
  simp

theorem roundHalfEven_neg (q : Rat) : roundHalfEven (-q) = -roundHalfEven q := by
  by_cases hwhole : q = q.floor
  · rw [hwhole, ← Int.cast_neg, roundHalfEven_intCast, roundHalfEven_intCast]
  · rw [roundHalfEven, roundHalfEven, floor_neg hwhole]
    push_cast
    generalize hlow : q.floor = low
    split_ifs <;> first | omega | (exfalso; linarith)

theorem pow2_pos (e : Int) : 0 < pow2 e := by
  rw [pow2_eq]
  positivity

/-- Rounding is the same on both sides of zero. -/
theorem round_neg (q : Rat) : round (-q) = (round q).neg := by
  by_cases hzero : q = 0
  · rw [hzero]
    rfl
  · rw [round, round, if_neg hzero, if_neg (neg_ne_zero.mpr hzero), abs_neg]
    dsimp only
    generalize pow2 (max (exponent |q| - 52) (-1074)) = ulp
    rw [neg_div, roundHalfEven_neg]
    push_cast
    rw [neg_mul, abs_neg]
    split
    case isTrue hlarge =>
      have hne : (roundHalfEven (q / ulp) : Rat) * ulp ≠ 0 := by
        intro hzero
        rw [hzero, abs_zero] at hlarge
        exact absurd (pow2_pos 1024) (not_lt.mpr hlarge)
      rcases lt_or_gt_of_ne hne with hneg | hpos
      · simp [neg, hneg, hneg.le]
      · simp [neg, hpos, hpos.le]
    case isFalse => rfl

/-! ## The shortest digits -/

theorem round_zero : round 0 = .finite 0 := rfl

theorem neighbour_fits {q unit : Rat} {n : Nat} (h : neighbour q unit = some n) :
    round (n * unit) = .finite q := by
  rw [neighbour] at h
  dsimp only at h
  split at h
  case isTrue hboth =>
    rw [Bool.and_eq_true, decide_eq_true_eq, decide_eq_true_eq] at hboth
    obtain rfl := Option.some.inj h
    split
    · exact hboth.1
    · exact_mod_cast hboth.2
  case isFalse =>
    split at h
    case isTrue hlow =>
      obtain rfl := Option.some.inj h
      exact of_decide_eq_true hlow
    case isFalse =>
      split at h
      case isTrue habove =>
        obtain rfl := Option.some.inj h
        exact_mod_cast of_decide_eq_true habove
      case isFalse => cases h

/-- A number of the format is a fraction whose denominator is a power of two. -/
theorem den_of_round {q : Rat} (h : round q = .finite q) : q.den = 2 ^ q.den.log2 := by
  suffices hdvd : ∃ k, q.den ∣ 2 ^ k by
    obtain ⟨k, hk⟩ := hdvd
    obtain ⟨j, -, hj⟩ := (Nat.dvd_prime_pow Nat.prime_two).mp hk
    rw [hj, Nat.log2_two_pow]
  rw [round] at h
  split at h
  case isTrue hzero => exact ⟨0, by simp [hzero]⟩
  case isFalse =>
    dsimp only at h
    split at h
    case isTrue => cases h
    case isFalse =>
      have hq := Binary64.finite.inj h
      generalize max (exponent |q| - 52) (-1074) = e at hq
      generalize roundHalfEven (q / pow2 e) = r at hq
      rw [pow2_eq] at hq
      obtain ⟨k, rfl | rfl⟩ := e.eq_nat_or_neg
      · refine ⟨0, ?_⟩
        have hint : q = ((r * 2 ^ k : Int) : Rat) := by
          rw [← hq]
          simp
        rw [hint, Rat.den_intCast]
        exact one_dvd _
      · refine ⟨k, ?_⟩
        have hfraction : q = Rat.divInt r (2 ^ k : Nat) := by
          rw [← hq, Rat.divInt_eq_div, zpow_neg, zpow_natCast]
          push_cast
          exact (div_eq_mul_inv _ _).symm
        rw [hfraction]
        exact_mod_cast Rat.den_dvd r (2 ^ k : Nat)

/-- As many decimal places as the denominator has bits are enough for the whole number. -/
theorem floor_mul_pow10 {q : Rat} (hpos : 0 < q) (hround : round q = .finite q) {e : Int}
    (he : e + q.den.log2 ≤ 0) : ((q / pow10 e).floor.toNat : Rat) * pow10 e = q := by
  obtain ⟨n, rfl⟩ : ∃ n : Nat, e = -(n : Int) := ⟨e.natAbs, by omega⟩
  obtain ⟨extra, hextra⟩ := Nat.exists_eq_add_of_le (show q.den.log2 ≤ n by omega)
  generalize hj : q.den.log2 = j at hextra
  have hden : (q.den : Rat) = 2 ^ j := by
    rw [den_of_round hround, hj]
    push_cast
    rfl
  have hwhole : q / pow10 (-(n : Int)) = ((q.num * 5 ^ j * 10 ^ extra : Int) : Rat) := by
    rw [pow10_eq, zpow_neg, zpow_natCast, div_inv_eq_mul, hextra, pow_add,
      show (10 : Rat) ^ j = 2 ^ j * 5 ^ j by rw [← mul_pow]; norm_num]
    push_cast
    calc q * (2 ^ j * 5 ^ j * 10 ^ extra) = q * q.den * 5 ^ j * 10 ^ extra := by rw [hden]; ring
      _ = q.num * 5 ^ j * 10 ^ extra := by rw [Rat.mul_den_eq_num]
  have hnonneg : 0 ≤ q.num * 5 ^ j * 10 ^ extra := by
    have hnum := Rat.num_pos.mpr hpos
    positivity
  have hfloor : ((q / pow10 (-(n : Int))).floor.toNat : Rat) = q / pow10 (-(n : Int)) := by
    rw [hwhole, Rat.floor_intCast]
    exact_mod_cast Int.toNat_of_nonneg hnonneg
  rw [hfloor, div_mul_cancel₀ _ (pow10_ne_zero _)]

/-- Some number of digits is enough, at the latest that of the last turn. -/
theorem round_shortestDigits {q : Rat} (hpos : 0 < q) (hround : round q = .finite q) (e : Int)
    (fuel digits : Nat) (henough : e + 1 + q.den.log2 ≤ (digits + fuel : Nat)) :
    round ((shortestDigits q e fuel digits).1 *
      pow10 (e + 1 - (shortestDigits q e fuel digits).2)) = .finite q := by
  induction fuel generalizing digits with
  | zero =>
    rw [shortestDigits, floor_mul_pow10 hpos hround (by omega)]
    exact hround
  | succ fuel ih =>
    rw [shortestDigits]
    split
    case h_1 n hn => exact neighbour_fits hn
    case h_2 => exact ih (digits + 1) (by omega)

/-! ## Digits and the position of the point -/

theorem head_toDigits {n : Nat} (h : 0 < n) : (Nat.toDigits 10 n).head? ≠ some '0' := by
  induction n using Nat.strong_induction_on with
  | h n ih =>
    rcases Nat.lt_or_ge n 10 with hsmall | hlarge
    · have hdigit : ∀ d < 10, 0 < d → some (Nat.digitChar d) ≠ some '0' := by decide
      rw [Nat.toDigits_of_lt_base hsmall, List.head?_cons]
      exact hdigit n hsmall h
    · rw [Nat.toDigits_of_base_le (by decide) hlarge, List.head?_append]
      have hfirst := ih (n / 10) (by omega) (by omega)
      cases hhead : (Nat.toDigits 10 (n / 10)).head? with
      | none => exact absurd (List.head?_eq_none_iff.mp hhead) Nat.toDigits_ne_nil
      | some c => rwa [hhead] at hfirst

/-- The zeros at the end of a text. -/
theorem exists_zeros (text : List Char) :
    ∃ zeros, text = text.rdropWhile (· = '0') ++ List.replicate zeros '0' := by
  refine ⟨(text.rtakeWhile (· = '0')).length, ?_⟩
  have hzeros : text.rtakeWhile (· = '0') =
      List.replicate (text.rtakeWhile (· = '0')).length '0' :=
    List.eq_replicate_of_mem fun c hc => by simpa using List.mem_rtakeWhile_imp hc
  rw [← hzeros, List.rdropWhile_append_rtakeWhile]

/-- The text consists of the digits of a number that is rounded to `q` when the point stands at
this position. -/
structure DigitsOf (q : Rat) (text : List Char) (point : Int) : Prop where
  ne : text ≠ []
  digits : ∀ c ∈ text, c.isDigit = true
  head : text.head? ≠ some '0'
  value : round (Nat.ofDigitChars 10 text 0 * pow10 (point - text.length)) = .finite q

theorem decimal_digits {q : Rat} (hpos : 0 < q) (hround : round q = .finite q) :
    DigitsOf q (decimal q).1 (decimal q).2 := by
  have hshortest := round_shortestDigits hpos hround (decimalExponent q)
    ((decimalExponent q).natAbs + q.den.log2 + 2) 1 (by omega)
  rw [decimal]
  generalize shortestDigits q (decimalExponent q)
    ((decimalExponent q).natAbs + q.den.log2 + 2) 1 = shortest at hshortest ⊢
  obtain ⟨n, digits⟩ := shortest
  dsimp only at hshortest ⊢
  have hn : 0 < n := by
    rcases Nat.eq_zero_or_pos n with rfl | hn
    · rw [Nat.cast_zero, zero_mul, round_zero] at hshortest
      exact absurd (Binary64.finite.inj hshortest) hpos.ne
    · exact hn
  have hhead := head_toDigits hn
  have hvalue : Nat.ofDigitChars 10 (Nat.toDigits 10 n) 0 = n := Nat.ofDigitChars_ten_toDigits
  have hdigits : ∀ c ∈ Nat.toDigits 10 n, c.isDigit = true := fun c hc => isDigit_of_mem hc
  obtain ⟨zeros, hzeros⟩ := exists_zeros (Nat.toDigits 10 n)
  generalize hkept : (Nat.toDigits 10 n).rdropWhile (· = '0') = kept at hzeros
  rw [hzeros] at hhead hvalue hdigits
  have hne : kept ≠ [] := by
    rintro rfl
    cases zeros with
    | zero => exact Nat.toDigits_ne_nil hzeros
    | succ zeros => exact hhead rfl
  refine ⟨hne, fun c hc => hdigits c (List.mem_append_left _ hc), ?_, ?_⟩
  · rwa [List.head?_append_of_ne_nil _ hne] at hhead
  · rw [Nat.ofDigitChars_append, Nat.ofDigitChars_replicate_zero] at hvalue
    rw [← hshortest, hzeros, ← hvalue, List.length_append, List.length_replicate]
    push_cast
    rw [show decimalExponent q + 1 + ((kept.length : Int) + zeros - digits) - kept.length =
      zeros + (decimalExponent q + 1 - digits) by omega, pow10_add, pow10_nat]
    push_cast
    ring_nf

/-! ## The layouts -/

/-- The digits in front of the point, the point with the digits behind it, and the exponent. -/
structure Layout (whole fraction exponent : List Char) : Prop where
  whole_ne : whole ≠ []
  whole_digits : ∀ c ∈ whole, c.isDigit = true
  whole_head : whole.head? ≠ some '0' ∨ whole = ['0']
  fraction_point : fraction = [] ∨ ∃ places, places ≠ [] ∧ fraction = '.' :: places
  fraction_digits : ∀ c ∈ fraction.tail, c.isDigit = true
  exponent_sign : exponent = [] ∨ ∃ e : Int, exponent = 'e' :: exponentText e
  not_whole : fraction ≠ [] ∨ exponent ≠ []

/-- The digits of an exponent behind its sign. -/
def exponentDigits (e : Int) : List Char :=
  if (Nat.toDigits 10 e.natAbs).length < 2 then '0' :: Nat.toDigits 10 e.natAbs
  else Nat.toDigits 10 e.natAbs

theorem exponentText_eq (e : Int) :
    exponentText e = (if e < 0 then '-' else '+') :: exponentDigits e := rfl

theorem exponentDigits_ne (e : Int) : exponentDigits e ≠ [] := by
  rw [exponentDigits]
  split
  · exact List.cons_ne_nil _ _
  · exact Nat.toDigits_ne_nil

theorem exponentDigits_digits (e : Int) : ∀ c ∈ exponentDigits e, c.isDigit = true := by
  have hdigits : ∀ c ∈ Nat.toDigits 10 e.natAbs, c.isDigit = true := fun c hc => isDigit_of_mem hc
  rw [exponentDigits]
  split
  · exact List.forall_mem_cons.mpr ⟨by decide, hdigits⟩
  · exact hdigits

theorem exponentDigits_value (e : Int) :
    Nat.ofDigitChars 10 (exponentDigits e) 0 = e.natAbs := by
  rw [exponentDigits]
  split
  · rw [Nat.ofDigitChars_cons]
    exact Nat.ofDigitChars_ten_toDigits
  · exact Nat.ofDigitChars_ten_toDigits

theorem exponentOf_exponentText (e : Int) : exponentOf ('e' :: exponentText e) = some e := by
  have hall : (exponentDigits e ≠ [] && (exponentDigits e).all Char.isDigit) = true := by
    simpa [exponentDigits_ne] using exponentDigits_digits e
  rw [exponentText_eq]
  rcases lt_or_ge e 0 with hnegative | hpositive
  · rw [if_pos hnegative, exponentOf, signed]
    dsimp only
    rw [if_pos hall, exponentDigits_value, if_pos rfl]
    congr 1
    omega
  · rw [if_neg (Int.not_lt.mpr hpositive), exponentOf, signed]
    dsimp only
    rw [if_pos hall, exponentDigits_value, if_neg (by decide)]
    congr 1
    omega

theorem span_append {p : Char → Bool} {text rest : List Char} (htext : ∀ c ∈ text, p c = true)
    (hrest : ∀ c ∈ rest.head?, p c = false) : (text ++ rest).span p = (text, rest) := by
  rw [List.span_eq_takeWhile_dropWhile, List.takeWhile_append_of_pos htext,
    List.dropWhile_append_of_pos htext]
  cases rest with
  | nil => simp
  | cons c rest => simp [hrest c rfl]

theorem isDigit_ne {c d : Char} (h : c.isDigit = true) (hd : d.isDigit = false) : c ≠ d := by
  rintro rfl
  rw [h] at hd
  cases hd

theorem zero_digits : ∀ c ∈ ['0'], c.isDigit = true := List.forall_mem_singleton.mpr rfl

theorem unsignedDecimal_layout {whole fraction exponent : List Char}
    (h : Layout whole fraction exponent) :
    unsignedDecimal (whole ++ fraction ++ exponent) = (exponentOf exponent).map fun e =>
      (Nat.ofDigitChars 10 (whole ++ fraction.tail) 0 : Nat) *
        pow10 (e - fraction.tail.length) := by
  have hmantissa : ∀ c ∈ whole ++ fraction, (c ≠ 'e' && c ≠ 'E') = true := by
    intro c hc
    have hdigit : c.isDigit = true ∨ c = '.' := by
      rcases List.mem_append.mp hc with hc | hc
      · exact .inl (h.whole_digits c hc)
      · obtain rfl | ⟨places, -, rfl⟩ := h.fraction_point
        · cases hc
        · rcases List.mem_cons.mp hc with rfl | hc
          · exact .inr rfl
          · exact .inl (h.fraction_digits c hc)
    obtain hdigit | rfl := hdigit
    · simp [isDigit_ne hdigit (show 'e'.isDigit = false by decide),
        isDigit_ne hdigit (show 'E'.isDigit = false by decide)]
    · decide
  have hexponent : ∀ c ∈ exponent.head?, (c ≠ 'e' && c ≠ 'E') = false := by
    obtain rfl | ⟨e, rfl⟩ := h.exponent_sign
    · nofun
    · intro c hc
      obtain rfl := Option.some.inj hc
      decide
  have hwhole : ∀ c ∈ whole, (decide (c ≠ '.')) = true := fun c hc =>
    decide_eq_true (isDigit_ne (h.whole_digits c hc) (by decide))
  have hfraction : ∀ c ∈ fraction.head?, (decide (c ≠ '.')) = false := by
    obtain rfl | ⟨places, -, rfl⟩ := h.fraction_point
    · nofun
    · intro c hc
      obtain rfl := Option.some.inj hc
      decide
  have hall :
      (whole ++ fraction.tail ≠ [] && (whole ++ fraction.tail).all Char.isDigit) = true := by
    rw [Bool.and_eq_true, List.all_eq_true]
    exact ⟨decide_eq_true (List.append_ne_nil_of_left_ne_nil h.whole_ne _),
      List.forall_mem_append.mpr ⟨h.whole_digits, h.fraction_digits⟩⟩
  rw [unsignedDecimal, span_append hmantissa hexponent]
  dsimp only
  rw [span_append hwhole hfraction]
  dsimp only
  rw [if_pos hall]

/-- What the text of a number is laid out as, and that it is rounded to the number. -/
def ReadBack (q : Rat) (whole fraction exponent : List Char) : Prop :=
  Layout whole fraction exponent ∧
    ∃ r, unsignedDecimal (whole ++ fraction ++ exponent) = some r ∧ round r = .finite q

theorem DigitsOf.readBack_scientific {q : Rat} {first : Char} {text : List Char} {point : Int}
    (h : DigitsOf q (first :: text) point) :
    ReadBack q [first] (if text = [] then [] else '.' :: text)
      ('e' :: exponentText (point - 1)) := by
  have hdigits := List.forall_mem_cons.mp h.digits
  have htail : (if text = [] then [] else '.' :: text).tail = text := by
    split
    case isTrue hempty => exact hempty.symm
    case isFalse => rfl
  have hlayout : Layout [first] (if text = [] then [] else '.' :: text)
      ('e' :: exponentText (point - 1)) := by
    refine ⟨List.cons_ne_nil _ _, by simpa using hdigits.1, .inl h.head, ?_, ?_, ?_, ?_⟩
    · split
      case isTrue => exact .inl rfl
      case isFalse hne => exact .inr ⟨text, hne, rfl⟩
    · rw [htail]
      exact hdigits.2
    · exact .inr ⟨point - 1, rfl⟩
    · exact .inr (List.cons_ne_nil _ _)
  refine ⟨hlayout, _, ?_, h.value⟩
  rw [unsignedDecimal_layout hlayout, htail, exponentOf_exponentText, Option.map_some,
    List.length_cons]
  push_cast
  rw [show point - 1 - (text.length : Int) = point - (text.length + 1) by omega]
  rfl

theorem DigitsOf.readBack_small {q : Rat} {text : List Char} {point : Int}
    (h : DigitsOf q text point) (hpoint : point ≤ 0) :
    ReadBack q ['0'] ('.' :: List.replicate (-point).toNat '0' ++ text) [] := by
  have hlayout : Layout ['0'] ('.' :: List.replicate (-point).toNat '0' ++ text) [] := by
    refine ⟨List.cons_ne_nil _ _, zero_digits, .inr rfl, .inr ⟨_, ?_, rfl⟩, ?_, .inl rfl,
      .inl (List.cons_ne_nil _ _)⟩
    · exact List.append_ne_nil_of_right_ne_nil _ h.ne
    · refine List.forall_mem_append.mpr ⟨fun c hc => ?_, h.digits⟩
      rw [List.eq_of_mem_replicate hc]
      decide
  refine ⟨hlayout, _, ?_, h.value⟩
  rw [unsignedDecimal_layout hlayout, exponentOf, Option.map_some]
  simp only [List.cons_append, List.tail_cons, List.nil_append, List.length_append,
    List.length_replicate]
  rw [← List.cons_append, ← List.replicate_succ, Nat.ofDigitChars_append,
    Nat.ofDigitChars_replicate_zero]
  push_cast
  rw [show 0 - (((-point).toNat : Int) + text.length) = point - text.length by omega, mul_zero]

theorem DigitsOf.readBack_large {q : Rat} {text : List Char} {point : Int}
    (h : DigitsOf q text point) (hpoint : (text.length : Int) ≤ point) :
    ReadBack q (text ++ List.replicate (point.toNat - text.length) '0') ['.', '0'] [] := by
  have hzeros : ∀ c ∈ List.replicate (point.toNat - text.length) '0', c.isDigit = true := by
    intro c hc
    rw [List.eq_of_mem_replicate hc]
    decide
  have hlayout : Layout (text ++ List.replicate (point.toNat - text.length) '0') ['.', '0'] [] := by
    refine ⟨List.append_ne_nil_of_left_ne_nil h.ne _,
      List.forall_mem_append.mpr ⟨h.digits, hzeros⟩, .inl ?_,
      .inr ⟨['0'], List.cons_ne_nil _ _, rfl⟩, zero_digits, .inl rfl,
      .inl (List.cons_ne_nil _ _)⟩
    rw [List.head?_append_of_ne_nil _ h.ne]
    exact h.head
  refine ⟨hlayout, _, ?_, h.value⟩
  rw [unsignedDecimal_layout hlayout, exponentOf, Option.map_some, List.tail_cons,
    List.append_assoc, ← List.replicate_one, ← List.replicate_add, Nat.ofDigitChars_append,
    Nat.ofDigitChars_replicate_zero, List.length_replicate]
  push_cast
  rw [show point - (text.length : Int) = ((point.toNat - text.length + 1 : Nat) : Int) + (0 - 1)
    by omega, pow10_add, pow10_nat]
  push_cast
  ring_nf

theorem DigitsOf.readBack_split {q : Rat} {text : List Char} {point : Int}
    (h : DigitsOf q text point) (hpos : 0 < point) (hpoint : point < text.length) :
    ReadBack q (text.take point.toNat) ('.' :: text.drop point.toNat) [] := by
  have hwhole : text.take point.toNat ≠ [] := by
    rw [Ne, List.take_eq_nil_iff]
    rintro (hzero | hempty)
    · omega
    · exact h.ne hempty
  have hlayout : Layout (text.take point.toNat) ('.' :: text.drop point.toNat) [] := by
    refine ⟨hwhole, fun c hc => h.digits c (List.mem_of_mem_take hc), .inl ?_,
      .inr ⟨_, ?_, rfl⟩, fun c hc => h.digits c (List.mem_of_mem_drop hc), .inl rfl,
      .inl (List.cons_ne_nil _ _)⟩
    · rw [List.head?_take, if_neg (by omega)]
      exact h.head
    · rw [Ne, List.drop_eq_nil_iff]
      omega
  refine ⟨hlayout, _, ?_, h.value⟩
  rw [unsignedDecimal_layout hlayout, exponentOf, Option.map_some, List.tail_cons,
    List.take_append_drop, List.length_drop]
  rw [show (0 : Int) - (text.length - point.toNat : Nat) = point - text.length by omega]

/-- A positive number is read back from its text. -/
theorem positiveText_readBack {q : Rat} (hpos : 0 < q) (hround : round q = .finite q) :
    ∃ whole fraction exponent, positiveText q = whole ++ fraction ++ exponent ∧
      ReadBack q whole fraction exponent := by
  have hdigits := decimal_digits hpos hround
  rw [positiveText]
  generalize decimal q = d at hdigits ⊢
  obtain ⟨text, point⟩ := d
  dsimp only at hdigits ⊢
  split
  case isTrue =>
    cases text with
    | nil => exact absurd rfl hdigits.ne
    | cons first text =>
      refine ⟨_, _, _, ?_, hdigits.readBack_scientific⟩
      cases text <;> rfl
  case isFalse =>
    split
    case isTrue hsmall =>
      exact ⟨_, _, _, by simp, hdigits.readBack_small hsmall⟩
    case isFalse hlarge =>
      rcases le_or_gt (text.length : Int) point with hall | hsplit
      · refine ⟨_, _, _, ?_, hdigits.readBack_large hall⟩
        rw [if_pos (by omega), List.take_of_length_le (by simp; omega)]
        simp
      · refine ⟨_, _, _, ?_, hdigits.readBack_split (by omega) hsplit⟩
        rw [if_neg (by omega), List.take_append_of_le_length (by omega)]
        simp

end Binary64

end SupportPilot.Library
