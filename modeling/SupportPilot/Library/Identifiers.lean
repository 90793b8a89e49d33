import Mathlib.Algebra.Ring.Nat
import Mathlib.Data.List.Basic

/-!
# The text of identifiers

Texts made of fields between separators, and the two kinds of fields that identifiers are
built from: decimal numbers and UUIDs. A field that does not contain the separator can be
read back from the text.
-/

namespace SupportPilot.Library

/-- What stands before the first separator, and what stands after it, are determined. -/
theorem append_separator_inj {α : Type} {sep : α} {a a' b b' : List α} (ha : sep ∉ a)
    (ha' : sep ∉ a') (h : a ++ sep :: b = a' ++ sep :: b') : a = a' ∧ b = b' := by
  induction a generalizing a' with
  | nil =>
    cases a' with
    | nil => exact ⟨rfl, (List.cons.inj h).2⟩
    | cons c a' =>
      obtain ⟨rfl, -⟩ := List.cons.inj h
      exact absurd List.mem_cons_self ha'
  | cons c a ih =>
    cases a' with
    | nil =>
      obtain ⟨rfl, -⟩ := List.cons.inj h
      exact absurd List.mem_cons_self ha
    | cons c' a' =>
      obtain ⟨rfl, hrest⟩ := List.cons.inj h
      obtain ⟨rfl, rfl⟩ :=
        ih (fun hc => ha (List.mem_cons_of_mem _ hc)) (fun hc => ha' (List.mem_cons_of_mem _ hc))
          hrest
      exact ⟨rfl, rfl⟩

/-! ## Decimal numbers -/

theorem toDigits_ten_injective {m n : Nat} (h : Nat.toDigits 10 m = Nat.toDigits 10 n) :
    m = n :=
  calc
    m = Nat.ofDigitChars 10 (Nat.toDigits 10 m) 0 := Nat.ofDigitChars_ten_toDigits.symm
    _ = Nat.ofDigitChars 10 (Nat.toDigits 10 n) 0 := by rw [h]
    _ = n := Nat.ofDigitChars_ten_toDigits

theorem not_mem_toDigits_ten {c : Char} (hc : c.isDigit = false) (n : Nat) :
    c ∉ Nat.toDigits 10 n := by
  intro hmem
  have hdigit := Nat.isDigit_of_mem_toDigits (by decide) (Nat.le_refl 10) hmem
  rw [hc] at hdigit
  cases hdigit

/-! ## UUIDs -/

/-- A UUID as its 32 hexadecimal digits. -/
structure Uuid where
  digits : List (Fin 16)
  length_digits : digits.length = 32
  deriving DecidableEq

instance neZero_digits : NeZero 16 := ⟨by decide⟩

namespace Uuid

/-- One digit throughout, as in the nil UUID. -/
def replicate (digit : Fin 16) : Uuid := ⟨List.replicate 32 digit, List.length_replicate⟩

def hexDigit (d : Fin 16) : Char := Nat.digitChar d

theorem hexDigit_injective : Function.Injective hexDigit := by
  have h : ∀ d d' : Fin 16, hexDigit d = hexDigit d' → d = d' := by decide
  exact fun d d' => h d d'

def hex (u : Uuid) : List Char := u.digits.map hexDigit

/-- The canonical text: the digits in groups of 8, 4, 4, 4 and 12. -/
def text (u : Uuid) : String :=
  .ofList (u.hex.take 8 ++ '-' :: ((u.hex.drop 8).take 4 ++ '-' :: ((u.hex.drop 12).take 4 ++
    '-' :: ((u.hex.drop 16).take 4 ++ '-' :: u.hex.drop 20))))

theorem not_mem_hex {c : Char} (hc : ∀ d, hexDigit d ≠ c) (u : Uuid) : c ∉ u.hex := by
  intro h
  obtain ⟨d, -, hd⟩ := List.mem_map.mp h
  exact hc d hd

/-- Without its hyphens the text is the digits. -/
theorem filter_text (u : Uuid) : u.text.toList.filter (· ≠ '-') = u.hex := by
  have hhyphen : '-' ∉ u.hex := u.not_mem_hex (by decide)
  have hkeep : ∀ l, l ⊆ u.hex → l.filter (· ≠ '-') = l := by
    intro l hl
    refine List.filter_eq_self.mpr fun c hc => ?_
    rw [decide_eq_true_iff]
    rintro rfl
    exact hhyphen (hl hc)
  have hpart : ∀ k, (u.hex.drop k).take 4 ⊆ u.hex := fun k =>
    List.Subset.trans (List.take_subset _ _) (List.drop_subset _ _)
  have hstep : ∀ k, (u.hex.drop k).take 4 ++ u.hex.drop (k + 4) = u.hex.drop k := by
    intro k
    rw [← List.drop_drop, List.take_append_drop]
  simp only [text, String.toList_ofList, List.filter_append, List.filter_cons]
  rw [hkeep _ (List.take_subset _ _), hkeep _ (hpart 8), hkeep _ (hpart 12), hkeep _ (hpart 16),
    hkeep _ (List.drop_subset _ _)]
  simp only [ne_eq, not_true_eq_false, decide_false, Bool.false_eq_true, if_false]
  rw [hstep 16, hstep 12, hstep 8, List.take_append_drop]

theorem text_injective : Function.Injective text := by
  intro u v h
  have hhex : u.hex = v.hex := by rw [← filter_text, h, filter_text]
  have hdigits : u.digits = v.digits := hexDigit_injective.list_map hhex
  cases u
  cases v
  cases hdigits
  rfl

/-- Every character of the text is a hexadecimal digit or a hyphen. -/
theorem not_mem_text {c : Char} (hc : ∀ d, hexDigit d ≠ c) (hhyphen : c ≠ '-') (u : Uuid) :
    c ∉ u.text.toList := by
  intro h
  refine u.not_mem_hex hc ?_
  rw [← filter_text]
  exact List.mem_filter.mpr ⟨h, by simpa using hhyphen⟩

/-- The text begins with a digit. -/
theorem text_eq_cons (u : Uuid) : ∃ d l, u.text.toList = hexDigit d :: l := by
  obtain ⟨digits, hlength⟩ := u
  cases digits with
  | nil => cases hlength
  | cons d digits =>
    rw [text, String.toList_ofList]
    exact ⟨d, _, rfl⟩

theorem text_ne_of_hyphen {s : String} (hs : '-' ∉ s.toList) (u : Uuid) : u.text ≠ s := by
  rintro rfl
  exact hs (by simp [text])

end Uuid

end SupportPilot.Library
