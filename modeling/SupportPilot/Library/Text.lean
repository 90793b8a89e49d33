import Mathlib.Data.List.DropRight
import Mathlib.Data.List.TakeWhile

/-!
# Stripped texts

Slices and the removal of white space at both ends of a text, with white space as Unicode
defines it for text processing.
-/

namespace SupportPilot.Library

def truncate (n : Nat) (s : String) : String := .ofList (s.toList.take n)

/-- The characters that `str.strip` removes. -/
def isSpace (c : Char) : Bool :=
  let n := c.toNat
  (9 ≤ n && n ≤ 13) || (28 ≤ n && n ≤ 32) || n = 0x85 || n = 0xA0 || n = 0x1680 ||
    (0x2000 ≤ n && n ≤ 0x200A) || n = 0x2028 || n = 0x2029 || n = 0x202F || n = 0x205F ||
    n = 0x3000

def strip (s : String) : String := .ofList ((s.toList.dropWhile isSpace).rdropWhile isSpace)

/-- The characters of a literal are those that it is written with. -/
theorem toList_of_eq {s : String} {l : List Char} (h : s = .ofList l) : s.toList = l := by
  rw [h, String.toList_ofList]

/-- A text that is blank once stripped is no text. -/
def stripOrNone (s : String) : Option String := if strip s = "" then none else some (strip s)

theorem truncate_of_le {n : Nat} {s : String} (h : s.toList.length ≤ n) : truncate n s = s := by
  rw [truncate, List.take_of_length_le h, String.ofList_toList]

theorem length_truncate_le (n : Nat) (s : String) : (truncate n s).toList.length ≤ n := by
  rw [truncate, String.toList_ofList]
  exact List.length_take_le n _

theorem dropWhile_rdropWhile {α : Type} (p : α → Bool) (l : List α) :
    ((l.dropWhile p).rdropWhile p).dropWhile p = (l.dropWhile p).rdropWhile p := by
  obtain ⟨rest, hprefix⟩ := List.rdropWhile_prefix p (l.dropWhile p)
  have hhead := List.head?_dropWhile_not p l
  cases hkept : (l.dropWhile p).rdropWhile p with
  | nil => rfl
  | cons a m =>
    rw [← hprefix, hkept, List.cons_append, List.head?_cons] at hhead
    exact List.dropWhile_cons_of_neg (by simpa using hhead)

theorem dropWhile_eq_drop {α : Type} (p : α → Bool) (l : List α) :
    l.dropWhile p = l.drop (l.takeWhile p).length := by
  have hleft : (l.takeWhile p ++ l.dropWhile p).drop (l.takeWhile p).length = l.dropWhile p :=
    List.drop_left
  rw [List.takeWhile_append_dropWhile] at hleft
  exact hleft.symm

/-- What is no white space survives both strips, behind the leading white space. -/
theorem strip_keeps {α : Type} {p : α → Bool} {l : List α} {j : Nat} {c : α}
    (h : l[j]? = some c) (hc : p c = false) :
    (l.takeWhile p).length ≤ j ∧
      j < (l.takeWhile p).length + ((l.dropWhile p).rdropWhile p).length := by
  have hsplit : l.takeWhile p ++ l.dropWhile p = l := List.takeWhile_append_dropWhile
  have hlow : (l.takeWhile p).length ≤ j := by
    by_contra hlt
    have hmem : c ∈ l.takeWhile p := by
      rw [← hsplit, List.getElem?_append_left (by omega)] at h
      exact List.mem_of_getElem? h
    rw [List.mem_takeWhile_imp hmem] at hc
    cases hc
  refine ⟨hlow, ?_⟩
  by_contra hge
  have hkept : (l.dropWhile p).rdropWhile p ++ (l.dropWhile p).rtakeWhile p = l.dropWhile p :=
    List.rdropWhile_append_rtakeWhile
  rw [← hsplit, List.getElem?_append_right hlow, ← hkept,
    List.getElem?_append_right (by omega)] at h
  rw [List.mem_rtakeWhile_imp (List.mem_of_getElem? h)] at hc
  cases hc

/-- Stripping twice is stripping once. -/
theorem strip_strip (s : String) : strip (strip s) = strip s := by
  simp only [strip, String.toList_ofList]
  rw [dropWhile_rdropWhile, List.rdropWhile_idempotent]

/-- A text whose first character is no white space is not blank. -/
theorem strip_ne_empty {s : String} {c : Char} {l : List Char} (hs : s.toList = c :: l)
    (hc : isSpace c = false) : strip s ≠ "" := by
  intro hblank
  have hchars : ((c :: l).dropWhile isSpace).rdropWhile isSpace = [] := by
    rw [← hs, ← String.toList_ofList (l := (s.toList.dropWhile isSpace).rdropWhile isSpace)]
    exact congrArg String.toList hblank
  rw [List.dropWhile_cons_of_neg (by simp [hc]), List.rdropWhile_eq_nil_iff] at hchars
  have hspace := hchars c List.mem_cons_self
  rw [hc] at hspace
  cases hspace

theorem strip_sublist (s : String) : (strip s).toList.Sublist s.toList := by
  rw [strip, String.toList_ofList]
  exact (List.rdropWhile_prefix _ _).sublist.trans (List.dropWhile_sublist _)

theorem truncate_sublist (n : Nat) (s : String) : (truncate n s).toList.Sublist s.toList := by
  rw [truncate, String.toList_ofList]
  exact List.take_sublist n _

end SupportPilot.Library
