import Mathlib.Data.List.Basic

/-!
# Slices

The part of a list between two positions, as Python cuts it for positions from zero on, and what
becomes of it when the list grows at its end.
-/

namespace SupportPilot.Library

variable {α : Type}

/-- `items[start:stop]` -/
def slice (items : List α) (start stop : Nat) : List α := (items.drop start).take (stop - start)

theorem length_slice (items : List α) (start stop : Nat) :
    (slice items start stop).length = min (stop - start) (items.length - start) := by
  rw [slice, List.length_take, List.length_drop]

theorem slice_zero (items : List α) (stop : Nat) : slice items 0 stop = items.take stop := by
  rw [slice, List.drop_zero, Nat.sub_zero]

theorem slice_length (items : List α) : slice items 0 items.length = items := by
  rw [slice_zero, List.take_length]

theorem drop_slice (items : List α) (start stop n : Nat) :
    (slice items start stop).drop n = slice items (start + n) stop := by
  rw [slice, slice, List.drop_take, List.drop_drop, Nat.sub_add_eq]

theorem prefix_slice (items : List α) (start stop : Nat) :
    slice items start stop <+: items.drop start := List.take_prefix _ _

/-- What is appended later does not reach a slice within the old list. -/
theorem slice_append_left (items later : List α) {start stop : Nat} (h : stop ≤ items.length) :
    slice (items ++ later) start stop = slice items start stop := by
  unfold slice
  by_cases hstart : start ≤ items.length
  · rw [List.drop_append_of_le_length hstart, List.take_append_of_le_length]
    rw [List.length_drop]
    omega
  · have hzero : stop - start = 0 := by omega
    rw [hzero, List.take_zero, List.take_zero]

/-- What is appended is the slice from the old length on. -/
theorem slice_append_right (items later : List α) :
    slice (items ++ later) items.length (items.length + later.length) = later := by
  rw [slice, List.drop_left, Nat.add_sub_cancel_left, List.take_length]

/-- A prefix of the rest of a list is the slice of its own length there. -/
theorem slice_of_prefix {items part : List α} {start : Nat} (h : part <+: items.drop start) :
    slice items start (start + part.length) = part := by
  rw [slice, Nat.add_sub_cancel_left]
  exact (List.prefix_iff_eq_take.mp h).symm

theorem getElem?_slice {items : List α} {start stop i : Nat} (hstart : start ≤ i)
    (hstop : i < stop) : (slice items start stop)[i - start]? = items[i]? := by
  rw [slice, List.getElem?_take_of_lt (by omega), List.getElem?_drop]
  congr 1
  omega

end SupportPilot.Library
