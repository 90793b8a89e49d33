import Mathlib.Data.List.Basic

/-!
# Well-bracketed words

A word of entries and exits is balanced when everything that is entered is left again, the last
entered first.
-/

namespace SupportPilot.Library

inductive Bracket (α : Type)
  | enter (a : α)
  | leave (a : α)
  deriving DecidableEq, Repr

variable {α : Type}

inductive Balanced : List (Bracket α) → Prop
  | nil : Balanced []
  | block (a : α) {inside later : List (Bracket α)} (hinside : Balanced inside)
      (hlater : Balanced later) : Balanced (.enter a :: inside ++ .leave a :: later)

namespace Balanced

variable {w w' : List (Bracket α)}

theorem append (h : Balanced w) (h' : Balanced w') : Balanced (w ++ w') := by
  induction h with
  | nil => exact h'
  | block a hinside _ _ ih =>
    rw [List.append_assoc, List.cons_append]
    exact .block a hinside ih

/-- A balanced word between an entry and its exit. -/
theorem enclose (a : α) (h : Balanced w) : Balanced (.enter a :: w ++ [.leave a]) :=
  .block a h .nil

end Balanced

end SupportPilot.Library
