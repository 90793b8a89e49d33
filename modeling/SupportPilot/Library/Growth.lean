import Mathlib.Data.List.Basic

/-!
# Lists that grow at the end

A list has grown by elements with a property when it is the old list followed by such elements.
-/

namespace SupportPilot.Library

variable {α : Type}

def Grown (R : α → Prop) (before after : List α) : Prop :=
  ∃ added, after = before ++ added ∧ ∀ a ∈ added, R a

namespace Grown

variable {R R' : α → Prop} {l m n : List α}

theorem refl (l : List α) : Grown R l l :=
  ⟨[], (List.append_nil l).symm, fun _ ha => absurd ha List.not_mem_nil⟩

theorem of_eq (h : m = l) : Grown R l m := by
  rw [h]
  exact refl l

theorem snoc (l : List α) {a : α} (ha : R a) : Grown R l (l ++ [a]) :=
  ⟨[a], rfl, List.forall_mem_singleton.mpr ha⟩

theorem trans (h : Grown R l m) (h' : Grown R m n) : Grown R l n := by
  obtain ⟨first, rfl, hfirst⟩ := h
  obtain ⟨second, rfl, hsecond⟩ := h'
  refine ⟨first ++ second, List.append_assoc _ _ _, fun a ha => ?_⟩
  rcases List.mem_append.mp ha with ha | ha
  · exact hfirst a ha
  · exact hsecond a ha

theorem mono (h : Grown R l m) (hR : ∀ a, R a → R' a) : Grown R' l m := by
  obtain ⟨added, hm, hadded⟩ := h
  exact ⟨added, hm, fun a ha => hR a (hadded a ha)⟩

/-- What holds of the old elements and of the added ones holds of all. -/
theorem forall_mem (h : Grown R l m) (hl : ∀ a ∈ l, R a) : ∀ a ∈ m, R a := by
  obtain ⟨added, rfl, hadded⟩ := h
  intro a ha
  rcases List.mem_append.mp ha with ha | ha
  · exact hl a ha
  · exact hadded a ha

end Grown

end SupportPilot.Library
