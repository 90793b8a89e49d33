import Mathlib.Logic.Basic

/-!
# Two deterministic runs in lockstep

Two runs take their steps side by side, and each step of a run shows something. Where related
states show the same exactly at the harmless steps, and a harmless step keeps them related, the
runs look alike from beginning to end exactly when every step of the first one is harmless.
-/

namespace SupportPilot.Library

variable {A B Shown : Type}

/-- The state after `n` steps. A step is told its number. -/
def trajectory (step : Nat → A → A) (a : A) : Nat → A
  | 0 => a
  | n + 1 => step n (trajectory step a n)

theorem trajectory_succ (step : Nat → A → A) (a : A) (n : Nat) :
    trajectory step a (n + 1) = step n (trajectory step a n) := rfl

/-- A state that every step keeps is kept for ever. -/
theorem trajectory_of_fixed {step : Nat → A → A} {a : A} (h : ∀ n, step n a = a) (n : Nat) :
    trajectory step a n = a := by
  induction n with
  | zero => rfl
  | succ n ih => rw [trajectory_succ, ih, h]

/-- A run side by side with another one. -/
structure Lockstep (stepA : Nat → A → A) (stepB : Nat → B → B) (shownA : Nat → A → Shown)
    (shownB : Nat → B → Shown) (R : A → B → Prop) (harmless : Nat → A → Prop) : Prop where
  shown : ∀ n a b, R a b → (shownA n a = shownB n b ↔ harmless n a)
  step : ∀ n a b, R a b → harmless n a → R (stepA n a) (stepB n b)

namespace Lockstep

variable {stepA : Nat → A → A} {stepB : Nat → B → B} {shownA : Nat → A → Shown}
  {shownB : Nat → B → Shown} {R : A → B → Prop} {harmless : Nat → A → Prop} {a : A} {b : B}

/-- Harmless steps keep the runs related. -/
theorem related (h : Lockstep stepA stepB shownA shownB R harmless) (hab : R a b) (n : Nat)
    (hharmless : ∀ m < n, harmless m (trajectory stepA a m)) :
    R (trajectory stepA a n) (trajectory stepB b n) := by
  induction n with
  | zero => exact hab
  | succ n ih =>
    have hrelated := ih fun m hm => hharmless m (by omega)
    exact h.step n _ _ hrelated (hharmless n (by omega))

/-- Up to any step, related runs look alike exactly when the steps of the first one are
harmless. -/
theorem shown_eq_iff (h : Lockstep stepA stepB shownA shownB R harmless) (hab : R a b) :
    (∀ n, shownA n (trajectory stepA a n) = shownB n (trajectory stepB b n)) ↔
      ∀ n, harmless n (trajectory stepA a n) := by
  constructor
  · intro hshown n
    induction n using Nat.strongRecOn with
    | _ n ih => exact (h.shown n _ _ (h.related hab n ih)).mp (hshown n)
  · intro hharmless n
    have hrelated := h.related hab n fun m _ => hharmless m
    exact (h.shown n _ _ hrelated).mpr (hharmless n)

end Lockstep

end SupportPilot.Library
