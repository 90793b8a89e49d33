import Mathlib.Logic.Basic

/-!
# Computations that may fail

A computation in two steps ends well exactly when both of its steps do, and what has to hold
before a computation, for its results and its errors to be as they should, is worked out from its
last step on.
-/

namespace SupportPilot.Library

variable {ε α β : Type} {x : Except ε α} {f : α → Except ε β}

theorem bind_eq_ok {b : β} : (x >>= f) = .ok b ↔ ∃ a, x = .ok a ∧ f a = .ok b := by
  cases x with
  | error e => exact ⟨nofun, nofun⟩
  | ok a => exact ⟨fun h => ⟨a, rfl, h⟩, fun ⟨_, hx, hf⟩ => Except.ok.inj hx ▸ hf⟩

theorem bind_eq_error {e : ε} :
    (x >>= f) = .error e ↔ x = .error e ∨ ∃ a, x = .ok a ∧ f a = .error e := by
  cases x with
  | error e' => exact ⟨fun h => .inl (congrArg _ (Except.error.inj h)),
      fun h => congrArg _ (Except.error.inj (h.resolve_right nofun))⟩
  | ok a =>
    refine ⟨fun h => .inr ⟨a, rfl, h⟩, ?_⟩
    rintro (h | ⟨_, hx, hf⟩)
    · cases h
    · exact Except.ok.inj hx ▸ hf

/-- What is returned satisfies `post`, and what is raised is `allowed`. -/
def Settles (allowed : ε → Prop) (post : α → Prop) : Except ε α → Prop
  | .ok a => post a
  | .error e => allowed e

variable {allowed : ε → Prop}

@[simp] theorem settles_ok {post : α → Prop} {a : α} :
    Settles allowed post (.ok a) ↔ post a := Iff.rfl

@[simp] theorem settles_error {post : α → Prop} {e : ε} :
    Settles allowed post (.error e) ↔ allowed e := Iff.rfl

theorem settles_iff {post : α → Prop} :
    Settles allowed post x ↔ (∀ e, x = .error e → allowed e) ∧ ∀ a, x = .ok a → post a := by
  cases x <;> simp

theorem settles_bind {post : β → Prop} :
    Settles allowed post (x >>= f) ↔ Settles allowed (fun a => Settles allowed post (f a)) x := by
  cases x <;> exact Iff.rfl

theorem settles_congr {post post' : α → Prop} (h : ∀ a, x = .ok a → (post a ↔ post' a)) :
    Settles allowed post x ↔ Settles allowed post' x := by
  cases x with
  | error e => exact Iff.rfl
  | ok a => exact h a rfl

end SupportPilot.Library
