import Mathlib.Data.List.Basic

/-!
# Sealed boxes and key rings

A cipher seals a message in a box under a key, with a fresh nonce for each box, and a key opens the
boxes that were sealed under it. Whoever holds a ring of keys seals under the first and opens what
any of them opens. A safe is what the boxes are there for: each holder has the last message that was
put there, and it can be read with the key under which it was put.
-/

namespace SupportPilot.Library

/-- `none` stands for a box that the key does not open. -/
structure Cipher (K M B : Type) where
  encrypt : K → Nat → M → B
  decrypt : K → B → Option M

variable {K M B H D : Type}

/-- A key opens exactly what was sealed under it. -/
structure Cipher.Authentic (C : Cipher K M B) : Prop where
  own : ∀ k n m, C.decrypt k (C.encrypt k n m) = some m
  foreign : ∀ k k' n m, k' ≠ k → C.decrypt k' (C.encrypt k n m) = none

/-- The first key of the ring that opens the box. -/
def Cipher.decryptAny (C : Cipher K M B) (ring : List K) (box : B) : Option M :=
  ring.findSome? fun k => C.decrypt k box

namespace Cipher.Authentic

variable {C : Cipher K M B} {ring : List K} {k : K}

theorem decryptAny_of_mem (h : C.Authentic) (hk : k ∈ ring) (n : Nat) (m : M) :
    C.decryptAny ring (C.encrypt k n m) = some m := by
  induction ring with
  | nil => cases hk
  | cons k' ring ih =>
    rw [decryptAny, List.findSome?_cons]
    by_cases hkey : k' = k
    · rw [hkey, h.own]
    · rw [h.foreign k k' n m hkey]
      exact ih ((List.mem_cons.mp hk).resolve_left (Ne.symm hkey))

theorem decryptAny_of_not_mem (h : C.Authentic) (hk : k ∉ ring) (n : Nat) (m : M) :
    C.decryptAny ring (C.encrypt k n m) = none := by
  refine List.findSome?_eq_none_iff.mpr fun k' hk' => h.foreign k k' n m ?_
  rintro rfl
  exact hk hk'

end Cipher.Authentic

/-! ## Safes -/

/-- For each holder the key and the message that were put last. -/
abbrev Safe (H K D : Type) := H → Option (K × D)

namespace Safe

def empty : Safe H K D := fun _ => none

def put [DecidableEq H] (safe : Safe H K D) (holder : H) (key : K) (message : D) : Safe H K D :=
  Function.update safe holder (some (key, message))

variable [DecidableEq H] {safe : Safe H K D} {holder other : H} {key : K} {message : D}

@[simp] theorem put_self : safe.put holder key message holder = some (key, message) :=
  Function.update_self _ _ _

theorem put_of_ne (h : other ≠ holder) : safe.put holder key message other = safe other :=
  Function.update_of_ne h _ _

end Safe

end SupportPilot.Library
