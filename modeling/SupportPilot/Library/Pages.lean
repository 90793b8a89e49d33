import Mathlib.Data.List.Nodup

/-!
# Pages behind a cursor

A list in strict order is read page by page, each page behind the last item that was received. The
items that were received are again in strict order; they are all the items when nothing has been
added before one of them and the last page was not full.
-/

namespace SupportPilot.Library

variable {α : Type} {lt : α → α → Prop}

section Pages

variable [DecidableRel lt]

/-- The items behind the cursor, all of them without one. -/
def behind (lt : α → α → Prop) [DecidableRel lt] (rows : List α) : Option α → List α
  | none => rows
  | some cursor => rows.filter fun x => lt cursor x

theorem mem_behind {rows : List α} {cursor : Option α} {x : α} :
    x ∈ behind lt rows cursor ↔ x ∈ rows ∧ ∀ last, cursor = some last → lt last x := by
  cases cursor with
  | none => simp [behind]
  | some last => simp [behind]

theorem behind_pairwise {rows : List α} (h : rows.Pairwise lt) (cursor : Option α) :
    (behind lt rows cursor).Pairwise lt := by
  cases cursor with
  | none => exact h
  | some last => exact h.filter _

end Pages

/-- In strict order every item but the last comes before the last. -/
theorem lt_getLast_or_eq {received : List α} (h : received.Pairwise lt) {last : α}
    (hlast : received.getLast? = some last) {x : α} (hx : x ∈ received) : lt x last ∨ x = last := by
  obtain ⟨front, rfl⟩ := List.getLast?_eq_some_iff.mp hlast
  rw [List.mem_append, List.mem_singleton] at hx
  rcases hx with hx | rfl
  · exact .inl ((List.pairwise_append.mp h).2.2 x hx last List.mem_cons_self)
  · exact .inr rfl

/-- Two lists in strict order with the same items are the same. -/
theorem eq_of_strict {xs ys : List α} (hirrefl : ∀ x, ¬ lt x x)
    (htrans : ∀ x y z, lt x y → lt y z → lt x z) (hxs : xs.Pairwise lt) (hys : ys.Pairwise lt)
    (hmem : ∀ x, x ∈ xs ↔ x ∈ ys) : xs = ys := by
  have hnodup : ∀ {zs : List α}, zs.Pairwise lt → zs.Nodup := by
    intro zs hzs
    refine hzs.imp ?_
    rintro x _ hlt rfl
    exact hirrefl x hlt
  refine List.Perm.eq_of_pairwise ?_ hxs hys
    ((List.perm_ext_iff_of_nodup (hnodup hxs) (hnodup hys)).mpr hmem)
  intro x y _ _ hxy hyx
  exact absurd (htrans x y x hxy hyx) (hirrefl x)

/-- In strict order an item is among the first ones if few items come before it. -/
theorem mem_take_of_pairwise [DecidableRel lt] (hasymm : ∀ x y, lt x y → ¬ lt y x)
    {rows : List α} (h : rows.Pairwise lt) {n : Nat} {x : α} :
    x ∈ rows.take n ↔ x ∈ rows ∧ rows.countP (lt · x) < n := by
  induction rows generalizing n with
  | nil => simp
  | cons y rest ih =>
    obtain ⟨hhead, hrest⟩ := List.pairwise_cons.mp h
    cases n with
    | zero => simp
    | succ n =>
      rw [List.take_succ_cons, List.mem_cons, List.mem_cons, ih hrest]
      by_cases hx : x = y
      · subst hx
        have hself : ¬ lt x x := fun hlt => hasymm x x hlt hlt
        have hnone : rest.countP (lt · x) = 0 := by
          rw [List.countP_eq_zero]
          intro z hz hlt
          exact hasymm x z (hhead z hz) (of_decide_eq_true hlt)
        simp [hself, hnone]
      · by_cases hmem : x ∈ rest
        · have hlt : lt y x := hhead x hmem
          simp [hx, hmem, hlt]
        · simp [hx, hmem]

section Received

variable [DecidableRel lt] {rows received : List α} {limit : Nat}

/-- What was received and the next page are in strict order. -/
theorem received_pairwise (htrans : ∀ x y z, lt x y → lt y z → lt x z) (hrows : rows.Pairwise lt)
    (hreceived : received.Pairwise lt) :
    (received ++ (behind lt rows received.getLast?).take limit).Pairwise lt := by
  refine List.pairwise_append.mpr
    ⟨hreceived, (behind_pairwise hrows _).sublist (List.take_sublist _ _), fun x hx y hy => ?_⟩
  obtain ⟨-, hbehind⟩ := mem_behind.mp (List.mem_of_mem_take hy)
  cases hlast : received.getLast? with
  | none =>
    rw [List.getLast?_eq_none_iff.mp hlast] at hx
    cases hx
  | some last =>
    have hy := hbehind last hlast
    rcases lt_getLast_or_eq hreceived hlast hx with hlt | rfl
    · exact htrans x last y hlt hy
    · exact hy

/-- Nothing that was passed over comes with a page. -/
theorem not_mem_page (hirrefl : ∀ x, ¬ lt x x) (htrans : ∀ x y z, lt x y → lt y z → lt x z)
    (hreceived : received.Pairwise lt) {x y : α} (hy : y ∈ received) (hxy : lt x y) :
    x ∉ (behind lt rows received.getLast?).take limit := by
  intro hx
  obtain ⟨-, hbehind⟩ := mem_behind.mp (List.mem_of_mem_take hx)
  cases hlast : received.getLast? with
  | none =>
    rw [List.getLast?_eq_none_iff.mp hlast] at hy
    cases hy
  | some last =>
    have hlater := hbehind last hlast
    rcases lt_getLast_or_eq hreceived hlast hy with hlt | rfl
    · exact hirrefl x (htrans x y x hxy (htrans y last x hlt hlater))
    · exact hirrefl x (htrans x y x hxy hlater)

/-- Whatever comes before something that was received was received. -/
def Lower (lt : α → α → Prop) (rows received : List α) : Prop :=
  ∀ x ∈ rows, ∀ y ∈ received, lt x y → x ∈ received

theorem Lower.page (htotal : ∀ x ∈ rows, ∀ y ∈ rows, lt x y ∨ x = y ∨ lt y x)
    (htrans : ∀ x y z, lt x y → lt y z → lt x z) (hirrefl : ∀ x, ¬ lt x x)
    (hrows : rows.Pairwise lt) (hsubset : received ⊆ rows) (h : Lower lt rows received) :
    Lower lt rows (received ++ (behind lt rows received.getLast?).take limit) := by
  intro x hx y hy hxy
  by_cases hold : x ∈ received
  · exact List.mem_append_left _ hold
  · have hlater : x ∈ behind lt rows received.getLast? := by
      refine mem_behind.mpr ⟨hx, fun last hlast => ?_⟩
      have hmem := List.mem_of_getLast? hlast
      rcases htotal x hx last (hsubset hmem) with hlt | rfl | hgt
      · exact absurd (h x hx last hmem hlt) hold
      · exact absurd hmem hold
      · exact hgt
    have hy : y ∈ (behind lt rows received.getLast?).take limit := by
      rcases List.mem_append.mp hy with hy | hy
      · exact absurd (h x hx y hy hxy) hold
      · exact hy
    refine List.mem_append_right _ ?_
    have hsplit := List.take_append_drop limit (behind lt rows received.getLast?)
    have hsorted := behind_pairwise hrows received.getLast?
    rw [← hsplit] at hlater hsorted
    rcases List.mem_append.mp hlater with htaken | hdropped
    · exact htaken
    · have hyx := (List.pairwise_append.mp hsorted).2.2 y hy x hdropped
      exact absurd (htrans x y x hxy hyx) (hirrefl x)

/-- After a page that was not full everything has been received. -/
theorem Lower.whole (htotal : ∀ x ∈ rows, ∀ y ∈ rows, lt x y ∨ x = y ∨ lt y x)
    (htrans : ∀ x y z, lt x y → lt y z → lt x z) (hirrefl : ∀ x, ¬ lt x x)
    (hrows : rows.Pairwise lt) (hreceived : received.Pairwise lt) (hsubset : received ⊆ rows)
    (h : Lower lt rows received)
    (hshort : ((behind lt rows received.getLast?).take limit).length < limit) :
    received ++ (behind lt rows received.getLast?).take limit = rows := by
  have hpage : (behind lt rows received.getLast?).take limit =
      behind lt rows received.getLast? := by
    rw [List.length_take] at hshort
    exact List.take_of_length_le (by omega)
  refine eq_of_strict hirrefl htrans (received_pairwise htrans hrows hreceived) hrows fun x => ?_
  rw [hpage, List.mem_append, mem_behind]
  constructor
  · rintro (hx | ⟨hx, -⟩)
    · exact hsubset hx
    · exact hx
  · intro hx
    by_cases hold : x ∈ received
    · exact .inl hold
    · refine .inr ⟨hx, fun last hlast => ?_⟩
      have hmem := List.mem_of_getLast? hlast
      rcases htotal x hx last (hsubset hmem) with hlt | rfl | hgt
      · exact absurd (h x hx last hmem hlt) hold
      · exact absurd hmem hold
      · exact hgt

end Received

end SupportPilot.Library
