import Mathlib.Algebra.Ring.Nat
import Mathlib.Data.List.TakeDrop

/-!
# Texts within a budget

Texts are taken one after the other until a number of characters is used up. Empty texts are
passed over, and the last text that is taken may be cut.
-/

namespace SupportPilot.Library

variable {α β χ : Type}

/-- Pieces that stand for a prefix of some items: each one for its whole item, but the last one
possibly for a part of it. -/
inductive CutPrefix (whole part : α → β → Prop) : List α → List β → Prop
  | nil {items : List α} : CutPrefix whole part items []
  | whole {a : α} {b : β} {items : List α} {pieces : List β} (hwhole : whole a b)
    (hlater : CutPrefix whole part items pieces) : CutPrefix whole part (a :: items) (b :: pieces)
  | part {a : α} {b : β} {items : List α} (hpart : part a b) :
    CutPrefix whole part (a :: items) [b]

namespace CutPrefix

variable {whole part : α → β → Prop} {items : List α} {pieces : List β}

/-- Fewer pieces stand for a shorter prefix. -/
theorem take (h : CutPrefix whole part items pieces) (n : Nat) :
    CutPrefix whole part items (pieces.take n) := by
  induction h generalizing n with
  | nil =>
    rw [List.take_nil]
    exact .nil
  | whole hwhole hlater ih =>
    cases n with
    | zero => exact .nil
    | succ n => exact .whole hwhole (ih n)
  | part hpart =>
    cases n with
    | zero => exact .nil
    | succ n =>
      rw [List.take_of_length_le (by simp)]
      exact .part hpart

theorem extend (h : CutPrefix whole part items pieces) (later : List α) :
    CutPrefix whole part (items ++ later) pieces := by
  induction h with
  | nil => exact .nil
  | whole hwhole hlater ih => exact .whole hwhole ih
  | part hpart => exact .part hpart

/-- Every piece stands for one of the items. -/
theorem exists_item (h : CutPrefix whole part items pieces) {b : β} (hb : b ∈ pieces) :
    ∃ a ∈ items, whole a b ∨ part a b := by
  induction h with
  | nil => cases hb
  | @whole a c items pieces hwhole hlater ih =>
    rcases List.mem_cons.mp hb with rfl | hlater
    · exact ⟨a, List.mem_cons_self, .inl hwhole⟩
    · obtain ⟨other, hother, hstands⟩ := ih hlater
      exact ⟨other, List.mem_cons_of_mem _ hother, hstands⟩
  | @part a c items hpart =>
    rw [List.mem_singleton.mp hb]
    exact ⟨a, List.mem_cons_self, .inr hpart⟩

end CutPrefix

section Fill

variable (text : α → List χ) (make : α → List χ → β)

/-- The pieces that are made within what remains. -/
def fill : Nat → List α → List β
  | _, [] => []
  | remaining, a :: rest =>
    if remaining = 0 then []
    else if text a = [] then fill remaining rest
    else make a ((text a).take remaining) :: fill (remaining - (text a).length) rest

/-- Some text is cut or left out. -/
def overflows : Nat → List α → Bool
  | _, [] => false
  | remaining, a :: rest =>
    if remaining = 0 then true
    else if (text a).length ≤ remaining then overflows (remaining - (text a).length) rest
    else true

variable {text : α → List χ} {make : α → List χ → β}

theorem fill_zero (items : List α) : fill text make 0 items = [] := by
  cases items with
  | nil => rfl
  | cons a rest => exact if_pos rfl

/-- What holds of every piece that is made from a prefix of a text that is not empty. -/
theorem fill_forall (holds : β → Prop) {items : List α}
    (hmake : ∀ a ∈ items, ∀ content, content <+: text a → content ≠ [] → holds (make a content))
    {remaining : Nat} {b : β} (hb : b ∈ fill text make remaining items) : holds b := by
  fun_induction fill text make remaining items with
  | case1 => cases hb
  | case2 => cases hb
  | case3 remaining a rest hzero hempty ih =>
    exact ih (fun other hother => hmake other (List.mem_cons_of_mem _ hother)) hb
  | case4 remaining a rest hzero hempty ih =>
    rcases List.mem_cons.mp hb with rfl | hlater
    · refine hmake a List.mem_cons_self _ (List.take_prefix _ _) ?_
      simp [List.take_eq_nil_iff, hzero, hempty]
    · exact ih (fun other hother => hmake other (List.mem_cons_of_mem _ hother)) hlater

/-- The pieces stand for a prefix of the items whose texts are not empty. -/
theorem fill_cutPrefix {whole part : α → β → Prop}
    (hwhole : ∀ a, whole a (make a (text a)))
    (hpart : ∀ a n, n ≠ 0 → n < (text a).length → part a (make a ((text a).take n)))
    (remaining : Nat) (items : List α) :
    CutPrefix whole part (items.filter fun a => !(text a).isEmpty)
      (fill text make remaining items) := by
  fun_induction fill text make remaining items with
  | case1 => exact .nil
  | case2 => exact .nil
  | case3 remaining a rest hzero hempty ih =>
    rw [List.filter_cons_of_neg (by simp [hempty])]
    exact ih
  | case4 remaining a rest hzero hempty ih =>
    rw [List.filter_cons_of_pos (by simpa using hempty)]
    by_cases hfits : (text a).length ≤ remaining
    · rw [List.take_of_length_le hfits]
      exact .whole (hwhole a) ih
    · have hnone : remaining - (text a).length = 0 := by omega
      rw [hnone, fill_zero]
      exact .part (hpart a remaining hzero (by omega))

/-- The first piece is made of the first item whose text is not empty. -/
theorem fill_eq_cons {remaining : Nat} (hsome : remaining ≠ 0) {items : List α} {a : α}
    {rest : List α} (h : (items.filter fun a => !(text a).isEmpty) = a :: rest) :
    ∃ later, fill text make remaining items = make a ((text a).take remaining) :: later := by
  induction items with
  | nil => cases h
  | cons b items ih =>
    rw [fill, if_neg hsome]
    by_cases hempty : text b = []
    · rw [List.filter_cons_of_neg (by simp [hempty])] at h
      rw [if_pos hempty]
      exact ih h
    · rw [List.filter_cons_of_pos (by simpa using hempty)] at h
      obtain ⟨rfl, -⟩ := List.cons.inj h
      rw [if_neg hempty]
      exact ⟨_, rfl⟩

/-- What identifies the pieces identifies the items that they are made of, in their order. -/
theorem fill_sublist {γ : Type} (name : β → γ) (key : α → γ)
    (hname : ∀ a content, name (make a content) = key a) (remaining : Nat) (items : List α) :
    ((fill text make remaining items).map name).Sublist (items.map key) := by
  fun_induction fill text make remaining items with
  | case1 => exact List.Sublist.refl _
  | case2 => exact List.nil_sublist _
  | case3 remaining a rest hzero hempty ih => exact ih.cons _
  | case4 remaining a rest hzero hempty ih =>
    rw [List.map_cons, List.map_cons, hname]
    exact ih.cons_cons _

/-- The pieces are not longer than what remained. -/
theorem fill_sum_le (size : β → Nat)
    (hsize : ∀ a content, size (make a content) = content.length) (remaining : Nat)
    (items : List α) : ((fill text make remaining items).map size).sum ≤ remaining := by
  fun_induction fill text make remaining items with
  | case1 => exact Nat.zero_le _
  | case2 => exact Nat.zero_le _
  | case3 remaining a rest hzero hempty ih => exact ih
  | case4 remaining a rest hzero hempty ih =>
    rw [List.map_cons, List.sum_cons, hsize, List.length_take]
    omega

/-- Nor are the first ones of them. -/
theorem fill_take_sum_le (size : β → Nat)
    (hsize : ∀ a content, size (make a content) = content.length) (remaining : Nat)
    (items : List α) (slots : Nat) :
    (((fill text make remaining items).take slots).map size).sum ≤ remaining := by
  have hle : ((fill text make remaining items).map size).sum ≤ remaining :=
    fill_sum_le size hsize remaining items
  have hsplit : (((fill text make remaining items).take slots).map size).sum +
      (((fill text make remaining items).drop slots).map size).sum =
      ((fill text make remaining items).map size).sum := by
    rw [← List.sum_append, ← List.map_append, List.take_append_drop]
  omega

variable {content : β → List χ}

/-- Without an overflow every text that is not empty is taken whole. -/
theorem fill_whole (hcontent : ∀ a taken, content (make a taken) = taken) {remaining : Nat}
    {items : List α} (h : overflows text remaining items = false) :
    (fill text make remaining items).map content =
      (items.map text).filter fun taken => !taken.isEmpty := by
  induction items generalizing remaining with
  | nil => rfl
  | cons a rest ih =>
    rw [overflows] at h
    rw [fill]
    by_cases hzero : remaining = 0
    · rw [if_pos hzero] at h
      cases h
    · rw [if_neg hzero] at h
      split at h
      · rename_i hfits
        rw [if_neg hzero]
        by_cases hempty : text a = []
        · rw [hempty, List.length_nil, Nat.sub_zero] at h
          rw [if_pos hempty, List.map_cons, List.filter_cons_of_neg (by simp [hempty])]
          exact ih h
        · rw [if_neg hempty, List.map_cons, List.map_cons,
            List.filter_cons_of_pos (by simpa using hempty), ih h, hcontent,
            List.take_of_length_le hfits]
      · cases h

/-- With an overflow the pieces are not the texts, one for one. -/
theorem fill_ne (hcontent : ∀ a taken, content (make a taken) = taken) {remaining : Nat}
    {items : List α} (h : overflows text remaining items = true) :
    (fill text make remaining items).map content ≠ items.map text := by
  induction items generalizing remaining with
  | nil => cases h
  | cons a rest ih =>
    rw [overflows] at h
    rw [fill]
    by_cases hzero : remaining = 0
    · rw [if_pos hzero]
      exact (List.cons_ne_nil _ _).symm
    · rw [if_neg hzero] at h ⊢
      by_cases hempty : text a = []
      · rw [if_pos hempty]
        intro heq
        rw [List.map_cons, hempty] at heq
        have hmem : [] ∈ (fill text make remaining rest).map content := heq ▸ List.mem_cons_self
        obtain ⟨b, hb, hnil⟩ := List.mem_map.mp hmem
        refine fill_forall (fun b => content b ≠ []) ?_ hb hnil
        intro other _ taken _ hsome
        rwa [hcontent]
      · rw [if_neg hempty, List.map_cons, List.map_cons, hcontent]
        intro heq
        obtain ⟨hhead, htail⟩ := List.cons.inj heq
        have hfits : (text a).length ≤ remaining := (List.take_eq_self_iff _).mp hhead
        rw [if_pos hfits] at h
        exact ih h htail

/-- When no text is empty, an overflow means that the texts are longer than what remained. -/
theorem overflows_iff {remaining : Nat} {items : List α} (h : ∀ a ∈ items, text a ≠ []) :
    overflows text remaining items = true ↔
      remaining < (items.map fun a => (text a).length).sum := by
  induction items generalizing remaining with
  | nil => simp [overflows]
  | cons a rest ih =>
    have hpos := List.length_pos_iff.mpr (h a List.mem_cons_self)
    have hrest : ∀ b ∈ rest, text b ≠ [] := fun b hb => h b (List.mem_cons_of_mem _ hb)
    rw [overflows, List.map_cons, List.sum_cons]
    split
    · simp only [true_iff]
      omega
    · split
      · rw [ih hrest]
        omega
      · simp only [true_iff]
        omega

end Fill

end SupportPilot.Library
