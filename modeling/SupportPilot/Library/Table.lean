import Mathlib.Algebra.Ring.Nat
import Mathlib.Data.List.Basic

/-!
# Tables as lists of rows

A table is the list of its rows in the order of their creation, and a row's key is
its position. `Rows R` says that one table became another by changing rows only as
`R` allows and by adding rows at the end.
-/

namespace SupportPilot.Library

variable {α : Type} {R : α → α → Prop} {P : Nat → α → Prop} {l l' : List α}

/-- Every row of the first table is still there, changed at most as `R` allows. -/
def Rows (R : α → α → Prop) (l l' : List α) : Prop :=
  ∀ (i : Nat) (a : α), l[i]? = some a → ∃ a', l'[i]? = some a' ∧ R a a'

theorem Rows.refl (hR : ∀ a, R a a) (l : List α) : Rows R l l :=
  fun _ a ha => ⟨a, ha, hR a⟩

/-- A row keeps its place when others are added. -/
theorem getElem?_append_some {l : List α} {i : Nat} {a : α} (h : l[i]? = some a)
    (new : List α) : (l ++ new)[i]? = some a :=
  (List.getElem?_append_left (List.getElem?_eq_some_iff.mp h).1).trans h

/-- A row of a table with one row more is an old one, or the new one. -/
theorem getElem?_concat_cases {l : List α} {i : Nat} {a b : α} (h : (l ++ [b])[i]? = some a) :
    l[i]? = some a ∨ i = l.length ∧ a = b := by
  rcases Nat.lt_trichotomy i l.length with hlt | rfl | hgt
  · exact .inl (by rwa [List.getElem?_append_left hlt] at h)
  · rw [List.getElem?_concat_length] at h
    exact .inr ⟨rfl, (Option.some.inj h).symm⟩
  · have hlt := (List.getElem?_eq_some_iff.mp h).1
    rw [List.length_append, List.length_singleton] at hlt
    omega

theorem Rows.append (hR : ∀ a, R a a) (l new : List α) : Rows R l (l ++ new) :=
  fun _ a ha => ⟨a, getElem?_append_some ha new, hR a⟩

theorem Rows.set (hR : ∀ a, R a a) {k : Nat} {a b : α} (hk : l[k]? = some a) (hab : R a b) :
    Rows R l (l.set k b) := by
  intro i c hc
  by_cases hik : k = i
  · subst hik
    rw [hk] at hc
    cases hc
    exact ⟨b, List.getElem?_set_self (List.getElem?_eq_some_iff.mp hk).1, hab⟩
  · exact ⟨c, by rwa [List.getElem?_set_ne hik], hR c⟩

theorem Rows.map {f : α → α} (hf : ∀ a, R a (f a)) (l : List α) : Rows R l (l.map f) := by
  intro i a ha
  exact ⟨f a, by simp [ha], hf a⟩

theorem Rows.modify {f : α → α} (hR : ∀ a, R a a) (hf : ∀ a, R a (f a)) (l : List α) (k : Nat) :
    Rows R l (l.modify k f) := by
  intro j a ha
  refine ⟨if k = j then f a else a, by rw [List.getElem?_modify, ha]; rfl, ?_⟩
  split
  · exact hf a
  · exact hR a

theorem modify_eq_set {k : Nat} {a : α} {f : α → α} (hk : l[k]? = some a) :
    l.modify k f = l.set k (f a) := by
  obtain ⟨hlt, rfl⟩ := List.getElem?_eq_some_iff.mp hk
  rw [List.modify_eq_set_getElem?, hk]
  rfl

/-- A row of the second table was a row of the first, or was added after all of them. -/
theorem Rows.back (h : Rows R l l') {i : Nat} {a' : α} (ha' : l'[i]? = some a') :
    (∃ a, l[i]? = some a ∧ R a a') ∨ l.length ≤ i := by
  rcases Nat.lt_or_ge i l.length with hlt | hge
  · obtain ⟨b, hb, hR⟩ := h i l[i] (List.getElem?_eq_getElem hlt)
    rw [ha'] at hb
    cases hb
    exact .inl ⟨l[i], List.getElem?_eq_getElem hlt, hR⟩
  · exact .inr hge

theorem Rows.length_le (h : Rows R l l') : l.length ≤ l'.length := by
  rcases Nat.lt_or_ge l'.length l.length with hlt | hle
  · obtain ⟨a, ha, -⟩ := h l'.length l[l'.length] (List.getElem?_eq_getElem hlt)
    have hbound := (List.getElem?_eq_some_iff.mp ha).1
    omega
  · exact hle

/-- Rewriting one row changes a count by what the row weighed before and weighs now. -/
theorem countP_set {p : α → Bool} {k : Nat} {a b : α} (hk : l[k]? = some a) :
    (l.set k b).countP p + (p a).toNat = l.countP p + (p b).toNat := by
  obtain ⟨hlt, rfl⟩ := List.getElem?_eq_some_iff.mp hk
  have hle : (if p l[k] then 1 else 0) ≤ l.countP p := List.boole_getElem_le_countP hlt
  have hweight : ∀ c : Bool, (if c then 1 else 0) = c.toNat := by decide
  rw [hweight] at hle
  rw [List.countP_set hlt, hweight, hweight]
  omega

/-- Rewriting one row to a lighter one makes the table lighter. -/
theorem sum_map_set_lt {weight : α → Nat} {k : Nat} {a b : α} (hk : l[k]? = some a)
    (hlt : weight b < weight a) : ((l.set k b).map weight).sum < (l.map weight).sum := by
  induction l generalizing k with
  | nil => simp at hk
  | cons x l ih =>
    cases k with
    | zero =>
      simp only [List.getElem?_cons_zero, Option.some.injEq] at hk
      subst hk
      simp only [List.set_cons_zero, List.map_cons, List.sum_cons]
      omega
    | succ k =>
      have htail := ih (k := k) (by simpa using hk)
      simp only [List.set_cons_succ, List.map_cons, List.sum_cons]
      omega

/-- Rows of the same weight are counted alike. -/
theorem Rows.countP_eq {p p' : α → Bool} (h : Rows R l l') (hlength : l'.length = l.length)
    (hp : ∀ a a', a ∈ l → R a a' → p' a' = p a) : l'.countP p' = l.countP p := by
  have hmap : l'.map p' = l.map p := by
    refine List.ext_getElem? fun i => ?_
    rw [List.getElem?_map, List.getElem?_map]
    cases hi : l[i]? with
    | none =>
      rw [List.getElem?_eq_none_iff.mpr]
      · rfl
      · rw [hlength]
        exact List.getElem?_eq_none_iff.mp hi
    | some a =>
      obtain ⟨a', ha', hR⟩ := h i a hi
      rw [ha', Option.map_some, Option.map_some, hp a a' (List.mem_of_getElem? hi) hR]
  have hcount : ∀ (m : List α) (q : α → Bool), m.countP q = (m.map q).countP id := by
    intro m q
    rw [List.countP_map]
    rfl
  rw [hcount, hcount, hmap]

/-- Rows that stay counted are counted at least as often. -/
theorem Rows.countP_le {p p' : α → Bool} (h : Rows R l l')
    (hp : ∀ a a', a ∈ l → R a a' → p a = true → p' a' = true) : l.countP p ≤ l'.countP p' := by
  induction l generalizing l' with
  | nil => simp
  | cons a l ih =>
    obtain ⟨b, hb, hR⟩ := h 0 a rfl
    cases l' with
    | nil => simp at hb
    | cons b' l' =>
      simp only [List.getElem?_cons_zero, Option.some.injEq] at hb
      subst hb
      have htail : Rows R l l' := fun i x hx => by simpa using h (i + 1) x (by simpa using hx)
      have hle := ih htail fun x x' hx => hp x x' (List.mem_cons_of_mem _ hx)
      have hhead := hp a b' List.mem_cons_self hR
      rw [List.countP_cons, List.countP_cons]
      split
      · rename_i hpa
        rw [if_pos (hhead hpa)]
        omega
      · split <;> omega

/-- A row that is counted at most once is in one place only. -/
theorem eq_of_countP_le_one {p : α → Bool} (h : l.countP p ≤ 1) {i j : Nat} {a b : α}
    (ha : l[i]? = some a) (hb : l[j]? = some b) (hpa : p a = true) (hpb : p b = true) :
    i = j := by
  induction l generalizing i j with
  | nil => simp at ha
  | cons x l ih =>
    have hhead : p x = true → ∀ c ∈ l, p c ≠ true := by
      intro hx c hc hpc
      have hpos : 0 < l.countP p := List.countP_pos_iff.mpr ⟨c, hc, hpc⟩
      rw [List.countP_cons_of_pos hx] at h
      omega
    have htail : l.countP p ≤ 1 := by
      rw [List.countP_cons] at h
      omega
    cases i with
    | zero =>
      cases ha
      cases j with
      | zero => rfl
      | succ j => exact absurd hpb (hhead hpa b (List.mem_of_getElem? hb))
    | succ i =>
      cases j with
      | zero =>
        cases hb
        exact absurd hpa (hhead hpb a (List.mem_of_getElem? ha))
      | succ j => rw [ih htail (i := i) (j := j) ha hb]

/-- A count splits as its weights do. -/
theorem countP_split {p q r : α → Bool}
    (h : ∀ a ∈ l, (p a).toNat = (q a).toNat + (r a).toNat) :
    l.countP p = l.countP q + l.countP r := by
  induction l with
  | nil => rfl
  | cons a l ih =>
    have htail := ih fun b hb => h b (List.mem_cons_of_mem a hb)
    have hhead := h a List.mem_cons_self
    have hweight : ∀ c : Bool, (if c then 1 else 0) = c.toNat := by decide
    rw [List.countP_cons, List.countP_cons, List.countP_cons, hweight, hweight, hweight]
    omega

/-- Every row satisfies a property of its key and its content. -/
def AllRows (P : Nat → α → Prop) (l : List α) : Prop :=
  ∀ (i : Nat) (a : α), l[i]? = some a → P i a

theorem AllRows.append (h : AllRows P l) {b : α} (hb : P l.length b) : AllRows P (l ++ [b]) := by
  intro i a ha
  rcases getElem?_concat_cases ha with hold | ⟨rfl, rfl⟩
  · exact h i a hold
  · exact hb

/-- A row of a table with one row rewritten is that row, or another one as it was. -/
theorem getElem?_set_cases {k i : Nat} {a b : α} (h : (l.set k b)[i]? = some a) :
    i = k ∧ a = b ∨ i ≠ k ∧ l[i]? = some a := by
  rw [List.getElem?_set] at h
  split at h
  · rename_i hki
    split at h
    · exact .inl ⟨hki.symm, (Option.some.inj h).symm⟩
    · cases h
  · rename_i hki
    exact .inr ⟨Ne.symm hki, h⟩

/-- Rewriting one row only needs the property of the other rows. -/
theorem AllRows.set_of_ne {k : Nat} {b : α} (h : ∀ i a, i ≠ k → l[i]? = some a → P i a)
    (hb : P k b) : AllRows P (l.set k b) := by
  intro i a ha
  rcases getElem?_set_cases ha with ⟨rfl, rfl⟩ | ⟨hik, hold⟩
  · exact hb
  · exact h i a hik hold

theorem AllRows.set (h : AllRows P l) {k : Nat} {b : α} (hb : P k b) : AllRows P (l.set k b) :=
  .set_of_ne (fun i a _ ha => h i a ha) hb

theorem AllRows.map {f : α → α} (hf : ∀ i a, l[i]? = some a → P i (f a)) :
    AllRows P (l.map f) := by
  intro i a ha
  rw [List.getElem?_map] at ha
  obtain ⟨b, hb, rfl⟩ := Option.map_eq_some_iff.mp ha
  exact hf i b hb

theorem AllRows.modify {f : α → α} (h : AllRows P l) (hf : ∀ i a, P i a → P i (f a)) (k : Nat) :
    AllRows P (l.modify k f) := by
  intro i a ha
  rw [List.getElem?_modify] at ha
  obtain ⟨b, hb, rfl⟩ := Option.map_eq_some_iff.mp ha
  split
  · exact hf i b (h i b hb)
  · exact h i b hb

theorem AllRows.imp {Q : Nat → α → Prop} (h : AllRows P l)
    (hPQ : ∀ i a, l[i]? = some a → P i a → Q i a) : AllRows Q l :=
  fun i a ha => hPQ i a ha (h i a ha)

/-! ## Unique indexes -/

section UniqueIndex

variable {β : Type} {key : α → Option β}

/-- A unique index that leaves out the rows without a key. -/
def UniqueIndex (key : α → Option β) (l : List α) : Prop :=
  ∀ (i j : Nat) (a b : α) (k : β), l[i]? = some a → l[j]? = some b → key a = some k →
    key b = some k → i = j

theorem UniqueIndex.nil (key : α → Option β) : UniqueIndex key [] := by
  intro i j a b k ha
  simp at ha

/-- Rows of the index are the same exactly if their keys are. -/
theorem UniqueIndex.index_iff (h : UniqueIndex key l) {i j : Nat} {a b : α} {k k' : β}
    (ha : l[i]? = some a) (hb : l[j]? = some b) (hk : key a = some k) (hk' : key b = some k') :
    i = j ↔ k = k' := by
  constructor
  · rintro rfl
    rw [ha] at hb
    cases hb
    exact Option.some.inj (hk.symm.trans hk')
  · rintro rfl
    exact h i j a b k ha hb hk hk'

/-- A row can be added when no other row has its key. -/
theorem UniqueIndex.append (h : UniqueIndex key l) {b : α}
    (hfree : ∀ k, key b = some k → ∀ a ∈ l, key a ≠ some k) : UniqueIndex key (l ++ [b]) := by
  have hcases : AllRows (fun i a => l[i]? = some a ∨ (i = l.length ∧ a = b)) (l ++ [b]) :=
    AllRows.append (fun i a ha => .inl ha) (.inr ⟨rfl, rfl⟩)
  intro i j a a' k ha ha' hk hk'
  rcases hcases i a ha with hold | ⟨hi, rfl⟩ <;> rcases hcases j a' ha' with hold' | ⟨hj, rfl⟩
  · exact h i j a a' k hold hold' hk hk'
  · exact absurd hk (hfree k hk' a (List.mem_of_getElem? hold))
  · exact absurd hk' (hfree k hk a' (List.mem_of_getElem? hold'))
  · exact hi.trans hj.symm

/-- The index is kept when one row takes a key that no other row has any more. -/
theorem UniqueIndex.install (h : UniqueIndex key l) (k : Nat) (κ₀ : β)
    (hrows : ∀ (i : Nat) (a : α) (κ : β), l'[i]? = some a → key a = some κ →
      (i = k ∧ κ = κ₀) ∨ (κ ≠ κ₀ ∧ ∃ b, l[i]? = some b ∧ key b = some κ)) :
    UniqueIndex key l' := by
  intro i j a b κ ha hb hκ hκ'
  rcases hrows i a κ ha hκ with ⟨rfl, rfl⟩ | ⟨hne, a₀, ha₀, hκ₀⟩
  · rcases hrows j b κ hb hκ' with ⟨rfl, -⟩ | ⟨hne, -⟩
    · rfl
    · exact absurd rfl hne
  · rcases hrows j b κ hb hκ' with ⟨-, rfl⟩ | ⟨-, b₀, hb₀, hκ₀'⟩
    · exact absurd rfl hne
    · exact h i j a₀ b₀ κ ha₀ hb₀ hκ₀ hκ₀'

/-- Rows that keep their keys keep the index. -/
theorem UniqueIndex.rows (h : UniqueIndex key l) (hrows : Rows R l l')
    (hlength : l'.length = l.length) (hkey : ∀ a a', R a a' → key a' = key a) :
    UniqueIndex key l' := by
  intro i j a b k ha hb hk hk'
  rcases hrows.back ha with ⟨a₀, ha₀, hR⟩ | hge
  · rcases hrows.back hb with ⟨b₀, hb₀, hR'⟩ | hge
    · exact h i j a₀ b₀ k ha₀ hb₀ ((hkey a₀ a hR).symm.trans hk) ((hkey b₀ b hR').symm.trans hk')
    · have hlt := (List.getElem?_eq_some_iff.mp hb).1
      omega
  · have hlt := (List.getElem?_eq_some_iff.mp ha).1
    omega

end UniqueIndex

/-- In a list that is ordered by `r` the first element with a property precedes all others. -/
theorem find?_of_pairwise {r : α → α → Prop} (hrefl : ∀ a, r a a) (hl : l.Pairwise r)
    {p : α → Bool} {a : α} (h : l.find? p = some a) {b : α} (hb : b ∈ l) (hp : p b = true) :
    r a b := by
  obtain ⟨-, before, after, rfl, hbefore⟩ := List.find?_eq_some_iff_append.mp h
  rw [List.pairwise_append, List.pairwise_cons] at hl
  rcases List.mem_append.mp hb with hb | hb
  · have hnot := hbefore b hb
    rw [hp] at hnot
    cases hnot
  · rcases List.mem_cons.mp hb with rfl | hb
    · exact hrefl b
    · exact hl.2.1.1 b hb

end SupportPilot.Library
