import SupportPilot.Library.Table

/-!
# Tables and the objects loaded from them

An object is a row as it was when a caller loaded it, and the caller may act on it at any later
moment. A versioned table therefore keeps every content that its rows have ever had.
-/

namespace SupportPilot.Library

/-- A loaded row: its key, and its content at that moment. -/
structure Object (α : Type) where
  pk : Nat
  value : α
  deriving DecidableEq, Repr

/-- The rows of a table together with all contents they have had. -/
structure Versioned (α : Type) where
  rows : List α
  past : List (Object α)
  current : ∀ (k : Nat) (a : α), rows[k]? = some a → ⟨k, a⟩ ∈ past
  bound : ∀ o ∈ past, o.pk < rows.length
  deriving DecidableEq

namespace Versioned

variable {α β : Type} {t : Versioned α} {o : Object α} {k j : Nat} {a b : α} {f : α → α}
  {g : α → β} {P : Nat → α → Prop}

def empty : Versioned α where
  rows := []
  past := []
  current _ _ h := by simp at h
  bound _ h := by simp at h

/-- INSERT of one row. -/
def insert (t : Versioned α) (a : α) : Versioned α where
  rows := t.rows ++ [a]
  past := ⟨t.rows.length, a⟩ :: t.past
  current := by
    refine AllRows.append (fun k b hb => ?_) ?_
    · exact List.mem_cons_of_mem _ (t.current k b hb)
    · exact List.mem_cons_self
  bound o ho := by
    rw [List.length_append, List.length_singleton]
    rcases List.mem_cons.mp ho with rfl | hold
    · exact Nat.lt_succ_self _
    · exact Nat.lt_succ_of_lt (t.bound o hold)

/-- UPDATE of one row, if there is one with this key. -/
def update (t : Versioned α) (k : Nat) (f : α → α) : Versioned α where
  rows := t.rows.modify k f
  past := ((t.rows[k]?).map fun a => ⟨k, f a⟩).toList ++ t.past
  current j b hb := by
    rw [List.getElem?_modify] at hb
    obtain ⟨a, ha, hab⟩ := Option.map_eq_some_iff.mp hb
    split at hab
    · rename_i hkj
      subst hkj
      rw [ha, ← hab]
      exact List.mem_cons_self
    · rw [← hab]
      exact List.mem_append_right _ (t.current j a ha)
  bound o ho := by
    rw [List.length_modify]
    rcases List.mem_append.mp ho with hnew | hold
    · rw [Option.mem_toList] at hnew
      obtain ⟨a, ha, rfl⟩ := Option.map_eq_some_iff.mp hnew
      exact (List.getElem?_eq_some_iff.mp ha).1
    · exact t.bound o hold

/-- UPDATE of all rows at once. -/
def updateAll (t : Versioned α) (f : Nat → α → α) : Versioned α where
  rows := t.rows.mapIdx f
  past := t.rows.mapIdx (fun k a => ⟨k, f k a⟩) ++ t.past
  current j b hb := by
    rw [List.getElem?_mapIdx] at hb
    obtain ⟨a, ha, rfl⟩ := Option.map_eq_some_iff.mp hb
    refine List.mem_append_left _ (List.mem_of_getElem? (i := j) ?_)
    rw [List.getElem?_mapIdx, ha, Option.map_some]
  bound o ho := by
    rw [List.length_mapIdx]
    rcases List.mem_append.mp ho with hnew | hold
    · obtain ⟨j, hj⟩ := List.mem_iff_getElem?.mp hnew
      rw [List.getElem?_mapIdx] at hj
      obtain ⟨a, ha, rfl⟩ := Option.map_eq_some_iff.mp hj
      exact (List.getElem?_eq_some_iff.mp ha).1
    · exact t.bound o hold

/-- The object was loaded at this or an earlier moment. -/
def Loaded (t : Versioned α) (o : Object α) : Prop := o ∈ t.past

instance [DecidableEq α] (t : Versioned α) (o : Object α) : Decidable (t.Loaded o) :=
  inferInstanceAs (Decidable (o ∈ t.past))

@[simp] theorem rows_update (t : Versioned α) (k : Nat) (f : α → α) :
    (t.update k f).rows = t.rows.modify k f := rfl

@[simp] theorem rows_updateAll (t : Versioned α) (h : Nat → α → α) :
    (t.updateAll h).rows = t.rows.mapIdx h := rfl

/-- A row of an updated table is the updated one, or an old one. -/
theorem update_cases (h : (t.update k f).rows[j]? = some b) :
    (j = k ∧ ∃ a, t.rows[k]? = some a ∧ b = f a) ∨ (j ≠ k ∧ t.rows[j]? = some b) := by
  rw [rows_update, List.getElem?_modify] at h
  obtain ⟨a, ha, hab⟩ := Option.map_eq_some_iff.mp h
  split at hab
  · rename_i hkj
    subst hkj
    exact .inl ⟨rfl, a, ha, hab.symm⟩
  · rename_i hkj
    exact .inr ⟨Ne.symm hkj, by rw [ha, ← hab]⟩

/-- An update changes its row as `R` allows, and no other row. -/
theorem rows_update_of {R : α → α → Prop} (hR : ∀ a, R a a)
    (hf : ∀ a, t.rows[k]? = some a → R a (f a)) : Rows R t.rows (t.update k f).rows := by
  intro j a ha
  rw [rows_update, List.getElem?_modify, ha]
  by_cases hkj : k = j
  · subst hkj
    exact ⟨f a, by simp, hf a ha⟩
  · exact ⟨a, by simp [hkj], hR a⟩

/-- A row of a longer table is the new one, or an old one. -/
theorem insert_cases (h : (t.insert a).rows[j]? = some b) :
    t.rows[j]? = some b ∨ (j = t.rows.length ∧ b = a) :=
  getElem?_concat_cases h

/-! ## What holds of all contents -/

/-- The property holds of every content that a row has had. -/
def Always (P : Nat → α → Prop) (t : Versioned α) : Prop := ∀ o ∈ t.past, P o.pk o.value

theorem Always.row (h : t.Always P) (hk : t.rows[k]? = some a) : P k a :=
  h ⟨k, a⟩ (t.current k a hk)

theorem Always.empty (P : Nat → α → Prop) : Always P empty := fun _ ho => by cases ho

theorem Always.insert (h : t.Always P) (ha : P t.rows.length a) : (t.insert a).Always P := by
  intro o ho
  rcases List.mem_cons.mp ho with rfl | hold
  · exact ha
  · exact h o hold

theorem Always.update (h : t.Always P) (hf : ∀ a, t.rows[k]? = some a → P k (f a)) :
    (t.update k f).Always P := by
  intro o ho
  rcases List.mem_append.mp ho with hnew | hold
  · rw [Option.mem_toList] at hnew
    obtain ⟨a, ha, rfl⟩ := Option.map_eq_some_iff.mp hnew
    exact hf a ha
  · exact h o hold

/-- Every content that a row has had is related to the one that it has now. -/
def Relates (R : α → α → Prop) (t : Versioned α) : Prop :=
  t.Always fun k b => ∀ a, t.rows[k]? = some a → R b a

theorem Relates.insert {R : α → α → Prop} (h : t.Relates R) (hrefl : ∀ a, R a a) :
    (t.insert a).Relates R := by
  refine Always.insert (P := fun k b => ∀ c, (t.insert a).rows[k]? = some c → R b c) ?_ ?_
  · intro o ho c hc
    rcases insert_cases hc with hold | ⟨hpk, -⟩
    · exact h o ho c hold
    · have hlt := t.bound o ho
      omega
  · intro c hc
    rcases insert_cases hc with hold | ⟨-, rfl⟩
    · have hlt := (List.getElem?_eq_some_iff.mp hold).1
      omega
    · exact hrefl c

/-- An update keeps a relation if it keeps it for the contents of its row. -/
theorem Relates.update {R : α → α → Prop} (h : t.Relates R) (hrefl : ∀ a, R a a)
    (hf : ∀ o ∈ t.past, ∀ a, t.rows[o.pk]? = some a → o.pk = k → R o.value a →
      R o.value (f a)) : (t.update k f).Relates R := by
  refine Always.update (P := fun j b => ∀ c, (t.update k f).rows[j]? = some c → R b c) ?_ ?_
  · intro o ho c hc
    rcases update_cases hc with ⟨hpk, a, ha, rfl⟩ | ⟨-, hc⟩
    · have ha' : t.rows[o.pk]? = some a := hpk ▸ ha
      exact hf o ho a ha' hpk (h o ho a ha')
    · exact h o ho c hc
  · intro a ha c hc
    rcases update_cases hc with ⟨-, a', ha', rfl⟩ | ⟨hne, -⟩
    · rw [ha] at ha'
      cases ha'
      exact hrefl _
    · exact absurd rfl hne

/-- Rows never change this part of their content. -/
def Fixed (g : α → β) (t : Versioned α) : Prop :=
  t.Always fun k b => ∀ a, t.rows[k]? = some a → g a = g b

theorem Fixed.object (h : t.Fixed g) (ho : t.Loaded o) (ha : t.rows[o.pk]? = some a) :
    g a = g o.value :=
  h o ho a ha

theorem Fixed.empty (g : α → β) : Fixed g empty := fun _ ho => by cases ho

theorem Fixed.insert (h : t.Fixed g) : (t.insert a).Fixed g :=
  Relates.insert (R := fun b a => g a = g b) h fun _ => rfl

theorem Fixed.update (h : t.Fixed g) (hf : ∀ a, g (f a) = g a) : (t.update k f).Fixed g :=
  Relates.update (R := fun b a => g a = g b) h (fun _ => rfl)
    fun _ _ a _ _ hsame => (hf a).trans hsame

/-- No content of a row has had more of this than the row has now. -/
def Newest (g : α → Nat) (t : Versioned α) : Prop :=
  t.Always fun k b => ∀ a, t.rows[k]? = some a → g b ≤ g a

theorem Newest.empty (g : α → Nat) : Newest g empty := fun _ ho => by cases ho

theorem Newest.insert {g : α → Nat} (h : t.Newest g) : (t.insert a).Newest g :=
  Relates.insert (R := fun b a => g b ≤ g a) h fun _ => Nat.le_refl _

theorem Newest.update {g : α → Nat} (h : t.Newest g)
    (hf : ∀ a, t.rows[k]? = some a → g a ≤ g (f a)) : (t.update k f).Newest g :=
  Relates.update (R := fun b a => g b ≤ g a) h (fun _ => Nat.le_refl _)
    fun _ _ a ha hpk hle => Nat.le_trans hle (hf a (hpk ▸ ha))

/-- A content with the tag that the row has now also has this part of its content. -/
def Tagged (tag : α → Nat) (g : α → β) (t : Versioned α) : Prop :=
  t.Always fun k b => ∀ a, t.rows[k]? = some a → tag b = tag a → g b = g a

theorem Tagged.empty (tag : α → Nat) (g : α → β) : Tagged tag g empty := fun _ ho => by cases ho

theorem Tagged.insert {tag : α → Nat} (h : t.Tagged tag g) : (t.insert a).Tagged tag g :=
  Relates.insert (R := fun b a => tag b = tag a → g b = g a) h fun _ _ => rfl

/-- An update that changes this part of the content gives the row a tag that is new. -/
theorem Tagged.update {tag : α → Nat} (h : t.Tagged tag g) (hnewest : t.Newest tag)
    (hf : ∀ a, t.rows[k]? = some a → tag a < tag (f a) ∨ tag (f a) = tag a ∧ g (f a) = g a) :
    (t.update k f).Tagged tag g := by
  refine Relates.update (R := fun b a => tag b = tag a → g b = g a) h (fun _ _ => rfl) ?_
  intro o ho a ha hpk hold htag
  have hle := hnewest o ho a ha
  rcases hf a (hpk ▸ ha) with hlt | ⟨hsame, hg⟩
  · omega
  · rw [hg]
    exact hold (htag.trans hsame)

end Versioned

end SupportPilot.Library
