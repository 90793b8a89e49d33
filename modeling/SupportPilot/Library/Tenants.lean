import Mathlib.Data.List.Nodup
import Mathlib.Logic.Function.Basic
import SupportPilot.Library.Confinement

/-!
# Tables of several tenants

Every row belongs to a tenant, and the keys of a table are distinct. Rows are selected among those
of a tenant, or by their key alone; a key is safe to use when it is known to belong to the tenant.
Programs that select in these ways, and draw the keys of their rows from a supply that no table has
used, are confined to the tenant.
-/

namespace SupportPilot.Library

structure TenantRow (κ τ α : Type) where
  id : κ
  tenant : τ
  value : α

/-- The rows in the order of their creation. -/
structure TenantTable (κ τ α : Type) where
  rows : List (TenantRow κ τ α)
  nodup : (rows.map (·.id)).Nodup

namespace TenantTable

variable {κ τ α : Type}

def empty : TenantTable κ τ α where
  rows := []
  nodup := List.nodup_nil

def keys (t : TenantTable κ τ α) : List κ := t.rows.map (·.id)

section Selection

variable [DecidableEq τ]

/-- The rows of a tenant. -/
def of (t : TenantTable κ τ α) (w : τ) : List (TenantRow κ τ α) := t.rows.filter (·.tenant = w)

/-- The newest row of a tenant that satisfies `p`. -/
def newest (t : TenantTable κ τ α) (w : τ) (p : TenantRow κ τ α → Bool) :
    Option (TenantRow κ τ α) :=
  t.rows.reverse.find? fun row => row.tenant = w && p row

variable {t : TenantTable κ τ α} {w : τ}

@[simp] theorem mem_of {row : TenantRow κ τ α} : row ∈ t.of w ↔ row ∈ t.rows ∧ row.tenant = w := by
  simp [of]

theorem newest_eq (p : TenantRow κ τ α → Bool) : t.newest w p = (t.of w).reverse.find? p := by
  unfold newest of
  rw [← List.filter_reverse, List.find?_filter]
  simp

theorem newest_some {p : TenantRow κ τ α → Bool} {row : TenantRow κ τ α}
    (h : t.newest w p = some row) : row ∈ t.rows ∧ row.tenant = w ∧ p row = true := by
  have hp := List.find?_some h
  rw [Bool.and_eq_true, decide_eq_true_iff] at hp
  exact ⟨List.mem_reverse.mp (List.mem_of_find?_eq_some h), hp⟩

theorem of_append {t' : TenantTable κ τ α} {row : TenantRow κ τ α}
    (h : t'.rows = t.rows ++ [row]) (w : τ) :
    t'.of w = t.of w ++ if row.tenant = w then [row] else [] := by
  unfold of
  rw [h, List.filter_append]
  by_cases htenant : row.tenant = w <;> simp [htenant]

end Selection

section Keys

variable [DecidableEq κ]

/-- The row with this key, whose ever it is. -/
def get (t : TenantTable κ τ α) (id : κ) : Option (TenantRow κ τ α) := t.rows.find? (·.id = id)

/-- The row with a key is given other columns. -/
def TenantRow.write (row : TenantRow κ τ α) (id : κ) (f : α → α) : TenantRow κ τ α :=
  if row.id = id then { row with value := f row.value } else row

@[simp] theorem TenantRow.id_write (row : TenantRow κ τ α) (id : κ) (f : α → α) :
    (write row id f).id = row.id := by
  unfold write
  split_ifs <;> rfl

@[simp] theorem TenantRow.tenant_write (row : TenantRow κ τ α) (id : κ) (f : α → α) :
    (write row id f).tenant = row.tenant := by
  unfold write
  split_ifs <;> rfl

theorem map_id_write (rows : List (TenantRow κ τ α)) (id : κ) (f : α → α) :
    (rows.map fun row => TenantRow.write row id f).map (·.id) = rows.map (·.id) := by
  simp

def update (t : TenantTable κ τ α) (id : κ) (f : α → α) : TenantTable κ τ α where
  rows := t.rows.map fun row => TenantRow.write row id f
  nodup := (map_id_write t.rows id f).symm ▸ t.nodup

/-- A key that is taken is refused. -/
def insert (t : TenantTable κ τ α) (row : TenantRow κ τ α) : Option (TenantTable κ τ α) :=
  if h : row.id ∈ t.keys then none
  else some {
    rows := t.rows ++ [row]
    nodup := by
      rw [List.map_append, List.nodup_append]
      refine ⟨t.nodup, List.nodup_singleton _, fun a ha b hb hab => h ?_⟩
      rw [hab, List.mem_singleton.mp hb] at ha
      exact ha }

variable {t : TenantTable κ τ α} {id : κ}

theorem get_some {row : TenantRow κ τ α} (h : t.get id = some row) :
    row ∈ t.rows ∧ row.id = id :=
  ⟨List.mem_of_find?_eq_some h, by simpa using List.find?_some h⟩

@[simp] theorem keys_update (f : α → α) : (t.update id f).keys = t.keys :=
  map_id_write t.rows id f

theorem insert_of_notMem {row : TenantRow κ τ α} (h : row.id ∉ t.keys) :
    ∃ t' : TenantTable κ τ α, t.insert row = some t' ∧ t'.rows = t.rows ++ [row] := by
  unfold insert
  rw [dif_neg h]
  exact ⟨_, rfl, rfl⟩

variable [DecidableEq τ] {w : τ}

/-- A key of the tenant is looked up among the rows of the tenant. -/
theorem get_eq (h : ∀ row ∈ t.rows, row.id = id → row.tenant = w) :
    t.get id = (t.of w).find? (·.id = id) := by
  unfold get of
  rw [← List.head?_filter, ← List.head?_filter, List.filter_filter]
  congr 1
  refine List.filter_congr fun row hrow => ?_
  by_cases hid : row.id = id
  · simp [hid, h row hrow hid]
  · simp [hid]

theorem of_update (f : α → α) (w : τ) :
    (t.update id f).of w = (t.of w).map fun row => TenantRow.write row id f := by
  unfold of update
  rw [List.filter_map]
  congr 1
  exact List.filter_congr fun row _ => by simp

/-- Only the tenant whose key it is sees an update. -/
theorem of_update_of_ne {w' : τ} (h : ∀ row ∈ t.rows, row.id = id → row.tenant = w)
    (hne : w' ≠ w) (f : α → α) : (t.update id f).of w' = t.of w' := by
  rw [of_update]
  refine (List.map_congr_left fun row hrow => ?_).trans (List.map_id _)
  obtain ⟨hmem, htenant⟩ := mem_of.mp hrow
  exact if_neg fun hid => hne (htenant.symm.trans (h row hmem hid))

end Keys

end TenantTable

/-! ## Stores of tables -/

/-- The tables of all kinds, the number of keys that were drawn, and what is kept in no table. -/
structure TenantStore (κ τ : Type) {Kind : Type} (Columns : Kind → Type) (Shared : Type) where
  tables : (k : Kind) → TenantTable κ τ (Columns k)
  drawn : Nat
  shared : Shared

namespace TenantStore

variable {κ τ Kind Shared ε α : Type} {Columns : Kind → Type} [DecidableEq Kind]

def setTable (s : TenantStore κ τ Columns Shared) (k : Kind) (t : TenantTable κ τ (Columns k)) :
    TenantStore κ τ Columns Shared :=
  { s with tables := Function.update s.tables k t }

/-- What holds of a table that is replaced, and of the others, holds of them all. -/
theorem setTable_cases {P : (k : Kind) → TenantTable κ τ (Columns k) → Prop}
    {s : TenantStore κ τ Columns Shared} {k : Kind} {t : TenantTable κ τ (Columns k)}
    (hk : P k t) (hother : ∀ j, P j (s.tables j)) (j : Kind) : P j ((s.setTable k t).tables j) := by
  by_cases hj : j = k
  · subst hj
    simpa [TenantStore.setTable] using hk
  · simpa [TenantStore.setTable, Function.update_of_ne hj] using hother j

variable [DecidableEq κ] [DecidableEq τ]

def newest (k : Kind) (w : τ) (p : TenantRow κ τ (Columns k) → Bool) :
    Thread (TenantStore κ τ Columns Shared) ε (Option (TenantRow κ τ (Columns k))) :=
  .read fun s => (s.tables k).newest w p

/-- The rows of a tenant that satisfy `p`. -/
def select (k : Kind) (w : τ) (p : TenantRow κ τ (Columns k) → Bool) :
    Thread (TenantStore κ τ Columns Shared) ε (List (TenantRow κ τ (Columns k))) :=
  .read fun s => ((s.tables k).of w).filter p

def get (k : Kind) (id : κ) :
    Thread (TenantStore κ τ Columns Shared) ε (Option (TenantRow κ τ (Columns k))) :=
  .read fun s => (s.tables k).get id

def update (k : Kind) (id : κ) (f : Columns k → Columns k) :
    Thread (TenantStore κ τ Columns Shared) ε Unit :=
  .step (fun s => s.setTable k ((s.tables k).update id f)) fun _ => pure ()

/-- The store with a new row, under the next key of the supply. -/
def inserted (ids : Nat → κ) (k : Kind) (w : τ) (value : Columns k)
    (s : TenantStore κ τ Columns Shared) : TenantStore κ τ Columns Shared :=
  match (s.tables k).insert ⟨ids s.drawn, w, value⟩ with
  | none => { s with drawn := s.drawn + 1 }
  | some t => { s.setTable k t with drawn := s.drawn + 1 }

def insert (ids : Nat → κ) (taken : ε) (k : Kind) (w : τ) (value : Columns k) :
    Thread (TenantStore κ τ Columns Shared) ε κ :=
  .step (inserted ids k w value) fun s =>
    if ids s.drawn ∈ (s.tables k).keys then .raise taken else pure (ids s.drawn)

/-- A step on what is kept in no table. -/
def access (write : Shared → Shared) (result : Shared → Except ε α) :
    Thread (TenantStore κ τ Columns Shared) ε α :=
  .step (fun s => { s with shared := write s.shared }) fun s => .done (result s.shared)

/-- An exception takes back what was written to the tables. -/
def atomic (m : Thread (TenantStore κ τ Columns Shared) ε α) :
    Thread (TenantStore κ τ Columns Shared) ε α :=
  m.atomic fun s s' => { s' with tables := s.tables }

end TenantStore

/-! ## The boundary of a tenant -/

/-- A tenant with its keys, among them the whole supply of new ones. -/
structure Tenancy (κ τ Kind : Type) where
  ids : Nat → κ
  tenant : τ
  mine : Kind → κ → Prop
  distinct : Function.Injective ids
  drawn_mine : ∀ k n, mine k (ids n)

namespace Tenancy

variable {κ τ Kind Shared ε α : Type} {Columns : Kind → Type}

section Relations

variable (T : Tenancy κ τ Kind) (inner : Boundary Shared)

/-- The keys of the tenant are those of its rows, and no key of the supply is used too early. -/
structure Guarded (s : TenantStore κ τ Columns Shared) : Prop where
  own : ∀ k, ∀ row ∈ (s.tables k).rows, T.mine k row.id ↔ row.tenant = T.tenant
  fresh : ∀ n, s.drawn ≤ n → ∀ k, T.ids n ∉ (s.tables k).keys

variable [DecidableEq τ]

/-- The stores have the same rows of the tenant. -/
structure Alike (s t : TenantStore κ τ Columns Shared) : Prop where
  left : T.Guarded s
  right : T.Guarded t
  rows : ∀ k, (s.tables k).of T.tenant = (t.tables k).of T.tenant
  drawn : s.drawn = t.drawn
  shared : inner.agree s.shared t.shared

/-- The rows of the other tenants stay. -/
structure Spares (s s' : TenantStore κ τ Columns Shared) : Prop where
  others : ∀ k w, w ≠ T.tenant → (s'.tables k).of w = (s.tables k).of w
  drawn : s.drawn ≤ s'.drawn
  shared : inner.keeps s.shared s'.shared

/-- What a thread of the tenant may tell apart and change. -/
def boundary (Columns : Kind → Type) : Boundary (TenantStore κ τ Columns Shared) where
  agree := T.Alike inner
  keeps := T.Spares inner
  agree_symm h := ⟨h.right, h.left, fun k => (h.rows k).symm, h.drawn.symm,
    inner.agree_symm h.shared⟩
  keeps_refl _ := ⟨fun _ _ _ => rfl, Nat.le_refl _, inner.keeps_refl _⟩
  keeps_trans h h' := ⟨fun k w hw => (h'.others k w hw).trans (h.others k w hw),
    Nat.le_trans h.drawn h'.drawn, inner.keeps_trans h.shared h'.shared⟩

end Relations

variable {T : Tenancy κ τ Kind} {inner : Boundary Shared}

theorem Guarded.tenant_of_mine {s : TenantStore κ τ Columns Shared} (h : T.Guarded s) {k : Kind}
    {id : κ} (hid : T.mine k id) :
    ∀ row ∈ (s.tables k).rows, row.id = id → row.tenant = T.tenant :=
  fun row hrow heq => (h.own k row hrow).mp (heq ▸ hid)

section Keys

variable [DecidableEq κ] [DecidableEq Kind] {s : TenantStore κ τ Columns Shared}

theorem inserted_eq (h : T.Guarded s) (k : Kind) (value : Columns k) :
    ∃ t : TenantTable κ τ (Columns k),
      t.rows = (s.tables k).rows ++ [⟨T.ids s.drawn, T.tenant, value⟩] ∧
        TenantStore.inserted T.ids k T.tenant value s =
          { s.setTable k t with drawn := s.drawn + 1 } := by
  let row : TenantRow κ τ (Columns k) := ⟨T.ids s.drawn, T.tenant, value⟩
  have hfresh : row.id ∉ (s.tables k).keys := h.fresh s.drawn (Nat.le_refl _) k
  obtain ⟨t, ht, hrows⟩ := TenantTable.insert_of_notMem hfresh
  refine ⟨t, hrows, ?_⟩
  unfold TenantStore.inserted
  rw [ht]

theorem Guarded.update (h : T.Guarded s) (k : Kind) (id : κ) (f : Columns k → Columns k) :
    T.Guarded (s.setTable k ((s.tables k).update id f)) := by
  refine ⟨fun j => ?_, fun n hn j => ?_⟩
  · refine TenantStore.setTable_cases (P := fun j t => ∀ row ∈ t.rows,
      T.mine j row.id ↔ row.tenant = T.tenant) (fun row hrow => ?_) h.own j
    obtain ⟨old, hold, rfl⟩ := List.mem_map.mp hrow
    rw [TenantTable.TenantRow.id_write, TenantTable.TenantRow.tenant_write]
    exact h.own k old hold
  · refine TenantStore.setTable_cases (P := fun _ t => T.ids n ∉ t.keys) ?_ (h.fresh n hn) j
    rw [TenantTable.keys_update]
    exact h.fresh n hn k

theorem Guarded.inserted (h : T.Guarded s) (k : Kind) (value : Columns k) :
    T.Guarded (TenantStore.inserted T.ids k T.tenant value s) := by
  obtain ⟨t, hrows, heq⟩ := inserted_eq h k value
  rw [heq]
  refine ⟨fun j => ?_, fun n hn j => ?_⟩
  · refine TenantStore.setTable_cases (P := fun j t => ∀ row ∈ t.rows,
      T.mine j row.id ↔ row.tenant = T.tenant) (fun row hrow => ?_) h.own j
    rw [hrows, List.mem_append, List.mem_singleton] at hrow
    rcases hrow with hold | rfl
    · exact h.own k row hold
    · exact iff_of_true (T.drawn_mine k _) rfl
  · have hlt : s.drawn < n := hn
    refine TenantStore.setTable_cases (P := fun _ t => T.ids n ∉ t.keys) ?_
      (h.fresh n (Nat.le_of_lt hlt)) j
    unfold TenantTable.keys
    rw [hrows, List.map_append, List.mem_append, List.map_singleton, List.mem_singleton]
    rintro (hold | hnew)
    · exact h.fresh n (Nat.le_of_lt hlt) k hold
    · exact Nat.ne_of_gt hlt (T.distinct hnew)

end Keys

variable [DecidableEq τ]

/-- The tenancy of the tenant's rows in a store. -/
def ofStore (ids : Nat → κ) (hids : Function.Injective ids) (w : τ)
    (s : TenantStore κ τ Columns Shared) : Tenancy κ τ Kind where
  ids := ids
  tenant := w
  mine k id := (∃ row ∈ (s.tables k).of w, row.id = id) ∨ ∃ n, ids n = id
  distinct := hids
  drawn_mine _ n := .inr ⟨n, rfl⟩

theorem guarded_ofStore {ids : Nat → κ} {hids : Function.Injective ids} {w : τ}
    {s t : TenantStore κ τ Columns Shared}
    (hrows : ∀ k, (t.tables k).of w = (s.tables k).of w)
    (hfresh : ∀ k n, ids n ∉ (t.tables k).keys) : (ofStore ids hids w s).Guarded t := by
  refine ⟨fun k row hrow => ⟨?_, fun htenant => ?_⟩, fun n _ k => hfresh k n⟩
  · rintro (⟨other, hother, hid⟩ | ⟨n, hid⟩)
    · rw [← hrows k, TenantTable.mem_of] at hother
      have hsame : other = row :=
        List.inj_on_of_nodup_map (t.tables k).nodup hother.1 hrow hid
      exact hsame ▸ hother.2
    · exact absurd (List.mem_map.mpr ⟨row, hrow, hid.symm⟩) (hfresh k n)
  · refine .inl ⟨row, ?_, rfl⟩
    rw [← hrows k, TenantTable.mem_of]
    exact ⟨hrow, htenant⟩

/-- Stores with the same rows of a tenant look alike to it. -/
theorem alike_ofStore {inner : Boundary Shared} {ids : Nat → κ} {hids : Function.Injective ids}
    {w : τ} {s t : TenantStore κ τ Columns Shared}
    (hrows : ∀ k, (s.tables k).of w = (t.tables k).of w)
    (hfresh : ∀ k n, ids n ∉ (s.tables k).keys) (hfresh' : ∀ k n, ids n ∉ (t.tables k).keys)
    (hdrawn : s.drawn = t.drawn) (hshared : inner.agree s.shared t.shared) :
    (ofStore ids hids w s).Alike inner s t :=
  ⟨guarded_ofStore (fun _ => rfl) hfresh, guarded_ofStore (fun k => (hrows k).symm) hfresh', hrows,
    hdrawn, hshared⟩

/-! ## Statements within the boundary -/

/-- A read is confined when it finds the same in stores that look alike. -/
theorem confined_read {f : TenantStore κ τ Columns Shared → α} {post : α → Prop}
    (hsame : ∀ {s t}, T.Alike inner s t → f s = f t)
    (hpost : ∀ {s : TenantStore κ τ Columns Shared}, T.Guarded s → post (f s)) :
    Confined (T.boundary inner Columns) post
      (Thread.read f : Thread (TenantStore κ τ Columns Shared) ε α) := by
  intro s t hst
  exact ⟨hst, Boundary.keeps_refl _ s, congrArg pure (hsame hst), hpost hst.left⟩

/-- The rows that are found are the tenant's. -/
theorem confined_newest (k : Kind) (p : TenantRow κ τ (Columns k) → Bool) :
    Confined (T.boundary inner Columns)
      (fun found => ∀ row ∈ found, T.mine k row.id ∧ row.tenant = T.tenant ∧ p row = true)
      (TenantStore.newest k T.tenant p : Thread (TenantStore κ τ Columns Shared) ε _) := by
  refine confined_read (fun hst => ?_) fun {s} hs row hrow => ?_
  · rw [TenantTable.newest_eq, TenantTable.newest_eq, hst.rows]
  · obtain ⟨hmem, htenant, hp⟩ := TenantTable.newest_some hrow
    exact ⟨(hs.own k row hmem).mpr htenant, htenant, hp⟩

theorem confined_select (k : Kind) (p : TenantRow κ τ (Columns k) → Bool) :
    Confined (T.boundary inner Columns) (fun found => ∀ row ∈ found, T.mine k row.id)
      (TenantStore.select k T.tenant p : Thread (TenantStore κ τ Columns Shared) ε _) := by
  refine confined_read (fun hst => ?_) fun {s} hs row hrow => ?_
  · rw [hst.rows]
  · obtain ⟨hmem, htenant⟩ := TenantTable.mem_of.mp (List.mem_filter.mp hrow).1
    exact (hs.own k row hmem).mpr htenant

/-- A step on what is kept in no table. -/
theorem confined_access {write : Shared → Shared} {result : Shared → Except ε α}
    {post : α → Prop}
    (h : ∀ {x y}, inner.agree x y → inner.agree (write x) (write y) ∧ inner.keeps x (write x) ∧
      result x = result y ∧ ∀ a, result x = .ok a → post a) :
    Confined (T.boundary inner Columns) post
      (TenantStore.access write result : Thread (TenantStore κ τ Columns Shared) ε α) := by
  intro s t hst
  obtain ⟨hagree, hkeeps, hresult, hpost⟩ := h hst.shared
  exact ⟨⟨⟨hst.left.own, hst.left.fresh⟩, ⟨hst.right.own, hst.right.fresh⟩, hst.rows, hst.drawn,
    hagree⟩, ⟨fun _ _ _ => rfl, Nat.le_refl _, hkeeps⟩, congrArg Thread.done hresult, .done hpost⟩

theorem confined_atomic {m : Thread (TenantStore κ τ Columns Shared) ε α} {post : α → Prop}
    (hm : Confined (T.boundary inner Columns) post m) :
    Confined (T.boundary inner Columns) post (TenantStore.atomic m) := by
  refine hm.atomic fun {s t s' t'} hst hst' hkeeps hkeeps' => ?_
  refine ⟨⟨⟨hst.left.own, fun n hn => hst.left.fresh n (Nat.le_trans hkeeps.drawn hn)⟩,
    ⟨hst.right.own, fun n hn => hst.right.fresh n (Nat.le_trans hkeeps'.drawn hn)⟩, hst.rows,
    hst'.drawn, hst'.shared⟩, fun _ _ _ => rfl, hkeeps.drawn, hkeeps.shared⟩

section Keys

variable [DecidableEq κ]

theorem confined_get {k : Kind} {id : κ} (hid : T.mine k id) :
    Confined (T.boundary inner Columns)
      (fun found => ∀ row ∈ found, row.id = id ∧ row.tenant = T.tenant)
      (TenantStore.get k id : Thread (TenantStore κ τ Columns Shared) ε _) := by
  refine confined_read (fun hst => ?_) fun {s} hs row hrow => ?_
  · rw [TenantTable.get_eq (hst.left.tenant_of_mine hid),
      TenantTable.get_eq (hst.right.tenant_of_mine hid), hst.rows]
  · obtain ⟨hmem, hrowId⟩ := TenantTable.get_some hrow
    exact ⟨hrowId, hs.tenant_of_mine hid row hmem hrowId⟩

variable [DecidableEq Kind]

variable {s : TenantStore κ τ Columns Shared}

/-- An update of a row of the tenant. -/
theorem confined_update {k : Kind} {id : κ} (hid : T.mine k id) (f : Columns k → Columns k) :
    Confined (T.boundary inner Columns) (fun _ => True)
      (TenantStore.update k id f : Thread (TenantStore κ τ Columns Shared) ε Unit) := by
  intro s t hst
  refine ⟨⟨hst.left.update k id f, hst.right.update k id f, fun j => ?_, hst.drawn, hst.shared⟩,
    ⟨fun j w hw => ?_, Nat.le_refl _, inner.keeps_refl _⟩, rfl, True.intro⟩
  · by_cases hj : j = k
    · subst hj
      simp only [TenantStore.setTable, Function.update_self]
      rw [TenantTable.of_update, TenantTable.of_update, hst.rows]
    · simp only [TenantStore.setTable, Function.update_of_ne hj]
      exact hst.rows j
  · refine TenantStore.setTable_cases (P := fun j table => table.of w = (s.tables j).of w) ?_
      (fun _ => rfl) j
    exact TenantTable.of_update_of_ne (hst.left.tenant_of_mine hid) hw f

theorem of_inserted (h : T.Guarded s) (k : Kind) (value : Columns k) (j : Kind) (w : τ) :
    ((TenantStore.inserted T.ids k T.tenant value s).tables j).of w =
      (s.tables j).of w ++
        if h : j = k then
          if T.tenant = w then [⟨T.ids s.drawn, T.tenant, h ▸ value⟩] else []
        else [] := by
  obtain ⟨t, hrows, heq⟩ := inserted_eq h k value
  rw [heq]
  by_cases hj : j = k
  · subst hj
    simp only [TenantStore.setTable, Function.update_self, dif_pos]
    exact TenantTable.of_append hrows w
  · simp only [TenantStore.setTable, Function.update_of_ne hj, dif_neg hj, List.append_nil]

/-- A new row of the tenant has a key of the tenant. -/
theorem confined_insert (taken : ε) (k : Kind) (value : Columns k) :
    Confined (T.boundary inner Columns) (T.mine k)
      (TenantStore.insert T.ids taken k T.tenant value :
        Thread (TenantStore κ τ Columns Shared) ε κ) := by
  intro s t hst
  have hresult : ∀ {u : TenantStore κ τ Columns Shared}, T.Guarded u →
      (if T.ids u.drawn ∈ (u.tables k).keys then Thread.raise taken else pure (T.ids u.drawn)) =
        (pure (T.ids u.drawn) : Thread (TenantStore κ τ Columns Shared) ε κ) :=
    fun hu => if_neg (hu.fresh _ (Nat.le_refl _) k)
  refine ⟨⟨hst.left.inserted k value, hst.right.inserted k value, fun j => ?_, ?_, ?_⟩,
    ⟨fun j w hw => ?_, ?_, ?_⟩, ?_, ?_⟩
  · rw [of_inserted hst.left, of_inserted hst.right, hst.rows, hst.drawn]
  · obtain ⟨u, -, hu⟩ := inserted_eq hst.left k value
    obtain ⟨v, -, hv⟩ := inserted_eq hst.right k value
    rw [hu, hv]
    exact congrArg (· + 1) hst.drawn
  · obtain ⟨u, -, hu⟩ := inserted_eq hst.left k value
    obtain ⟨v, -, hv⟩ := inserted_eq hst.right k value
    rw [hu, hv]
    exact hst.shared
  · simp only [of_inserted hst.left, if_neg hw.symm, dite_eq_ite, ite_self, List.append_nil]
  · obtain ⟨u, -, hu⟩ := inserted_eq hst.left k value
    rw [hu]
    exact Nat.le_succ _
  · obtain ⟨u, -, hu⟩ := inserted_eq hst.left k value
    rw [hu]
    exact inner.keeps_refl _
  · show (if T.ids s.drawn ∈ (s.tables k).keys then Thread.raise taken else _) =
      if T.ids t.drawn ∈ (t.tables k).keys then Thread.raise taken else _
    rw [hresult hst.left, hresult hst.right, hst.drawn]
  · show Confined _ _ (if T.ids s.drawn ∈ (s.tables k).keys then Thread.raise taken else _)
    rw [hresult hst.left]
    exact T.drawn_mine k _

end Keys

end Tenancy

end SupportPilot.Library
