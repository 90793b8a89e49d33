import Mathlib.Data.List.Basic
import Mathlib.Data.List.Nodup

/-!
# Nested values

Dictionaries, lists and tuples over scalars. A path leads from a value to one beneath it, and the
head of a value is what can be seen of it without going further: its kind, a scalar itself, the
length of a list or a tuple, the keys of a dictionary in their order. Values whose dictionaries
repeat no key are equal as soon as they have the same heads at every path.
-/

namespace SupportPilot.Library

inductive Nested (K : Type) (S : Type)
  | scalar (x : S)
  | list (items : List (Nested K S))
  | tuple (items : List (Nested K S))
  | dict (fields : List (K × Nested K S))

namespace Nested

variable {K S : Type}

inductive Step (K : Type)
  | item (i : Nat)
  | field (key : K)
deriving DecidableEq

inductive Head (K S : Type)
  | scalar (x : S)
  | list (length : Nat)
  | tuple (length : Nat)
  | dict (keys : List K)
deriving DecidableEq

def head : Nested K S → Head K S
  | scalar x => .scalar x
  | list items => .list items.length
  | tuple items => .tuple items.length
  | dict fields => .dict (fields.map Prod.fst)

section Paths

variable [DecidableEq K]

/-- The steps that a head allows. -/
def Head.leads : Head K S → Step K → Bool
  | .list length, .item i => i < length
  | .tuple length, .item i => i < length
  | .dict keys, .field key => key ∈ keys
  | _, _ => false

/-- The value one step below. -/
def child : Nested K S → Step K → Option (Nested K S)
  | list items, .item i => items[i]?
  | tuple items, .item i => items[i]?
  | dict fields, .field key => fields.lookup key
  | _, _ => none

/-- The value at a path. -/
def find (value : Nested K S) : List (Step K) → Option (Nested K S)
  | [] => some value
  | step :: path => (value.child step).bind fun below => below.find path

/-- No dictionary repeats a key, wherever it stands. -/
def DistinctKeys (value : Nested K S) : Prop :=
  ∀ path keys, (value.find path).map head = some (.dict keys) → keys.Nodup

theorem DistinctKeys.child {value below : Nested K S} (h : value.DistinctKeys) (step : Step K)
    (hbelow : value.child step = some below) : below.DistinctKeys := by
  intro path keys hfind
  apply h (step :: path) keys
  rw [find, hbelow]
  exact hfind

theorem DistinctKeys.find {value below : Nested K S} (h : value.DistinctKeys)
    {path : List (Step K)} (hbelow : value.find path = some below) : below.DistinctKeys := by
  induction path generalizing value with
  | nil =>
    obtain rfl := Option.some.inj hbelow
    exact h
  | cons step path ih =>
    rw [Nested.find] at hbelow
    cases hchild : value.child step with
    | none => simp [hchild] at hbelow
    | some next =>
      rw [hchild] at hbelow
      exact ih (h.child step hchild) hbelow

theorem DistinctKeys.keys {fields : List (K × Nested K S)} (h : (dict fields).DistinctKeys) :
    (fields.map Prod.fst).Nodup := h [] _ rfl

theorem find_append (value : Nested K S) (path rest : List (Step K)) :
    value.find (path ++ rest) = (value.find path).bind fun below => below.find rest := by
  induction path generalizing value with
  | nil => rfl
  | cons step path ih =>
    rw [List.cons_append, find, find]
    cases value.child step with
    | none => rfl
    | some below => exact ih below

theorem lookup_isSome {α : Type} (fields : List (K × α)) (key : K) :
    (fields.lookup key).isSome ↔ key ∈ fields.map Prod.fst := by
  induction fields with
  | nil => simp
  | cons field rest ih =>
    obtain ⟨name, value⟩ := field
    by_cases h : key = name
    · simp [h]
    · have hne : (key == name) = false := beq_false_of_ne h
      rw [List.lookup_cons, hne]
      simp [h, ih]

theorem lookup_of_mem {α : Type} {fields : List (K × α)} (h : (fields.map Prod.fst).Nodup)
    {key : K} {value : α} (hmem : (key, value) ∈ fields) : fields.lookup key = some value := by
  induction fields with
  | nil => cases hmem
  | cons field rest ih =>
    obtain ⟨name, old⟩ := field
    rw [List.map_cons, List.nodup_cons] at h
    rw [List.lookup_cons]
    rcases List.mem_cons.mp hmem with heq | hrest
    · cases heq
      simp
    · have hne : key ≠ name := by
        rintro rfl
        exact h.1 (List.mem_map.mpr ⟨_, hrest, rfl⟩)
      rw [beq_false_of_ne hne]
      exact ih h.2 hrest

theorem DistinctKeys.item {items : List (Nested K S)} (h : (list items).DistinctKeys)
    {value : Nested K S} (hmem : value ∈ items) : value.DistinctKeys := by
  obtain ⟨i, hi⟩ := List.getElem?_of_mem hmem
  exact h.child (.item i) hi

theorem DistinctKeys.field {fields : List (K × Nested K S)} (h : (dict fields).DistinctKeys)
    {field : K × Nested K S} (hmem : field ∈ fields) : field.2.DistinctKeys :=
  h.child (.field field.1) (lookup_of_mem h.keys hmem)

/-- What a value and the values one step below must be. -/
theorem DistinctKeys.of_child {value : Nested K S}
    (hhead : ∀ keys, value.head = .dict keys → keys.Nodup)
    (h : ∀ step below, value.child step = some below → below.DistinctKeys) :
    value.DistinctKeys := by
  intro path keys hfind
  cases path with
  | nil => exact hhead keys (Option.some.inj hfind)
  | cons step path =>
    rw [Nested.find] at hfind
    cases hchild : value.child step with
    | none => simp [hchild] at hfind
    | some below =>
      rw [hchild] at hfind
      exact h step below hchild path keys hfind

@[simp]
theorem distinctKeys_scalar (x : S) : (scalar x : Nested K S).DistinctKeys :=
  DistinctKeys.of_child (fun _ h => nomatch h) fun step _ h => by cases step <;> cases h

@[simp]
theorem distinctKeys_list (items : List (Nested K S)) :
    (list items).DistinctKeys ↔ ∀ value ∈ items, value.DistinctKeys := by
  refine ⟨fun h value hvalue => h.item hvalue,
    fun h => DistinctKeys.of_child (fun _ h => nomatch h) ?_⟩
  intro step below hbelow
  cases step with
  | item i => exact h below (List.mem_of_getElem? hbelow)
  | field => cases hbelow

@[simp]
theorem distinctKeys_tuple (items : List (Nested K S)) :
    (tuple items).DistinctKeys ↔ ∀ value ∈ items, value.DistinctKeys := by
  refine ⟨fun h value hvalue => ?_, fun h => DistinctKeys.of_child (fun _ h => nomatch h) ?_⟩
  · obtain ⟨i, hi⟩ := List.getElem?_of_mem hvalue
    exact h.child (.item i) hi
  · intro step below hbelow
    cases step with
    | item i => exact h below (List.mem_of_getElem? hbelow)
    | field => cases hbelow

@[simp]
theorem distinctKeys_dict (fields : List (K × Nested K S)) :
    (dict fields).DistinctKeys ↔
      (fields.map Prod.fst).Nodup ∧ ∀ field ∈ fields, field.2.DistinctKeys := by
  refine ⟨fun h => ⟨h.keys, fun field hfield => h.field hfield⟩,
    fun h => DistinctKeys.of_child ?_ ?_⟩
  · intro keys hkeys
    rw [← Head.dict.inj hkeys]
    exact h.1
  · intro step below hbelow
    cases step with
    | item => cases hbelow
    | field key =>
      obtain ⟨before, after, hfields, -⟩ := List.lookup_eq_some_iff.mp hbelow
      exact h.2 (key, below) (by simp [hfields])

theorem lookup_map_fields {α β : Type} (f : K → α → β) (fields : List (K × α)) (key : K) :
    (fields.map fun field => (field.1, f field.1 field.2)).lookup key =
      (fields.lookup key).map (f key) := by
  induction fields with
  | nil => rfl
  | cons field rest ih =>
    obtain ⟨name, value⟩ := field
    rw [List.map_cons, List.lookup_cons, List.lookup_cons]
    by_cases h : key = name
    · subst h
      simp
    · have hne : (key == name) = false := beq_false_of_ne h
      rw [hne]
      exact ih

/-- Fields with the same keys, none repeated, are equal when every key has the same value. -/
theorem fields_ext {α : Type} {fields fields' : List (K × α)}
    (hkeys : fields.map Prod.fst = fields'.map Prod.fst) (hnodup : (fields.map Prod.fst).Nodup)
    (h : ∀ key, fields.lookup key = fields'.lookup key) : fields = fields' := by
  induction fields generalizing fields' with
  | nil =>
    cases fields' with
    | nil => rfl
    | cons field rest => cases hkeys
  | cons field rest ih =>
    cases fields' with
    | nil => cases hkeys
    | cons field' rest' =>
      obtain ⟨key, value⟩ := field
      obtain ⟨key', value'⟩ := field'
      simp only [List.map_cons, List.cons.injEq] at hkeys
      obtain ⟨rfl, hkeys⟩ := hkeys
      rw [List.map_cons, List.nodup_cons] at hnodup
      have hvalue := h key
      simp only [List.lookup_cons, beq_self_eq_true, Option.some.injEq] at hvalue
      rw [hvalue, ih hkeys hnodup.2]
      intro other
      by_cases hother : other = key
      · subst hother
        have hleft := (lookup_isSome rest other).not.mpr hnodup.1
        have hright := (lookup_isSome rest' other).not.mpr (hkeys ▸ hnodup.1)
        rw [Option.not_isSome_iff_eq_none] at hleft hright
        rw [hleft, hright]
      · have hne : (other == key) = false := beq_false_of_ne hother
        simpa [List.lookup_cons, hne] using h other

/-- Two values are equal when they have the same head and the same values below. -/
theorem ext_child {v w : Nested K S} (hv : v.DistinctKeys) (hhead : v.head = w.head)
    (hchild : ∀ step, v.child step = w.child step) : v = w := by
  cases v with
  | scalar x =>
    cases w <;> cases hhead
    rfl
  | list items =>
    cases w with
    | list items' => rw [List.ext_getElem? fun i => hchild (.item i)]
    | scalar | tuple | dict => cases hhead
  | tuple items =>
    cases w with
    | tuple items' => rw [List.ext_getElem? fun i => hchild (.item i)]
    | scalar | list | dict => cases hhead
  | dict fields =>
    cases w with
    | dict fields' =>
      rw [fields_ext (Head.dict.inj hhead) hv.keys fun key => hchild (.field key)]
    | scalar | list | tuple => cases hhead

/-- Which steps lead further is seen at the head. -/
theorem child_isSome (value : Nested K S) (step : Step K) :
    (value.child step).isSome = value.head.leads step := by
  cases value with
  | scalar => rfl
  | list items | tuple items =>
    cases step with
    | item i =>
      rw [Bool.eq_iff_iff]
      simp [child, head, Head.leads]
    | field => rfl
  | dict fields =>
    cases step with
    | item => rfl
    | field key =>
      rw [Bool.eq_iff_iff, child, lookup_isSome]
      simp [head, Head.leads]

theorem child_sizeOf {v below : Nested K S} {step : Step K} (h : v.child step = some below) :
    sizeOf below < sizeOf v := by
  cases v with
  | scalar => cases step <;> cases h
  | list items =>
    cases step with
    | item i =>
      have hmem := List.sizeOf_lt_of_mem (List.mem_of_getElem? h)
      simp only [list.sizeOf_spec]
      omega
    | field => cases h
  | tuple items =>
    cases step with
    | item i =>
      have hmem := List.sizeOf_lt_of_mem (List.mem_of_getElem? h)
      simp only [tuple.sizeOf_spec]
      omega
    | field => cases h
  | dict fields =>
    cases step with
    | item => cases h
    | field key =>
      obtain ⟨before, after, hfields, -⟩ := List.lookup_eq_some_iff.mp h
      have hmem : (key, below) ∈ fields := by simp [hfields]
      have hsize := List.sizeOf_lt_of_mem hmem
      simp only [Prod.mk.sizeOf_spec] at hsize
      simp only [dict.sizeOf_spec]
      omega

/-- Induction over the values below a value. -/
theorem child_induction {P : Nested K S → Prop}
    (h : ∀ v, (∀ step below, v.child step = some below → P below) → P v) (v : Nested K S) : P v :=
  h v fun _ below _ => child_induction h below
termination_by sizeOf v
decreasing_by exact child_sizeOf (by assumption)

end Paths

end Nested

end SupportPilot.Library
