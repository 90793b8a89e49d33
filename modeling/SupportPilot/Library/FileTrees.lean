import Mathlib.Data.List.Basic
import Mathlib.Data.List.Infix

/-!
# File trees

Directories, files and symbolic links. A path is the list of the names below the root. Following
components goes up and down the tree and through links, of which only so many may stand in one
another.
-/

namespace SupportPilot.Library

/-- A part of the text of a path. -/
inductive Component (N : Type)
  | here
  | parent
  | name (n : N)
  deriving DecidableEq, Repr

inductive FileTree (N : Type)
  | file
  | link (absolute : Bool) (target : List (Component N))
  | dir (entries : List (N × FileTree N))

namespace FileTree

variable {N : Type} [DecidableEq N]

/-- What stands at a path, links not followed. -/
def find : FileTree N → List N → Option (FileTree N)
  | t, [] => some t
  | dir entries, n :: rest => (entries.lookup n).bind fun t => t.find rest
  | _, _ :: _ => none

def IsDir (t : FileTree N) (path : List N) : Prop := ∃ entries, t.find path = some (dir entries)

/-! ## Links -/

/-- Components followed from a path, links by means of the function. -/
def follow (root : FileTree N) (expand : List N → List (Component N) → Option (List N)) :
    List N → List (Component N) → Option (List N)
  | path, [] => some path
  | path, .here :: rest => root.follow expand path rest
  | path, .parent :: rest => root.follow expand path.dropLast rest
  | path, .name n :: rest =>
    match root.find (path ++ [n]) with
    | some (.link absolute target) =>
      (expand (if absolute then [] else path) target).bind fun path => root.follow expand path rest
    | _ => root.follow expand (path ++ [n]) rest

/-- Components followed through links that stand at most this deep in one another. -/
def resolve (root : FileTree N) : Nat → List N → List (Component N) → Option (List N)
  | 0 => root.follow fun _ _ => none
  | depth + 1 => root.follow (root.resolve depth)

/-- Something stands behind the name, once links are followed. -/
def hasEntry (root : FileTree N) (depth : Nat) (path : List N) (n : N) : Bool :=
  match root.resolve depth path [.name n] with
  | none => false
  | some target => (root.find target).isSome

/-! ## Removal -/

/-- The tree without what stands at a path. -/
def remove : FileTree N → List N → FileTree N
  | dir entries, [n] => dir (entries.filter fun entry => entry.1 ≠ n)
  | dir entries, n :: rest =>
    dir (entries.map fun entry => if entry.1 = n then (n, entry.2.remove rest) else entry)
  | t, _ => t

theorem lookup_filter_self {α : Type} (entries : List (N × α)) (n : N) :
    (entries.filter fun entry => entry.1 ≠ n).lookup n = none := by
  rw [List.lookup_eq_none_iff]
  intro entry hentry
  have hne := of_decide_eq_true (List.mem_filter.mp hentry).2
  exact bne_iff_ne.mpr hne.symm

theorem lookup_filter_of_ne {α : Type} (entries : List (N × α)) {m n : N} (h : m ≠ n) :
    (entries.filter fun entry => entry.1 ≠ n).lookup m = entries.lookup m := by
  induction entries with
  | nil => rfl
  | cons entry rest ih =>
    obtain ⟨key, x⟩ := entry
    by_cases hkey : key = n
    · have hother : (m == key) = false := beq_false_of_ne (hkey ▸ h)
      rw [List.filter_cons_of_neg (by simpa using hkey), ih, List.lookup_cons, hother]
    · rw [List.filter_cons_of_pos (by simpa using hkey), List.lookup_cons, List.lookup_cons, ih]

theorem lookup_map_at {α : Type} (entries : List (N × α)) (f : α → α) (m n : N) :
    (entries.map fun entry => if entry.1 = n then (n, f entry.2) else entry).lookup m =
      (entries.lookup m).map (if m = n then f else id) := by
  induction entries with
  | nil => rfl
  | cons entry rest ih =>
    obtain ⟨key, x⟩ := entry
    rw [List.map_cons, List.lookup_cons, List.lookup_cons, ih]
    by_cases hkey : key = n
    · subst hkey
      by_cases hm : m = key
      · simp [hm]
      · simp [hm, beq_false_of_ne hm]
    · by_cases hm : m = key
      · subst hm
        simp [hkey]
      · simp [hkey, beq_false_of_ne hm]

/-- Nothing stands where the removed path leads on to. -/
theorem find_remove {t : FileTree N} {path below : List N} (hne : path ≠ [])
    (hbelow : path <+: below) : (t.remove path).find below = none := by
  induction path generalizing t below with
  | nil => exact absurd rfl hne
  | cons n rest ih =>
    obtain ⟨later, rfl⟩ := hbelow
    cases t with
    | file => rfl
    | link => rfl
    | dir entries =>
      cases rest with
      | nil =>
        rw [remove, List.cons_append, find, lookup_filter_self]
        rfl
      | cons next rest =>
        rw [remove, List.cons_append, find,
          lookup_map_at entries fun t => t.remove (next :: rest), if_pos rfl]
        · cases entries.lookup n with
          | none => rfl
          | some t => exact ih (List.cons_ne_nil _ _) (List.prefix_append _ _)
        · exact nofun

/-- Directories that the removed path does not lead to stay. -/
theorem isDir_remove {t : FileTree N} {path other : List N} (hother : ¬ path <+: other)
    (h : t.IsDir other) : (t.remove path).IsDir other := by
  induction path generalizing t other with
  | nil => exact absurd List.nil_prefix hother
  | cons n rest ih =>
    cases t with
    | file => exact h
    | link => exact h
    | dir entries =>
      cases other with
      | nil =>
        cases rest with
        | nil => exact ⟨_, rfl⟩
        | cons next rest => exact ⟨_, rfl⟩
      | cons m later =>
        obtain ⟨found, hfound⟩ := h
        rw [find] at hfound
        cases rest with
        | nil =>
          have hm : m ≠ n := by
            rintro rfl
            exact hother ⟨later, rfl⟩
          exact ⟨found, by rw [remove, find, lookup_filter_of_ne _ hm, hfound]⟩
        | cons next rest =>
          rw [IsDir, remove, find, lookup_map_at entries fun t => t.remove (next :: rest)]
          · cases hlookup : entries.lookup m with
            | none => simp [hlookup] at hfound
            | some t =>
              rw [hlookup, Option.bind_some] at hfound
              by_cases hm : m = n
              · subst hm
                have hlater : ¬ next :: rest <+: later := fun hprefix =>
                  hother (List.prefix_cons_inj m |>.mpr hprefix)
                obtain ⟨kept, hkept⟩ := ih hlater ⟨found, hfound⟩
                exact ⟨kept, by simpa using hkept⟩
              · exact ⟨found, by simpa [hm] using hfound⟩
          · exact nofun

/-- Removal takes away exactly the directories that the path leads to. -/
theorem removed_iff {t : FileTree N} {path other : List N} (hne : path ≠ []) :
    t.IsDir other ∧ ¬ (t.remove path).IsDir other ↔ t.IsDir other ∧ path <+: other := by
  refine and_congr_right fun hdir => ⟨fun hgone => ?_, fun hprefix ⟨entries, hentries⟩ => ?_⟩
  · by_contra hother
    exact hgone (isDir_remove hother hdir)
  · rw [find_remove hne hprefix] at hentries
    cases hentries

end FileTree

end SupportPilot.Library
