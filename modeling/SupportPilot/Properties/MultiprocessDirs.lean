import SupportPilot.Observability.PrometheusPaths

/-!
# What a wiped directory takes with it

The guard compares the resolved path with the directories that must stay, and wiping it takes all
that lies beneath. The two differ where such a directory lies strictly beneath the path.
-/

namespace SupportPilot.Observability

open Library

namespace Machine

/-- The directories that must stay: the root, the home directory, the working directory and the
checkouts. -/
def Protected (m : Machine) (directory : AbsolutePath) : Prop :=
  directory = [] ∨ m.resolvedHome = .ok (some directory) ∨
    m.resolvedCwd = .ok (some directory) ∨ m.isCheckout directory = true

/-- Wiping the path removes no such directory, and the path leads to none. -/
def Harmless (m : Machine) (path : AbsolutePath) : Prop :=
  ∀ directory, m.Protected directory →
    ¬ (m.tree.IsDir directory ∧ ¬ (m.tree.remove path).IsDir directory) ∧ ¬ path <+: directory

variable {m : Machine} {text : CodePoints} {resolved : AbsolutePath}

theorem resolvedCwd_ok (m : Machine) : m.resolvedCwd = .ok m.cwd := by
  unfold resolvedCwd
  split
  case h_1 hcwd => rw [hcwd]
  case h_2 path hcwd => rw [m.cwd_resolved path hcwd, hcwd]

theorem resolvedHome_ok (m : Machine) : ∃ home, m.resolvedHome = .ok home := by
  have hstart : ∀ text error, m.resolve text = .error error → codePoint '\x00' ∉ text →
      error = .osError ∨ error = .runtimeError := by
    intro text error herror htext
    unfold resolve at herror
    rw [if_neg htext] at herror
    split at herror
    case h_1 start error' hstart =>
      split at hstart
      · cases hstart
      · split at hstart
        · cases hstart
          cases herror
          exact .inl rfl
        · cases hstart
    case h_2 =>
      split at herror
      · cases herror
        exact .inr rfl
      · cases herror
  unfold resolvedHome
  split
  · exact ⟨_, rfl⟩
  case h_2 text hhome =>
    cases hresolve : m.resolve text with
    | ok path => exact ⟨_, rfl⟩
    | error error =>
      rcases hstart text error hresolve (m.home_text text hhome) with rfl | rfl <;> exact ⟨_, rfl⟩

/-- The guard accepts a path exactly when it is deep enough and is itself none of the directories
that must stay. -/
theorem assertSafeMultiprocessDir_ok :
    m.assertSafeMultiprocessDir text = .ok resolved ↔
      m.resolve text = .ok resolved ∧ minimumSegmentsBelowAnchor ≤ resolved.length ∧
        ¬ m.Protected resolved := by
  unfold assertSafeMultiprocessDir isSafeMultiprocessDir
  obtain ⟨home, hhome⟩ := resolvedHome_ok m
  rw [hhome, resolvedCwd_ok m]
  cases hresolve : m.resolve text with
  | error error => cases error <;> simp [bind, Except.bind]
  | ok path =>
    simp only [bind, Except.bind, Protected, hhome, resolvedCwd_ok m, Except.ok.injEq]
    constructor
    · intro h
      split at h
      · cases h
      case h_2 safe hsafe =>
        split_ifs at hsafe with hroot hshort hhome' hcwd hcheckout hparent
        all_goals obtain rfl := Except.ok.inj hsafe
        all_goals simp only [Bool.false_eq_true, if_false, if_true, reduceCtorEq] at h
        obtain rfl := Except.ok.inj h
        refine ⟨rfl, Nat.le_of_not_lt hshort, ?_⟩
        rintro (hprotected | hprotected | hprotected | hprotected)
        · exact hroot hprotected
        · exact hhome' hprotected
        · exact hcwd hprotected
        · exact hcheckout hprotected
    · rintro ⟨rfl, hlong, hfree⟩
      simp only [not_or] at hfree
      obtain ⟨hroot, hhome', hcwd, hcheckout⟩ := hfree
      have hparent : path.dropLast ≠ path := by
        intro h
        have hlength := congrArg List.length h
        have hpositive := List.length_pos_of_ne_nil hroot
        rw [List.length_dropLast] at hlength
        omega
      rw [if_neg hroot, if_neg (Nat.not_lt.mpr hlong), if_neg hhome', if_neg hcwd,
        if_neg hcheckout, if_neg hparent]
      rfl

/-- The guard keeps its promise exactly when none of the directories that must stay lies strictly
beneath the resolved path, unless it refuses the path for what it is itself. -/
theorem assertSafeMultiprocessDir_harmless_iff (m : Machine) (text : CodePoints) :
    (∀ resolved, m.assertSafeMultiprocessDir text = .ok resolved → m.Harmless resolved) ↔
      ∀ resolved, m.resolve text = .ok resolved →
        resolved.length < minimumSegmentsBelowAnchor ∨ m.Protected resolved ∨
          ∀ directory, m.Protected directory → resolved <+: directory → directory = resolved := by
  constructor
  · intro h resolved hresolve
    by_cases hshort : resolved.length < minimumSegmentsBelowAnchor
    · exact .inl hshort
    · by_cases hprotected : m.Protected resolved
      · exact .inr (.inl hprotected)
      · refine .inr (.inr fun directory hdirectory hbelow => ?_)
        have haccepted : m.assertSafeMultiprocessDir text = .ok resolved :=
          assertSafeMultiprocessDir_ok.mpr ⟨hresolve, Nat.le_of_not_lt hshort, hprotected⟩
        exact absurd hbelow (h resolved haccepted directory hdirectory).2
  · intro h resolved haccepted directory hdirectory
    obtain ⟨hresolve, hlong, hfree⟩ := assertSafeMultiprocessDir_ok.mp haccepted
    have hne : resolved ≠ [] := by
      rintro rfl
      exact absurd hlong (by decide)
    have hbeneath : ¬ resolved <+: directory := by
      intro hbelow
      obtain hshort | hprotected | hbeneath := h resolved hresolve
      · exact absurd hshort (Nat.not_lt.mpr hlong)
      · exact hfree hprotected
      · exact hfree (hbeneath directory hdirectory hbelow ▸ hdirectory)
    exact ⟨fun hremoved => hbeneath ((FileTree.removed_iff hne).mp hremoved).2, hbeneath⟩

end Machine

/-! ## A working directory beneath the path -/

/-- A user's home directory with the checkout that the process runs in. -/
def sampleTree : FileTree CodePoints :=
  .dir [(codePoints "home", .dir [(codePoints "deploy", .dir [(codePoints "supportpilot",
    .dir [(codePoints "manage.py", .file)])])])]

def sampleCheckout : AbsolutePath :=
  [codePoints "home", codePoints "deploy", codePoints "supportpilot"]

def sampleMachine : Machine where
  tree := sampleTree
  maxLinkDepth := 40
  cwd := some sampleCheckout
  home := some (codePoints "/root")
  cwd_resolved := by
    intro path hpath
    obtain rfl := Option.some.inj hpath
    decide
  home_text := by
    intro text htext
    obtain rfl := Option.some.inj htext
    decide

/-- The directory above the checkout is accepted, and wiping it removes the checkout. -/
theorem assertSafeMultiprocessDir_removes_checkout :
    sampleMachine.assertSafeMultiprocessDir (codePoints "/home/deploy") =
        .ok [codePoints "home", codePoints "deploy"] ∧
      sampleMachine.Protected sampleCheckout ∧
      sampleTree.IsDir sampleCheckout ∧
      ¬ (sampleTree.remove [codePoints "home", codePoints "deploy"]).IsDir sampleCheckout := by
  have hresolved : sampleMachine.resolve (codePoints "/home/deploy") =
      .ok [codePoints "home", codePoints "deploy"] := by decide
  have hhome : sampleMachine.resolvedHome = .ok (some [codePoints "root"]) := by decide
  have hfree : ¬ sampleMachine.Protected [codePoints "home", codePoints "deploy"] := by
    simp only [Machine.Protected, hhome, Machine.resolvedCwd_ok]
    decide
  have hdir : sampleTree.IsDir sampleCheckout := ⟨_, rfl⟩
  have hbelow : [codePoints "home", codePoints "deploy"] <+: sampleCheckout := ⟨_, rfl⟩
  exact ⟨Machine.assertSafeMultiprocessDir_ok.mpr ⟨hresolved, by decide, hfree⟩,
    .inr (.inr (.inr (by decide))), hdir,
    ((FileTree.removed_iff (List.cons_ne_nil _ _)).mpr ⟨hdir, hbelow⟩).2⟩

end SupportPilot.Observability
