import SupportPilot.Workspaces.Services

/-!
# Every workspace has one owner

Role changes, removals and re-activations check the membership object that they were given and
then write its row. When a transfer has made that row the owner's in between, the workspace loses
its owner; as long as no such row is written, every workspace keeps exactly one.
-/

namespace SupportPilot.Workspaces

open Library

variable {s s' : Store} {l : MembershipCall} {k j w : Nat} {m m' : WorkspaceMembership}

/-! ## What a call does -/

/-- The row that a call writes after checks on its object alone. -/
def MembershipCall.unchecked : MembershipCall → Option Nat
  | .add _ _ _ _ existing => existing.map (·.pk)
  | .changeRole _ _ target _ | .remove _ _ target => some target.pk
  | .create _ | .transfer .. => none

/-- What a step of the system does to the memberships. -/
inductive MembershipChange (s : Store) : MembershipCall → Store → Prop
  | created {actor : Nat} : MembershipChange s (.create actor) (s.createWorkspace actor)
  | added {w : Nat} {actor : MembershipObject} {user : Nat} {role : WorkspaceRole} :
      role ≠ .owner → s.resolved w actor →
      MembershipChange s (.add w actor user role none) { s with
        memberships := s.memberships.insert { workspace := w, user := user, role := role } }
  | written {l : MembershipCall} {k : Nat} {f : WorkspaceMembership → WorkspaceMembership} :
      l.unchecked = some k → (∀ m, (f m).workspace = m.workspace ∧ (f m).user = m.user) →
      (∀ m, m.role ≠ .owner → (f m).role ≠ .owner) →
      MembershipChange s l { s with memberships := s.memberships.update k f }
  | transferred {w : Nat} {actor newOwner : MembershipObject} {m m' : WorkspaceMembership} :
      s.resolved w actor → s.memberships.Loaded newOwner → newOwner.value.workspace = w →
      newOwner.value.user ≠ actor.value.user →
      s.memberships.rows[actor.pk]? = some m → s.memberships.rows[newOwner.pk]? = some m' →
      m.role = .owner → m'.isActive = true →
      MembershipChange s (.transfer w actor newOwner) { s with
        memberships := Store.handOver s.memberships actor.pk newOwner.pk }

theorem addWorkspaceMember_change {actor : MembershipObject} {user : Nat} {role : WorkspaceRole}
    {existing : Option MembershipObject} (hactor : s.resolved w actor)
    (h : s.addWorkspaceMember w actor user role existing = some s') :
    MembershipChange s (.add w actor user role existing) s' := by
  unfold Store.addWorkspaceMember at h
  split at h
  · cases h
  · rename_i hrole
    split at h
    · cases h
    · split at h
      · split at h
        · cases h
        · split at h
          · cases h
          · cases h
            exact .written rfl (fun _ => ⟨rfl, rfl⟩) fun _ _ => hrole
      · split at h
        · cases h
        · cases h
          exact .added hrole hactor

theorem changeWorkspaceMemberRole_change {actor target : MembershipObject}
    {newRole : WorkspaceRole}
    (h : s.changeWorkspaceMemberRole w actor target newRole = some s') :
    MembershipChange s (.changeRole w actor target newRole) s' := by
  unfold Store.changeWorkspaceMemberRole at h
  split at h
  · cases h
  · split at h
    · cases h
    · rename_i hrole
      split at h
      · cases h
      · split at h
        · cases h
        · split at h
          · cases h
          · cases h
            exact .written rfl (fun _ => ⟨rfl, rfl⟩) fun _ _ => hrole

theorem removeWorkspaceMember_change {actor target : MembershipObject}
    (h : s.removeWorkspaceMember w actor target = some s') :
    MembershipChange s (.remove w actor target) s' := by
  unfold Store.removeWorkspaceMember at h
  split at h
  · cases h
  · split at h
    · cases h
    · split at h
      · cases h
      · cases h
        exact .written rfl (fun _ => ⟨rfl, rfl⟩) fun _ hrole => hrole

theorem transferWorkspaceOwnership_change {actor newOwner : MembershipObject}
    (hactor : s.resolved w actor) (hnew : s.memberships.Loaded newOwner)
    (h : s.transferWorkspaceOwnership w actor newOwner = some s') :
    MembershipChange s (.transfer w actor newOwner) s' := by
  unfold Store.transferWorkspaceOwnership at h
  split at h
  · cases h
  · split at h
    · cases h
    · rename_i hworkspace
      split at h
      · cases h
      · split at h
        · cases h
        · rename_i huser
          obtain ⟨m, hm, h⟩ := Option.bind_eq_some_iff.mp h
          obtain ⟨m', hm', h⟩ := Option.bind_eq_some_iff.mp h
          split at h
          · cases h
          · rename_i hrole
            split at h
            · cases h
            · rename_i hactive
              simp only at h
              split at h
              · cases h
                exact .transferred hactor hnew (not_not.mp hworkspace) huser hm hm'
                  (not_not.mp hrole) (by simpa using hactive)
              · cases h

theorem step_change (h : memberships.step l s = some s') : MembershipChange s l s' := by
  have hstep : membershipStep l s = some s' := h
  unfold membershipStep at hstep
  split at hstep
  · cases hstep
    exact .created
  all_goals
    split at hstep
    · rename_i hguard
      first
        | exact addWorkspaceMember_change hguard.1 hstep
        | exact changeWorkspaceMemberRole_change hstep
        | exact removeWorkspaceMember_change hstep
        | exact transferWorkspaceOwnership_change hguard.1 hguard.2 hstep
    · cases hstep

/-! ## One owner -/

/-- The rows that own a workspace. -/
def owns (w : Nat) (m : WorkspaceMembership) : Bool := m.workspace = w && m.activeOwner

/-- Every workspace has exactly one active owner. -/
def OneOwner (s : Store) : Prop :=
  ∀ w, w < s.workspaces → s.memberships.rows.countP (owns w) = 1

/-- A step leaves an owner's row as it is, or hands the workspace over to another row. -/
def OwnersKept (l : MembershipCall) (s s' : Store) : Prop :=
  ∀ (k : Nat) (m : WorkspaceMembership), s.memberships.rows[k]? = some m →
    m.activeOwner = true → s'.memberships.rows[k]? = some m ∨
      ∃ actor newOwner m', l = .transfer m.workspace actor newOwner ∧ newOwner.pk ≠ k ∧
        s'.memberships.rows[newOwner.pk]? = some m' ∧ owns m.workspace m' = true

/-- The call writes no row that is an owner's by now. -/
def SparesOwner (s : Store) (l : MembershipCall) : Prop :=
  (l.unchecked).all (fun k => (s.memberships.rows[k]?).all fun m => !m.activeOwner) = true

instance (s : Store) (l : MembershipCall) : Decidable (SparesOwner s l) := by
  unfold SparesOwner
  infer_instance

/-- The memberships of workspaces that have one owner each. -/
structure Owned (s : Store) : Prop where
  known : s.memberships.Always fun _ m => m.workspace < s.workspaces
  workspace : s.memberships.Fixed (·.workspace)
  user : s.memberships.Fixed (·.user)
  active : ∀ m ∈ s.memberships.rows, m.role = .owner → m.isActive = true
  one : OneOwner s

theorem activeOwner_of_role (hrole : m.role = .owner) (hactive : m.isActive = true) :
    m.activeOwner = true := by
  simp only [WorkspaceMembership.activeOwner, hrole, hactive, decide_true, Bool.and_self]

theorem owns_of_role (h : m.role ≠ .owner) (w : Nat) : owns w m = false := by
  simp only [owns, WorkspaceMembership.activeOwner, h, decide_false, Bool.false_and,
    Bool.and_false]

theorem SparesOwner.role (hs : Owned s) (h : SparesOwner s l) (hk : l.unchecked = some k)
    (hm : s.memberships.rows[k]? = some m) : m.role ≠ .owner := by
  intro hrole
  have hactive := hs.active m (List.mem_of_getElem? hm) hrole
  unfold SparesOwner at h
  rw [hk, Option.all_some, hm, Option.all_some, activeOwner_of_role hrole hactive] at h
  cases h

theorem Owned.empty : Owned .empty where
  known := .empty _
  workspace := .empty _
  user := .empty _
  active m hm := by cases hm
  one w hw := by cases hw

theorem Owned.created {actor : Nat} (hs : Owned s) : Owned (s.createWorkspace actor) where
  known := by
    refine Versioned.Always.insert (fun o ho => ?_) (Nat.lt_succ_self _)
    exact Nat.lt_succ_of_lt (hs.known o ho)
  workspace := hs.workspace.insert
  user := hs.user.insert
  active m hm hrole := by
    rcases List.mem_append.mp hm with hold | hnew
    · exact hs.active m hold hrole
    · rw [List.mem_singleton.mp hnew]
  one w hw := by
    show (s.memberships.rows ++ [_]).countP (owns w) = 1
    rw [List.countP_append, List.countP_singleton]
    by_cases hnew : w = s.workspaces
    · have hnone : s.memberships.rows.countP (owns w) = 0 := by
        refine List.countP_eq_zero.mpr fun m hm howns => ?_
        obtain ⟨j, hj⟩ := List.mem_iff_getElem?.mp hm
        have hlt := hs.known.row hj
        simp only [owns, Bool.and_eq_true, decide_eq_true_eq] at howns
        omega
      rw [hnone, hnew]
      simp [owns, WorkspaceMembership.activeOwner]
    · have hlt : w < s.workspaces + 1 := hw
      rw [hs.one w (by omega)]
      simp [owns, Ne.symm hnew]

theorem Owned.added {actor : MembershipObject} {user : Nat} {role : WorkspaceRole} (hs : Owned s)
    (hrole : role ≠ .owner) (hactor : s.resolved w actor) :
    Owned { s with
      memberships := s.memberships.insert { workspace := w, user := user, role := role } } where
  known := by
    refine Versioned.Always.insert hs.known ?_
    have hknown : actor.value.workspace < s.workspaces := hs.known actor hactor.1
    rwa [hactor.2.1] at hknown
  workspace := hs.workspace.insert
  user := hs.user.insert
  active m hm hm' := by
    rcases List.mem_append.mp hm with hold | hnew
    · exact hs.active m hold hm'
    · rw [List.mem_singleton.mp hnew]
  one w' hw' := by
    show (s.memberships.rows ++ [_]).countP (owns w') = 1
    rw [List.countP_append, List.countP_singleton, owns_of_role hrole, hs.one w' hw']
    rfl

/-- A write that makes no owner and touches none leaves the owners alone. -/
theorem countP_owns_update {t : Versioned WorkspaceMembership}
    {f : WorkspaceMembership → WorkspaceMembership}
    (hf : ∀ m, t.rows[k]? = some m → owns w (f m) = owns w m) :
    (t.update k f).rows.countP (owns w) = t.rows.countP (owns w) := by
  rw [Versioned.rows_update]
  cases hk : t.rows[k]? with
  | none => rw [List.modify_eq_self (List.getElem?_eq_none_iff.mp hk)]
  | some m =>
    have hcount := countP_set (p := owns w) (b := f m) hk
    rw [modify_eq_set hk]
    rw [hf m hk] at hcount
    omega

theorem Owned.written {f : WorkspaceMembership → WorkspaceMembership} (hs : Owned s)
    (hkept : ∀ m, (f m).workspace = m.workspace ∧ (f m).user = m.user)
    (hrole : ∀ m, m.role ≠ .owner → (f m).role ≠ .owner)
    (hk : ∀ m, s.memberships.rows[k]? = some m → m.role ≠ .owner) :
    Owned { s with memberships := s.memberships.update k f } where
  known := by
    refine Versioned.Always.update hs.known fun m hm => ?_
    rw [(hkept m).1]
    exact hs.known.row hm
  workspace := hs.workspace.update fun m => (hkept m).1
  user := hs.user.update fun m => (hkept m).2
  active m hm hm' := by
    obtain ⟨j, hj⟩ := List.mem_iff_getElem?.mp hm
    rcases Versioned.update_cases hj with ⟨rfl, a, ha, rfl⟩ | ⟨-, hj⟩
    · exact absurd hm' (hrole a (hk a ha))
    · exact hs.active m (List.mem_of_getElem? hj) hm'
  one w hw := by
    show (s.memberships.update k f).rows.countP (owns w) = 1
    rw [countP_owns_update fun m hm => ?_, hs.one w hw]
    rw [owns_of_role (hk m hm), owns_of_role (hrole m (hk m hm))]

/-- The rows of a transfer, and the two rows that it has locked. -/
structure Transfers (s : Store) (w : Nat) (actor newOwner : MembershipObject)
    (m m' : WorkspaceMembership) : Prop where
  ne : actor.pk ≠ newOwner.pk
  current : s.memberships.rows[actor.pk]? = some m
  new : s.memberships.rows[newOwner.pk]? = some m'
  workspace : m.workspace = w ∧ m'.workspace = w
  owner : m.role = .owner
  active : m.isActive = true ∧ m'.isActive = true

theorem Owned.transfers {actor newOwner : MembershipObject} (hs : Owned s)
    (hactor : s.resolved w actor) (hnew : s.memberships.Loaded newOwner)
    (hw : newOwner.value.workspace = w) (huser : newOwner.value.user ≠ actor.value.user)
    (hm : s.memberships.rows[actor.pk]? = some m)
    (hm' : s.memberships.rows[newOwner.pk]? = some m') (hrole : m.role = .owner)
    (hactive : m'.isActive = true) : Transfers s w actor newOwner m m' where
  ne hpk := by
    rw [← hpk, hm] at hm'
    cases hm'
    have huser₁ : m.user = actor.value.user := hs.user.object hactor.1 hm
    have huser₂ : m.user = newOwner.value.user := hs.user.object hnew (hpk ▸ hm)
    exact huser (huser₂.symm.trans huser₁)
  current := hm
  new := hm'
  workspace := by
    have hw₁ : m.workspace = actor.value.workspace := hs.workspace.object hactor.1 hm
    have hw₂ : m'.workspace = newOwner.value.workspace := hs.workspace.object hnew hm'
    exact ⟨hw₁.trans hactor.2.1, hw₂.trans hw⟩
  owner := hrole
  active := ⟨hs.active m (List.mem_of_getElem? hm) hrole, hactive⟩

section Transfer

variable {actor newOwner : MembershipObject}

theorem Transfers.owns (h : Transfers s w actor newOwner m m') (v : Nat) :
    owns v m = decide (w = v) := by
  simp only [Workspaces.owns, activeOwner_of_role h.owner h.active.1, h.workspace.1, Bool.and_true]

theorem Transfers.rows (h : Transfers s w actor newOwner m m') :
    (Store.handOver s.memberships actor.pk newOwner.pk).rows =
      (s.memberships.rows.set actor.pk { m with role := .admin }).set newOwner.pk
        { m' with role := .owner } := by
  show (s.memberships.rows.modify actor.pk _).modify newOwner.pk _ = _
  rw [modify_eq_set h.current]
  apply modify_eq_set
  rw [List.getElem?_set_ne h.ne, h.new]

/-- The workspace is handed over: one owner goes and another one comes. -/
theorem Transfers.countP (h : Transfers s w actor newOwner m m')
    (hone : s.memberships.rows.countP (Workspaces.owns w) = 1) (v : Nat) :
    (Store.handOver s.memberships actor.pk newOwner.pk).rows.countP (Workspaces.owns v) =
      s.memberships.rows.countP (Workspaces.owns v) := by
  have hdemoted : ∀ v, Workspaces.owns v { m with role := .admin } = false :=
    fun v => owns_of_role (by simp) v
  have hcurrent : ∀ v, (s.memberships.rows.set actor.pk { m with role := .admin }).countP
      (Workspaces.owns v) + (decide (w = v)).toNat =
        s.memberships.rows.countP (Workspaces.owns v) := by
    intro v
    have hset := countP_set (p := Workspaces.owns v) (b := { m with role := .admin }) h.current
    rw [hdemoted, h.owns] at hset
    simpa using hset
  have hrow : (s.memberships.rows.set actor.pk { m with role := .admin })[newOwner.pk]? =
      some m' := by
    rw [List.getElem?_set_ne h.ne, h.new]
  -- the new owner was none before, for the workspace has only one
  have hother : Workspaces.owns w m' = false := by
    by_contra howns
    have hpos := List.countP_pos_iff.mpr
      ⟨m', List.mem_of_getElem? hrow, (Bool.not_eq_false _).mp howns⟩
    have hzero := hcurrent w
    rw [hone, decide_eq_true rfl, Bool.toNat_true] at hzero
    omega
  have hother' : Workspaces.owns v m' = false := by
    by_cases hv : w = v
    · exact hv ▸ hother
    · simp only [Workspaces.owns, h.workspace.2, hv, decide_false, Bool.false_and]
  have hpromoted : Workspaces.owns v { m' with role := .owner } = decide (w = v) := by
    simp only [Workspaces.owns, WorkspaceMembership.activeOwner, h.workspace.2, h.active.2,
      decide_true, Bool.and_true]
  have hnew := countP_set (p := Workspaces.owns v) (b := { m' with role := .owner }) hrow
  have hold := hcurrent v
  rw [h.rows]
  rw [hother', hpromoted, Bool.toNat_false] at hnew
  omega

theorem Owned.transferred (hs : Owned s) (h : Transfers s w actor newOwner m m')
    (hw : w < s.workspaces) :
    Owned { s with memberships := Store.handOver s.memberships actor.pk newOwner.pk } where
  known := by
    refine Versioned.Always.update (Versioned.Always.update hs.known fun a ha => ?_) fun a ha => ?_
    · exact hs.known.row (a := a) ha
    · rcases Versioned.update_cases ha with ⟨hpk, -⟩ | ⟨-, hold⟩
      · exact absurd hpk.symm h.ne
      · exact hs.known.row (a := a) hold
  workspace := by
    apply Versioned.Fixed.update
    · exact hs.workspace.update fun _ => rfl
    · exact fun _ => rfl
  user := by
    apply Versioned.Fixed.update
    · exact hs.user.update fun _ => rfl
    · exact fun _ => rfl
  active a ha hrole := by
    obtain ⟨j, hj⟩ := List.mem_iff_getElem?.mp ha
    rcases Versioned.update_cases hj with ⟨rfl, b, hb, rfl⟩ | ⟨-, hj⟩
    · rcases Versioned.update_cases hb with ⟨hpk, -⟩ | ⟨-, hold⟩
      · exact absurd hpk.symm h.ne
      · rw [h.new] at hold
        cases hold
        exact h.active.2
    · rcases Versioned.update_cases hj with ⟨-, b, -, rfl⟩ | ⟨-, hold⟩
      · cases hrole
      · exact hs.active a (List.mem_of_getElem? hold) hrole
  one v hv := by
    show (Store.handOver s.memberships actor.pk newOwner.pk).rows.countP (Workspaces.owns v) = 1
    rw [h.countP (hs.one w hw), hs.one v hv]

end Transfer

/-! ## Main result -/

theorem Owned.step (hs : Owned s) (hp : SparesOwner s l) (h : MembershipChange s l s') :
    Owned s' ∧ OwnersKept l s s' := by
  cases h with
  | created => exact ⟨hs.created, fun k m hm _ => .inl (getElem?_append_some hm _)⟩
  | added hrole hactor =>
    exact ⟨hs.added hrole hactor, fun k m hm _ => .inl (getElem?_append_some hm _)⟩
  | @written _ j f hj hkept hrole =>
    have hnone := fun m hm => hp.role hs hj (m := m) hm
    refine ⟨hs.written hkept hrole hnone, fun k m hm howner => .inl ?_⟩
    show (s.memberships.rows.modify j f)[k]? = some m
    have hne : j ≠ k := by
      rintro rfl
      simp only [WorkspaceMembership.activeOwner, Bool.and_eq_true, decide_eq_true_eq] at howner
      exact hnone m hm howner.1
    rw [List.getElem?_modify_ne _ _ hne, hm]
  | @transferred w actor newOwner m₁ m₂ hactor hnew hw huser hm₁ hm₂ hrole hactive =>
    have htransfers := hs.transfers hactor hnew hw huser hm₁ hm₂ hrole hactive
    have hknown : actor.value.workspace < s.workspaces := hs.known actor hactor.1
    rw [hactor.2.1] at hknown
    refine ⟨hs.transferred htransfers hknown, fun k m hm howner => ?_⟩
    show (Store.handOver s.memberships actor.pk newOwner.pk).rows[k]? = some m ∨ _
    by_cases hk : actor.pk = k
    · subst hk
      rw [hm₁] at hm
      cases hm
      refine .inr ⟨actor, newOwner, { m₂ with role := .owner }, ?_, Ne.symm htransfers.ne, ?_, ?_⟩
      · rw [htransfers.workspace.1]
      · show (Store.handOver s.memberships actor.pk newOwner.pk).rows[newOwner.pk]? = _
        rw [htransfers.rows, List.getElem?_set_self]
        rw [List.length_set]
        exact (List.getElem?_eq_some_iff.mp hm₂).1
      · simp only [owns, WorkspaceMembership.activeOwner, htransfers.workspace.1,
          htransfers.workspace.2, htransfers.active.2, decide_true, Bool.and_self]
    · refine .inl ?_
      rw [htransfers.rows]
      by_cases hk' : newOwner.pk = k
      · -- the new owner's row is as it was, if it was an owner's row
        subst hk'
        rw [hm₂] at hm
        cases hm
        simp only [WorkspaceMembership.activeOwner, Bool.and_eq_true, decide_eq_true_eq] at howner
        rw [List.getElem?_set_self]
        · rw [← howner.1]
        · rw [List.length_set]
          exact (List.getElem?_eq_some_iff.mp hm₂).1
      · rw [List.getElem?_set_ne hk', List.getElem?_set_ne hk, hm]

/-- As long as no call writes a row that is an owner's by then, every workspace has exactly one
active owner, and its row is left alone until a transfer installs another one. -/
theorem one_active_owner (h : memberships.Reach SparesOwner s) :
    OneOwner s ∧ ∀ l s', SparesOwner s l → memberships.step l s = some s' → OwnersKept l s s' := by
  have hs : Owned s := by
    refine h.invariant ?_ fun s l s' _ hs hp hstep => (hs.step hp (step_change hstep)).1
    rintro t rfl
    exact .empty
  exact ⟨hs.one, fun l s' hp hstep => (hs.step hp (step_change hstep)).2⟩

def ownerObject : MembershipObject :=
  ⟨0, { workspace := 0, user := 1, role := .owner }⟩

def viewerObject : MembershipObject :=
  ⟨1, { workspace := 0, user := 2, role := .viewer }⟩

/-- A member joins and becomes the owner. -/
def transferredWorkspace : List MembershipCall :=
  [.create 1, .add 0 ownerObject 2 .viewer none, .transfer 0 ownerObject viewerObject]

def membershipsEnd (permits : Store → MembershipCall → Prop) [∀ s l, Decidable (permits s l)]
    (calls : List MembershipCall) : Store :=
  memberships.replayEnd permits calls .empty

theorem reaches_membershipsEnd (permits : Store → MembershipCall → Prop)
    [∀ s l, Decidable (permits s l)] (calls : List MembershipCall) :
    memberships.Reach permits (membershipsEnd permits calls) :=
  System.reach_replayEnd (.init rfl) calls

theorem one_active_owner_transferred :
    OneOwner (membershipsEnd SparesOwner transferredWorkspace) ∧
      (membershipsEnd SparesOwner transferredWorkspace).memberships.rows.map (·.role) =
        [.admin, .owner] :=
  ⟨(one_active_owner (reaches_membershipsEnd SparesOwner transferredWorkspace)).1, by decide⟩

/-- The role of the new owner is changed, or its membership removed, with the object that was
loaded before the transfer. -/
theorem owner_lost :
    (¬ ∀ s, memberships.Reach (fun _ _ => True) s → OneOwner s) ∧
      ¬ ∀ s l s', memberships.Reach (fun _ _ => True) s → memberships.step l s = some s' →
        OwnersKept l s s' := by
  constructor
  · intro hlaw
    let calls := transferredWorkspace ++ [.changeRole 0 ownerObject viewerObject .supportAgent]
    have hone := hlaw _ (reaches_membershipsEnd (fun _ _ => True) calls) 0 (by decide)
    revert hone
    decide
  · intro hlaw
    let t := membershipsEnd (fun _ _ => True) transferredWorkspace
    have hremoved : (memberships.step (.remove 0 ownerObject viewerObject) t).map
        (fun t' => (t.memberships.rows[1]?.map (·.activeOwner), t'.memberships.rows[1]?.map
          (·.isActive))) = some (some true, some false) := by decide
    obtain ⟨t', ht', hfields⟩ := Option.map_eq_some_iff.mp hremoved
    simp only [Prod.mk.injEq] at hfields
    obtain ⟨m, hm, howner⟩ := Option.map_eq_some_iff.mp hfields.1
    have hkept := hlaw t _ t' (reaches_membershipsEnd (fun _ _ => True) transferredWorkspace) ht'
      1 m hm howner
    rcases hkept with hsame | ⟨_, _, _, hlabel, _⟩
    · have hinactive := hfields.2
      rw [hsame, Option.map_some, Option.some.injEq] at hinactive
      simp only [WorkspaceMembership.activeOwner, hinactive, Bool.and_false] at howner
      cases howner
    · cases hlabel

end SupportPilot.Workspaces
