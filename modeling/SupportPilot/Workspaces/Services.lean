import SupportPilot.Library.Transition
import SupportPilot.Library.Versions
import SupportPilot.Workspaces.Models

/-!
# The membership services

Every service is called with membership objects that the request has loaded at some earlier
moment, and only the transfer of ownership reads the rows again.
-/

namespace SupportPilot.Workspaces

open Library

abbrev MembershipObject := Object WorkspaceMembership

structure Store where
  workspaces : Nat
  memberships : Versioned WorkspaceMembership
  deriving DecidableEq

def Store.empty : Store := ⟨0, .empty⟩

namespace Store

def createWorkspace (s : Store) (actor : Nat) : Store where
  workspaces := s.workspaces + 1
  memberships := s.memberships.insert
    { workspace := s.workspaces, user := actor, role := .owner, isActive := true }

/-- `add_workspace_member` for the account that was found, with the membership of that account
that was read before the write, if there was one. -/
def addWorkspaceMember (s : Store) (workspace : Nat) (actorMembership : MembershipObject)
    (targetUser : Nat) (role : WorkspaceRole) (existing : Option MembershipObject) :
    Option Store :=
  if role = .owner then none
  else if canManageTargetRole actorMembership.value.role role = false then none
  else
    match existing with
    | some found =>
      if found.value.workspace ≠ workspace ∨ found.value.user ≠ targetUser then none
      else if found.value.isActive then none
      else some { s with memberships :=
        s.memberships.update found.pk fun m => { m with role := role, isActive := true } }
    | none =>
      if s.memberships.rows.any fun m => m.workspace = workspace && m.user = targetUser then none
      else some { s with memberships :=
        s.memberships.insert { workspace := workspace, user := targetUser, role := role } }

def changeWorkspaceMemberRole (s : Store) (workspace : Nat)
    (actorMembership targetMembership : MembershipObject) (newRole : WorkspaceRole) :
    Option Store :=
  if targetMembership.value.workspace ≠ workspace then none
  else if newRole = .owner then none
  else if targetMembership.value.role = .owner then none
  else if canManageTargetRole actorMembership.value.role newRole = false then none
  else if canManageTargetRole actorMembership.value.role targetMembership.value.role = false
    then none
  else some { s with memberships :=
    s.memberships.update targetMembership.pk fun m => { m with role := newRole } }

def removeWorkspaceMember (s : Store) (workspace : Nat)
    (actorMembership targetMembership : MembershipObject) : Option Store :=
  if targetMembership.value.workspace ≠ workspace then none
  else if targetMembership.value.role = .owner then none
  else if canManageTargetRole actorMembership.value.role targetMembership.value.role = false
    then none
  else some { s with memberships :=
    s.memberships.update targetMembership.pk fun m => { m with isActive := false } }

/-- The rows after a transfer between two locked rows. -/
def handOver (t : Versioned WorkspaceMembership) (currentOwner newOwner : Nat) :
    Versioned WorkspaceMembership :=
  (t.update currentOwner fun m => { m with role := .admin }).update newOwner fun m =>
    { m with role := .owner }

def transferWorkspaceOwnership (s : Store) (workspace : Nat)
    (actorMembership newOwnerMembership : MembershipObject) : Option Store :=
  if actorMembership.value.role ≠ .owner then none
  else if newOwnerMembership.value.workspace ≠ workspace then none
  else if newOwnerMembership.value.isActive = false then none
  else if newOwnerMembership.value.user = actorMembership.value.user then none
  else
    (s.memberships.rows[actorMembership.pk]?).bind fun currentOwner =>
      (s.memberships.rows[newOwnerMembership.pk]?).bind fun newOwner =>
        if currentOwner.role ≠ .owner then none
        else if newOwner.isActive = false then none
        else
          let after := handOver s.memberships actorMembership.pk newOwnerMembership.pk
          if after.rows.countP
              (fun m => m.workspace = newOwner.workspace && m.activeOwner) ≤ 1 then
            some { s with memberships := after }
          else none

end Store

/-! ## The system -/

inductive MembershipCall
  | create (actor : Nat)
  | add (workspace : Nat) (actor : MembershipObject) (user : Nat) (role : WorkspaceRole)
    (existing : Option MembershipObject)
  | changeRole (workspace : Nat) (actor target : MembershipObject) (newRole : WorkspaceRole)
  | remove (workspace : Nat) (actor target : MembershipObject)
  | transfer (workspace : Nat) (actor newOwner : MembershipObject)
  deriving DecidableEq

/-- The actor's membership is the one that the view has resolved in the workspace. -/
def Store.resolved (s : Store) (workspace : Nat) (actor : MembershipObject) : Prop :=
  s.memberships.Loaded actor ∧ actor.value.workspace = workspace ∧ actor.value.isActive = true

instance (s : Store) (workspace : Nat) (actor : MembershipObject) :
    Decidable (s.resolved workspace actor) := by
  unfold Store.resolved
  infer_instance

def membershipStep : MembershipCall → Store → Option Store
  | .create actor, s => some (s.createWorkspace actor)
  | .add workspace actor user role existing, s =>
    if s.resolved workspace actor ∧ ∀ found ∈ existing, s.memberships.Loaded found then
      s.addWorkspaceMember workspace actor user role existing
    else none
  | .changeRole workspace actor target newRole, s =>
    if s.resolved workspace actor ∧ s.memberships.Loaded target then
      s.changeWorkspaceMemberRole workspace actor target newRole
    else none
  | .remove workspace actor target, s =>
    if s.resolved workspace actor ∧ s.memberships.Loaded target then
      s.removeWorkspaceMember workspace actor target
    else none
  | .transfer workspace actor newOwner, s =>
    if s.resolved workspace actor ∧ s.memberships.Loaded newOwner then
      s.transferWorkspaceOwnership workspace actor newOwner
    else none

/-- Calls of the membership services over an empty table. -/
def memberships : System Store MembershipCall where
  initial s := s = .empty
  step := membershipStep

end SupportPilot.Workspaces
