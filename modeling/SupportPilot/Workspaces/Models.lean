import Mathlib.Data.List.Basic

/-!
# Workspaces and their members
-/

namespace SupportPilot.Workspaces

inductive WorkspaceRole
  | owner
  | admin
  | supportManager
  | supportAgent
  | viewer
  deriving DecidableEq, Repr

/-- A workspace and a user stand for their ids. -/
structure WorkspaceMembership where
  workspace : Nat
  user : Nat
  role : WorkspaceRole
  isActive : Bool := true
  deriving DecidableEq, Repr

def canManageTargetRole (actorRole targetRole : WorkspaceRole) : Bool :=
  if targetRole = .owner then false
  else if actorRole = .owner then true
  else if actorRole = .admin then targetRole ≠ .admin
  else false

/-- The condition of `uniq_active_owner_per_ws`. -/
def WorkspaceMembership.activeOwner (m : WorkspaceMembership) : Bool :=
  m.role = .owner && m.isActive

end SupportPilot.Workspaces
