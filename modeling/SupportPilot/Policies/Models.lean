import SupportPilot.Approvals.Models
import SupportPilot.Library.Text

/-!
# Policies, their versions and rules

Only the rules that pass the validation of their configuration are stored, so a configuration is
the list of its entries. The key of a rule is its position in the table.
-/

namespace SupportPilot.Policies

open Library

inductive RiskLevel
  | readOnly
  | low
  | medium
  | high
  | critical
  deriving DecidableEq, Repr

inductive SideEffectType
  | none
  | read
  | internalWrite
  | externalWrite
  | financial
  | destructive
  deriving DecidableEq, Repr

inductive PolicyStatus
  | draft
  | active
  | inactive
  | archived
  deriving DecidableEq, Repr

inductive PolicyVersionStatus
  | draft
  | active
  | superseded
  deriving DecidableEq, Repr

def maxRulesPerVersion : Nat := 50

structure Policy where
  workspace : Nat
  status : PolicyStatus := .draft
  deriving DecidableEq, Repr

structure PolicyVersion where
  policy : Nat
  version : Nat
  status : PolicyVersionStatus := .draft
  publishedAt : Option Nat := none
  deriving DecidableEq, Repr

/-- One entry of a condition: a registered predicate and its parameters, as JSON text. -/
structure ConditionEntry where
  predicate : String
  params : String
  deriving DecidableEq, Repr

structure PolicyRule where
  policyVersion : Nat
  name : String
  priority : Nat
  enabled : Bool := true
  toolKey : String := ""
  riskLevels : List RiskLevel := []
  sideEffectTypes : List SideEffectType := []
  conditionConfig : List ConditionEntry := []
  effect : PolicyEffect
  requiredRole : String := ""
  approvalTtlSeconds : Option Nat := none
  deriving DecidableEq, Repr

/-- The limits on the columns that `full_clean` checks. -/
def PolicyRule.clean (rule : PolicyRule) : Bool :=
  rule.name ≠ "" && rule.name.length ≤ 200 && rule.toolKey.length ≤ 128 &&
    rule.requiredRole.length ≤ 32

structure RiskOutcome where
  baseRisk : RiskLevel
  effectiveRisk : RiskLevel
  sideEffectType : SideEffectType
  deriving DecidableEq, Repr

/-- The canonical arguments of a call: the two that the defaults read, and the JSON text of all. -/
structure Arguments where
  amountMinor : Option Rat := none
  currency : Option String := none
  canonical : String
  deriving DecidableEq, Repr

/-- A stored evaluation, together with the action that it was made for. -/
structure PolicyEvaluation where
  workspace : Nat
  toolKey : String
  risk : RiskOutcome
  arguments : Arguments
  policyVersion : Option Nat
  decision : PolicyEffect
  decisionCode : String
  safeReason : String
  matchedRuleIds : List Nat
  deriving DecidableEq, Repr

end SupportPilot.Policies
