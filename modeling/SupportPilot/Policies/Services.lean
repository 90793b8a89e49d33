import SupportPilot.Library.Processes
import SupportPilot.Library.Versions
import SupportPilot.Policies.Evaluator

/-!
# Policy services and evaluations

Most services are one transaction on rows that it locks. `add_policy_rule` checks the version
object that it was given, counts the rules and inserts its rule, with no lock and in statements
of their own, and so does an evaluation read the active policy, its active version and the rules.
-/

namespace SupportPilot.Policies

open Library

abbrev PolicyVersionObject := Object PolicyVersion

structure Store where
  policies : Versioned Policy
  versions : Versioned PolicyVersion
  rules : List PolicyRule
  evaluations : List PolicyEvaluation
  deriving DecidableEq

def Store.empty : Store := ⟨.empty, .empty, [], []⟩

namespace Store

/-- The rules of a version with their keys. -/
def rulesOf (s : Store) (v : Nat) : List (Nat × PolicyRule) :=
  (s.rules.zipIdx.filter (·.1.policyVersion = v)).map fun (rule, id) => (id, rule)

def enabledRules (s : Store) (v : Nat) : List (Nat × PolicyRule) :=
  ((s.rulesOf v).filter (·.2.enabled)).mergeSort fun a b => a.2.priority ≤ b.2.priority

/-! ## Services -/

def createPolicy (s : Store) (workspace : Nat) : Store :=
  { s with policies := s.policies.insert { workspace := workspace } }

/-- The active policies of a workspace. -/
def activePolicy (workspace : Nat) (p : Policy) : Bool :=
  p.workspace = workspace && p.status = .active

/-- `update_policy` saves the whole row from its object, under
`policy_one_active_per_workspace`. -/
def updatePolicy (s : Store) (policy : Object Policy) : Option Store :=
  let after := s.policies.update policy.pk fun _ => policy.value
  if after.rows.countP (activePolicy policy.value.workspace) ≤ 1 then
    some { s with policies := after }
  else none

def activatePolicy (s : Store) (k : Nat) : Option Store :=
  (s.policies.rows[k]?).map fun policy =>
    let others := s.policies.updateAll fun j p =>
      if activePolicy policy.workspace p ∧ j ≠ k then { p with status := .inactive } else p
    { s with policies := others.update k fun p => { p with status := .active } }

def deactivatePolicy (s : Store) (k : Nat) : Option Store :=
  (s.policies.rows[k]?).map fun _ =>
    { s with policies := s.policies.update k fun p => { p with status := .inactive } }

def createPolicyVersion (s : Store) (policy : Nat) : Option Store :=
  if policy < s.policies.rows.length then
    let last := ((s.versions.rows.filter (·.policy = policy)).map (·.version)).max?
    some { s with versions :=
      s.versions.insert { policy := policy, version := (last.map (· + 1)).getD 1 } }
  else none

/-- The active versions of a policy. -/
def activeVersion (policy : Nat) (v : PolicyVersion) : Bool :=
  v.policy = policy && v.status = .active

def publishPolicyVersion (s : Store) (k now : Nat) : Option Store :=
  (s.versions.rows[k]?).bind fun locked =>
    if locked.status ≠ .draft then none
    else
      let others := s.versions.updateAll fun _ v =>
        if activeVersion locked.policy v then { v with status := .superseded } else v
      some { s with versions :=
        others.update k fun v => { v with status := .active, publishedAt := some now } }

/-- What `add_policy_rule` checks before it counts the rules of the version. -/
def addPolicyRuleStarts (version : PolicyVersionObject) : Bool := version.value.status = .draft

/-- The INSERT of `add_policy_rule`, with its unique indexes and `full_clean`. -/
def insertPolicyRule (cfg : PolicySettings) (s : Store) (rule : PolicyRule) : Option Store :=
  if rule.conditionConfig.any fun entry => (cfg.predicate entry.predicate).isNone then none
  else if rule.clean = false then none
  else if s.rules.any fun r => r.policyVersion = rule.policyVersion &&
      (r.name = rule.name || r.priority = rule.priority) then none
  else some { s with rules := s.rules ++ [rule] }

/-! ## Evaluations -/

/-- The first statement of `resolve_active_version`. -/
def findActivePolicy (s : Store) (workspace : Nat) : Option Nat :=
  s.policies.rows.findIdx? (activePolicy workspace)

def findActiveVersion (s : Store) (policy : Nat) : Option Nat :=
  s.versions.rows.findIdx? (activeVersion policy)

end Store

/-- The action that an evaluation is about. -/
structure PolicyAction where
  workspace : Nat
  toolKey : String
  risk : RiskOutcome
  arguments : Arguments
  deriving DecidableEq, Repr

/-- The row that the gate stores for the outcome of `evaluate_policy`. -/
def persistedEvaluation (action : PolicyAction) :
    Except String PolicyDecision → PolicyEvaluation
  | .ok decision =>
    { workspace := action.workspace, toolKey := action.toolKey, risk := action.risk
      arguments := action.arguments, policyVersion := decision.policyVersion
      decision := decision.decision, decisionCode := decision.decisionCode
      safeReason := truncate 500 decision.safeReason, matchedRuleIds := decision.matchedRuleIds }
  | .error message =>
    { workspace := action.workspace, toolKey := action.toolKey, risk := action.risk
      arguments := action.arguments, policyVersion := none, decision := .deny
      decisionCode := "policy_evaluation_failed", safeReason := truncate 500 message
      matchedRuleIds := [] }

/-! ## The program -/

/-- A call of `add_policy_rule` or of the policy gate between its statements. -/
inductive Proc
  | counting (version : PolicyVersionObject) (rule : PolicyRule)
  | inserting (rule : PolicyRule)
  | resolvingPolicy (action : PolicyAction)
  | resolvingVersion (action : PolicyAction) (policy : Nat)
  | evaluating (action : PolicyAction) (version : Option Nat)
  | persisting (evaluation : PolicyEvaluation)
  | ended
  deriving DecidableEq

inductive PolicyEvent
  | createPolicy (workspace : Nat)
  | updatePolicy (policy : Object Policy)
  | activatePolicy (k : Nat)
  | deactivatePolicy (k : Nat)
  | createPolicyVersion (policy : Nat)
  | publishPolicyVersion (k now : Nat)
  | addPolicyRule (version : PolicyVersionObject) (rule : PolicyRule)
  | runPolicyGate (action : PolicyAction)
  deriving DecidableEq

def policyStep : PolicyEvent → Store → Option (Store × Option Proc)
  | .createPolicy workspace, s => some (s.createPolicy workspace, none)
  | .updatePolicy policy, s =>
    if s.policies.Loaded policy then (s.updatePolicy policy).map (·, none) else none
  | .activatePolicy k, s => (s.activatePolicy k).map (·, none)
  | .deactivatePolicy k, s => (s.deactivatePolicy k).map (·, none)
  | .createPolicyVersion policy, s => (s.createPolicyVersion policy).map (·, none)
  | .publishPolicyVersion k now, s => (s.publishPolicyVersion k now).map (·, none)
  | .addPolicyRule version rule, s =>
    if s.versions.Loaded version ∧ rule.policyVersion = version.pk ∧
        Store.addPolicyRuleStarts version then
      some (s, some (.counting version { rule with name := strip rule.name }))
    else none
  | .runPolicyGate action, s => some (s, some (.resolvingPolicy action))

/-- The next statement of a call. -/
def statement (cfg : PolicySettings) : Proc → Store → Option (Store × Proc)
  | .counting version rule, s =>
    if (s.rulesOf version.pk).length ≥ maxRulesPerVersion then some (s, .ended)
    else some (s, .inserting rule)
  | .inserting rule, s => (s.insertPolicyRule cfg rule).map (·, .ended)
  | .resolvingPolicy action, s =>
    match s.findActivePolicy action.workspace with
    | some policy => some (s, .resolvingVersion action policy)
    | none => some (s, .evaluating action none)
  | .resolvingVersion action policy, s =>
    some (s, .evaluating action (s.findActiveVersion policy))
  | .evaluating action version, s =>
    some (s, .persisting (persistedEvaluation action (evaluatePolicy cfg action.toolKey action.risk
      action.arguments (version.map fun v => (v, s.enabledRules v)))))
  | .persisting evaluation, s =>
    some ({ s with evaluations := s.evaluations ++ [evaluation] }, .ended)
  | .ended, _ => none

/-- Policies over empty tables. -/
def policies (cfg : PolicySettings) : Program PolicyEvent Unit Proc Store where
  initial s := s = .empty
  env := policyStep
  work _ _ := statement cfg

abbrev Policing := Config Proc Store

abbrev PolicyLabel := Label PolicyEvent Unit

end SupportPilot.Policies
