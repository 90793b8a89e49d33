import SupportPilot.Policies.Models

/-!
# The policy evaluator

The predicates are functions of the application that a rule names, so they come from a registry.
-/

namespace SupportPilot.Policies

structure PredicateContext where
  toolKey : String
  riskLevel : RiskLevel
  sideEffectType : SideEffectType
  arguments : Arguments

/-- The registered predicates, what the application is configured with, and Python's `repr` and
`upper` of strings. A predicate fails with the message of its error. -/
structure PolicySettings where
  predicate : String → Option (PredicateContext → String → Except String Bool)
  defaultApprovalTtlSeconds : Nat
  refundAutoAllowMaxMinor : Rat
  refundApprovalMaxMinor : Rat
  repr : String → String
  upper : String → String

structure DefaultDecision where
  decision : PolicyEffect
  decisionCode : String
  safeReason : String

structure PolicyDecision where
  decision : PolicyEffect
  decisionCode : String
  safeReason : String
  matchedRuleIds : List Nat
  policyVersion : Option Nat
  requiredRole : String
  approvalTtlSeconds : Nat
  deriving DecidableEq, Repr

/-! ## The system default -/

def requiredRoleForRisk : RiskLevel → String
  | .medium => "support_manager"
  | .high => "admin"
  | .critical => "owner"
  | .readOnly | .low => "owner"

def refundDefault (cfg : PolicySettings) (arguments : Arguments) : DefaultDecision :=
  match arguments.amountMinor, arguments.currency with
  | some amount, some currency =>
    if cfg.upper currency ≠ "USD" then unconfigured
    else if amount ≤ cfg.refundAutoAllowMaxMinor then
      ⟨.allow, "system_default_refund_below_auto_threshold",
        "Refund is within the automatic refund threshold."⟩
    else if amount ≤ cfg.refundApprovalMaxMinor then
      ⟨.requireApproval, "system_default_refund_requires_approval",
        "Refund exceeds the automatic refund threshold and requires approval."⟩
    else
      ⟨.deny, "system_default_refund_exceeds_maximum",
        "Refund exceeds the maximum amount workspace policy allows."⟩
  | _, _ => unconfigured
where
  unconfigured : DefaultDecision :=
    ⟨.requireApproval, "system_default_refund_unconfigured_currency",
      "Refund currency has no configured automatic threshold; approval required."⟩

def evaluateSystemDefault (cfg : PolicySettings) (toolKey : String) (risk : RiskOutcome)
    (arguments : Arguments) : DefaultDecision :=
  if risk.sideEffectType = .read ∨ risk.baseRisk = .readOnly then
    ⟨.allow, "system_default_read_only_allow",
      "Read-only lookup permitted by default workspace policy."⟩
  else if toolKey = "payment.refund" then refundDefault cfg arguments
  else if risk.sideEffectType = .financial then
    ⟨.requireApproval, "system_default_financial_requires_approval",
      "Financial action requires manager approval by default workspace policy."⟩
  else if risk.sideEffectType = .externalWrite then
    ⟨.requireApproval, "system_default_external_write_requires_approval",
      "This action affects an external system and requires approval by default."⟩
  else if risk.sideEffectType = .destructive then
    ⟨.requireApproval, "system_default_destructive_requires_approval",
      "Destructive actions require approval by default workspace policy."⟩
  else if risk.sideEffectType = .internalWrite then
    ⟨.allow, "system_default_internal_write_allow",
      "Internal-only write permitted by default workspace policy."⟩
  else if risk.effectiveRisk = .high ∨ risk.effectiveRisk = .critical then
    ⟨.requireApproval, "system_default_high_risk_requires_approval",
      "High-risk action requires approval by default workspace policy."⟩
  else
    ⟨.allow, "system_default_low_risk_allow",
      "Low-risk action permitted by default workspace policy."⟩

/-! ## Rules -/

def evaluatePredicate (cfg : PolicySettings) (name : String) (context : PredicateContext)
    (params : String) : Except String Bool :=
  match cfg.predicate name with
  | none => .error ("Unknown predicate: " ++ cfg.repr name ++ ".")
  | some fn => fn context params

/-- All entries of a condition hold; the first one that does not ends the evaluation. -/
def conditionHolds (cfg : PolicySettings) (context : PredicateContext) :
    List ConditionEntry → Except String Bool
  | [] => .ok true
  | entry :: rest =>
    (evaluatePredicate cfg entry.predicate context entry.params).bind fun holds =>
      if holds then conditionHolds cfg context rest else .ok false

def ruleApplies (cfg : PolicySettings) (rule : PolicyRule) (context : PredicateContext) :
    Except String Bool :=
  if rule.toolKey ≠ "" ∧ rule.toolKey ≠ context.toolKey then .ok false
  else if rule.riskLevels ≠ [] ∧ context.riskLevel ∉ rule.riskLevels then .ok false
  else if rule.sideEffectTypes ≠ [] ∧ context.sideEffectType ∉ rule.sideEffectTypes then .ok false
  else conditionHolds cfg context rule.conditionConfig

/-- The rules that apply, with their keys, in the order in which they are given. -/
def matchedRules (cfg : PolicySettings) (context : PredicateContext) :
    List (Nat × PolicyRule) → Except String (List (Nat × PolicyRule))
  | [] => .ok []
  | (id, rule) :: rest =>
    (ruleApplies cfg rule context).bind fun applies =>
      (matchedRules cfg context rest).map fun matched =>
        if applies then (id, rule) :: matched else matched

/-- `POLICY_EFFECT_PRECEDENCE`: the first effect that is present wins. -/
def winningEffect (matched : List (Nat × PolicyRule)) : PolicyEffect :=
  if matched.any (·.2.effect = .deny) then .deny
  else if matched.any (·.2.effect = .requireApproval) then .requireApproval
  else .allow

def safeReasonFor : PolicyEffect → String
  | .deny => "Action explicitly denied by workspace policy."
  | .requireApproval => "Action requires approval under workspace policy."
  | .allow => "Action explicitly permitted by workspace policy."

/-- `_finalize`: the role and the lifetime of an approval, from the winning rules first. -/
def finalizeDecision (cfg : PolicySettings) (decision : PolicyEffect)
    (decisionCode safeReason : String) (matchedRuleIds : List Nat) (policyVersion : Option Nat)
    (winning : List PolicyRule) (risk : RiskOutcome) : PolicyDecision :=
  if decision = .requireApproval then
    { decision, decisionCode, safeReason, matchedRuleIds, policyVersion
      requiredRole := ((winning.find? (·.requiredRole ≠ "")).map (·.requiredRole)).getD
        (requiredRoleForRisk risk.effectiveRisk)
      approvalTtlSeconds := ((winning.findSome? (·.approvalTtlSeconds.filter (· ≠ 0)))).getD
        cfg.defaultApprovalTtlSeconds }
  else
    { decision, decisionCode, safeReason, matchedRuleIds, policyVersion
      requiredRole := "", approvalTtlSeconds := cfg.defaultApprovalTtlSeconds }

/-- The evaluation of an action under a version with these enabled rules, or without a version. -/
def evaluatePolicy (cfg : PolicySettings) (toolKey : String) (risk : RiskOutcome)
    (arguments : Arguments) (activeVersion : Option (Nat × List (Nat × PolicyRule))) :
    Except String PolicyDecision :=
  let default := evaluateSystemDefault cfg toolKey risk arguments
  match activeVersion with
  | none =>
    .ok (finalizeDecision cfg default.decision default.decisionCode default.safeReason [] none []
      risk)
  | some (version, rules) =>
    (matchedRules cfg ⟨toolKey, risk.effectiveRisk, risk.sideEffectType, arguments⟩ rules).map
      fun matched =>
        if matched.isEmpty then
          finalizeDecision cfg default.decision
            ("no_matching_rule_fallback:" ++ default.decisionCode) default.safeReason [] version []
            risk
        else
          let effect := winningEffect matched
          let winning := matched.filter (·.2.effect = effect)
          finalizeDecision cfg effect
            ("rule_matched:" ++ (winning.head?.map (·.2.name)).getD "") (safeReasonFor effect)
            (matched.map (·.1)) version (winning.map (·.2)) risk

end SupportPilot.Policies
