import SupportPilot.Policies.Services
import Mathlib.Order.Basic

/-!
# What the rules of a version decide

The purpose of an evaluation, stated on the rules that match an action without any order on them:
the strictest effect among them decides, and the system default where none matches.
-/

namespace SupportPilot

/-- How strict an effect is; `POLICY_EFFECT_PRECEDENCE` lists the strictest first. -/
def PolicyEffect.strictness : PolicyEffect → Nat
  | .allow => 0
  | .requireApproval => 1
  | .deny => 2

namespace Policies

open Library

/-- The decision that a set of matching rules calls for. -/
noncomputable def decisionOf (Matching : PolicyRule → Prop) (default : PolicyEffect) :
    PolicyEffect :=
  open Classical in
  if ∃ rule, Matching rule ∧ rule.effect = .deny then .deny
  else if ∃ rule, Matching rule ∧ rule.effect = .requireApproval then .requireApproval
  else if ∃ rule, Matching rule then .allow
  else default

section Decision

variable {Matching Matching' : PolicyRule → Prop} {default : PolicyEffect}

theorem decisionOf_deny (h : ∃ rule, Matching rule ∧ rule.effect = .deny) :
    decisionOf Matching default = .deny := by
  rw [decisionOf, if_pos h]

theorem decisionOf_requireApproval (hdeny : ¬ ∃ rule, Matching rule ∧ rule.effect = .deny)
    (h : ∃ rule, Matching rule ∧ rule.effect = .requireApproval) :
    decisionOf Matching default = .requireApproval := by
  rw [decisionOf, if_neg hdeny, if_pos h]

theorem decisionOf_allow (hdeny : ¬ ∃ rule, Matching rule ∧ rule.effect = .deny)
    (hrequire : ¬ ∃ rule, Matching rule ∧ rule.effect = .requireApproval)
    (h : ∃ rule, Matching rule) : decisionOf Matching default = .allow := by
  rw [decisionOf, if_neg hdeny, if_neg hrequire, if_pos h]

theorem decisionOf_default (h : ¬ ∃ rule, Matching rule) :
    decisionOf Matching default = default := by
  have hnone : ∀ effect, ¬ ∃ rule, Matching rule ∧ rule.effect = effect :=
    fun _ ⟨rule, hrule, _⟩ => h ⟨rule, hrule⟩
  rw [decisionOf, if_neg (hnone _), if_neg (hnone _), if_neg h]

/-- Only the effects of the matching rules count. -/
theorem decisionOf_congr
    (h : ∀ effect, (∃ rule, Matching rule ∧ rule.effect = effect) ↔
      ∃ rule, Matching' rule ∧ rule.effect = effect) :
    decisionOf Matching default = decisionOf Matching' default := by
  classical
  have hany : (∃ rule, Matching rule) ↔ ∃ rule, Matching' rule := by
    constructor
    · rintro ⟨rule, hrule⟩
      obtain ⟨rule', hrule', -⟩ := (h rule.effect).mp ⟨rule, hrule, rfl⟩
      exact ⟨rule', hrule'⟩
    · rintro ⟨rule, hrule⟩
      obtain ⟨rule', hrule', -⟩ := (h rule.effect).mpr ⟨rule, hrule, rfl⟩
      exact ⟨rule', hrule'⟩
  exact if_congr (h .deny) rfl (if_congr (h .requireApproval) rfl (if_congr hany rfl rfl))

/-- Every matching rule is at most as strict as the decision. -/
theorem strictness_le_decisionOf {rule : PolicyRule} (h : Matching rule) :
    rule.effect.strictness ≤ (decisionOf Matching default).strictness := by
  by_cases hdeny : ∃ rule, Matching rule ∧ rule.effect = .deny
  · rw [decisionOf_deny hdeny]
    cases rule.effect <;> decide
  · by_cases hrequire : ∃ rule, Matching rule ∧ rule.effect = .requireApproval
    · rw [decisionOf_requireApproval hdeny hrequire]
      have hne : rule.effect ≠ .deny := fun heq => hdeny ⟨rule, h, heq⟩
      cases heffect : rule.effect with
      | deny => exact absurd heffect hne
      | requireApproval | allow => decide
    · have hne : rule.effect ≠ .deny := fun heq => hdeny ⟨rule, h, heq⟩
      have hne' : rule.effect ≠ .requireApproval := fun heq => hrequire ⟨rule, h, heq⟩
      cases heffect : rule.effect with
      | deny => exact absurd heffect hne
      | requireApproval => exact absurd heffect hne'
      | allow => exact Nat.zero_le _

/-- Some matching rule has the effect that is decided, unless none matches. -/
theorem exists_effect_decisionOf (default : PolicyEffect) (h : ∃ rule, Matching rule) :
    ∃ rule, Matching rule ∧ rule.effect = decisionOf Matching default := by
  by_cases hdeny : ∃ rule, Matching rule ∧ rule.effect = .deny
  · rwa [decisionOf_deny hdeny]
  · by_cases hrequire : ∃ rule, Matching rule ∧ rule.effect = .requireApproval
    · rwa [decisionOf_requireApproval hdeny hrequire]
    · obtain ⟨rule, hrule⟩ := h
      rw [decisionOf_allow hdeny hrequire ⟨rule, hrule⟩]
      refine ⟨rule, hrule, ?_⟩
      cases heffect : rule.effect with
      | deny => exact absurd ⟨rule, hrule, heffect⟩ hdeny
      | requireApproval => exact absurd ⟨rule, hrule, heffect⟩ hrequire
      | allow => rfl

/-- More matching rules never decide less strictly, once one matches. -/
theorem decisionOf_mono (hany : ∃ rule, Matching rule)
    (h : ∀ rule, Matching rule → Matching' rule) :
    (decisionOf Matching default).strictness ≤ (decisionOf Matching' default).strictness := by
  obtain ⟨rule, hrule, heffect⟩ := exists_effect_decisionOf default hany
  rw [← heffect]
  exact strictness_le_decisionOf (h rule hrule)

end Decision

/-! ## The rules of a version -/

/-- An evaluation under version `v` reads this rule. -/
def Store.Enabled (s : Store) (v id : Nat) (rule : PolicyRule) : Prop :=
  s.rules[id]? = some rule ∧ rule.policyVersion = v ∧ rule.enabled = true

theorem mem_rulesOf {s : Store} {v id : Nat} {rule : PolicyRule} :
    (id, rule) ∈ s.rulesOf v ↔ s.rules[id]? = some rule ∧ rule.policyVersion = v := by
  unfold Store.rulesOf
  simp only [List.mem_map, List.mem_filter, decide_eq_true_eq, Prod.mk.injEq, Prod.exists]
  constructor
  · rintro ⟨r, i, ⟨hmem, hversion⟩, rfl, rfl⟩
    exact ⟨List.mem_zipIdx_iff_getElem?.mp hmem, hversion⟩
  · rintro ⟨hrow, hversion⟩
    exact ⟨rule, id, ⟨List.mem_zipIdx_iff_getElem?.mpr hrow, hversion⟩, rfl, rfl⟩

theorem mem_enabledRules {s : Store} {v id : Nat} {rule : PolicyRule} :
    (id, rule) ∈ s.enabledRules v ↔ s.Enabled v id rule := by
  rw [Store.enabledRules, List.mem_mergeSort, List.mem_filter, mem_rulesOf, and_assoc]
  rfl

/-! ## Rules and actions -/

section Rules

variable (cfg : PolicySettings) (context : PredicateContext)

/-- The rule is about this kind of action. -/
structure Concerns (rule : PolicyRule) : Prop where
  toolKey : rule.toolKey = "" ∨ rule.toolKey = context.toolKey
  riskLevels : rule.riskLevels = [] ∨ context.riskLevel ∈ rule.riskLevels
  sideEffectTypes : rule.sideEffectTypes = [] ∨ context.sideEffectType ∈ rule.sideEffectTypes

/-- The entry names a registered predicate, which is true of the action. -/
def Holds (entry : ConditionEntry) : Prop :=
  ∃ predicate, cfg.predicate entry.predicate = some predicate ∧
    predicate context entry.params = .ok true

/-- The entry names no registered predicate, or one that raises for the action. -/
def Raises (entry : ConditionEntry) : Prop :=
  ∀ predicate, cfg.predicate entry.predicate = some predicate →
    ∃ message, predicate context entry.params = .error message

/-- An evaluation of these entries comes to this one: all entries before it hold. -/
def Reached (entries : List ConditionEntry) (entry : ConditionEntry) : Prop :=
  ∃ before after, entries = before ++ entry :: after ∧ ∀ e ∈ before, Holds cfg context e

/-- The rule is about the action, and every entry of its condition holds. -/
structure Applies (rule : PolicyRule) : Prop where
  concerns : Concerns context rule
  holds : ∀ entry ∈ rule.conditionConfig, Holds cfg context entry

/-- The rule is about the action, and an entry that is reached raises. -/
structure Fails (rule : PolicyRule) : Prop where
  concerns : Concerns context rule
  raises : ∃ entry, Reached cfg context rule.conditionConfig entry ∧ Raises cfg context entry

end Rules

/-! ## The evaluator -/

section Evaluator

variable {cfg : PolicySettings} {context : PredicateContext}

theorem evaluatePredicate_true {entry : ConditionEntry} :
    evaluatePredicate cfg entry.predicate context entry.params = .ok true ↔
      Holds cfg context entry := by
  unfold evaluatePredicate Holds
  cases cfg.predicate entry.predicate with
  | none => simp
  | some predicate => simp

/-- An entry is evaluated without an error exactly when it does not raise. -/
theorem evaluatePredicate_isOk {entry : ConditionEntry} :
    (∃ holds, evaluatePredicate cfg entry.predicate context entry.params = .ok holds) ↔
      ¬ Raises cfg context entry := by
  unfold evaluatePredicate Raises
  cases cfg.predicate entry.predicate with
  | none => simp
  | some predicate =>
    cases hresult : predicate context entry.params with
    | error message => simp [hresult]
    | ok holds => simp [hresult]

theorem reached_cons {first entry : ConditionEntry} {rest : List ConditionEntry} :
    Reached cfg context (first :: rest) entry ↔
      entry = first ∨ Holds cfg context first ∧ Reached cfg context rest entry := by
  constructor
  · rintro ⟨before, after, hsplit, hholds⟩
    cases before with
    | nil =>
      simp only [List.nil_append, List.cons.injEq] at hsplit
      exact .inl hsplit.1.symm
    | cons e before =>
      simp only [List.cons_append, List.cons.injEq] at hsplit
      obtain ⟨rfl, rfl⟩ := hsplit
      exact .inr ⟨hholds first List.mem_cons_self, before, after, rfl,
        fun e he => hholds e (List.mem_cons_of_mem first he)⟩
  · rintro (rfl | ⟨hfirst, before, after, rfl, hholds⟩)
    · exact ⟨[], rest, rfl, nofun⟩
    · refine ⟨first :: before, after, rfl, fun e he => ?_⟩
      rcases List.mem_cons.mp he with rfl | he
      · exact hfirst
      · exact hholds e he

theorem conditionHolds_true {entries : List ConditionEntry} :
    conditionHolds cfg context entries = .ok true ↔
      ∀ entry ∈ entries, Holds cfg context entry := by
  induction entries with
  | nil => exact ⟨nofun, fun _ => rfl⟩
  | cons first rest ih =>
    rw [List.forall_mem_cons, conditionHolds, ← evaluatePredicate_true, ← ih]
    cases evaluatePredicate cfg first.predicate context first.params with
    | error message => exact ⟨nofun, nofun⟩
    | ok holds =>
      cases holds with
      | false => exact ⟨nofun, nofun⟩
      | true => exact ⟨fun hrest => ⟨rfl, hrest⟩, And.right⟩

/-- A condition is evaluated without an error exactly when no entry that is reached raises. -/
theorem conditionHolds_isOk {entries : List ConditionEntry} :
    (∃ holds, conditionHolds cfg context entries = .ok holds) ↔
      ∀ entry, Reached cfg context entries entry → ¬ Raises cfg context entry := by
  simp only [← evaluatePredicate_isOk]
  induction entries with
  | nil =>
    constructor
    · rintro - entry ⟨before, after, hsplit, -⟩
      cases before <;> cases hsplit
    · exact fun _ => ⟨true, rfl⟩
  | cons first rest ih =>
    simp only [reached_cons, ← evaluatePredicate_true]
    rw [conditionHolds]
    cases hfirst : evaluatePredicate cfg first.predicate context first.params with
    | error message =>
      constructor
      · rintro ⟨holds, hok⟩
        cases hok
      · intro hall
        obtain ⟨holds, hok⟩ := hall first (.inl rfl)
        rw [hfirst] at hok
        cases hok
    | ok holds =>
      cases holds with
      | false =>
        constructor
        · rintro - entry (rfl | ⟨hholds, -⟩)
          · exact ⟨false, hfirst⟩
          · cases hholds
        · exact fun _ => ⟨false, rfl⟩
      | true =>
        show (∃ holds, conditionHolds cfg context rest = .ok holds) ↔ _
        rw [ih]
        constructor
        · rintro hrest entry (rfl | ⟨-, hreached⟩)
          · exact ⟨true, hfirst⟩
          · exact hrest entry hreached
        · exact fun hall entry hreached => hall entry (.inr ⟨rfl, hreached⟩)

/-- A rule for another kind of action does not apply, and its condition is not evaluated. -/
theorem ruleApplies_eq {rule : PolicyRule} [Decidable (Concerns context rule)] :
    ruleApplies cfg rule context =
      if Concerns context rule then conditionHolds cfg context rule.conditionConfig
      else .ok false := by
  unfold ruleApplies
  split
  · rename_i htool
    exact (if_neg fun hconcerns => by have := hconcerns.toolKey; tauto).symm
  · split
    · rename_i hrisk
      exact (if_neg fun hconcerns => by have := hconcerns.riskLevels; tauto).symm
    · split
      · rename_i hside
        exact (if_neg fun hconcerns => by have := hconcerns.sideEffectTypes; tauto).symm
      · exact (if_pos ⟨by tauto, by tauto, by tauto⟩).symm

theorem ruleApplies_true {rule : PolicyRule} :
    ruleApplies cfg rule context = .ok true ↔ Applies cfg context rule := by
  classical
  rw [ruleApplies_eq]
  by_cases hconcerns : Concerns context rule
  · rw [if_pos hconcerns, conditionHolds_true]
    exact ⟨fun hholds => ⟨hconcerns, hholds⟩, fun h => h.holds⟩
  · rw [if_neg hconcerns]
    exact ⟨nofun, fun h => absurd h.concerns hconcerns⟩

theorem ruleApplies_isOk {rule : PolicyRule} :
    (∃ applies, ruleApplies cfg rule context = .ok applies) ↔ ¬ Fails cfg context rule := by
  classical
  rw [ruleApplies_eq]
  by_cases hconcerns : Concerns context rule
  · rw [if_pos hconcerns, conditionHolds_isOk]
    constructor
    · rintro hnone ⟨-, entry, hreached, hraises⟩
      exact hnone entry hreached hraises
    · intro hfails entry hreached hraises
      exact hfails ⟨hconcerns, entry, hreached, hraises⟩
  · rw [if_neg hconcerns]
    exact ⟨fun _ hfails => hconcerns hfails.concerns, fun _ => ⟨false, rfl⟩⟩

theorem applies_iff {rule : PolicyRule} :
    Applies cfg context rule ↔ (ruleApplies cfg rule context).toOption = some true := by
  rw [← ruleApplies_true]
  cases ruleApplies cfg rule context with
  | error message => exact ⟨nofun, nofun⟩
  | ok applies =>
    exact ⟨fun h => congrArg Except.toOption h, fun h => congrArg _ (Option.some.inj h)⟩

/-- Where the evaluation raises nothing, the rules that apply match, in their order. -/
theorem matchedRules_filter {rules matched : List (Nat × PolicyRule)}
    (h : matchedRules cfg context rules = .ok matched) :
    (∀ r ∈ rules, ¬ Fails cfg context r.2) ∧
      matched = rules.filter fun r => (ruleApplies cfg r.2 context).toOption = some true := by
  induction rules generalizing matched with
  | nil =>
    cases h
    exact ⟨nofun, rfl⟩
  | cons r rest ih =>
    rw [matchedRules] at h
    cases happlies : ruleApplies cfg r.2 context with
    | error message => rw [happlies] at h; cases h
    | ok applies =>
      cases hrest : matchedRules cfg context rest with
      | error message => rw [happlies, hrest] at h; cases h
      | ok others =>
        obtain ⟨hjudged, hothers⟩ := ih hrest
        rw [happlies, hrest] at h
        obtain rfl : (if applies then r :: others else others) = matched := Except.ok.inj h
        refine ⟨List.forall_mem_cons.mpr ⟨ruleApplies_isOk.mp ⟨applies, happlies⟩, hjudged⟩, ?_⟩
        cases applies with
        | true =>
          rw [List.filter_cons_of_pos (by simp [happlies, Except.toOption]), ← hothers]
          rfl
        | false =>
          rw [List.filter_cons_of_neg (by simp [happlies, Except.toOption]), ← hothers]
          rfl

theorem matchedRules_ok {rules matched : List (Nat × PolicyRule)}
    (h : matchedRules cfg context rules = .ok matched) :
    (∀ r ∈ rules, ¬ Fails cfg context r.2) ∧
      ∀ r, r ∈ matched ↔ r ∈ rules ∧ Applies cfg context r.2 := by
  obtain ⟨hjudged, rfl⟩ := matchedRules_filter h
  refine ⟨hjudged, fun r => ?_⟩
  rw [List.mem_filter, applies_iff, decide_eq_true_iff]

theorem matchedRules_sublist {rules matched : List (Nat × PolicyRule)}
    (h : matchedRules cfg context rules = .ok matched) : matched.Sublist rules := by
  rw [(matchedRules_filter h).2]
  exact List.filter_sublist

/-- The evaluation of the rules fails only where that of one of them does. -/
theorem matchedRules_isOk {rules : List (Nat × PolicyRule)}
    (h : ∀ r ∈ rules, ¬ Fails cfg context r.2) :
    ∃ matched, matchedRules cfg context rules = .ok matched := by
  induction rules with
  | nil => exact ⟨[], rfl⟩
  | cons r rest ih =>
    obtain ⟨applies, happlies⟩ := ruleApplies_isOk.mpr (h r List.mem_cons_self)
    obtain ⟨others, hothers⟩ := ih fun q hq => h q (List.mem_cons_of_mem r hq)
    rw [matchedRules, happlies, hothers]
    exact ⟨_, rfl⟩

theorem winningEffect_eq {matched : List (Nat × PolicyRule)} {Matching : PolicyRule → Prop}
    {default : PolicyEffect} (hmatched : matched ≠ [])
    (h : ∀ rule, Matching rule ↔ ∃ id, (id, rule) ∈ matched) :
    winningEffect matched = decisionOf Matching default := by
  classical
  have heffect : ∀ effect, matched.any (·.2.effect = effect) = true ↔
      ∃ rule, Matching rule ∧ rule.effect = effect := by
    intro effect
    simp only [List.any_eq_true, decide_eq_true_eq, Prod.exists, h]
    constructor
    · rintro ⟨id, rule, hmem, heq⟩
      exact ⟨rule, ⟨id, hmem⟩, heq⟩
    · rintro ⟨rule, ⟨id, hmem⟩, heq⟩
      exact ⟨id, rule, hmem, heq⟩
  have hany : ∃ rule, Matching rule := by
    obtain ⟨r, hr⟩ := List.exists_mem_of_ne_nil matched hmatched
    exact ⟨r.2, (h r.2).mpr ⟨r.1, hr⟩⟩
  rw [winningEffect, decisionOf]
  exact if_congr (heffect .deny) rfl
    (if_congr (heffect .requireApproval) rfl (if_pos hany).symm)

@[simp] theorem finalizeDecision_decision (decision : PolicyEffect) (code reason : String)
    (ids : List Nat) (version : Option Nat) (winning : List PolicyRule) (risk : RiskOutcome) :
    (finalizeDecision cfg decision code reason ids version winning risk).decision = decision := by
  unfold finalizeDecision
  split <;> rfl

/-- The decision on the rules that matched. -/
def matchedDecision (cfg : PolicySettings) (action : PolicyAction) (version : Nat)
    (matched : List (Nat × PolicyRule)) : PolicyDecision :=
  let default := evaluateSystemDefault cfg action.toolKey action.risk action.arguments
  let winning := matched.filter (·.2.effect = winningEffect matched)
  if matched.isEmpty then
    finalizeDecision cfg default.decision ("no_matching_rule_fallback:" ++ default.decisionCode)
      default.safeReason [] version [] action.risk
  else
    finalizeDecision cfg (winningEffect matched)
      ("rule_matched:" ++ (winning.head?.map (·.2.name)).getD "")
      (safeReasonFor (winningEffect matched)) (matched.map (·.1)) version (winning.map (·.2))
      action.risk

theorem matchedDecision_nil (action : PolicyAction) (version : Nat) :
    matchedDecision cfg action version [] =
      finalizeDecision cfg
        (evaluateSystemDefault cfg action.toolKey action.risk action.arguments).decision
        ("no_matching_rule_fallback:" ++
          (evaluateSystemDefault cfg action.toolKey action.risk action.arguments).decisionCode)
        (evaluateSystemDefault cfg action.toolKey action.risk action.arguments).safeReason []
        version [] action.risk :=
  rfl

theorem matchedDecision_of_ne_nil {matched : List (Nat × PolicyRule)} (h : matched ≠ [])
    (action : PolicyAction) (version : Nat) :
    matchedDecision cfg action version matched =
      finalizeDecision cfg (winningEffect matched)
        ("rule_matched:" ++
          ((matched.filter (·.2.effect = winningEffect matched)).head?.map (·.2.name)).getD "")
        (safeReasonFor (winningEffect matched)) (matched.map (·.1)) version
        ((matched.filter (·.2.effect = winningEffect matched)).map (·.2)) action.risk :=
  if_neg (by simpa using h)

end Evaluator

def PolicyAction.context (action : PolicyAction) : PredicateContext :=
  ⟨action.toolKey, action.risk.effectiveRisk, action.risk.sideEffectType, action.arguments⟩

/-- The evaluation of an action under version `v`. -/
def judge (cfg : PolicySettings) (action : PolicyAction) (s : Store) (v : Nat) :
    Except String PolicyDecision :=
  evaluatePolicy cfg action.toolKey action.risk action.arguments (some (v, s.enabledRules v))

theorem judge_eq (cfg : PolicySettings) (action : PolicyAction) (s : Store) (v : Nat) :
    judge cfg action s v =
      (matchedRules cfg action.context (s.enabledRules v)).map (matchedDecision cfg action v) :=
  rfl

/-- The evaluation of no enabled rule fails. -/
def NoneFails (cfg : PolicySettings) (action : PolicyAction) (s : Store) (v : Nat) : Prop :=
  ∀ id rule, s.Enabled v id rule → ¬ Fails cfg action.context rule

/-- An enabled rule of the version that applies to the action. -/
def Matching (cfg : PolicySettings) (action : PolicyAction) (s : Store) (v : Nat)
    (rule : PolicyRule) : Prop :=
  (∃ id, s.Enabled v id rule) ∧ Applies cfg action.context rule

variable {cfg : PolicySettings} {action : PolicyAction} {s : Store} {v : Nat}

/-- Without a failing rule an evaluation decides on exactly the matching rules. -/
theorem judge_ok (h : NoneFails cfg action s v) :
    ∃ matched, judge cfg action s v = .ok (matchedDecision cfg action v matched) ∧
      matchedRules cfg action.context (s.enabledRules v) = .ok matched ∧
      ∀ rule, Matching cfg action s v rule ↔ ∃ id, (id, rule) ∈ matched := by
  have hjudged : ∀ r ∈ s.enabledRules v, ¬ Fails cfg action.context r.2 :=
    fun r hr => h r.1 r.2 (mem_enabledRules.mp hr)
  obtain ⟨matched, hmatched⟩ := matchedRules_isOk hjudged
  obtain ⟨-, hmem⟩ := matchedRules_ok hmatched
  refine ⟨matched, by rw [judge_eq, hmatched]; rfl, hmatched, fun rule => ?_⟩
  constructor
  · rintro ⟨⟨id, henabled⟩, happlies⟩
    exact ⟨id, (hmem (id, rule)).mpr ⟨mem_enabledRules.mpr henabled, happlies⟩⟩
  · rintro ⟨id, hrule⟩
    obtain ⟨henabled, happlies⟩ := (hmem (id, rule)).mp hrule
    exact ⟨⟨id, mem_enabledRules.mp henabled⟩, happlies⟩

/-- A failing rule fails the whole evaluation. -/
theorem judge_fails (h : ¬ NoneFails cfg action s v) :
    ∃ message, judge cfg action s v = .error message := by
  rw [judge_eq]
  cases hmatched : matchedRules cfg action.context (s.enabledRules v) with
  | error message => exact ⟨message, rfl⟩
  | ok matched =>
    obtain ⟨hjudged, -⟩ := matchedRules_ok hmatched
    exact absurd (fun id rule henabled => hjudged (id, rule) (mem_enabledRules.mpr henabled)) h

theorem matchedDecision_decision {matched : List (Nat × PolicyRule)}
    (h : ∀ rule, Matching cfg action s v rule ↔ ∃ id, (id, rule) ∈ matched) :
    (matchedDecision cfg action v matched).decision =
      decisionOf (Matching cfg action s v)
        (evaluateSystemDefault cfg action.toolKey action.risk action.arguments).decision := by
  by_cases hempty : matched = []
  · subst hempty
    have hnone : ¬ ∃ rule, Matching cfg action s v rule := by
      rintro ⟨rule, hrule⟩
      simpa using (h rule).mp hrule
    rw [decisionOf_default hnone, matchedDecision_nil, finalizeDecision_decision]
  · rw [matchedDecision_of_ne_nil hempty, finalizeDecision_decision]
    exact winningEffect_eq hempty h

end Policies

end SupportPilot
