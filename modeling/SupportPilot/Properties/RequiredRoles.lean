import SupportPilot.Approvals.Services
import SupportPilot.Policies.Accepted

/-!
# The role that an approval requires

The role of the first matching rule that names one is taken, whichever string it is and whatever
the other rules demand. It is one that somebody can have, and as strict as all that is demanded,
exactly when that first rule names a role of the rank table that outranks the others.
-/

namespace SupportPilot.Policies

open Library

variable {cfg : PolicySettings} {action : PolicyAction} {s : Store} {v : Nat}

/-- The rank that a required role stands for. -/
def requiredRank (role : String) : Nat := (approvalRoleRank role).getD 99

/-- Whoever satisfies `role` satisfies `demanded`. -/
def AtLeastAsStrict (role demanded : String) : Prop :=
  ∀ actorRole, roleSatisfiesRequirement actorRole role = true →
    roleSatisfiesRequirement actorRole demanded = true

/-- What a rule demands, where a rule without a role of its own demands `blank`. -/
def demanded (blank : Option String) (rule : PolicyRule) : Option String :=
  if rule.requiredRole ≠ "" then some rule.requiredRole else blank

/-- A matching rule that asks for an approval. -/
def Requiring (cfg : PolicySettings) (action : PolicyAction) (s : Store) (v : Nat)
    (rule : PolicyRule) : Prop :=
  Matching cfg action s v rule ∧ rule.effect = .requireApproval

/-- The required role can be satisfied by an owner, and is as strict as every demand. -/
structure RoleLaw (cfg : PolicySettings) (action : PolicyAction) (s : Store) (v : Nat)
    (blank : Option String) (requiredRole : String) : Prop where
  satisfiable : roleSatisfiesRequirement "owner" requiredRole = true
  strict : ∀ rule, Requiring cfg action s v rule → ∀ role ∈ demanded blank rule,
    AtLeastAsStrict requiredRole role

/-- The rule whose role is taken: the first one that names a role. -/
structure Leading (cfg : PolicySettings) (action : PolicyAction) (s : Store) (v : Nat)
    (rule : PolicyRule) : Prop where
  requiring : Requiring cfg action s v rule
  named : rule.requiredRole ≠ ""
  first : ∀ other, Requiring cfg action s v other → other.requiredRole ≠ "" →
    rule.priority ≤ other.priority

/-- The leading rule names a role of the rank table, and no other rule demands a higher one. -/
def LedByStrictest (cfg : PolicySettings) (action : PolicyAction) (s : Store) (v : Nat)
    (blank : Option String) : Prop :=
  ∀ rule, Leading cfg action s v rule → (approvalRoleRank rule.requiredRole).isSome ∧
    ∀ other, Requiring cfg action s v other → ∀ role ∈ demanded blank other,
      requiredRank role ≤ requiredRank rule.requiredRole

theorem approvalRoleRank_owner : approvalRoleRank "owner" = some 3 := by decide

theorem approvalRoleRank_le {role : String} {rank : Nat} (h : approvalRoleRank role = some rank) :
    rank ≤ 3 := by
  unfold approvalRoleRank at h
  grind

/-- An owner satisfies exactly the roles of the rank table. -/
theorem satisfiable_iff {role : String} :
    roleSatisfiesRequirement "owner" role = true ↔ (approvalRoleRank role).isSome = true := by
  unfold roleSatisfiesRequirement
  rw [approvalRoleRank_owner]
  cases hrank : approvalRoleRank role with
  | none => simp
  | some rank => simpa using approvalRoleRank_le hrank

theorem atLeastAsStrict_iff {role demanded : String} (h : (approvalRoleRank role).isSome = true) :
    AtLeastAsStrict role demanded ↔ requiredRank demanded ≤ requiredRank role := by
  obtain ⟨rank, hrank⟩ := Option.isSome_iff_exists.mp h
  unfold AtLeastAsStrict roleSatisfiesRequirement requiredRank
  constructor
  · intro hstrict
    have hself := hstrict role (by simp [hrank])
    simpa [hrank] using hself
  · intro hle actorRole hactor
    simp only [decide_eq_true_eq] at hactor ⊢
    omega

theorem requiredRoleForRisk_ranked (risk : RiskLevel) :
    (approvalRoleRank (requiredRoleForRisk risk)).isSome = true := by
  cases risk <;> decide

/-! ## The role of a decision -/

theorem requiredRole_finalizeDecision (decisionCode safeReason : String) (ids : List Nat)
    (version : Option Nat) (winning : List PolicyRule) (risk : RiskOutcome) :
    (finalizeDecision cfg .requireApproval decisionCode safeReason ids version winning
      risk).requiredRole =
      ((winning.find? (·.requiredRole ≠ "")).map (·.requiredRole)).getD
        (requiredRoleForRisk risk.effectiveRisk) := by
  simp [finalizeDecision]

/-- The role of an approval is that of the leading rule, or the one for the risk where no rule
names a role. -/
theorem requiredRole_judge {d : PolicyDecision} (hjudge : judge cfg action s v = .ok d)
    (hrequire : d.decision = .requireApproval) :
    (∃ rule, Leading cfg action s v rule ∧ d.requiredRole = rule.requiredRole) ∨
      (∀ rule, Requiring cfg action s v rule → rule.requiredRole = "") ∧
        d.requiredRole = requiredRoleForRisk action.risk.effectiveRisk := by
  have hnone : NoneFails cfg action s v := by
    by_contra hfails
    obtain ⟨message, hmessage⟩ := judge_fails hfails
    rw [hjudge] at hmessage
    cases hmessage
  obtain ⟨matched, hok, hmatched, hmatching⟩ := judge_ok hnone
  obtain rfl : d = matchedDecision cfg action v matched := Except.ok.inj (hjudge.symm.trans hok)
  by_cases hempty : matched = []
  · refine .inr ⟨fun rule hrule => ?_, ?_⟩
    · obtain ⟨id, hmem⟩ := (hmatching rule).mp hrule.1
      rw [hempty] at hmem
      cases hmem
    · subst hempty
      rw [matchedDecision_nil, finalizeDecision_decision] at hrequire
      rw [matchedDecision_nil, hrequire, requiredRole_finalizeDecision]
      rfl
  · rw [matchedDecision_of_ne_nil hempty, finalizeDecision_decision] at hrequire
    rw [matchedDecision_of_ne_nil hempty, hrequire, requiredRole_finalizeDecision]
    have hwinning : ∀ rule, Requiring cfg action s v rule ↔
        rule ∈ (matched.filter (·.2.effect = .requireApproval)).map (·.2) := by
      intro rule
      simp only [Requiring, hmatching, List.mem_map, List.mem_filter, decide_eq_true_eq,
        Prod.exists, exists_eq_right]
      constructor
      · rintro ⟨⟨id, hmem⟩, heffect⟩
        exact ⟨id, hmem, heffect⟩
      · rintro ⟨id, hmem, heffect⟩
        exact ⟨⟨id, hmem⟩, heffect⟩
    have hordered : ((matched.filter (·.2.effect = .requireApproval)).map (·.2)).Pairwise
        fun a b => a.priority ≤ b.priority := by
      rw [List.pairwise_map]
      exact (matchedRules_ordered hmatched).sublist List.filter_sublist
    generalize (matched.filter (·.2.effect = .requireApproval)).map (·.2) = winning
      at hwinning hordered
    cases hfind : winning.find? (·.requiredRole ≠ "") with
    | none =>
      refine .inr ⟨fun rule hrule => ?_, rfl⟩
      have hblank := List.find?_eq_none.mp hfind rule ((hwinning rule).mp hrule)
      simpa using hblank
    | some rule =>
      refine .inl ⟨rule, ⟨(hwinning rule).mpr (List.mem_of_find?_eq_some hfind), ?_, ?_⟩, rfl⟩
      · simpa using List.find?_some hfind
      · intro other hother hnamed
        exact find?_of_pairwise (fun rule => le_refl rule.priority) hordered hfind
          ((hwinning other).mp hother)
          (by simpa using hnamed)

/-- In accepted rules at most one rule leads. -/
theorem Leading.unique (haccepted : Accepted cfg s.rules) {rule other : PolicyRule}
    (h : Leading cfg action s v rule) (h' : Leading cfg action s v other) : rule = other := by
  obtain ⟨⟨⟨i, hi⟩, -⟩, -⟩ := h.requiring
  obtain ⟨⟨⟨j, hj⟩, -⟩, -⟩ := h'.requiring
  have hsame : rule.priority = other.priority :=
    le_antisymm (h.first other h'.requiring h'.named) (h'.first rule h.requiring h.named)
  obtain rfl := haccepted.priority_inj hi hj hsame
  exact Option.some.inj (hi.1.symm.trans hj.1)

theorem roleLaw_iff (haccepted : Accepted cfg s.rules) {blank : Option String}
    (hblank : ∀ role ∈ blank, role = requiredRoleForRisk action.risk.effectiveRisk)
    {d : PolicyDecision} (hjudge : judge cfg action s v = .ok d)
    (hrequire : d.decision = .requireApproval) :
    RoleLaw cfg action s v blank d.requiredRole ↔ LedByStrictest cfg action s v blank := by
  rcases requiredRole_judge hjudge hrequire with ⟨rule, hleading, hrole⟩ | ⟨hunnamed, hrole⟩
  · rw [hrole]
    constructor
    · intro hlaw other hother
      obtain rfl := hleading.unique haccepted hother
      have hranked := satisfiable_iff.mp hlaw.satisfiable
      exact ⟨hranked, fun third hthird role hdemanded =>
        (atLeastAsStrict_iff hranked).mp (hlaw.strict third hthird role hdemanded)⟩
    · intro hled
      obtain ⟨hranked, hhighest⟩ := hled rule hleading
      exact ⟨satisfiable_iff.mpr hranked, fun other hother role hdemanded =>
        (atLeastAsStrict_iff hranked).mpr (hhighest other hother role hdemanded)⟩
  · rw [hrole]
    constructor
    · intro _ rule hleading
      exact absurd (hunnamed rule hleading.requiring) hleading.named
    · intro _
      refine ⟨satisfiable_iff.mpr (requiredRoleForRisk_ranked _), ?_⟩
      intro rule hrule role hdemanded actorRole hactor
      rw [demanded, if_neg (by simpa using hunnamed rule hrule)] at hdemanded
      rwa [hblank role hdemanded]

/-! ## Main results -/

/-- The required role is satisfiable and as strict as every demand exactly when the leading rule
is as strict, whether or not a rule without a role counts as one that demands the role for the
risk. -/
theorem required_role_strictest (haccepted : Accepted cfg s.rules) {d : PolicyDecision}
    (hjudge : judge cfg action s v = .ok d) (hrequire : d.decision = .requireApproval) :
    (RoleLaw cfg action s v none d.requiredRole ↔ LedByStrictest cfg action s v none) ∧
      (RoleLaw cfg action s v (some (requiredRoleForRisk action.risk.effectiveRisk))
          d.requiredRole ↔
        LedByStrictest cfg action s v
          (some (requiredRoleForRisk action.risk.effectiveRisk))) := by
  constructor
  · refine roleLaw_iff haccepted ?_ hjudge hrequire
    intro role hrole
    cases hrole
  · refine roleLaw_iff haccepted ?_ hjudge hrequire
    intro role hrole
    exact (Option.some.inj hrole).symm

/-! ## Examples -/

def plainSettings : PolicySettings := ⟨fun _ => none, 3600, 5000, 50000, id, id⟩

def externalWrite : PolicyAction :=
  ⟨1, "calendar.create_booking", ⟨.medium, .medium, .externalWrite⟩, { canonical := "\x7b\x7d" }⟩

def approvalRule (name : String) (priority : Nat) (requiredRole : String) : PolicyRule :=
  { policyVersion := 0, name, priority, effect := .requireApproval, requiredRole }

/-- A version with two rules that ask for an approval by these roles, in this order. -/
def approvalRules (first second : String) : Store :=
  { Store.empty with rules := [approvalRule "first" 1 first, approvalRule "second" 2 second] }

theorem accepted_approvalRules {first second : String}
    (hfirst : (approvalRule "first" 1 first).clean = true)
    (hsecond : (approvalRule "second" 2 second).clean = true) :
    Accepted plainSettings (approvalRules first second).rules := by
  have hone : Store.empty.insertPolicyRule plainSettings (approvalRule "first" 1 first) =
      some { Store.empty with rules := [approvalRule "first" 1 first] } := by
    simpa [Store.insertPolicyRule, Store.empty, approvalRule] using hfirst
  have htwo : Store.insertPolicyRule plainSettings
      { Store.empty with rules := [approvalRule "first" 1 first] }
      (approvalRule "second" 2 second) = some (approvalRules first second) := by
    simpa [Store.insertPolicyRule, Store.empty, approvalRule, approvalRules] using hsecond
  exact .insert (.insert .nil hone) htwo

/-- The evaluation of an external write under the two rules. -/
def approvalDecision (first second : String) : PolicyDecision :=
  matchedDecision plainSettings externalWrite 0
    [(0, approvalRule "first" 1 first), (1, approvalRule "second" 2 second)]

theorem enabledRules_approvalRules (first second : String) :
    (approvalRules first second).enabledRules 0 =
      [(0, approvalRule "first" 1 first), (1, approvalRule "second" 2 second)] := by
  have hrules : ((approvalRules first second).rulesOf 0).filter (·.2.enabled) =
      [(0, approvalRule "first" 1 first), (1, approvalRule "second" 2 second)] := rfl
  rw [Store.enabledRules, hrules]
  apply List.mergeSort_of_pairwise
  simp [approvalRule]

theorem judge_approvalRules (first second : String) :
    judge plainSettings externalWrite (approvalRules first second) 0 =
      .ok (approvalDecision first second) := by
  rw [judge_eq, enabledRules_approvalRules]
  rfl

theorem required_role_strictest_ordered :
    RoleLaw plainSettings externalWrite (approvalRules "owner" "admin") 0 none
        (approvalDecision "owner" "admin").requiredRole ↔
      LedByStrictest plainSettings externalWrite (approvalRules "owner" "admin") 0 none :=
  (required_role_strictest (accepted_approvalRules (by decide) (by decide))
    (judge_approvalRules "owner" "admin") (by decide)).1

/-- A rule with a weaker role and a lower priority number takes the place of the stricter one. -/
theorem required_role_not_always_strictest :
    ¬ ∀ (cfg : PolicySettings) (action : PolicyAction) (s : Store) (v : Nat) (d : PolicyDecision),
      Accepted cfg s.rules → judge cfg action s v = .ok d → d.decision = .requireApproval →
      RoleLaw cfg action s v none d.requiredRole := by
  intro hlaw
  have hrole := hlaw plainSettings externalWrite (approvalRules "support_manager" "owner") 0
    (approvalDecision "support_manager" "owner")
    (accepted_approvalRules (by decide) (by decide))
    (judge_approvalRules "support_manager" "owner") (by decide)
  have hmatching : Matching plainSettings externalWrite
      (approvalRules "support_manager" "owner") 0 (approvalRule "second" 2 "owner") :=
    ⟨⟨1, rfl, rfl, rfl⟩, ruleApplies_true.mp rfl⟩
  have hstrict := hrole.strict _ ⟨hmatching, rfl⟩ "owner" (by decide) "support_manager"
    (by decide)
  revert hstrict
  decide

end SupportPilot.Policies
