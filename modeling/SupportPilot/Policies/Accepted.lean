import SupportPilot.Policies.Precedence
import SupportPilot.Policies.Steps

/-!
# Accepted rules

`add_policy_rule` inserts every rule into the rules that it has accepted before. In a version
they have priorities of their own, so an evaluation reads them in one order.
-/

namespace SupportPilot.Policies

open Library

variable {cfg : PolicySettings} {s s' : Store} {rule : PolicyRule}

/-- Rules that were inserted one after the other, each accepted. -/
inductive Accepted (cfg : PolicySettings) : List PolicyRule → Prop
  | nil : Accepted cfg []
  | insert {s s' : Store} {rule : PolicyRule} : Accepted cfg s.rules →
      s.insertPolicyRule cfg rule = some s' → Accepted cfg s'.rules

/-- What the insertion of a rule checks. -/
theorem insertPolicyRule_some (h : s.insertPolicyRule cfg rule = some s') :
    s'.rules = s.rules ++ [rule] ∧ rule.clean = true ∧
      (∀ entry ∈ rule.conditionConfig,
        ∃ predicate, cfg.predicate entry.predicate = some predicate) ∧
      ∀ r ∈ s.rules, r.policyVersion = rule.policyVersion → r.priority ≠ rule.priority := by
  unfold Store.insertPolicyRule at h
  split at h
  · cases h
  · rename_i hknown
    split at h
    · cases h
    · rename_i hclean
      split at h
      · cases h
      · rename_i hunique
        cases h
        refine ⟨rfl, by simpa using hclean, fun entry hentry => ?_, fun r hr hversion hsame => ?_⟩
        · rw [← Option.isSome_iff_exists, ← Option.isNone_eq_false_iff]
          by_contra hnone
          exact hknown (List.any_eq_true.mpr ⟨entry, hentry, by simpa using hnone⟩)
        · exact hunique (List.any_eq_true.mpr ⟨r, hr, by simp [hversion, hsame]⟩)

theorem Accepted.clean {rules : List PolicyRule} (h : Accepted cfg rules) :
    ∀ r ∈ rules, r.clean = true := by
  induction h with
  | nil => intro r hr; cases hr
  | insert _ hinsert ih =>
    obtain ⟨hrules, hclean, -, -⟩ := insertPolicyRule_some hinsert
    intro r hr
    rw [hrules] at hr
    rcases List.mem_append.mp hr with hr | hr
    · exact ih r hr
    · rw [List.mem_singleton.mp hr]
      exact hclean

theorem Accepted.known {rules : List PolicyRule} (h : Accepted cfg rules) :
    ∀ r ∈ rules, ∀ entry ∈ r.conditionConfig,
      ∃ predicate, cfg.predicate entry.predicate = some predicate := by
  induction h with
  | nil => intro r hr; cases hr
  | insert _ hinsert ih =>
    obtain ⟨hrules, -, hknown, -⟩ := insertPolicyRule_some hinsert
    intro r hr
    rw [hrules] at hr
    rcases List.mem_append.mp hr with hr | hr
    · exact ih r hr
    · rw [List.mem_singleton.mp hr]
      exact hknown

/-- Two rules of a version have different priorities. -/
theorem Accepted.distinct {rules : List PolicyRule} (h : Accepted cfg rules) :
    rules.Pairwise fun r r' => r.policyVersion = r'.policyVersion → r.priority ≠ r'.priority := by
  induction h with
  | nil => exact .nil
  | insert _ hinsert ih =>
    obtain ⟨hrules, -, -, hdistinct⟩ := insertPolicyRule_some hinsert
    rw [hrules, List.pairwise_append]
    refine ⟨ih, List.pairwise_singleton _ _, fun r hr r' hr' => ?_⟩
    rw [List.mem_singleton.mp hr']
    exact hdistinct r hr

theorem Accepted.priority_inj {s : Store} (h : Accepted cfg s.rules) {v i j : Nat}
    {r r' : PolicyRule} (hr : s.Enabled v i r) (hr' : s.Enabled v j r')
    (hsame : r.priority = r'.priority) : i = j := by
  obtain ⟨hi, hversion, -⟩ := hr
  obtain ⟨hj, hversion', -⟩ := hr'
  obtain ⟨hilt, rfl⟩ := List.getElem?_eq_some_iff.mp hi
  obtain ⟨hjlt, rfl⟩ := List.getElem?_eq_some_iff.mp hj
  have hdistinct := List.pairwise_iff_getElem.mp h.distinct
  rcases Nat.lt_trichotomy i j with hlt | heq | hgt
  · exact absurd hsame (hdistinct i j hilt hjlt hlt (hversion.trans hversion'.symm))
  · exact heq
  · exact absurd hsame.symm (hdistinct j i hjlt hilt hgt (hversion'.trans hversion.symm))

/-! ## The order of an evaluation -/

theorem enabledRules_ordered (s : Store) (v : Nat) :
    (s.enabledRules v).Pairwise fun a b => a.2.priority ≤ b.2.priority := by
  have hsorted : (s.enabledRules v).Pairwise fun a b =>
      decide (a.2.priority ≤ b.2.priority) = true := by
    apply List.pairwise_mergeSort
    · intro a b c hab hbc
      simp only [decide_eq_true_eq] at hab hbc ⊢
      omega
    · intro a b
      simp only [Bool.or_eq_true, decide_eq_true_eq]
      omega
  exact hsorted.imp fun h => by simpa using h

/-- The rules that match are read in the order of their priorities. -/
theorem matchedRules_ordered {context : PredicateContext} {v : Nat}
    {matched : List (Nat × PolicyRule)}
    (h : matchedRules cfg context (s.enabledRules v) = .ok matched) :
    matched.Pairwise fun a b => a.2.priority ≤ b.2.priority :=
  (enabledRules_ordered s v).sublist (matchedRules_sublist h)

/-! ## Runs -/

/-- The rules of every run of the policy services were accepted. -/
theorem accepted {c : Policing} {permits : Policing → PolicyLabel → Prop}
    (h : (policies cfg).system.Reach permits c) : Accepted cfg c.store.rules := by
  refine h.invariant (I := fun c => Accepted cfg c.store.rules) ?_ ?_
  · rintro c ⟨hstore, -⟩
    have hempty : c.store = .empty := hstore
    rw [hempty]
    exact .nil
  · intro c l c' _ hrules _ hstep
    cases l with
    | env e =>
      obtain ⟨s', started, hout, rfl⟩ := Program.step_env hstep
      have hsame : s'.rules = c.store.rules := by
        have heffect : Effect (fun _ => False) c.store s' := (policyStep_cases hout).effect
        rcases heffect.rules with hsame | ⟨_, himpossible, -⟩
        · exact hsame
        · exact himpossible.elim
      show Accepted cfg s'.rules
      rw [hsame]
      exact hrules
    | work i a =>
      obtain ⟨proc, s', proc', hproc, hout, rfl⟩ := Program.step_work hstep
      rcases statement_rules hout with hsame | ⟨rule, hinsert⟩
      · show Accepted cfg s'.rules
        rw [hsame]
        exact hrules
      · exact .insert hrules hinsert

end SupportPilot.Policies
