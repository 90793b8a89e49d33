import SupportPilot.Policies.Services

/-!
# The steps of the policy services

Every event and every statement of a call, with what it leaves of the tables. Rules are only
ever added.
-/

namespace SupportPilot.Policies

open Library

variable {cfg : PolicySettings} {s s' : Store} {c c' : Policing} {k : Nat} {rule : PolicyRule}
  {proc proc' : Proc} {l : PolicyLabel}

/-- The rule that a step inserts. -/
def inserted (c : Policing) : PolicyLabel → Option PolicyRule
  | .work i _ =>
    match c.procs[i]? with
    | some (.inserting rule) => some rule
    | _ => none
  | .env _ => none

/-- What a step can do to the rows. -/
structure Effect (Insertable : PolicyRule → Prop) (s s' : Store) : Prop where
  rules : s'.rules = s.rules ∨ ∃ rule, Insertable rule ∧ s'.rules = s.rules ++ [rule]
  versions : Rows (fun v v' => v.status ≠ .draft → v'.status ≠ .draft) s.versions.rows
    s'.versions.rows

theorem Effect.same {Insertable : PolicyRule → Prop} (hrules : s'.rules = s.rules)
    (hversions : s'.versions = s.versions) : Effect Insertable s s' where
  rules := .inl hrules
  versions := by
    rw [hversions]
    exact .refl (fun _ h => h) _

/-- What an event does to the tables, and the call that it starts. -/
inductive EventChange (s : Store) : Store → Option Proc → Prop
  | createdPolicy {workspace : Nat} : EventChange s (s.createPolicy workspace) none
  | savedPolicy {policy : Object Policy} :
      (s.policies.update policy.pk fun _ => policy.value).rows.countP
        (Store.activePolicy policy.value.workspace) ≤ 1 →
      EventChange s { s with policies := s.policies.update policy.pk fun _ => policy.value } none
  | activatedPolicy {k : Nat} {s' : Store} : s.activatePolicy k = some s' → EventChange s s' none
  | deactivatedPolicy {k : Nat} : EventChange s
      { s with policies := s.policies.update k fun p => { p with status := .inactive } } none
  | createdVersion {policy version : Nat} : EventChange s
      { s with versions := s.versions.insert { policy := policy, version := version } } none
  | publishedVersion {k now : Nat} {s' : Store} : s.publishPolicyVersion k now = some s' →
      EventChange s s' none
  | countingRule {version : PolicyVersionObject} {rule : PolicyRule} :
      EventChange s s (some (.counting version rule))
  | resolvingPolicy {action : PolicyAction} : EventChange s s (some (.resolvingPolicy action))

theorem policyStep_cases {e : PolicyEvent} {started : Option Proc}
    (h : policyStep e s = some (s', started)) : EventChange s s' started := by
  cases e with
  | createPolicy workspace =>
    cases h
    exact .createdPolicy
  | updatePolicy policy =>
    simp only [policyStep] at h
    split at h
    · obtain ⟨t, ht, heq⟩ := Option.map_eq_some_iff.mp h
      cases heq
      unfold Store.updatePolicy at ht
      simp only at ht
      split at ht
      · rename_i hcount
        cases ht
        exact .savedPolicy hcount
      · cases ht
    · cases h
  | activatePolicy k =>
    obtain ⟨t, ht, heq⟩ := Option.map_eq_some_iff.mp h
    cases heq
    exact .activatedPolicy ht
  | deactivatePolicy k =>
    obtain ⟨t, ht, heq⟩ := Option.map_eq_some_iff.mp h
    cases heq
    obtain ⟨policy, -, rfl⟩ := Option.map_eq_some_iff.mp ht
    exact .deactivatedPolicy
  | createPolicyVersion policy =>
    obtain ⟨t, ht, heq⟩ := Option.map_eq_some_iff.mp h
    cases heq
    unfold Store.createPolicyVersion at ht
    split at ht
    · cases ht
      exact .createdVersion
    · cases ht
  | publishPolicyVersion k now =>
    obtain ⟨t, ht, heq⟩ := Option.map_eq_some_iff.mp h
    cases heq
    exact .publishedVersion ht
  | addPolicyRule version rule =>
    simp only [policyStep] at h
    split at h
    · cases h
      exact .countingRule
    · cases h
  | runPolicyGate action =>
    cases h
    exact .resolvingPolicy

/-- The version tables around a publication. -/
theorem publishPolicyVersion_rows {now : Nat} (h : s.publishPolicyVersion k now = some s') :
    ∃ locked, s.versions.rows[k]? = some locked ∧
      (∃ t, s' = { s with versions := t } ∧ ∀ j, t.rows[j]? = (s.versions.rows[j]?).map fun v =>
        if j = k then { v with status := .active, publishedAt := some now }
        else if Store.activeVersion locked.policy v then { v with status := .superseded }
        else v) := by
  obtain ⟨locked, hlocked, hout⟩ := Option.bind_eq_some_iff.mp h
  split at hout
  · cases hout
  · cases hout
    refine ⟨locked, hlocked, _, rfl, fun j => ?_⟩
    rw [Versioned.rows_update, Versioned.rows_updateAll, List.getElem?_modify,
      List.getElem?_mapIdx, Option.map_eq_map, Option.map_map]
    congr 1
    funext v
    by_cases hkj : k = j
    · subst hkj
      simp only [Function.comp_apply, if_true]
      split <;> rfl
    · simp only [Function.comp_apply, if_neg hkj, if_neg (Ne.symm hkj)]

theorem activatePolicy_rows (h : s.activatePolicy k = some s') :
    ∃ policy, s.policies.rows[k]? = some policy ∧
      (∃ t, s' = { s with policies := t } ∧ ∀ j, t.rows[j]? = (s.policies.rows[j]?).map fun p =>
        if j = k then { p with status := .active }
        else if Store.activePolicy policy.workspace p then { p with status := .inactive }
        else p) := by
  obtain ⟨policy, hpolicy, rfl⟩ := Option.map_eq_some_iff.mp h
  refine ⟨policy, hpolicy, _, rfl, fun j => ?_⟩
  rw [Versioned.rows_update, Versioned.rows_updateAll, List.getElem?_modify,
    List.getElem?_mapIdx, Option.map_eq_map, Option.map_map]
  congr 1
  funext p
  by_cases hkj : k = j
  · subst hkj
    simp
  · simp [hkj, Ne.symm hkj]

theorem EventChange.effect {Insertable : PolicyRule → Prop} {started : Option Proc}
    (h : EventChange s s' started) : Effect Insertable s s' := by
  cases h with
  | activatedPolicy h =>
    obtain ⟨-, -, t, rfl, -⟩ := activatePolicy_rows h
    exact .same rfl rfl
  | createdVersion => exact ⟨.inl rfl, .append (fun _ h => h) _ _⟩
  | publishedVersion h =>
    obtain ⟨locked, -, t, rfl, hrows⟩ := publishPolicyVersion_rows h
    refine ⟨.inl rfl, fun j v hv => ⟨_, by rw [hrows, hv, Option.map_some], fun hstatus => ?_⟩⟩
    split
    · nofun
    · split
      · nofun
      · exact hstatus
  | createdPolicy | savedPolicy | deactivatedPolicy | countingRule | resolvingPolicy =>
    exact .same rfl rfl

theorem EventChange.evaluations {started : Option Proc} (h : EventChange s s' started) :
    s'.evaluations = s.evaluations := by
  cases h with
  | activatedPolicy h =>
    obtain ⟨-, -, t, rfl, -⟩ := activatePolicy_rows h
    rfl
  | publishedVersion h =>
    obtain ⟨-, -, t, rfl, -⟩ := publishPolicyVersion_rows h
    rfl
  | _ => rfl

theorem insertPolicyRule_eq (h : s.insertPolicyRule cfg rule = some s') :
    s' = { s with rules := s.rules ++ [rule] } := by
  unfold Store.insertPolicyRule at h
  split at h
  · cases h
  · split at h
    · cases h
    · split at h
      · cases h
      · exact (Option.some.inj h).symm

/-- What a statement of a call does, by the point that the call has reached. -/
inductive Statement (cfg : PolicySettings) (s : Store) : Proc → Store → Proc → Prop
  | full {version : PolicyVersionObject} {rule : PolicyRule} :
      Statement cfg s (.counting version rule) s .ended
  | counted {version : PolicyVersionObject} {rule : PolicyRule} :
      Statement cfg s (.counting version rule) s (.inserting rule)
  | inserted {rule : PolicyRule} :
      Statement cfg s (.inserting rule) { s with rules := s.rules ++ [rule] } .ended
  | foundPolicy {action : PolicyAction} {policy : Nat} :
      Statement cfg s (.resolvingPolicy action) s (.resolvingVersion action policy)
  | noPolicy {action : PolicyAction} :
      Statement cfg s (.resolvingPolicy action) s (.evaluating action none)
  | foundVersion {action : PolicyAction} {policy : Nat} :
      Statement cfg s (.resolvingVersion action policy) s
        (.evaluating action (s.findActiveVersion policy))
  | evaluated {action : PolicyAction} {version : Option Nat} :
      Statement cfg s (.evaluating action version) s
        (.persisting (persistedEvaluation action (evaluatePolicy cfg action.toolKey action.risk
          action.arguments (version.map fun v => (v, s.enabledRules v)))))
  | persisted {evaluation : PolicyEvaluation} :
      Statement cfg s (.persisting evaluation)
        { s with evaluations := s.evaluations ++ [evaluation] } .ended

theorem statement_cases (h : statement cfg proc s = some (s', proc')) :
    Statement cfg s proc s' proc' := by
  unfold statement at h
  split at h
  · split at h
    · cases h
      exact .full
    · cases h
      exact .counted
  · obtain ⟨t, ht, heq⟩ := Option.map_eq_some_iff.mp h
    cases heq
    rw [insertPolicyRule_eq ht]
    exact .inserted
  · split at h
    · cases h
      exact .foundPolicy
    · cases h
      exact .noPolicy
  · cases h
    exact .foundVersion
  · cases h
    exact .evaluated
  · cases h
    exact .persisted
  · cases h

/-- A statement that changes the rules is an insertion. -/
theorem statement_rules (h : statement cfg proc s = some (s', proc')) :
    s'.rules = s.rules ∨ ∃ rule, s.insertPolicyRule cfg rule = some s' := by
  cases proc with
  | inserting rule =>
    obtain ⟨t, ht, heq⟩ := Option.map_eq_some_iff.mp h
    cases heq
    exact .inr ⟨rule, ht⟩
  | counting | resolvingPolicy | resolvingVersion | evaluating | persisting | ended =>
    cases statement_cases h
    all_goals exact .inl rfl

theorem step_effect {Insertable : PolicyRule → Prop}
    (hstep : (policies cfg).system.step l c = some c')
    (hinsert : ∀ rule, inserted c l = some rule → Insertable rule) :
    Effect Insertable c.store c'.store := by
  cases l with
  | env e =>
    obtain ⟨s', started, hout, rfl⟩ := Program.step_env hstep
    exact (policyStep_cases hout).effect
  | work i a =>
    obtain ⟨proc, s', proc', hproc, hout, rfl⟩ := Program.step_work hstep
    cases statement_cases hout with
    | inserted =>
      refine ⟨.inr ⟨_, hinsert _ ?_, rfl⟩, .refl (fun _ h => h) _⟩
      simp only [inserted, hproc]
    | _ => exact .same rfl rfl

end SupportPilot.Policies
