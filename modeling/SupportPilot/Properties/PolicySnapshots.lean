import SupportPilot.Policies.Steps

/-!
# Published policy versions are snapshots

A rule is checked against a version object, counted and inserted in separate statements, while
publication locks the version. If every insertion finds its version still in draft and not full,
the rules of a published version are frozen and every evaluation can be derived from them again.
-/

namespace SupportPilot.Policies

open Library

variable {cfg : PolicySettings} {s s' : Store} {c c' : Policing} {i k v : Nat}
  {rule : PolicyRule} {proc proc' : Proc} {l : PolicyLabel} {evaluation : PolicyEvaluation}

/-! ## Guarded insertions -/

/-- The version of the rule is still a draft, and has room for it. -/
def Store.admits (s : Store) (rule : PolicyRule) : Bool :=
  (s.versions.rows[rule.policyVersion]?).any (·.status = .draft) &&
    (s.rulesOf rule.policyVersion).length < maxRulesPerVersion

/-- A rule is inserted only while what was checked for it still holds. -/
def Guarded (c : Policing) (l : PolicyLabel) : Prop :=
  (inserted c l).all c.store.admits = true

instance (c : Policing) (l : PolicyLabel) : Decidable (Guarded c l) := by
  unfold Guarded
  infer_instance

theorem Guarded.effect (h : Guarded c l) (hstep : (policies cfg).system.step l c = some c') :
    Effect (fun rule => c.store.admits rule = true) c.store c'.store := by
  apply step_effect hstep
  intro rule hrule
  unfold Guarded at h
  rwa [hrule, Option.all_some] at h

/-- The version has been published. -/
def Published (s : Store) (v : Nat) : Prop :=
  ∃ version, s.versions.rows[v]? = some version ∧ version.status ≠ .draft

theorem rulesOf_append (s : Store) (rule : PolicyRule) (v : Nat) :
    ({ s with rules := s.rules ++ [rule] } : Store).rulesOf v =
      s.rulesOf v ++ if rule.policyVersion = v then [(s.rules.length, rule)] else [] := by
  simp only [Store.rulesOf, List.zipIdx_append, List.filter_append, List.map_append]
  congr 1
  by_cases hv : rule.policyVersion = v
  · simp [hv]
  · simp [hv]

section Effects

variable {Insertable : PolicyRule → Prop}

theorem Published.kept (h : Published s v) (heffect : Effect Insertable s s') :
    Published s' v := by
  obtain ⟨version, hversion, hstatus⟩ := h
  obtain ⟨version', hversion', hkept⟩ := heffect.versions v version hversion
  exact ⟨version', hversion', hkept hstatus⟩

/-- A published version gets no more rules. -/
theorem Published.rulesOf_eq (h : Published s v)
    (heffect : Effect (fun rule => s.admits rule = true) s s') :
    s'.rulesOf v = s.rulesOf v := by
  have hcongr : ∀ t : Store, t.rules = s'.rules → t.rulesOf v = s'.rulesOf v := by
    intro t ht
    simp only [Store.rulesOf, ht]
  rcases heffect.rules with hsame | ⟨rule, hadmits, happend⟩
  · exact (hcongr s hsame.symm).symm
  · obtain ⟨version, hversion, hstatus⟩ := h
    have hne : rule.policyVersion ≠ v := by
      rintro rfl
      simp only [Store.admits, hversion, Option.any_some, Bool.and_eq_true,
        decide_eq_true_eq] at hadmits
      exact hstatus hadmits.1
    rw [← hcongr { s with rules := s.rules ++ [rule] } happend.symm, rulesOf_append, if_neg hne,
      List.append_nil]

/-- No version gets more rules than the limit. -/
theorem Effect.length_le (heffect : Effect (fun rule => s.admits rule = true) s s')
    (hs : ∀ v, (s.rulesOf v).length ≤ maxRulesPerVersion) (v : Nat) :
    (s'.rulesOf v).length ≤ maxRulesPerVersion := by
  have hcongr : ∀ t : Store, t.rules = s'.rules → t.rulesOf v = s'.rulesOf v := by
    intro t ht
    simp only [Store.rulesOf, ht]
  rcases heffect.rules with hsame | ⟨rule, hadmits, happend⟩
  · rw [← hcongr s hsame.symm]
    exact hs v
  · rw [← hcongr { s with rules := s.rules ++ [rule] } happend.symm, rulesOf_append]
    by_cases hv : rule.policyVersion = v
    · simp only [Store.admits, Bool.and_eq_true, decide_eq_true_eq, hv] at hadmits
      rw [if_pos hv, List.length_append, List.length_singleton]
      omega
    · rw [if_neg hv, List.append_nil]
      exact hs v

end Effects

/-! ## Evaluations -/

/-- The stored evaluation is what the version that it names, if any, gives for its action. -/
def Rederivable (cfg : PolicySettings) (s : Store) (evaluation : PolicyEvaluation) : Prop :=
  ∀ v, evaluation.policyVersion = some v →
    Published s v ∧ evaluation = persistedEvaluation
      ⟨evaluation.workspace, evaluation.toolKey, evaluation.risk, evaluation.arguments⟩
      (evaluatePolicy cfg evaluation.toolKey evaluation.risk evaluation.arguments
        (some (v, s.enabledRules v)))

/-- What a call of the gate has found out holds until it has stored its evaluation. -/
def Sound (cfg : PolicySettings) (s : Store) : Proc → Prop
  | .evaluating _ version => ∀ v, version = some v → Published s v
  | .persisting evaluation => Rederivable cfg s evaluation
  | _ => True

theorem evaluatePolicy_version {toolKey : String} {risk : RiskOutcome} {arguments : Arguments}
    {version : Option (Nat × List (Nat × PolicyRule))} {decision : PolicyDecision}
    (h : evaluatePolicy cfg toolKey risk arguments version = .ok decision) :
    decision.policyVersion = version.map (·.1) := by
  have hfinal : ∀ {d : PolicyEffect} {code reason : String} {ids : List Nat} {w : Option Nat}
      {rules : List PolicyRule}, (finalizeDecision cfg d code reason ids w rules
        risk).policyVersion = w := by
    intro d code reason ids w rules
    unfold finalizeDecision
    split <;> rfl
  cases version with
  | none =>
    cases h
    exact hfinal
  | some named =>
    obtain ⟨v, rules⟩ := named
    simp only [evaluatePolicy] at h
    cases hmatched : matchedRules cfg ⟨toolKey, risk.effectiveRisk, risk.sideEffectType,
        arguments⟩ rules with
    | error message =>
      rw [hmatched] at h
      cases h
    | ok matched =>
      rw [hmatched] at h
      simp only [Except.map] at h
      split at h
      · cases h
        exact hfinal
      · cases h
        exact hfinal

theorem findActiveVersion_published {policy : Nat} (h : s.findActiveVersion policy = some v) :
    Published s v := by
  obtain ⟨hlt, hactive, -⟩ := List.findIdx?_eq_some_iff_getElem.mp h
  simp only [Store.activeVersion, Bool.and_eq_true, decide_eq_true_eq] at hactive
  refine ⟨_, List.getElem?_eq_getElem hlt, ?_⟩
  rw [hactive.2]
  nofun

/-- What has just been evaluated can be derived again. -/
theorem rederivable_evaluated {action : PolicyAction} {version : Option Nat}
    (hversion : ∀ v, version = some v → Published s v) :
    Rederivable cfg s (persistedEvaluation action (evaluatePolicy cfg action.toolKey action.risk
      action.arguments (version.map fun v => (v, s.enabledRules v)))) := by
  intro v hv
  cases heval : evaluatePolicy cfg action.toolKey action.risk action.arguments
      (version.map fun v => (v, s.enabledRules v)) with
  | error message =>
    rw [heval] at hv
    cases hv
  | ok decision =>
    rw [heval] at hv
    have hnamed : decision.policyVersion = some v := hv
    rw [evaluatePolicy_version heval] at hnamed
    cases version with
    | none => cases hnamed
    | some w =>
      cases hnamed
      refine ⟨hversion w rfl, ?_⟩
      show persistedEvaluation action (.ok decision) = persistedEvaluation action
        (evaluatePolicy cfg action.toolKey action.risk action.arguments
          (some (w, s.enabledRules w)))
      rw [show evaluatePolicy cfg action.toolKey action.risk action.arguments
        (some (w, s.enabledRules w)) = .ok decision from heval]

theorem Rederivable.kept (h : Rederivable cfg s evaluation)
    (heffect : Effect (fun rule => s.admits rule = true) s s') :
    Rederivable cfg s' evaluation := by
  intro v hv
  obtain ⟨hpublished, hsame⟩ := h v hv
  have hrules : s'.enabledRules v = s.enabledRules v := by
    simp only [Store.enabledRules, hpublished.rulesOf_eq heffect]
  refine ⟨hpublished.kept heffect, ?_⟩
  rw [hrules]
  exact hsame

theorem Sound.kept (h : Sound cfg s proc)
    (heffect : Effect (fun rule => s.admits rule = true) s s') : Sound cfg s' proc := by
  cases proc with
  | evaluating action version => exact fun v hv => (h v hv).kept heffect
  | persisting evaluation => exact Rederivable.kept h heffect
  | _ => trivial

/-- The rules are within the limit, and the evaluations can be derived again. -/
structure Snapshots (cfg : PolicySettings) (c : Policing) : Prop where
  limit : ∀ v, (c.store.rulesOf v).length ≤ maxRulesPerVersion
  evaluations : ∀ evaluation ∈ c.store.evaluations, Rederivable cfg c.store evaluation
  procs : ∀ (i : Nat) (proc : Proc), c.procs[i]? = some proc → Sound cfg c.store proc

theorem Statement.sound (h : Statement cfg s proc s' proc') (hproc : Sound cfg s proc)
    (heffect : Effect (fun rule => s.admits rule = true) s s') : Sound cfg s' proc' := by
  cases h with
  | noPolicy => exact nofun
  | foundVersion => exact fun v hv => findActiveVersion_published hv
  | evaluated => exact (rederivable_evaluated hproc).kept heffect
  | _ => trivial

theorem EventChange.sound {started : Option Proc} (h : EventChange s s' started)
    (hstarted : started = some proc) : Sound cfg s' proc := by
  cases h with
  | countingRule =>
    cases hstarted
    trivial
  | resolvingPolicy =>
    cases hstarted
    trivial
  | _ => cases hstarted

theorem statement_evaluations (h : Statement cfg s proc s' proc')
    (he : evaluation ∈ s'.evaluations) :
    evaluation ∈ s.evaluations ∨ proc = .persisting evaluation := by
  cases h with
  | persisted =>
    rcases List.mem_append.mp he with hold | hnew
    · exact .inl hold
    · exact .inr (by rw [List.mem_singleton.mp hnew])
  | _ => exact .inl he

theorem snapshots (h : (policies cfg).system.Reach Guarded c) : Snapshots cfg c := by
  refine h.invariant ?_ ?_
  · rintro ⟨s, procs⟩ ⟨rfl, rfl⟩
    refine ⟨fun v => Nat.zero_le _, fun evaluation he => ?_, fun i proc hproc => ?_⟩
    · cases he
    · simp at hproc
  · intro c l c' _ hc hp hstep
    have heffect := hp.effect hstep
    refine ⟨heffect.length_le hc.limit, ?_, ?_⟩
    · intro evaluation he
      cases l with
      | env e =>
        obtain ⟨s', started, hout, rfl⟩ := Program.step_env hstep
        rw [(policyStep_cases hout).evaluations] at he
        exact (hc.evaluations evaluation he).kept heffect
      | work i a =>
        obtain ⟨proc, s', proc', hproc, hout, rfl⟩ := Program.step_work hstep
        rcases statement_evaluations (statement_cases hout) he with hold | rfl
        · exact (hc.evaluations evaluation hold).kept heffect
        · exact Rederivable.kept (hc.procs i _ hproc) heffect
    · intro j proc hproc
      cases l with
      | env e =>
        obtain ⟨s', started, hout, rfl⟩ := Program.step_env hstep
        rcases Program.proc_append hproc with hold | rfl
        · exact (hc.procs j proc hold).kept heffect
        · exact (policyStep_cases hout).sound rfl
      | work i a =>
        obtain ⟨before, s', after, hbefore, hout, rfl⟩ := Program.step_work hstep
        rcases getElem?_set_cases hproc with ⟨-, rfl⟩ | ⟨-, hold⟩
        · exact (statement_cases hout).sound (hc.procs i before hbefore) heffect
        · exact (hc.procs j proc hold).kept heffect

/-! ## One active version, one active policy -/

/-- The indexes `policy_one_active_per_workspace` and `policy_version_one_active_per_policy`. -/
structure OneActive (s : Store) : Prop where
  policies : UniqueIndex (fun p : Policy => if p.status = .active then some p.workspace else none)
    s.policies.rows
  versions : UniqueIndex
    (fun v : PolicyVersion => if v.status = .active then some v.policy else none) s.versions.rows

theorem OneActive.empty : OneActive .empty := ⟨.nil _, .nil _⟩

theorem OneActive.activated (hs : OneActive s) (h : s.activatePolicy k = some s') :
    OneActive s' := by
  obtain ⟨policy, hpolicy, t, rfl, hrows⟩ := activatePolicy_rows h
  refine ⟨hs.policies.install k policy.workspace fun j p w hp hw => ?_, hs.versions⟩
  have hrow : t.rows[j]? = some p := hp
  rw [hrows] at hrow
  obtain ⟨p₀, hp₀, rfl⟩ := Option.map_eq_some_iff.mp hrow
  by_cases hjk : j = k
  · subst hjk
    rw [hpolicy] at hp₀
    cases hp₀
    simp only [if_true, Option.some.injEq] at hw
    exact .inl ⟨rfl, hw.symm⟩
  · simp only [if_neg hjk] at hw
    refine .inr ?_
    by_cases hactive : Store.activePolicy policy.workspace p₀ = true
    · rw [if_pos hactive] at hw
      simp at hw
    · rw [if_neg hactive] at hw
      refine ⟨?_, p₀, hp₀, hw⟩
      rintro rfl
      split at hw
      · rename_i hstatus
        refine hactive ?_
        simp only [Store.activePolicy, Bool.and_eq_true, decide_eq_true_eq]
        exact ⟨Option.some.inj hw, hstatus⟩
      · cases hw

theorem OneActive.published {now : Nat} (hs : OneActive s)
    (h : s.publishPolicyVersion k now = some s') : OneActive s' := by
  obtain ⟨locked, hlocked, t, rfl, hrows⟩ := publishPolicyVersion_rows h
  refine ⟨hs.policies, hs.versions.install k locked.policy fun j v w hv hw => ?_⟩
  have hrow : t.rows[j]? = some v := hv
  rw [hrows] at hrow
  obtain ⟨v₀, hv₀, rfl⟩ := Option.map_eq_some_iff.mp hrow
  by_cases hjk : j = k
  · subst hjk
    rw [hlocked] at hv₀
    cases hv₀
    simp only [if_true, Option.some.injEq] at hw
    exact .inl ⟨rfl, hw.symm⟩
  · simp only [if_neg hjk] at hw
    refine .inr ?_
    by_cases hactive : Store.activeVersion locked.policy v₀ = true
    · rw [if_pos hactive] at hw
      simp at hw
    · rw [if_neg hactive] at hw
      refine ⟨?_, v₀, hv₀, hw⟩
      rintro rfl
      split at hw
      · rename_i hstatus
        refine hactive ?_
        simp only [Store.activeVersion, Bool.and_eq_true, decide_eq_true_eq]
        exact ⟨Option.some.inj hw, hstatus⟩
      · cases hw

/-- A saved object is active only if it is the only one of its workspace. -/
theorem OneActive.saved {policy : Object Policy} (hs : OneActive s)
    (hcount : (s.policies.update policy.pk fun _ => policy.value).rows.countP
      (Store.activePolicy policy.value.workspace) ≤ 1) :
    OneActive { s with policies := s.policies.update policy.pk fun _ => policy.value } := by
  refine ⟨fun i j p q w hp hq hw hw' => ?_, hs.versions⟩
  have hactive : ∀ {r : Policy}, (if r.status = .active then some r.workspace else none) = some w →
      Store.activePolicy w r = true := by
    intro r hr
    split at hr
    · rename_i hstatus
      simp only [Store.activePolicy, Bool.and_eq_true, decide_eq_true_eq]
      exact ⟨Option.some.inj hr, hstatus⟩
    · cases hr
  by_cases hsame : w = policy.value.workspace
  · subst hsame
    exact eq_of_countP_le_one hcount hp hq (hactive hw) (hactive hw')
  · have hother : ∀ {m : Nat} {r : Policy},
        (s.policies.update policy.pk fun _ => policy.value).rows[m]? = some r →
        (if r.status = .active then some r.workspace else none) = some w →
        s.policies.rows[m]? = some r := by
      intro m r hr hkey
      rcases Versioned.update_cases hr with ⟨-, _, -, rfl⟩ | ⟨-, hold⟩
      · split at hkey
        · exact absurd (Option.some.inj hkey).symm hsame
        · cases hkey
      · exact hold
    exact hs.policies i j p q w (hother hp hw) (hother hq hw') hw hw'

theorem EventChange.oneActive {started : Option Proc} (h : EventChange s s' started)
    (hs : OneActive s) : OneActive s' := by
  cases h with
  | createdPolicy =>
    refine ⟨hs.policies.append fun w hw => ?_, hs.versions⟩
    cases hw
  | savedPolicy hcount => exact hs.saved hcount
  | activatedPolicy h => exact hs.activated h
  | @deactivatedPolicy k =>
    refine ⟨fun i j p q w hp hq hw hw' => ?_, hs.versions⟩
    have hold : ∀ {m : Nat} {r : Policy},
        (s.policies.update k fun p => { p with status := .inactive }).rows[m]? = some r →
        (if r.status = .active then some r.workspace else none) = some w →
        s.policies.rows[m]? = some r := by
      intro m r hr hkey
      rcases Versioned.update_cases hr with ⟨-, _, -, rfl⟩ | ⟨-, hold⟩
      · cases hkey
      · exact hold
    exact hs.policies i j p q w (hold hp hw) (hold hq hw') hw hw'
  | createdVersion =>
    refine ⟨hs.policies, hs.versions.append fun p hp => ?_⟩
    cases hp
  | publishedVersion h => exact hs.published h
  | countingRule | resolvingPolicy => exact hs

theorem oneActive {permits : Policing → PolicyLabel → Prop}
    (h : (policies cfg).system.Reach permits c) : OneActive c.store := by
  refine System.Reach.invariant (I := fun c => OneActive c.store) ?_ ?_ h
  · rintro ⟨s, procs⟩ ⟨rfl, -⟩
    exact .empty
  · intro c l c' _ hc _ hstep
    cases l with
    | env e =>
      obtain ⟨s', started, hout, rfl⟩ := Program.step_env hstep
      exact (policyStep_cases hout).oneActive hc
    | work i a =>
      obtain ⟨proc, s', proc', hproc, hout, rfl⟩ := Program.step_work hstep
      cases statement_cases hout <;> exact ⟨hc.policies, hc.versions⟩

/-! ## Main result -/

/-- Whatever follows, a published version has the rules that it has. -/
def RulesFrozen (cfg : PolicySettings) (permits : Policing → PolicyLabel → Prop)
    (c : Policing) : Prop :=
  ∀ c', ((policies cfg).system.startedAt c).Reach permits c' →
    ∀ v, Published c.store v → c'.store.rulesOf v = c.store.rulesOf v

/-- No version has more rules than the limit, and every stored evaluation that names a version can
be derived from it. -/
structure SnapshotLaw (cfg : PolicySettings) (s : Store) : Prop where
  limit : ∀ v, (s.rulesOf v).length ≤ maxRulesPerVersion
  evaluations : ∀ evaluation ∈ s.evaluations, Rederivable cfg s evaluation

theorem rulesFrozen : RulesFrozen cfg Guarded c := by
  intro c' h v hv
  have hkept := System.Reach.continued
    (I := fun t => Published t.store v ∧ t.store.rulesOf v = c.store.rulesOf v) h ⟨hv, rfl⟩
    fun t l t' ht hp hstep => by
      have heffect := hp.effect hstep
      exact ⟨ht.1.kept heffect, (ht.1.rulesOf_eq heffect).trans ht.2⟩
  exact hkept.2

/-- At most one version of a policy and one policy of a workspace is active, in every run. When a
rule is inserted only while its version is a draft that has room for it, the rules of published
versions are frozen and their evaluations can be derived again. -/
theorem policy_versions_snapshots (cfg : PolicySettings) :
    (∀ c, (policies cfg).system.Reach (fun _ _ => True) c → OneActive c.store) ∧
    ∀ c, (policies cfg).system.Reach Guarded c →
      RulesFrozen cfg Guarded c ∧ SnapshotLaw cfg c.store := by
  refine ⟨fun c h => oneActive h, fun c h => ⟨rulesFrozen, ?_⟩⟩
  have hsnapshots := snapshots h
  exact ⟨hsnapshots.limit, hsnapshots.evaluations⟩

def noPredicates : PolicySettings where
  predicate _ := none
  defaultApprovalTtlSeconds := 86400
  refundAutoAllowMaxMinor := 5000
  refundApprovalMaxMinor := 50000
  repr name := name
  upper name := name

def policiesEnd (permits : Policing → PolicyLabel → Prop) [∀ c l, Decidable (permits c l)]
    (labels : List PolicyLabel) : Policing :=
  (policies noPredicates).system.replayEnd permits labels ⟨.empty, []⟩

theorem reaches_policiesEnd (permits : Policing → PolicyLabel → Prop)
    [∀ c l, Decidable (permits c l)] (labels : List PolicyLabel) :
    (policies noPredicates).system.Reach permits (policiesEnd permits labels) := by
  have hinit : (policies noPredicates).system.initial ⟨.empty, []⟩ := ⟨rfl, rfl⟩
  exact System.reach_replayEnd (.init hinit) labels

def denyRule : PolicyRule := { policyVersion := 0, name := "deny", priority := 0, effect := .deny }

def draftVersion : PolicyVersionObject := ⟨0, { policy := 0, version := 1 }⟩

def lookupAction : PolicyAction :=
  { workspace := 0, toolKey := "crm.lookup", risk := ⟨.readOnly, .readOnly, .read⟩
    arguments := { canonical := "" } }

/-- A rule is added, the version is published and an action is denied under it. -/
def deniedAction : List PolicyLabel :=
  [.env (.createPolicy 0), .env (.activatePolicy 0), .env (.createPolicyVersion 0),
    .env (.addPolicyRule draftVersion denyRule), .work 0 (), .work 0 (),
    .env (.publishPolicyVersion 0 1), .env (.runPolicyGate lookupAction), .work 1 (), .work 1 (),
    .work 1 (), .work 1 ()]

theorem policy_versions_snapshots_denied :
    SnapshotLaw noPredicates (policiesEnd Guarded deniedAction).store ∧
      (policiesEnd Guarded deniedAction).store.evaluations.map
        (fun e => (e.policyVersion, e.decision)) = [(some 0, .deny)] :=
  ⟨((policy_versions_snapshots noPredicates).2 _
    (reaches_policiesEnd Guarded deniedAction)).2, by decide +kernel⟩

/-- A call has counted the rules of a draft, which is published and evaluated before the call
inserts its rule. -/
def lateRule : List PolicyLabel :=
  [.env (.createPolicy 0), .env (.activatePolicy 0), .env (.createPolicyVersion 0),
    .env (.addPolicyRule draftVersion denyRule), .work 0 (), .env (.publishPolicyVersion 0 1),
    .env (.runPolicyGate lookupAction), .work 1 (), .work 1 (), .work 1 (), .work 1 ()]

def numberedRule (n : Nat) : PolicyRule :=
  { policyVersion := 0, name := .ofList [.ofNat (65 + n)], priority := n, effect := .deny }

/-- Two calls count 49 rules, and both insert theirs. -/
def crowdedVersion : List PolicyLabel :=
  [.env (.createPolicy 0), .env (.createPolicyVersion 0)] ++
    (List.range 49).flatMap (fun n =>
      [.env (.addPolicyRule draftVersion (numberedRule n)), .work n (), .work n ()]) ++
    [.env (.addPolicyRule draftVersion (numberedRule 49)),
      .env (.addPolicyRule draftVersion (numberedRule 50)), .work 49 (), .work 50 (),
      .work 49 (), .work 50 ()]

/-- A late rule changes a published version and what its evaluations derive from, and two calls
can push a version over the limit. -/
theorem policy_versions_changed :
    (¬ ∀ (cfg : PolicySettings) (c : Policing), (policies cfg).system.Reach (fun _ _ => True) c →
        RulesFrozen cfg (fun _ _ => True) c) ∧
      (¬ ∀ (cfg : PolicySettings) (c : Policing),
        (policies cfg).system.Reach (fun _ _ => True) c →
          ∀ v, (c.store.rulesOf v).length ≤ maxRulesPerVersion) ∧
      ¬ ∀ (cfg : PolicySettings) (c : Policing),
        (policies cfg).system.Reach (fun _ _ => True) c →
          ∀ evaluation ∈ c.store.evaluations, Rederivable cfg c.store evaluation := by
  let M := (policies noPredicates).system
  let t := policiesEnd (fun _ _ => True) lateRule
  have ht : M.Reach (fun _ _ => True) t := reaches_policiesEnd _ lateRule
  have hbefore : t.store.versions.rows.map (·.status) = [.active] ∧
      (t.store.rulesOf 0).length = 0 := by decide +kernel
  have hinsert : (M.step (.work 0 ()) t).map (fun t' => ((t'.store.rulesOf 0).length,
      t'.store.evaluations.map fun e => (e.policyVersion, e.decision,
        (evaluatePolicy noPredicates e.toolKey e.risk e.arguments
          (some (0, t'.store.enabledRules 0))).toOption.map (·.decision)))) =
      some (1, [(some 0, .allow, some .deny)]) := by decide +kernel
  obtain ⟨t', ht', hfields⟩ := Option.map_eq_some_iff.mp hinsert
  simp only [Prod.mk.injEq] at hfields
  obtain ⟨hafter, hstored⟩ := hfields
  obtain ⟨hstatus, hbefore⟩ := hbefore
  refine ⟨fun hlaw => ?_, fun hlaw => ?_, fun hlaw => ?_⟩
  · have hpublished : Published t.store 0 := by
      have hrow : (t.store.versions.rows.map (·.status))[0]? = some .active := by rw [hstatus]; rfl
      rw [List.getElem?_map] at hrow
      obtain ⟨version, hversion, hactive⟩ := Option.map_eq_some_iff.mp hrow
      exact ⟨version, hversion, by rw [hactive]; nofun⟩
    have hlater : (M.startedAt t).Reach (fun _ _ => True) t' :=
      .step (l := .work 0 ()) (.init rfl) trivial ht'
    have hsame := hlaw noPredicates t ht t' hlater 0 hpublished
    rw [hsame, hbefore] at hafter
    cases hafter
  · have hle := hlaw noPredicates _ (reaches_policiesEnd (fun _ _ => True) crowdedVersion) 0
    have hcount : ((policiesEnd (fun _ _ => True) crowdedVersion).store.rulesOf 0).length = 51 := by
      decide +kernel
    rw [hcount] at hle
    exact absurd hle (by decide)
  · obtain ⟨e, he, hnamed⟩ := List.map_eq_singleton_iff.mp hstored
    simp only [Prod.mk.injEq] at hnamed
    have hmem : e ∈ t'.store.evaluations := by rw [he]; exact List.mem_singleton.mpr rfl
    obtain ⟨-, hsame⟩ := hlaw noPredicates t' (ht.step trivial ht') e hmem 0 hnamed.1
    obtain ⟨decision, hdecision, hdeny⟩ := Option.map_eq_some_iff.mp hnamed.2.2
    have hok : evaluatePolicy noPredicates e.toolKey e.risk e.arguments
        (some (0, t'.store.enabledRules 0)) = .ok decision := by
      cases heval : evaluatePolicy noPredicates e.toolKey e.risk e.arguments
          (some (0, t'.store.enabledRules 0)) with
      | error message =>
        rw [heval] at hdecision
        cases hdecision
      | ok d =>
        rw [heval] at hdecision
        cases hdecision
        rfl
    rw [hok] at hsame
    have hallow : e.decision = decision.decision := by rw [hsame]; rfl
    rw [hnamed.2.1, hdeny] at hallow
    cases hallow

end SupportPilot.Policies
