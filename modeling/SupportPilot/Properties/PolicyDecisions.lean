import SupportPilot.Properties.PersistableDecisions
import SupportPilot.Runtime.Clearance
import SupportPilot.Runtime.Scenario

/-!
# Decisions of a policy version

The rules are read in the order of their priorities, but what they decide depends on their
effects alone. A rule whose evaluation fails blocks the execution: the gate persists a denial,
and a denied row is never handed to a handler.
-/

namespace SupportPilot.Policies

open Library

variable {cfg : PolicySettings} {action : PolicyAction} {s s' : Store} {v : Nat}

/-- The decision that the version calls for. -/
noncomputable def called (cfg : PolicySettings) (action : PolicyAction) (s : Store) (v : Nat) :
    PolicyEffect :=
  decisionOf (Matching cfg action s v)
    (evaluateSystemDefault cfg action.toolKey action.risk action.arguments).decision

theorem judge_decision (h : NoneFails cfg action s v) :
    ∃ d, judge cfg action s v = .ok d ∧ d.decision = called cfg action s v := by
  obtain ⟨matched, hjudge, -, hmatching⟩ := judge_ok h
  exact ⟨_, hjudge, matchedDecision_decision hmatching⟩

/-! ## Priorities -/

def PolicyRule.unranked (rule : PolicyRule) : PolicyRule := { rule with priority := 0 }

/-- The same rules up to their priorities. -/
def SameUnranked (s s' : Store) : Prop :=
  s.rules.map PolicyRule.unranked = s'.rules.map PolicyRule.unranked

theorem Store.Enabled.reranked (h : SameUnranked s s') {id : Nat} {rule : PolicyRule}
    (henabled : s.Enabled v id rule) :
    ∃ rule', s'.Enabled v id rule' ∧ rule'.unranked = rule.unranked := by
  obtain ⟨hrow, hversion, hon⟩ := henabled
  have hmapped : (s'.rules.map PolicyRule.unranked)[id]? = some rule.unranked := by
    rw [← h, List.getElem?_map, hrow]
    rfl
  rw [List.getElem?_map] at hmapped
  obtain ⟨rule', hrow', hsame⟩ := Option.map_eq_some_iff.mp hmapped
  have hversion' : rule'.unranked.policyVersion = v := by
    rw [hsame]
    exact hversion
  have hon' : rule'.unranked.enabled = true := by
    rw [hsame]
    exact hon
  exact ⟨rule', ⟨hrow', hversion', hon'⟩, hsame⟩

/-- Whether a rule applies does not depend on its priority. -/
theorem ruleApplies_unranked {rule rule' : PolicyRule} (h : rule'.unranked = rule.unranked)
    (context : PredicateContext) :
    ruleApplies cfg rule' context = ruleApplies cfg rule context := by
  show ruleApplies cfg rule'.unranked context = ruleApplies cfg rule.unranked context
  rw [h]

theorem applies_unranked {rule rule' : PolicyRule} (h : rule'.unranked = rule.unranked)
    {context : PredicateContext} : Applies cfg context rule' ↔ Applies cfg context rule := by
  rw [← ruleApplies_true, ruleApplies_unranked h, ruleApplies_true]

theorem fails_unranked {rule rule' : PolicyRule} (h : rule'.unranked = rule.unranked)
    {context : PredicateContext} : Fails cfg context rule' ↔ Fails cfg context rule := by
  rw [← not_iff_not, ← ruleApplies_isOk, ruleApplies_unranked h, ruleApplies_isOk]

theorem effect_of_unranked {rule rule' : PolicyRule} (h : rule'.unranked = rule.unranked) :
    rule'.effect = rule.effect := by
  show rule'.unranked.effect = rule.unranked.effect
  rw [h]

theorem NoneFails.reranked (h : SameUnranked s s') (hs : NoneFails cfg action s v) :
    NoneFails cfg action s' v := by
  intro id rule' henabled
  obtain ⟨rule, henabled', hsame⟩ := henabled.reranked h.symm
  exact fun hfails => hs id rule henabled' ((fails_unranked hsame).mpr hfails)

theorem Matching.reranked (h : SameUnranked s s') {rule : PolicyRule}
    (hrule : Matching cfg action s v rule) :
    ∃ rule', Matching cfg action s' v rule' ∧ rule'.effect = rule.effect := by
  obtain ⟨⟨id, henabled⟩, happlies⟩ := hrule
  obtain ⟨rule', henabled', hsame⟩ := henabled.reranked h
  exact ⟨rule', ⟨⟨id, henabled'⟩, (applies_unranked hsame).mpr happlies⟩,
    effect_of_unranked hsame⟩

theorem called_reranked (h : SameUnranked s s') :
    called cfg action s' v = called cfg action s v := by
  refine decisionOf_congr fun effect => ?_
  constructor
  · rintro ⟨rule', hrule', rfl⟩
    exact hrule'.reranked h.symm
  · rintro ⟨rule, hrule, rfl⟩
    exact hrule.reranked h

/-! ## One more rule -/

/-- The version with one more rule. -/
def Store.withRule (s : Store) (rule : PolicyRule) : Store :=
  { s with rules := s.rules ++ [rule] }

theorem enabled_withRule {rule other : PolicyRule} {id : Nat} :
    (s.withRule rule).Enabled v id other ↔
      s.Enabled v id other ∨
        id = s.rules.length ∧ other = rule ∧ rule.policyVersion = v ∧ rule.enabled = true := by
  unfold Store.Enabled Store.withRule
  constructor
  · rintro ⟨hrow, hversion, hon⟩
    rcases getElem?_concat_cases hrow with hold | ⟨hlast, rfl⟩
    · exact .inl ⟨hold, hversion, hon⟩
    · exact .inr ⟨hlast, rfl, hversion, hon⟩
  · rintro (⟨hrow, hversion, hon⟩ | ⟨rfl, rfl, hversion, hon⟩)
    · exact ⟨getElem?_append_some hrow _, hversion, hon⟩
    · exact ⟨by simp, hversion, hon⟩

theorem NoneFails.withRule {rule : PolicyRule} (h : NoneFails cfg action s v)
    (hrule : ¬ Fails cfg action.context rule) : NoneFails cfg action (s.withRule rule) v := by
  intro id other henabled
  rcases enabled_withRule.mp henabled with hold | ⟨-, rfl, -, -⟩
  · exact h id other hold
  · exact hrule

theorem called_withRule (rule : PolicyRule) (hany : ∃ other, Matching cfg action s v other) :
    (called cfg action s v).strictness ≤ (called cfg action (s.withRule rule) v).strictness := by
  refine decisionOf_mono hany fun other hother => ?_
  obtain ⟨⟨id, henabled⟩, happlies⟩ := hother
  exact ⟨⟨id, enabled_withRule.mpr (.inl henabled)⟩, happlies⟩

/-! ## The gate -/

/-- What the gate does with the answer of an evaluation. -/
def policyOutcome : Except String PolicyDecision → PolicyOutcome
  | .error message => .evaluationFailed message
  | .ok d =>
    match d.decision with
    | .allow => .allow d.decisionCode d.safeReason
    | .deny => .deny d.decisionCode d.safeReason
    | .requireApproval =>
      .requireApproval d.decisionCode d.safeReason d.requiredRole d.approvalTtlSeconds

/-- A row that waits for its gate. -/
def Ungated (e : ToolExecution) : Prop := e.status = .pending ∧ e.policyEvaluation = none

def PersistedDeny (e : ToolExecution) : Prop :=
  ∃ ev, e.policyEvaluation = some ev ∧ ev.decision = .deny

theorem PersistedDeny.keeps {c c' : Configuration} {x : Nat} {l : Step}
    (h : RowAt c.store x PersistedDeny) (hstep : program.system.step l c = some c') :
    RowAt c'.store x PersistedDeny := by
  refine h.keeps (keeps_step hstep) fun e e' hkeeps he => ?_
  obtain ⟨ev, hev, hdeny⟩ := he
  exact ⟨ev, hkeeps.evaluation ev hev, hdeny⟩

/-- A denied row is blocked, and no worker is about to invoke a handler on it. -/
theorem blocked_of_denied {c : Configuration} {x : Nat} (hr : Reachable c)
    (h : RowAt c.store x PersistedDeny) :
    RowAt c.store x (fun e => e.status = .blockedByPolicy) ∧ ∀ j r, ¬ Invokes c j r x := by
  obtain ⟨e, he, ev, hev, hdeny⟩ := h
  have hblocked := ((invariants hr).store.rows x e he).denied ev hev hdeny
  refine ⟨⟨e, he, hblocked⟩, fun j r hinvokes => ?_⟩
  obtain ⟨ev', hev', hallowed, -⟩ :=
    (hinvokes.cleared (fun _ _ _ _ => trivial) trivial startsCleared_evaluated hr).get he
  rw [hev] at hev'
  exact hallowed (Option.some.inj hev' ▸ hdeny)

/-- With this outcome the gate of a row that waits for it commits a denial: the row is blocked
from then on, and no handler ever runs on it. -/
def FailsClosed (outcome : PolicyOutcome) : Prop :=
  ∀ (c : Configuration) (i now : Nat) (w : Worker) (call : Call), Reachable c →
    c.procs[i]? = some w → w.alive = true → w.point = .policyGate call →
    RowAt c.store call.execution Ungated →
    ∃ c', program.system.step (.work i (.runPolicyGate outcome now)) c = some c' ∧
      ∀ d, (program.system.startedAt c').Reach (fun _ _ => True) d →
        RowAt d.store call.execution PersistedDeny ∧
        RowAt d.store call.execution (fun e => e.status = .blockedByPolicy) ∧
        ∀ j r, ¬ Invokes d j r call.execution

theorem failsClosed_evaluationFailed (message : String) :
    FailsClosed (.evaluationFailed message) := by
  intro c i now w call hr hw halive hpoint hrow
  obtain ⟨e, he, hpending, hnone⟩ := hrow
  obtain ⟨run, hrun⟩ := ((invariants hr).procs i w hw).run
  let row : ToolExecution := { e with
    policyEvaluation := some ⟨.deny, "policy_evaluation_failed", message⟩
    status := .blockedByPolicy
    errorCode := "policy_action_denied"
    errorMessageSafe := String.ofList (message.toList.take maxErrorMessageLength)
    completedAt := some now }
  have hgate : SupportPilot.runPolicyGate e run.createdBy (.evaluationFailed message) now =
      .ok (row, some (.raise .policyEvaluationFailed message)) := by
    simp [SupportPilot.runPolicyGate, hnone, transitionBlockedByPolicy, hpending, row, bind,
      Except.bind]
  have hstep : program.system.step (.work i (.runPolicyGate (.evaluationFailed message) now)) c =
      some ⟨c.store.setExecution call.execution row, c.procs.set i (w.goto
        (.afterToolError call.execution (.raise .policyEvaluationFailed message)))⟩ := by
    simp [Program.system, Program.step, program, workStep, workerStep, hw, halive, hpoint,
      SupportPilot.Store.runPolicyGate, hrun, he, hgate]
  have hdenied : RowAt (c.store.setExecution call.execution row) call.execution PersistedDeny := by
    have hlt := (List.getElem?_eq_some_iff.mp he).1
    exact ⟨row, by simp [SupportPilot.Store.setExecution, hlt], _, rfl, rfl⟩
  refine ⟨_, hstep, fun d hd => ?_⟩
  have hlater : RowAt d.store call.execution PersistedDeny :=
    hd.continued (I := fun d => RowAt d.store call.execution PersistedDeny) hdenied
      fun _ _ _ ht _ hl => PersistedDeny.keeps ht hl
  exact ⟨hlater, blocked_of_denied (System.Reach.follow (.step hr trivial hstep) hd) hlater⟩

/-! ## Main result -/

/-- What a version decides for an action when none of its rules fails. -/
structure DecisionLaw (cfg : PolicySettings) (action : PolicyAction) (s : Store) (v : Nat) :
    Prop where
  decided : (judge cfg action s v).map (·.decision) = .ok (called cfg action s v)
  reranked : ∀ s', SameUnranked s s' →
    (judge cfg action s' v).map (·.decision) = (judge cfg action s v).map (·.decision)
  added : ∀ rule, ¬ Fails cfg action.context rule → (∃ other, Matching cfg action s v other) →
    ∃ d d', judge cfg action s v = .ok d ∧ judge cfg action (s.withRule rule) v = .ok d' ∧
      d.decision.strictness ≤ d'.decision.strictness

/-- The strictest effect of the matching rules decides, whatever their priorities, and one more
rule never relaxes it; and an evaluation that fails fails closed. -/
theorem policy_decisions (cfg : PolicySettings) (action : PolicyAction) (s : Store) (v : Nat) :
    (NoneFails cfg action s v → DecisionLaw cfg action s v) ∧
      (¬ NoneFails cfg action s v → FailsClosed (policyOutcome (judge cfg action s v))) := by
  constructor
  · intro hnone
    obtain ⟨d, hd, hdecision⟩ := judge_decision hnone
    refine ⟨?_, fun s' hsame => ?_, fun rule hrule hany => ?_⟩
    · rw [hd, Except.map, hdecision]
    · obtain ⟨d', hd', hdecision'⟩ := judge_decision (hnone.reranked hsame)
      rw [hd, hd', Except.map, Except.map, hdecision, hdecision', called_reranked hsame]
    · obtain ⟨d', hd', hdecision'⟩ := judge_decision (hnone.withRule hrule)
      refine ⟨d, d', hd, hd', ?_⟩
      rw [hdecision, hdecision']
      exact called_withRule rule hany
  · intro hfails
    obtain ⟨message, hmessage⟩ := judge_fails hfails
    rw [hmessage]
    exact failsClosed_evaluationFailed message

/-- A version that allows refunds, large ones with an approval, and whose rule about tickets has
an entry without its parameter. -/
def refundRules : Store :=
  { Store.empty with
    rules :=
      [ { denyAll with effect := .allow, conditionConfig := [⟨"tool_is", refundTool⟩] },
        { largeRefunds with priority := 2, effect := .requireApproval },
        { denyAll with
          priority := 3
          conditionConfig := [⟨"tool_is", ticketTool⟩, ⟨"risk_level_at_least", "\x7b\x7d"⟩] } ] }

def ticket : PolicyAction :=
  ⟨1, "ticket.create", ⟨.low, .low, .internalWrite⟩, { canonical := "\x7b\x7d" }⟩

theorem noneFails_refund : NoneFails sampleSettings refund refundRules 0 := by
  intro id rule henabled
  have hok : ∀ r ∈ refundRules.rules,
      (ruleApplies sampleSettings r refund.context).isOk = true := by decide +kernel
  have hrule := hok rule (List.mem_of_getElem? henabled.1)
  refine ruleApplies_isOk.mp ?_
  cases happlies : ruleApplies sampleSettings rule refund.context with
  | error message =>
    rw [happlies] at hrule
    cases hrule
  | ok applies => exact ⟨applies, rfl⟩

theorem not_noneFails_ticket : ¬ NoneFails sampleSettings ticket refundRules 0 := by
  intro hnone
  obtain ⟨applies, happlies⟩ := ruleApplies_isOk.mpr (hnone 2 _ ⟨rfl, rfl, rfl⟩)
  cases happlies

theorem called_refund : called sampleSettings refund refundRules 0 = .requireApproval := by
  refine decisionOf_requireApproval ?_ ?_
  · rintro ⟨rule, ⟨⟨id, henabled⟩, happlies⟩, hdeny⟩
    have hother : ∀ r ∈ refundRules.rules, r.effect = .deny →
        ruleApplies sampleSettings r refund.context = .ok false := by decide +kernel
    have hfalse := hother rule (List.mem_of_getElem? henabled.1) hdeny
    rw [ruleApplies_true.mpr happlies] at hfalse
    cases hfalse
  · exact ⟨_, ⟨⟨1, rfl, rfl, rfl⟩, ruleApplies_true.mp (by decide +kernel)⟩, rfl⟩

/-- For a large refund both rules about refunds match, and the stricter one decides; for a ticket
the rule without a parameter fails. -/
theorem policy_decisions_refundRules :
    called sampleSettings refund refundRules 0 = .requireApproval ∧
      DecisionLaw sampleSettings refund refundRules 0 ∧
      FailsClosed (policyOutcome (judge sampleSettings ticket refundRules 0)) :=
  ⟨called_refund, (policy_decisions sampleSettings refund refundRules 0).1 noneFails_refund,
    (policy_decisions sampleSettings ticket refundRules 0).2 not_noneFails_ticket⟩

end SupportPilot.Policies
