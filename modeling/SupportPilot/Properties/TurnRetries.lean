import SupportPilot.Agents.Traces

/-!
# Retries of a failed model turn

The route behind a failed provider call compares `attempt` with the retry limit. Nothing resets
that counter when a turn has succeeded, so it counts the calls of the whole segment, and a turn that
fails after others may not be retried at all.
-/

namespace SupportPilot

open Library GraphEvent

variable {digest : String → String}

/-- Until an exception ends the graph, `attempt` counts the provider calls of its segment. -/
theorem attempt_eq_calls {agentVersion : AgentVersion} {run : Uuid} {segment : Segment}
    {permits : GraphRun → Answer → Prop} {steps : GraphSteps} {g : GraphRun}
    (h : (segmentGraph digest agentVersion run segment).Run permits steps g)
    (hnode : g.node ≠ .raised) :
    g.state.attempt = calls ((segmentContext agentVersion run segment).trace steps) := by
  induction h with
  | init hinit =>
    cases segment with
    | main =>
      cases hinit
      rfl
    | resumed =>
      obtain ⟨usage, summary, rfl⟩ := hinit
      rfl
  | @step steps g g' a hrun _ hstep ih =>
    rw [segmentGraph_step] at hstep
    have hbefore : g.node ≠ .raised := by
      intro hraised
      cases RunContext.graphStep_cases _ hstep <;> simp_all
    rw [(RunContext.counts_graphStep hstep hnode).attempt, ih hbefore, RunContext.trace]
    unfold calls
    rw [List.countP_append, Nat.add_comm]

namespace RunContext

variable (ctx : RunContext)

/-- The graph goes on to another provider call, if it observes no cancellation. -/
def Retried (digest : String → String) (g : GraphRun) (elapsed : Rat) : Prop :=
  ∃ g', ctx.graphStep digest (.budget false elapsed) g = some g' ∧ g'.node = .generateResponse

variable {ctx}

variable (ctx digest) in
theorem retried_iff_allowsCall {g : GraphRun} (elapsed : Rat)
    (hlive : g.node = .checkBudget → g.state.Unended) :
    ctx.Retried digest g elapsed ↔
      g.node = .checkBudget ∧ ctx.allowsCall g.state elapsed = true := by
  obtain ⟨node, state⟩ := g
  by_cases hnode : node = .checkBudget
  · subst hnode
    obtain ⟨hbudget, -, hcancelled, -⟩ := hlive rfl
    simp only at hbudget hcancelled
    have hroute : routeAfterBudget (ctx.checkBudgetNode state false elapsed) = .generateResponse ↔
        ctx.allowsCall state elapsed = true := by
      rw [checkBudgetNode_unobserved (by simp [observesCancellation]), routeAfterBudget]
      by_cases hallows : ctx.allowsCall state elapsed = true
      · simp [hallows, hbudget, hcancelled]
      · simp [hallows]
    rw [← hroute]
    constructor
    · rintro ⟨g', hstep, hg'⟩
      cases hstep
      exact ⟨rfl, hg'⟩
    · rintro ⟨-, hg'⟩
      exact ⟨_, rfl, hg'⟩
  · refine iff_of_false ?_ fun h => hnode h.1
    rintro ⟨g', hstep, -⟩
    cases graphStep_cases ctx hstep
    exact hnode rfl

variable (ctx digest) in
/-- A call that fails with a retryable error goes back to the budget check when the counter and
the call budget are below their limits. -/
theorem failedCall_route {e : ProviderError} {state : RuntimeState}
    (hbudget : state.budgetExceeded = false) (hcode : e.code ≠ "")
    (hretryable : e.retryable = true) :
    ctx.routeAfterGenerate (ctx.generateResponse state digest (.error e)) = .checkBudget ↔
      (ctx.generateResponse state digest (.error e)).attempt < ctx.budgets.maxRetryAttempts ∧
        (ctx.generateResponse state digest (.error e)).modelCallCount <
          ctx.budgets.maxModelCalls := by
  unfold routeAfterGenerate generateResponse
  simp [hbudget, truthy, hcode, hretryable]

end RunContext

/-- A failed call is retried exactly as long as its turn has had fewer calls than the retry limit
and the budgets allow another, unless the calls of the segment have reached the limit where those
of the turn have not. -/
theorem failedCall_retried_iff {agentVersion : AgentVersion} {run : Uuid} {segment : Segment}
    {steps : GraphSteps} {before g : GraphRun} {e : ProviderError}
    (h : (segmentGraph digest agentVersion run segment).Run (fun _ a => a.Coded)
      ((before, .provider (.error e), g) :: steps) g)
    (hretryable : e.retryable = true) (elapsed : Rat) :
    let ctx := segmentContext agentVersion run segment
    let trace := ctx.trace ((before, .provider (.error e), g) :: steps)
    (ctx.Retried digest g elapsed ↔
        turnCalls trace < agentVersion.maxRetryAttempts ∧ ctx.allowsCall g.state elapsed = true) ↔
      ¬ (turnCalls trace < agentVersion.maxRetryAttempts ∧
        agentVersion.maxRetryAttempts ≤ calls trace ∧
        ctx.allowsCall g.state elapsed = true) := by
  intro ctx trace
  have hbudgets : ctx.budgets = versionBudgets agentVersion :=
    segmentContext_budgets agentVersion run segment
  have hlive := live_of_reach (h.reach.mono fun _ _ _ _ => trivial)
  have hretried := RunContext.retried_iff_allowsCall digest ctx elapsed fun hnode =>
    hlive.unended (by simp [hnode]) (by simp [hnode])
  have hroute : g.node = .checkBudget ↔ calls trace < agentVersion.maxRetryAttempts ∧
      g.state.modelCallCount < agentVersion.maxModelCalls := by
    have hattempt : g.node ≠ .raised → g.state.attempt = calls trace := attempt_eq_calls h
    cases h with
    | step hrun hcoded hstep =>
      have hbefore := live_of_reach (hrun.reach.mono fun _ _ _ _ => trivial)
      rw [segmentGraph_step] at hstep
      cases RunContext.graphStep_cases _ hstep with
      | @generated outcome state state' hstate =>
        subst hstate
        have hfailed := RunContext.failedCall_route digest ctx
          (hbefore.unended (by simp) (by simp)).budgetExceeded hcoded hretryable
        rw [hbudgets] at hfailed
        rw [hattempt RunContext.routeAfterGenerate_ne_raised] at hfailed
        exact hfailed
  have hcalls : ctx.allowsCall g.state elapsed = true →
      g.state.modelCallCount < agentVersion.maxModelCalls := by
    intro hallows
    have hlt := RunContext.modelCallCount_lt_of_allowsCall hallows
    rwa [hbudgets] at hlt
  have hturn := turnCalls_le_calls trace
  rw [hretried, hroute]
  by_cases hallows : ctx.allowsCall g.state elapsed = true
  · have hlt := hcalls hallows
    simp only [hallows, and_true, hlt]
    omega
  · simp [hallows]

/-! ## A failure after a tool turn -/

def retryVersion : AgentVersion := { maxModelCalls := 5, maxRetryAttempts := 2 }

def rateLimited : ProviderError :=
  ⟨"provider_rate_limited", "The AI provider is rate-limiting requests.", true⟩

def retryContext : RunContext := mainContext retryVersion (sampleUuid 0)

/-- A main segment that stands before its first provider call. -/
def firstTurn : GraphSteps × GraphRun :=
  (segmentGraph sampleDigest retryVersion (sampleUuid 0) .main).retrace
    [.nothing, .budget false 0] [] ⟨.prepareRun, initialState⟩

/-- A main segment that stands before its second turn, behind one with a tool call. -/
def secondTurn : GraphSteps × GraphRun :=
  (segmentGraph sampleDigest retryVersion (sampleUuid 0) .main).retrace
    [.nothing, .budget false 0,
      .provider (.ok { toolCalls := [⟨"crm_lookup", "\x7b\x7d", none⟩] }),
      .tool false (.result ⟨"crm_lookup", .succeeded, "\x7b\x7d", none⟩), .budget false 0]
    [] ⟨.prepareRun, initialState⟩

/-- The turn fails. -/
def failedAfter (turn : GraphSteps × GraphRun) : GraphRun :=
  ⟨retryContext.routeAfterGenerate
      (retryContext.generateResponse turn.2.state sampleDigest (.error rateLimited)),
    retryContext.generateResponse turn.2.state sampleDigest (.error rateLimited)⟩

def failedSteps (turn : GraphSteps × GraphRun) : GraphSteps :=
  (turn.2, .provider (.error rateLimited), failedAfter turn) :: turn.1

theorem firstTurn_run :
    (segmentGraph sampleDigest retryVersion (sampleUuid 0) .main).Run (fun _ a => a.Coded)
      (failedSteps firstTurn) (failedAfter firstTurn) := by
  refine .step (System.run_retrace _ ?_ (.init rfl)) (by simp [Answer.Coded, rateLimited]) rfl
  simp [Answer.Coded]

theorem failedCall_retried_first :
    retryContext.Retried sampleDigest (failedAfter firstTurn) 0 ↔
      turnCalls (retryContext.trace (failedSteps firstTurn)) < 2 ∧
        retryContext.allowsCall (failedAfter firstTurn).state 0 = true :=
  (failedCall_retried_iff firstTurn_run rfl 0).mpr (by decide)

/-- After a tool turn the first failure is not retried, though the limit is two attempts and the
budgets allow three more calls. -/
theorem failedCall_not_always_retried :
    ∃ steps g, (segmentGraph sampleDigest retryVersion (sampleUuid 0) .main).Run
        (fun _ a => a.Coded) ((secondTurn.2, .provider (.error rateLimited), g) :: steps) g ∧
      turnCalls (retryContext.trace ((secondTurn.2, .provider (.error rateLimited), g) :: steps)) <
        retryVersion.maxRetryAttempts ∧
      retryContext.allowsCall g.state 0 = true ∧
      ¬ retryContext.Retried sampleDigest g 0 := by
  refine ⟨secondTurn.1, failedAfter secondTurn, ?_, by decide, by decide, ?_⟩
  · refine .step (System.run_retrace _ ?_ (.init rfl)) (by simp [Answer.Coded, rateLimited]) rfl
    simp [Answer.Coded]
  · rintro ⟨g', hstep, -⟩
    cases RunContext.graphStep_cases _ hstep

end SupportPilot
