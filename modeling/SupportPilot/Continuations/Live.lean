import SupportPilot.Properties.IdempotencyKeys

/-!
# States that a segment reaches

Until the graph of a segment is over, nothing that ends it has happened, and a node that acts on
a proposed call or a requested handoff finds one. A segment without a probe is never cancelled.
-/

namespace SupportPilot

open Library

variable {digest : String → String}

/-- Nothing that ends the graph has happened. -/
structure RuntimeState.Unended (state : RuntimeState) : Prop where
  budgetExceeded : state.budgetExceeded = false
  budgetExceededReason : state.budgetExceededReason = none
  cancelled : state.cancelled = false
  handoffRequest : state.handoffRequest = none

/-- What a segment knows about its state at a node. -/
structure Live (ctx : RunContext) (g : GraphRun) : Prop where
  unended : g.node ≠ .finished → g.node ≠ .raised → g.state.Unended
  tool : g.node = .executeToolCall → g.state.pendingToolCall.isSome ∧
    g.state.pendingHandoffRequest = none ∧ g.state.safeErrorCode = none ∧
    g.state.safeErrorMessage = none ∧ g.state.retryableError = false
  handoff : g.node = .executeHandoffRequest → g.state.pendingHandoffRequest.isSome
  unprobed : ctx.isCancelled = false → g.state.cancelled = false

theorem Live.of_node {ctx : RunContext} {g : GraphRun} (htool : g.node ≠ .executeToolCall)
    (hhandoff : g.node ≠ .executeHandoffRequest)
    (unended : g.node ≠ .finished → g.node ≠ .raised → g.state.Unended)
    (unprobed : ctx.isCancelled = false → g.state.cancelled = false) : Live ctx g where
  unended := unended
  tool h := absurd h htool
  handoff h := absurd h hhandoff
  unprobed := unprobed

/-- A response that proposes a tool call carries neither an error nor a handoff request. -/
theorem RunContext.generateResponse_tool {ctx : RunContext} {state : RuntimeState}
    {outcome : Except ProviderError LLMResponse} (hidle : state.pendingToolCall = none)
    (h : (ctx.generateResponse state digest outcome).pendingToolCall.isSome) :
    (ctx.generateResponse state digest outcome).pendingHandoffRequest = none ∧
      (ctx.generateResponse state digest outcome).safeErrorCode = none ∧
      (ctx.generateResponse state digest outcome).safeErrorMessage = none ∧
      (ctx.generateResponse state digest outcome).retryableError = false := by
  unfold generateResponse at h ⊢
  split at h
  · simp [hidle] at h
  · rename_i hbudget
    cases outcome with
    | error e => simp [hidle] at h
    | ok response =>
      rw [if_neg hbudget]
      refine ⟨?_, rfl, rfl, rfl⟩
      simp only [Option.isSome_map, toolCall] at h
      split at h
      · cases h
      · rename_i hhandoff
        simpa using hhandoff

namespace RunContext

variable {ctx : RunContext} {state : RuntimeState} {cancelled : Bool}

theorem observesCancellation_of_unprobed (h : ctx.isCancelled = false) :
    ctx.observesCancellation cancelled = false := by
  simp [observesCancellation, h]

/-- The budget check goes on only with a state that nothing has ended. -/
theorem checkBudgetNode_unended {elapsed : Rat} (h : state.Unended)
    (hroute : routeAfterBudget (ctx.checkBudgetNode state cancelled elapsed) ≠ .finished) :
    (ctx.checkBudgetNode state cancelled elapsed).Unended := by
  obtain ⟨hbudget, hreason, hcancelled, hhandoff⟩ := h
  unfold routeAfterBudget at hroute
  unfold checkBudgetNode at hroute ⊢
  split
  · simp_all
  · dsimp only
    split
    · exact ⟨hbudget, hreason, hcancelled, hhandoff⟩
    · simp_all

theorem checkBudgetNode_cancelled {elapsed : Rat} (hunprobed : ctx.isCancelled = false) :
    (ctx.checkBudgetNode state cancelled elapsed).cancelled = state.cancelled := by
  unfold checkBudgetNode
  rw [if_neg (by simp [observesCancellation_of_unprobed hunprobed])]
  dsimp only
  split <;> rfl

theorem generateResponse_unended {outcome : Except ProviderError LLMResponse}
    (h : state.Unended) : (ctx.generateResponse state digest outcome).Unended := by
  obtain ⟨hbudget, hreason, hcancelled, hhandoff⟩ := h
  unfold generateResponse
  rw [if_neg (by simp [hbudget])]
  cases outcome with
  | error e => exact ⟨hbudget, hreason, hcancelled, hhandoff⟩
  | ok response => exact ⟨hbudget, hreason, hcancelled, hhandoff⟩

theorem generateResponse_cancelled {outcome : Except ProviderError LLMResponse} :
    (ctx.generateResponse state digest outcome).cancelled = state.cancelled := by
  unfold generateResponse
  split
  · rfl
  · cases outcome <;> rfl

/-- A tool call goes on only with a state that nothing has ended. -/
theorem executeToolCall_unended {outcome : ToolOutcome} (h : state.Unended)
    (hroute : routeAfterTool (ctx.executeToolCall state cancelled outcome) ≠ .finished) :
    (ctx.executeToolCall state cancelled outcome).Unended := by
  obtain ⟨hbudget, hreason, hcancelled, hhandoff⟩ := h
  unfold routeAfterTool at hroute
  unfold executeToolCall withToolError withError at hroute ⊢
  split
  · exact ⟨hbudget, hreason, hcancelled, hhandoff⟩
  · exact ⟨hbudget, hreason, hcancelled, hhandoff⟩
  · split
    · simp_all
    · dsimp only
      split
      · exact ⟨hbudget, hreason, hcancelled, hhandoff⟩
      · cases outcome with
        | budgetExceeded reason => simp_all
        | _ => exact ⟨hbudget, hreason, hcancelled, hhandoff⟩

theorem executeToolCall_cancelled {outcome : ToolOutcome} (hunprobed : ctx.isCancelled = false) :
    (ctx.executeToolCall state cancelled outcome).cancelled = state.cancelled := by
  unfold executeToolCall withToolError withError
  split
  · rfl
  · rfl
  · rw [if_neg (by simp [observesCancellation_of_unprobed hunprobed])]
    dsimp only
    split
    · rfl
    · cases outcome <;> rfl

theorem executeHandoffRequest_cancelled {validated : HandoffValidation}
    (hunprobed : ctx.isCancelled = false) :
    (ctx.executeHandoffRequest state cancelled validated).cancelled = state.cancelled := by
  unfold executeHandoffRequest withError
  split
  · rfl
  · rfl
  · rw [if_neg (by simp [observesCancellation_of_unprobed hunprobed])]
    cases validated <;> rfl

theorem routeAfterGenerate_tool {ctx : RunContext} {state : RuntimeState}
    (h : ctx.routeAfterGenerate state = .executeToolCall) : state.pendingToolCall.isSome := by
  unfold routeAfterGenerate at h
  split_ifs at h with _ _ _ _ hpending
  exact hpending.1

theorem routeAfterGenerate_handoff {ctx : RunContext} {state : RuntimeState}
    (h : ctx.routeAfterGenerate state = .executeHandoffRequest) :
    state.pendingHandoffRequest.isSome := by
  unfold routeAfterGenerate at h
  split_ifs at h with _ _ _ hpending
  exact hpending.1

theorem routeAfterBudget_ne : routeAfterBudget state ≠ .executeToolCall ∧
    routeAfterBudget state ≠ .executeHandoffRequest := by
  unfold routeAfterBudget
  split <;> simp

theorem routeAfterTool_ne : routeAfterTool state ≠ .executeToolCall ∧
    routeAfterTool state ≠ .executeHandoffRequest := by
  unfold routeAfterTool
  split <;> simp

theorem routeAfterValidation_ne : routeAfterValidation state ≠ .executeToolCall ∧
    routeAfterValidation state ≠ .executeHandoffRequest := by
  unfold routeAfterValidation
  split <;> simp

theorem validateProviderResult_unended (h : state.Unended) :
    (validateProviderResult state).Unended := by
  obtain ⟨hbudget, hreason, hcancelled, hhandoff⟩ := h
  unfold validateProviderResult withError
  split <;> exact ⟨hbudget, hreason, hcancelled, hhandoff⟩

end RunContext

theorem live_graphStep {ctx : RunContext} {g g' : GraphRun} {a : Answer}
    (hkeyed : Keyed digest ctx g) (hg : Live ctx g) (h : ctx.graphStep digest a g = some g') :
    Live ctx g' := by
  cases RunContext.graphStep_cases ctx h with
  | raised => exact ⟨by simp, by simp, by simp, hg.unprobed⟩
  | prepared =>
    obtain ⟨hbudget, hreason, hcancelled, hhandoff⟩ := hg.unended (by simp) (by simp)
    exact ⟨fun _ _ => ⟨hbudget, hreason, hcancelled, hhandoff⟩, by simp, by simp, hg.unprobed⟩
  | checked hstate =>
    subst hstate
    obtain ⟨htool, hhandoff⟩ := RunContext.routeAfterBudget_ne
    refine .of_node htool hhandoff (fun hgoes _ => ?_) fun hunprobed => ?_
    · exact RunContext.checkBudgetNode_unended (hg.unended (by simp) (by simp)) hgoes
    · exact (RunContext.checkBudgetNode_cancelled hunprobed).trans (hg.unprobed hunprobed)
  | @generated outcome state state' hstate =>
    subst hstate
    have hidle := hkeyed.idle (by simp)
    refine ⟨fun _ _ => ?_, fun hroute => ?_, RunContext.routeAfterGenerate_handoff, ?_⟩
    · exact RunContext.generateResponse_unended (hg.unended (by simp) (by simp))
    · have hpending := RunContext.routeAfterGenerate_tool hroute
      exact ⟨hpending, RunContext.generateResponse_tool hidle hpending⟩
    · intro hunprobed
      exact RunContext.generateResponse_cancelled.trans (hg.unprobed hunprobed)
  | executed hstate =>
    subst hstate
    obtain ⟨htool, hhandoff⟩ := RunContext.routeAfterTool_ne
    refine .of_node htool hhandoff (fun hgoes _ => ?_) fun hunprobed => ?_
    · exact RunContext.executeToolCall_unended (hg.unended (by simp) (by simp)) hgoes
    · exact (RunContext.executeToolCall_cancelled hunprobed).trans (hg.unprobed hunprobed)
  | @handedOff cancelled validated state state' hstate =>
    subst hstate
    refine ⟨by simp, by simp, by simp, fun hunprobed => ?_⟩
    exact (RunContext.executeHandoffRequest_cancelled hunprobed).trans (hg.unprobed hunprobed)
  | @validated state state' hstate =>
    subst hstate
    obtain ⟨htool, hhandoff⟩ := RunContext.routeAfterValidation_ne
    have hunended :=
      RunContext.validateProviderResult_unended (hg.unended (by simp) (by simp))
    exact .of_node htool hhandoff (fun _ _ => hunended) fun _ => hunended.cancelled
  | finalized => exact ⟨by simp, by simp, by simp, hg.unprobed⟩

theorem live_of_reach {agentVersion : AgentVersion} {run : Uuid} {segment : Segment}
    {g : GraphRun}
    (h : (segmentGraph digest agentVersion run segment).Reach (fun _ _ => True) g) :
    Live (segmentContext agentVersion run segment) g := by
  refine h.invariant (fun g hg => ?_) fun g a g' hreach hlive _ hstep => ?_
  · cases segment with
    | main =>
      cases hg
      exact .of_node (by simp) (by simp) (fun _ _ => ⟨rfl, rfl, rfl, rfl⟩) fun _ => rfl
    | resumed =>
      obtain ⟨usage, summary, rfl⟩ := hg
      exact .of_node (by simp) (by simp) (fun _ _ => ⟨rfl, rfl, rfl, rfl⟩) fun _ => rfl
  · rw [segmentGraph_step] at hstep
    exact live_graphStep (keyed_of_reach hreach) hlive hstep

end SupportPilot
