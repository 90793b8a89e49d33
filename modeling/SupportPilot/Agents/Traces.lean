import SupportPilot.Continuations.Live
import SupportPilot.Continuations.Segments

/-!
# What a segment does outside

The provider calls, the tool calls, the handoff requests and the observed cancellations of a graph,
as the trace of a run of it, the latest first. An exception may end a call before it has an
outcome.
-/

namespace SupportPilot

open Library

inductive GraphEvent
  | called (outcome : Option (Except ProviderError LLMResponse))
  | executed (call : PendingToolCall) (outcome : Option ToolOutcome)
  | handoffRequested (validated : HandoffValidation)
  | cancellationObserved

namespace GraphEvent

def isCall : GraphEvent → Bool
  | called _ => true
  | _ => false

def isExecution : GraphEvent → Bool
  | executed _ _ => true
  | _ => false

/-- The number of calls of `LLMProvider.generate`. -/
def calls (trace : List GraphEvent) : Nat := trace.countP isCall

/-- The calls of the current model turn: those after the last one that had a response. -/
def turnCalls : List GraphEvent → Nat
  | [] => 0
  | called (some (.ok _)) :: _ => 0
  | called _ :: earlier => turnCalls earlier + 1
  | _ :: earlier => turnCalls earlier

theorem turnCalls_le_calls (trace : List GraphEvent) : turnCalls trace ≤ calls trace := by
  fun_induction turnCalls trace with
  | case1 => exact Nat.le_refl _
  | case2 response earlier => exact Nat.zero_le _
  | case3 outcome earlier hfailed ih =>
    rw [calls, List.countP_cons_of_pos rfl]
    exact Nat.succ_le_succ ih
  | case4 event earlier hok hcalled ih =>
    have hevent : ¬ isCall event = true := by
      cases event with
      | called outcome => exact absurd rfl (hcalled outcome)
      | _ => simp [isCall]
    rw [calls, List.countP_cons_of_neg hevent]
    exact ih

/-- Nothing may be called after it: a handoff, its request in a model turn, an observed
cancellation, a tool outcome other than a result, an exception. -/
def Ends : GraphEvent → Prop
  | called (some (.ok response)) => response.handoffRequest.isSome
  | called (some (.error _)) => False
  | executed _ (some (.result _)) => False
  | _ => True

end GraphEvent

/-- Every error class of a provider has a code. -/
def Answer.Coded : Answer → Prop
  | .provider (.error e) => e.code ≠ ""
  | _ => True

/-- How the service settles the run with the result of the graph. -/
def segmentOutcome : Segment → Bool → RuntimeState → RunOutcome
  | .main => claimedOutcome
  | .resumed => continuedOutcome

@[simp]
theorem segmentContext_budgets (agentVersion : AgentVersion) (run : Uuid) (segment : Segment) :
    (segmentContext agentVersion run segment).budgets = versionBudgets agentVersion := by
  cases segment <;> rfl

abbrev GraphSteps := List (GraphRun × Answer × GraphRun)

namespace RunContext

variable (ctx : RunContext)

/-- What a node does outside with this answer. -/
def event (g : GraphRun) : Answer → Option GraphEvent
  | .nothing => none
  | .budget cancelled _ =>
    if ctx.observesCancellation cancelled then some .cancellationObserved else none
  | .provider outcome => if g.state.budgetExceeded then none else some (.called outcome)
  | .tool cancelled outcome =>
    if g.state.pendingToolCall.isSome ∧ ctx.executeTool ∧ ctx.observesCancellation cancelled then
      some .cancellationObserved
    else (ctx.executedCall g.state cancelled).map fun call => .executed call outcome
  | .handoff cancelled validated =>
    if g.state.pendingHandoffRequest.isSome ∧ ctx.requestHandoff then
      if ctx.observesCancellation cancelled then some .cancellationObserved
      else some (.handoffRequested validated)
    else none
  | .exception =>
    match g.node with
    | .generateResponse => if g.state.budgetExceeded then none else some (.called none)
    | .executeToolCall => (ctx.executedCall g.state false).map fun call => .executed call none
    | _ => none

/-- The trace of the steps of a run. -/
def trace : GraphSteps → List GraphEvent
  | [] => []
  | (g, a, _) :: earlier => (ctx.event g a).toList ++ trace earlier

/-- `check_budget` lets the segment make another call after so much time. -/
def allowsCall (state : RuntimeState) (elapsed : Rat) : Bool :=
  (checkBudget ctx.budgets state.modelCallCount state.stepCount state.totalTokens
    (budgetCost state) elapsed).allowed

/-! ## Routes -/

section Routes

variable {ctx : RunContext}

theorem modelCallCount_lt_of_allowsCall {state : RuntimeState} {elapsed : Rat}
    (h : ctx.allowsCall state elapsed = true) :
    state.modelCallCount < ctx.budgets.maxModelCalls := by
  unfold allowsCall checkBudget at h
  split at h
  · cases h
  · omega

theorem checkBudgetNode_unobserved {state : RuntimeState} {cancelled : Bool} {elapsed : Rat}
    (h : ctx.observesCancellation cancelled = false) :
    ctx.checkBudgetNode state cancelled elapsed =
      if ctx.allowsCall state elapsed then { state with stepCount := state.stepCount + 1 }
      else { state with
        stepCount := state.stepCount + 1
        budgetExceeded := true
        budgetExceededReason := (checkBudget ctx.budgets state.modelCallCount state.stepCount
          state.totalTokens (budgetCost state) elapsed).reason } := by
  unfold checkBudgetNode
  rw [if_neg (by simp [h])]
  rfl

theorem routeAfterGenerate_ne_raised {state : RuntimeState} :
    ctx.routeAfterGenerate state ≠ .raised := by
  unfold routeAfterGenerate
  split_ifs <;> simp

theorem routeAfterBudget_cases (state : RuntimeState) :
    routeAfterBudget state = .finished ∧ (state.budgetExceeded = true ∨ state.cancelled = true) ∨
      routeAfterBudget state = .generateResponse := by
  unfold routeAfterBudget
  split
  · rename_i hflag
    exact .inl ⟨rfl, hflag⟩
  · exact .inr rfl

theorem routeAfterTool_cases (state : RuntimeState) :
    routeAfterTool state = .finished ∧ (truthy state.safeErrorCode = true ∨
        state.budgetExceeded = true ∨ state.cancelled = true) ∨
      routeAfterTool state = .checkBudget := by
  unfold routeAfterTool
  split
  · rename_i hflag
    exact .inl ⟨rfl, hflag⟩
  · exact .inr rfl

theorem routeAfterValidation_cases (state : RuntimeState) :
    routeAfterValidation state = .finished ∧ truthy state.safeErrorCode = true ∨
      routeAfterValidation state = .finalizeResponse := by
  unfold routeAfterValidation
  split
  · rename_i herror
    exact .inl ⟨rfl, herror⟩
  · exact .inr rfl

end Routes

/-! ## Counters -/

theorem checkBudgetNode_counters (state : RuntimeState) (cancelled : Bool) (elapsed : Rat) :
    (ctx.checkBudgetNode state cancelled elapsed).attempt = state.attempt ∧
      (ctx.checkBudgetNode state cancelled elapsed).modelCallCount = state.modelCallCount := by
  unfold checkBudgetNode
  split
  · exact ⟨rfl, rfl⟩
  · dsimp only
    split <;> exact ⟨rfl, rfl⟩

theorem executeToolCall_counters (state : RuntimeState) (cancelled : Bool)
    (outcome : ToolOutcome) :
    (ctx.executeToolCall state cancelled outcome).attempt = state.attempt ∧
      (ctx.executeToolCall state cancelled outcome).modelCallCount = state.modelCallCount := by
  unfold executeToolCall withToolError withError
  split
  · exact ⟨rfl, rfl⟩
  · exact ⟨rfl, rfl⟩
  · split
    · exact ⟨rfl, rfl⟩
    · dsimp only
      split
      · exact ⟨rfl, rfl⟩
      · cases outcome <;> exact ⟨rfl, rfl⟩

theorem executeHandoffRequest_attempt (state : RuntimeState) (cancelled : Bool)
    (validated : HandoffValidation) :
    (ctx.executeHandoffRequest state cancelled validated).attempt = state.attempt := by
  unfold executeHandoffRequest withError
  split
  · rfl
  · rfl
  · split
    · rfl
    · cases validated <;> rfl

theorem validateProviderResult_attempt (state : RuntimeState) :
    (validateProviderResult state).attempt = state.attempt := by
  unfold validateProviderResult withError
  split <;> rfl

end RunContext

open GraphEvent

/-- The counters of the state advance by the calls of the node. -/
structure Counts (g g' : GraphRun) (events : List GraphEvent) : Prop where
  attempt : g'.state.attempt = g.state.attempt + calls events
  modelCallCount : g'.state.modelCallCount = g.state.modelCallCount + calls events

namespace RunContext

variable {ctx : RunContext} {digest : String → String} {g g' : GraphRun} {a : Answer}

theorem calls_toolEvent (state : RuntimeState) (node : Node) (cancelled : Bool)
    (outcome : ToolOutcome) :
    calls (ctx.event ⟨node, state⟩ (.tool cancelled outcome)).toList = 0 := by
  unfold event
  dsimp only
  split
  · rfl
  · cases ctx.executedCall state cancelled <;> rfl

theorem calls_handoffEvent (state : RuntimeState) (node : Node) (cancelled : Bool)
    (validated : HandoffValidation) :
    calls (ctx.event ⟨node, state⟩ (.handoff cancelled validated)).toList = 0 := by
  unfold event
  dsimp only
  split
  · split <;> rfl
  · rfl

theorem calls_budgetEvent (state : RuntimeState) (node : Node) (cancelled : Bool) (elapsed : Rat) :
    calls (ctx.event ⟨node, state⟩ (.budget cancelled elapsed)).toList = 0 := by
  unfold event
  dsimp only
  split <;> rfl

/-- Until an exception ends the graph its counters count the provider calls. -/
theorem counts_graphStep (h : ctx.graphStep digest a g = some g') (hnode : g'.node ≠ .raised) :
    Counts g g' (ctx.event g a).toList := by
  cases graphStep_cases ctx h with
  | raised => exact absurd rfl hnode
  | prepared => exact ⟨rfl, rfl⟩
  | @checked cancelled elapsed state state' hstate =>
    subst hstate
    obtain ⟨hattempt, hcount⟩ := ctx.checkBudgetNode_counters state cancelled elapsed
    constructor <;> rw [calls_budgetEvent] <;> assumption
  | @generated outcome state state' hstate =>
    subst hstate
    unfold generateResponse event
    dsimp only
    split
    · exact ⟨rfl, rfl⟩
    · cases outcome <;> exact ⟨rfl, rfl⟩
  | @executed cancelled outcome state state' hstate =>
    subst hstate
    obtain ⟨hattempt, hcount⟩ := ctx.executeToolCall_counters state cancelled outcome
    constructor <;> rw [calls_toolEvent] <;> assumption
  | @handedOff cancelled validated state state' hstate =>
    subst hstate
    have hcount := (ctx.executeHandoffRequest_keeps state cancelled validated).2
    have hattempt := ctx.executeHandoffRequest_attempt state cancelled validated
    constructor <;> rw [calls_handoffEvent] <;> assumption
  | @validated state state' hstate =>
    subst hstate
    exact ⟨validateProviderResult_attempt state, (validateProviderResult_keeps state).2⟩
  | finalized => exact ⟨rfl, rfl⟩

end RunContext

end SupportPilot
