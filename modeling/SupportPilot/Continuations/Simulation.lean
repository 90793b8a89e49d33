import SupportPilot.Continuations.Pauses

/-!
# Node by node

One function carries a state of the continuation to the state of the uninterrupted run: more
attempts, a cost of its own, and keys of the run. An undisturbed node commutes with it, and a node
looks alike on both sides exactly where it is undisturbed.
-/

namespace SupportPilot

open Library

variable {digest : String → String}

/-- Two checks of the same counters agree exactly where the clocks and the costs do, as far as
they are looked at. -/
theorem checkBudget_eq_iff {budgets : Budgets} {modelCallCount stepCount totalTokens : Nat}
    {cost cost' : Option Binary64} {elapsed elapsed' : Rat} :
    checkBudget budgets modelCallCount stepCount totalTokens cost elapsed =
        checkBudget budgets modelCallCount stepCount totalTokens cost' elapsed' ↔
      (budgets.maxModelCalls ≤ modelCallCount ∨ budgets.maxSteps ≤ stepCount) ∨
        ((budgets.wallTimeLimitSeconds : Rat) ≤ elapsed ↔
          (budgets.wallTimeLimitSeconds : Rat) ≤ elapsed') ∧
        ((budgets.wallTimeLimitSeconds : Rat) ≤ elapsed' ∨
          (budgets.maxTotalTokens.any (· ≤ totalTokens)) ∨
          ((budgets.maxEstimatedCostUsd.any fun limit => cost.any (Binary64.finite limit).le) ↔
            (budgets.maxEstimatedCostUsd.any fun limit =>
              cost'.any (Binary64.finite limit).le))) := by
  unfold checkBudget
  by_cases hcalls : budgets.maxModelCalls ≤ modelCallCount
  · simp only [hcalls, if_true, true_or]
  by_cases hsteps : budgets.maxSteps ≤ stepCount
  · simp only [hcalls, hsteps, if_true, if_false, true_or, or_true]
  simp only [hcalls, hsteps, if_false, or_self, false_or]
  by_cases hwall : (budgets.wallTimeLimitSeconds : Rat) ≤ elapsed <;>
    by_cases hwall' : (budgets.wallTimeLimitSeconds : Rat) ≤ elapsed' <;>
    by_cases htokens : budgets.maxTotalTokens.any (· ≤ totalTokens) = true <;>
    by_cases hcost :
      (budgets.maxEstimatedCostUsd.any fun limit => cost.any (Binary64.finite limit).le) = true <;>
    by_cases hcost' :
      (budgets.maxEstimatedCostUsd.any fun limit => cost'.any (Binary64.finite limit).le) = true <;>
    simp [hwall, hwall', htokens, hcost, hcost']

namespace Pause

variable {p : Pause digest} {world : Surroundings}

theorem context_toRunContext (p : Pause digest) :
    p.context.toRunContext = segmentContext p.agentVersion p.run p.segment := by
  unfold context
  cases p.segment <;> rfl

@[simp] theorem context_budgets (p : Pause digest) :
    p.context.budgets = versionBudgets p.agentVersion := by
  unfold context
  cases p.segment <;> rfl

@[simp] theorem context_executeTool (p : Pause digest) : p.context.executeTool = true := by
  unfold context
  cases p.segment <;> rfl

@[simp] theorem context_requestHandoff (p : Pause digest) : p.context.requestHandoff = true := by
  unfold context
  cases p.segment <;> rfl

@[simp] theorem continuation_elapsed (p : Pause digest) (n : Nat) :
    p.continuation.elapsed p.resumedMonotonic world n =
      Binary64.toPrecision (world.elapsed n) := by
  show Binary64.toPrecision (p.resumedMonotonic + world.elapsed n - p.resumedMonotonic) = _
  rw [add_sub_cancel_left]

/-- The state of the uninterrupted run that a state of the continuation stands for, with a cost of
its own. The text of its last turn stays where it has had no turn yet. -/
def lift (p : Pause digest) (text : String) (cost : Option Binary64) (state : RuntimeState) :
    RuntimeState :=
  { state with
    attempt := state.attempt + p.priorAttempts
    estimatedCostUsd := cost
    pendingToolCall := state.pendingToolCall.map fun call => { call with
      idempotencyKey := toolCallKey digest p.context.keyOwner state.modelCallCount call.toolName
        call.arguments }
    finalResponse := text }

/-- The continuation has had no turn whose text could still be used. -/
def Unanswered (c : GraphRun) : Prop :=
  c.node = .checkBudget ∨ c.node = .generateResponse ∨ c.node = .raised ∨
    c.node = .finished ∧ (truthy c.state.safeErrorCode = true ∨ c.state.budgetExceeded = true)

/-- The uninterrupted run, and what its turns since the call make of the stored cost. -/
structure Followed where
  run : GraphRun
  restored : Option Binary64

/-- The continuation stands where the uninterrupted run stands, with the restored cost. -/
structure Mirrors (p : Pause digest) (a : Followed) (c : GraphRun) : Prop where
  node : a.run.node = c.node
  state : ∃ text cost, a.run.state = p.lift text cost c.state ∧
    (text = c.state.finalResponse ∨ Unanswered c)
  restored : a.restored = c.state.estimatedCostUsd
  reached : (segmentGraph digest p.agentVersion p.run .resumed).Reach (fun _ _ => True) c

/-- A node of the uninterrupted run. -/
def follow (p : Pause digest) (world : Surroundings) (n : Nat) (a : Followed) : Followed :=
  ⟨p.context.advance p.calledMonotonic world n digest a.run, p.spend world n a.run a.restored⟩

theorem reached_advance (world : Surroundings) (called : Rat) (n : Nat) {c : GraphRun}
    (h : (segmentGraph digest p.agentVersion p.run .resumed).Reach (fun _ _ => True) c) :
    (segmentGraph digest p.agentVersion p.run .resumed).Reach (fun _ _ => True)
      (p.continuation.advance called world n digest c) := by
  unfold SegmentContext.advance
  cases hstep : p.continuation.graphStep digest (p.continuation.answer called world n c) c with
  | none => exact h
  | some c' => exact .step h trivial hstep

/-! ### The budget check -/

/-- The check looks at the cost exactly where it reaches a limit. -/
theorem costReached_iff (p : Pause digest) (state : RuntimeState) :
    (p.agentVersion.maxEstimatedCostUsd.any fun limit =>
        (RunContext.budgetCost state).any (Binary64.finite limit).le) = true ↔
      p.costReached state.estimatedCostUsd := by
  unfold costReached RunContext.budgetCost
  cases p.agentVersion.maxEstimatedCostUsd with
  | none => simp
  | some limit =>
    cases state.estimatedCostUsd with
    | none => simp
    | some spent =>
      by_cases hzero : spent = .finite 0 <;> simp [Option.filter, hzero]

/-- The two budget checks have the same result exactly where the limits agree. -/
theorem budgetResult_eq_iff (p : Pause digest) (n : Nat) (text : String)
    (cost : Option Binary64) (state : RuntimeState) :
    p.context.budgetResult p.calledMonotonic world n (p.lift text cost state) =
        p.continuation.budgetResult p.resumedMonotonic world n state ↔
      p.SameLimits world n (p.lift text cost state) state.estimatedCostUsd := by
  have htokens : (p.agentVersion.maxTotalTokens.any (· ≤ state.totalTokens)) = true ↔
      p.tokensReached (p.lift text cost state) := by
    unfold tokensReached
    cases p.agentVersion.maxTotalTokens <;> simp [lift]
  have hcost := costReached_iff p (p.lift text cost state)
  unfold SegmentContext.budgetResult SameLimits
  rw [continuation_elapsed, context_budgets]
  show checkBudget (versionBudgets p.agentVersion) state.modelCallCount state.stepCount
    state.totalTokens _ _ = checkBudget (versionBudgets p.agentVersion) state.modelCallCount
    state.stepCount state.totalTokens _ _ ↔ _
  rw [checkBudget_eq_iff, ← htokens, ← hcost, ← costReached_iff p state]
  rfl

end Pause

/-- The state after a budget check with this result. -/
def RuntimeState.checked (state : RuntimeState) (result : BudgetCheckResult) : RuntimeState :=
  if result.allowed then { state with stepCount := state.stepCount + 1 }
  else { state with
    stepCount := state.stepCount + 1
    budgetExceeded := true
    budgetExceededReason := result.reason }

theorem SegmentContext.advance_checkBudget {ctx : SegmentContext} {called : Rat}
    {world : Surroundings} {n : Nat} {state : RuntimeState}
    (h : ctx.observesCancellation (world.cancelled n) = false) :
    ctx.advance called world n digest ⟨.checkBudget, state⟩ =
      ⟨RunContext.routeAfterBudget (state.checked (ctx.budgetResult called world n state)),
        state.checked (ctx.budgetResult called world n state)⟩ := by
  show GraphRun.mk (RunContext.routeAfterBudget (ctx.checkBudgetNode state _ _))
    (ctx.checkBudgetNode state _ _) = _
  rw [RunContext.checkBudgetNode, if_neg (by simp [h])]
  rfl

namespace Pause

variable {p : Pause digest} {world : Surroundings}

theorem lift_checked (p : Pause digest) (text : String) (cost : Option Binary64)
    (state : RuntimeState) (result : BudgetCheckResult) :
    (p.lift text cost state).checked result = p.lift text cost (state.checked result) := by
  unfold RuntimeState.checked
  split <;> rfl

theorem checked_cost (state : RuntimeState) (result : BudgetCheckResult) :
    (state.checked result).estimatedCostUsd = state.estimatedCostUsd := by
  unfold RuntimeState.checked
  split <;> rfl

theorem unanswered_checked {state : RuntimeState} (result : BudgetCheckResult)
    (h : state.cancelled = false) :
    Unanswered ⟨RunContext.routeAfterBudget (state.checked result), state.checked result⟩ := by
  have hcancelled : (state.checked result).cancelled = false := by
    unfold RuntimeState.checked
    split <;> exact h
  unfold RunContext.routeAfterBudget
  rw [hcancelled]
  by_cases hbudget : (state.checked result).budgetExceeded = true
  · rw [if_pos (.inl hbudget)]
    exact .inr (.inr (.inr ⟨rfl, .inr hbudget⟩))
  · rw [if_neg (by simpa using hbudget)]
    exact .inr (.inl rfl)

/-- Where the probe is silent and the limits agree, the budget check keeps the runs together. -/
theorem mirrors_checkBudget {n : Nat} {text : String} {cost : Option Binary64}
    {state : RuntimeState}
    (hreached : (segmentGraph digest p.agentVersion p.run .resumed).Reach (fun _ _ => True)
      ⟨.checkBudget, state⟩)
    (hunobserved : p.Unobserved world n)
    (hlimits : p.SameLimits world n (p.lift text cost state) state.estimatedCostUsd) :
    p.Mirrors (p.follow world n ⟨⟨.checkBudget, p.lift text cost state⟩, state.estimatedCostUsd⟩)
      (p.continuation.advance p.resumedMonotonic world n digest ⟨.checkBudget, state⟩) := by
  have hreached' := reached_advance world p.resumedMonotonic n hreached
  have hsame := (budgetResult_eq_iff p n text cost state).mpr hlimits
  have hsilent : p.continuation.observesCancellation (world.cancelled n) = false := rfl
  unfold follow
  rw [SegmentContext.advance_checkBudget hsilent] at hreached' ⊢
  rw [SegmentContext.advance_checkBudget hunobserved, hsame, lift_checked]
  refine ⟨rfl, ⟨text, cost, rfl, .inr ?_⟩, (checked_cost state _).symm, hreached'⟩
  exact unanswered_checked _ ((live_of_reach hreached).unprobed rfl)

/-! ### A model turn -/

/-- A turn with one outcome leads both runs on alike. -/
theorem lift_generateResponse (p : Pause digest) (text : String) (cost : Option Binary64)
    {state : RuntimeState} (hidle : state.pendingToolCall = none)
    (hbudget : state.budgetExceeded = false) (outcome : Except ProviderError LLMResponse) :
    ∃ text' cost', p.context.generateResponse (p.lift text cost state) digest outcome =
        p.lift text' cost' (p.continuation.generateResponse state digest outcome) ∧
      (text' = (p.continuation.generateResponse state digest outcome).finalResponse ∨
        ∃ e, outcome = .error e) := by
  unfold RunContext.generateResponse
  rw [if_neg (by simp [lift, hbudget]), if_neg (by simp [hbudget])]
  cases outcome with
  | error e =>
    refine ⟨text, cost, ?_, .inr ⟨e, rfl⟩⟩
    simp only [lift, hidle, Option.map_none]
    rw [Nat.add_right_comm]
  | ok response =>
    refine ⟨response.text, RunContext.accumulatedCost cost response.estimatedCostUsd, ?_, .inl rfl⟩
    have hhandoff : p.context.handoffCall response = p.continuation.handoffCall response := by
      unfold RunContext.handoffCall
      rw [context_requestHandoff]
      rfl
    have hcall : p.context.toolCall response = p.continuation.toolCall response := by
      unfold RunContext.toolCall
      rw [hhandoff]
    simp only [lift, hhandoff, hcall, Option.map_map]
    rw [Nat.add_right_comm]
    rfl

/-- The restored cost is the one that the turn leaves in the continuation. -/
theorem spend_generateResponse {n : Nat} {state state' : RuntimeState}
    {outcome : Except ProviderError LLMResponse} (hbudget : state.budgetExceeded = false)
    (hprovider : world.provider n (p.context.request state') = some outcome) :
    p.spend world n ⟨.generateResponse, state'⟩ state.estimatedCostUsd =
      (p.continuation.generateResponse state digest outcome).estimatedCostUsd := by
  unfold spend RunContext.generateResponse
  rw [if_neg (by simp [hbudget])]
  dsimp only
  rw [hprovider]
  cases outcome <;> rfl

/-- The runs go the same way after a turn exactly where a retry of it is decided alike. -/
theorem routeAfterGenerate_eq_iff (p : Pause digest) (text : String) (cost : Option Binary64)
    {state : RuntimeState} (hbudget : state.budgetExceeded = false) :
    p.context.routeAfterGenerate (p.lift text cost state) =
        p.continuation.routeAfterGenerate state ↔
      (truthy state.safeErrorCode = true → state.retryableError = true →
        state.modelCallCount < p.agentVersion.maxModelCalls →
        (state.attempt + p.priorAttempts < p.agentVersion.maxRetryAttempts ↔
          state.attempt < p.agentVersion.maxRetryAttempts)) := by
  have hcontinuation : p.continuation.budgets = versionBudgets p.agentVersion := rfl
  unfold RunContext.routeAfterGenerate
  rw [context_budgets, context_executeTool, context_requestHandoff, hcontinuation]
  by_cases herror : truthy state.safeErrorCode = true
  · by_cases hretryable : state.retryableError = true <;>
      by_cases hcalls : state.modelCallCount < p.agentVersion.maxModelCalls <;>
      by_cases hprior : state.attempt + p.priorAttempts < p.agentVersion.maxRetryAttempts <;>
      by_cases hattempt : state.attempt < p.agentVersion.maxRetryAttempts <;>
      simp [lift, versionBudgets, hbudget, herror, hretryable, hcalls, hprior, hattempt]
  · simp [lift, hbudget, herror, continuation, continuedContext, resumedContext]

/-- The two requests of a turn are the same exactly where no tools are offered. -/
theorem request_eq_iff (p : Pause digest) (text : String) (cost : Option Binary64)
    (state : RuntimeState) :
    p.context.request (p.lift text cost state) = p.continuation.request state ↔
      p.context.toolDescriptors = [] := by
  show LLMRequest.mk state.toolResultSummary p.context.toolDescriptors =
    LLMRequest.mk state.toolResultSummary [] ↔ _
  rw [LLMRequest.mk.injEq]
  exact and_iff_right rfl

theorem sameRetry_iff {n : Nat} {text : String} {cost : Option Binary64} {state : RuntimeState}
    {outcome : Except ProviderError LLMResponse} (hbudget : state.budgetExceeded = false)
    (hprovider : world.provider n (p.context.request (p.lift text cost state)) = some outcome)
    (text' : String) (cost' : Option Binary64) :
    p.context.routeAfterGenerate
        (p.lift text' cost' (p.continuation.generateResponse state digest outcome)) =
      p.continuation.routeAfterGenerate (p.continuation.generateResponse state digest outcome) ↔
      p.SameRetry world n (p.lift text cost state) := by
  have hunended :
      (p.continuation.generateResponse state digest outcome).budgetExceeded = false := by
    unfold RunContext.generateResponse
    rw [if_neg (by simp [hbudget])]
    cases outcome <;> exact hbudget
  rw [routeAfterGenerate_eq_iff p text' cost' hunended]
  unfold RunContext.generateResponse SameRetry
  rw [if_neg (by simp [hbudget]), hprovider]
  cases outcome with
  | error e =>
    have hcode : truthy (some e.code) = true := by
      simpa [truthy] using world.errorCode n _ e hprovider
    have hattempts : state.attempt + 1 + p.priorAttempts - p.priorAttempts = state.attempt + 1 := by
      omega
    have hsum : state.attempt + p.priorAttempts + 1 = state.attempt + 1 + p.priorAttempts := by
      omega
    simp only [hcode, Option.some.injEq, Except.error.injEq, forall_eq', lift, hattempts, hsum,
      true_implies]
  | ok response => simp [truthy]

/-- A failed turn is retried or ends the graph with its error. -/
theorem unanswered_generateResponse {ctx : RunContext} {state : RuntimeState} {e : ProviderError}
    (hbudget : state.budgetExceeded = false) (hcode : e.code ≠ "") :
    Unanswered ⟨ctx.routeAfterGenerate (ctx.generateResponse state digest (.error e)),
      ctx.generateResponse state digest (.error e)⟩ := by
  unfold RunContext.generateResponse RunContext.routeAfterGenerate
  rw [if_neg (by simp [hbudget])]
  have herror : truthy (some e.code) = true := by simpa [truthy] using hcode
  simp only [hbudget, herror, if_true, if_false, Bool.false_eq_true]
  split
  · exact .inl rfl
  · exact .inr (.inr (.inr ⟨rfl, .inl herror⟩))

end Pause

theorem SegmentContext.advance_generateResponse (ctx : SegmentContext) (called : Rat)
    (world : Surroundings) (n : Nat) (state : RuntimeState) :
    ctx.advance called world n digest ⟨.generateResponse, state⟩ =
      match world.provider n (ctx.request state) with
      | none => ⟨.raised, state⟩
      | some outcome => ⟨ctx.routeAfterGenerate (ctx.generateResponse state digest outcome),
          ctx.generateResponse state digest outcome⟩ := by
  unfold advance answer
  dsimp only
  cases world.provider n (ctx.request state) with
  | none => rfl
  | some outcome => rfl

namespace Pause

variable {p : Pause digest} {world : Surroundings}

/-- A turn keeps the runs together where they offer no tools and decide alike on a retry. -/
theorem mirrors_generateResponse {n : Nat} {text : String} {cost : Option Binary64}
    {state : RuntimeState}
    (hreached : (segmentGraph digest p.agentVersion p.run .resumed).Reach (fun _ _ => True)
      ⟨.generateResponse, state⟩)
    (htools : p.context.toolDescriptors = [])
    (hretry : p.SameRetry world n (p.lift text cost state)) :
    p.Mirrors
      (p.follow world n ⟨⟨.generateResponse, p.lift text cost state⟩, state.estimatedCostUsd⟩)
      (p.continuation.advance p.resumedMonotonic world n digest ⟨.generateResponse, state⟩) := by
  have hbudget : state.budgetExceeded = false :=
    ((live_of_reach hreached).unended (by simp) (by simp)).budgetExceeded
  have hidle : state.pendingToolCall = none := (keyed_of_reach hreached).idle (by simp)
  have hreached' := reached_advance world p.resumedMonotonic n hreached
  have hrequest := (request_eq_iff p text cost state).mpr htools
  unfold follow
  rw [SegmentContext.advance_generateResponse] at hreached' ⊢
  rw [SegmentContext.advance_generateResponse, hrequest]
  cases hprovider : world.provider n (p.continuation.request state) with
  | none =>
    have hspent : p.spend world n ⟨.generateResponse, p.lift text cost state⟩
        state.estimatedCostUsd = state.estimatedCostUsd := by
      simp only [spend, hrequest, hprovider]
    rw [hprovider] at hreached'
    exact ⟨rfl, ⟨text, cost, rfl, .inr (.inr (.inr (.inl rfl)))⟩, hspent, hreached'⟩
  | some outcome =>
    rw [hprovider] at hreached'
    obtain ⟨text', cost', hstate, htext⟩ := lift_generateResponse p text cost hidle hbudget outcome
    have hroute := (sameRetry_iff hbudget (hrequest ▸ hprovider) text' cost').mpr hretry
    simp only [hstate, hroute]
    refine ⟨rfl, ⟨text', cost', rfl, ?_⟩, spend_generateResponse hbudget (hrequest ▸ hprovider),
      hreached'⟩
    rcases htext with hanswered | ⟨e, rfl⟩
    · exact .inl hanswered
    · exact .inr (unanswered_generateResponse hbudget (world.errorCode n _ e hprovider))

/-- A turn looks alike exactly where the runs offer no tools and decide alike on a retry. -/
theorem sight_generateResponse {n : Nat} {text : String} {cost : Option Binary64}
    {state : RuntimeState}
    (hreached : (segmentGraph digest p.agentVersion p.run .resumed).Reach (fun _ _ => True)
      ⟨.generateResponse, state⟩) :
    p.context.sight p.calledMonotonic world n digest
          ⟨.generateResponse, p.lift text cost state⟩ =
        p.continuation.sight p.resumedMonotonic world n digest ⟨.generateResponse, state⟩ ↔
      p.Undisturbed world n ⟨.generateResponse, p.lift text cost state⟩ state.estimatedCostUsd := by
  have hbudget : state.budgetExceeded = false :=
    ((live_of_reach hreached).unended (by simp) (by simp)).budgetExceeded
  have hidle : state.pendingToolCall = none := (keyed_of_reach hreached).idle (by simp)
  have hevent : p.context.event p.calledMonotonic world n
        ⟨.generateResponse, p.lift text cost state⟩ =
      .requested (p.context.request (p.lift text cost state)) := if_neg (by simp [lift, hbudget])
  have hevent' : p.continuation.event p.resumedMonotonic world n ⟨.generateResponse, state⟩ =
      .requested (p.continuation.request state) := if_neg (by simp [hbudget])
  unfold SegmentContext.sight
  rw [Sight.mk.injEq, hevent, hevent', NodeEvent.requested.injEq, request_eq_iff]
  show _ ↔ p.context.toolDescriptors = [] ∧ p.SameRetry world n (p.lift text cost state)
  refine and_congr_right fun htools => ⟨fun hnext => ?_, fun hretry => ?_⟩
  · have hrequest := (request_eq_iff p text cost state).mpr htools
    rw [SegmentContext.advance_generateResponse, SegmentContext.advance_generateResponse,
      hrequest] at hnext
    cases hprovider : world.provider n (p.continuation.request state) with
    | none =>
      intro e he
      rw [hrequest, hprovider] at he
      cases he
    | some outcome =>
      obtain ⟨text', cost', hstate, -⟩ :=
        lift_generateResponse p text cost hidle hbudget outcome
      rw [hprovider] at hnext
      simp only [hstate] at hnext
      exact (sameRetry_iff hbudget (hrequest ▸ hprovider) text' cost').mp hnext
  · exact (mirrors_generateResponse hreached htools hretry).node

/-! ### A tool call -/

/-- The call of the uninterrupted run, which has the key of its own run. -/
def rekey (p : Pause digest) (state : RuntimeState) (call : PendingToolCall) : PendingToolCall :=
  { call with
    idempotencyKey :=
      toolCallKey digest p.context.keyOwner state.modelCallCount call.toolName call.arguments }

theorem executedCall_lift {p : Pause digest} {n : Nat} {text : String} {cost : Option Binary64}
    {state : RuntimeState}
    (hunobserved : p.Unobserved world n) :
    p.context.executedCall (p.lift text cost state) (world.cancelled n) =
      (p.continuation.executedCall state (world.cancelled n)).map (p.rekey state) := by
  have hsilent : p.continuation.observesCancellation (world.cancelled n) = false := rfl
  unfold RunContext.executedCall
  rw [if_pos ⟨context_executeTool p, hunobserved⟩, if_pos ⟨rfl, hsilent⟩]
  show Option.filter _ (state.pendingToolCall.map (p.rekey state)) = _
  cases hcall : state.pendingToolCall with
  | none => rfl
  | some call =>
    by_cases hmalformed : truthy call.normalizationError = true <;>
      simp [Option.filter, rekey, hmalformed]

/-- The key of a call shows its run, unless the owner of the keys is unknown anyway. -/
theorem rekey_eq_iff {p : Pause digest} {state : RuntimeState} {call : PendingToolCall}
    (hkeyed : call.idempotencyKey =
      toolCallKey digest "unknown" state.modelCallCount call.toolName call.arguments) :
    (p.rekey state call).idempotencyKey = call.idempotencyKey ↔
      p.context.keyOwner = "unknown" := by
  have hcolon : ':' ∉ p.context.keyOwner.toList := by
    rw [context_toRunContext]
    exact colon_not_mem_keyOwner _ _ _
  rw [hkeyed]
  constructor
  · intro hkey
    exact (toolCallKey_inj hcolon (by decide) hkey).1
  · intro howner
    show toolCallKey digest p.context.keyOwner _ _ _ = _
    rw [howner]

end Pause

/-- The state after a tool call that no cancellation stops. -/
def RuntimeState.called (state : RuntimeState) (call : PendingToolCall) (outcome : ToolOutcome) :
    RuntimeState :=
  let ran := { state with pendingToolCall := none, stepCount := state.stepCount + 1 }
  if truthy call.normalizationError then
    { ran with toolResultSummary := some ⟨call.toolName, .failed, "", call.normalizationError⟩ }
  else match outcome with
  | .approvalRequired code message => RunContext.withToolError ran code message
  | .budgetExceeded reason =>
    { ran with budgetExceeded := true, budgetExceededReason := some reason }
  | .terminal code message => RunContext.withToolError ran code message
  | .result modelResult => { ran with toolResultSummary := some modelResult }

theorem RunContext.executeToolCall_called {ctx : RunContext} {state : RuntimeState}
    {call : PendingToolCall} {cancelled : Bool} (hbound : ctx.executeTool = true)
    (hcall : state.pendingToolCall = some call)
    (hsilent : ctx.observesCancellation cancelled = false) (outcome : ToolOutcome) :
    ctx.executeToolCall state cancelled outcome = state.called call outcome := by
  unfold executeToolCall
  rw [hcall, hbound]
  exact if_neg (by simp [hsilent])

namespace Pause

variable {p : Pause digest} {world : Surroundings}

theorem lift_called (p : Pause digest) (text : String) (cost : Option Binary64)
    (state : RuntimeState) (call : PendingToolCall) (outcome : ToolOutcome) :
    (p.lift text cost state).called (p.rekey state call) outcome =
      p.lift text cost (state.called call outcome) := by
  unfold RuntimeState.called
  show (if truthy call.normalizationError = true then _ else _) = _
  split
  · rfl
  · cases outcome <;> rfl

theorem called_keeps (state : RuntimeState) (call : PendingToolCall) (outcome : ToolOutcome) :
    (state.called call outcome).finalResponse = state.finalResponse ∧
      (state.called call outcome).estimatedCostUsd = state.estimatedCostUsd := by
  unfold RuntimeState.called
  dsimp only
  split
  · exact ⟨rfl, rfl⟩
  · cases outcome <;> exact ⟨rfl, rfl⟩

end Pause

theorem SegmentContext.advance_executeToolCall (ctx : SegmentContext) (called : Rat)
    (world : Surroundings) (n : Nat) (state : RuntimeState) :
    ctx.advance called world n digest ⟨.executeToolCall, state⟩ =
      match ctx.executedCall state (world.cancelled n) with
      | none =>
        let state' := ctx.executeToolCall state (world.cancelled n) (.budgetExceeded "")
        ⟨RunContext.routeAfterTool state', state'⟩
      | some call =>
        match world.executeTool n call.toolName call.arguments call.idempotencyKey with
        | none => ⟨.raised, state⟩
        | some result =>
          let state' := ctx.executeToolCall state (world.cancelled n)
            (executeToolOutcome call.toolName result)
          ⟨RunContext.routeAfterTool state', state'⟩ := by
  unfold advance answer
  dsimp only
  cases ctx.executedCall state (world.cancelled n) with
  | none => rfl
  | some call =>
    dsimp only
    cases world.executeTool n call.toolName call.arguments call.idempotencyKey with
    | none => rfl
    | some result => rfl

namespace Pause

variable {p : Pause digest} {world : Surroundings}

theorem executedCall_some {ctx : RunContext} {state : RuntimeState} {cancelled : Bool}
    {call : PendingToolCall} (h : ctx.executedCall state cancelled = some call) :
    state.pendingToolCall = some call ∧ truthy call.normalizationError = false := by
  unfold RunContext.executedCall at h
  split at h
  · obtain ⟨hcall, hwellFormed⟩ := Option.filter_eq_some_iff.mp h
    exact ⟨hcall, by simpa using hwellFormed⟩
  · cases h

theorem pending_lift (p : Pause digest) (text : String) (cost : Option Binary64)
    {state : RuntimeState} {call : PendingToolCall} (hcall : state.pendingToolCall = some call) :
    (p.lift text cost state).pendingToolCall = some (p.rekey state call) := by
  show state.pendingToolCall.map (p.rekey state) = _
  rw [hcall]
  rfl

/-- A tool that an undisturbed node calls is called under the key of the continuation. -/
theorem key_of_undisturbed {n : Nat} {text : String} {cost restored : Option Binary64}
    {state : RuntimeState} {call : PendingToolCall}
    (hreached : (segmentGraph digest p.agentVersion p.run .resumed).Reach (fun _ _ => True)
      ⟨.executeToolCall, state⟩)
    (h : p.Undisturbed world n ⟨.executeToolCall, p.lift text cost state⟩ restored)
    (hexecuted : p.continuation.executedCall state (world.cancelled n) = some call) :
    (p.rekey state call).idempotencyKey = call.idempotencyKey := by
  obtain ⟨hcall, hwellFormed⟩ := executedCall_some hexecuted
  refine (rekey_eq_iff ((keyed_of_reach hreached).key call hcall)).mpr ?_
  refine h.2.resolve_right fun hmalformed => ?_
  have hbroken : truthy call.normalizationError = true :=
    hmalformed (p.rekey state call) (pending_lift p _ _ hcall)
  rw [hwellFormed] at hbroken
  cases hbroken

/-- A tool call keeps the runs together where no cancellation is observed and the tool, if it is
called at all, is called under the same key. -/
theorem mirrors_executeToolCall {n : Nat} {cost : Option Binary64} {state : RuntimeState}
    (hreached : (segmentGraph digest p.agentVersion p.run .resumed).Reach (fun _ _ => True)
      ⟨.executeToolCall, state⟩)
    (h : p.Undisturbed world n ⟨.executeToolCall, p.lift state.finalResponse cost state⟩
      state.estimatedCostUsd) :
    p.Mirrors (p.follow world n
        ⟨⟨.executeToolCall, p.lift state.finalResponse cost state⟩, state.estimatedCostUsd⟩)
      (p.continuation.advance p.resumedMonotonic world n digest ⟨.executeToolCall, state⟩) := by
  have hunobserved : p.Unobserved world n := h.1
  have hreached' := reached_advance world p.resumedMonotonic n hreached
  obtain ⟨call, hcall⟩ := Option.isSome_iff_exists.mp ((live_of_reach hreached).tool rfl).1
  have hran : ∀ outcome, p.context.executeToolCall (p.lift state.finalResponse cost state)
      (world.cancelled n) outcome =
        p.lift state.finalResponse cost (state.called call outcome) := by
    intro outcome
    rw [RunContext.executeToolCall_called (context_executeTool p) (pending_lift p _ _ hcall)
      hunobserved, lift_called]
  have hran' : ∀ outcome, p.continuation.executeToolCall state (world.cancelled n) outcome =
      state.called call outcome :=
    RunContext.executeToolCall_called rfl hcall rfl
  have hon : ∀ outcome, (segmentGraph digest p.agentVersion p.run .resumed).Reach
      (fun _ _ => True) ⟨RunContext.routeAfterTool (state.called call outcome),
        state.called call outcome⟩ →
      p.Mirrors
        ⟨⟨RunContext.routeAfterTool (p.lift state.finalResponse cost (state.called call outcome)),
          p.lift state.finalResponse cost (state.called call outcome)⟩, state.estimatedCostUsd⟩
        ⟨RunContext.routeAfterTool (state.called call outcome), state.called call outcome⟩ := by
    intro outcome hreach
    obtain ⟨hresponse, hspent⟩ := called_keeps state call outcome
    exact ⟨rfl, ⟨_, cost, rfl, .inl hresponse.symm⟩, hspent.symm, hreach⟩
  unfold follow
  rw [SegmentContext.advance_executeToolCall] at hreached' ⊢
  rw [SegmentContext.advance_executeToolCall, executedCall_lift hunobserved]
  simp only [hran, hran'] at hreached' ⊢
  cases hexecuted : p.continuation.executedCall state (world.cancelled n) with
  | none =>
    rw [hexecuted] at hreached'
    exact hon _ hreached'
  | some executed =>
    obtain ⟨hexecutedCall, -⟩ := executedCall_some hexecuted
    obtain rfl : call = executed := Option.some.inj (hcall.symm.trans hexecutedCall)
    have hsame := key_of_undisturbed hreached h hexecuted
    rw [hexecuted] at hreached'
    simp only [Option.map_some, hsame] at hreached' ⊢
    show p.Mirrors ⟨match world.executeTool n call.toolName call.arguments call.idempotencyKey with
      | none => _ | some result => _, _⟩ _
    cases hresult : world.executeTool n call.toolName call.arguments call.idempotencyKey with
    | none =>
      rw [hresult] at hreached'
      exact ⟨rfl, ⟨_, _, rfl, .inl rfl⟩, rfl, hreached'⟩
    | some result =>
      rw [hresult] at hreached'
      exact hon _ hreached'

/-- A tool call looks alike exactly where no cancellation is observed and the tool, if it is
called at all, is called under the same key. -/
theorem sight_executeToolCall {n : Nat} {cost : Option Binary64} {state : RuntimeState}
    (hreached : (segmentGraph digest p.agentVersion p.run .resumed).Reach (fun _ _ => True)
      ⟨.executeToolCall, state⟩) :
    p.context.sight p.calledMonotonic world n digest
          ⟨.executeToolCall, p.lift state.finalResponse cost state⟩ =
        p.continuation.sight p.resumedMonotonic world n digest ⟨.executeToolCall, state⟩ ↔
      p.Undisturbed world n ⟨.executeToolCall, p.lift state.finalResponse cost state⟩
        state.estimatedCostUsd := by
  obtain ⟨call, hcall⟩ := Option.isSome_iff_exists.mp ((live_of_reach hreached).tool rfl).1
  have hkeyed : call.idempotencyKey = _ := (keyed_of_reach hreached).key call hcall
  have hpending := pending_lift p state.finalResponse cost hcall
  have hsilent : p.continuation.observesCancellation (world.cancelled n) = false := rfl
  constructor
  · intro hsight
    have hevent := (Sight.mk.inj hsight).1
    unfold SegmentContext.event at hevent
    simp only [hpending, hsilent, Option.isSome_some, true_and, Bool.false_eq_true, and_false,
      if_false] at hevent
    by_cases hobserved : p.context.observesCancellation (world.cancelled n) = true
    · rw [if_pos hobserved] at hevent
      cases hexecuted : p.continuation.executedCall state (world.cancelled n) <;>
        simp [hexecuted] at hevent
    · have hunobserved : p.Unobserved world n := Bool.eq_false_of_not_eq_true hobserved
      rw [if_neg hobserved, executedCall_lift hunobserved] at hevent
      refine ⟨hunobserved, ?_⟩
      cases hexecuted : p.continuation.executedCall state (world.cancelled n) with
      | none =>
        refine .inr fun call' hcall' => ?_
        obtain rfl := Option.some.inj (hpending.symm.trans hcall')
        unfold RunContext.executedCall at hexecuted
        rw [if_pos ⟨rfl, hsilent⟩, hcall] at hexecuted
        have hmalformed : truthy call.normalizationError = true := by simpa using hexecuted
        exact hmalformed
      | some executed =>
        obtain ⟨hexecutedCall, -⟩ := executedCall_some hexecuted
        obtain rfl : call = executed := Option.some.inj (hcall.symm.trans hexecutedCall)
        rw [hexecuted] at hevent
        exact .inl ((rekey_eq_iff hkeyed).mp (NodeEvent.executed.inj hevent).2.2)
  · intro hundisturbed
    have hunobserved : p.Unobserved world n := hundisturbed.1
    refine Sight.mk.injEq .. ▸ ⟨?_, (mirrors_executeToolCall hreached hundisturbed).node⟩
    unfold SegmentContext.event
    simp only [hsilent, executedCall_lift hunobserved, Bool.false_eq_true, and_false, if_false]
    rw [if_neg (by rw [show p.context.observesCancellation _ = false from hunobserved]; simp)]
    cases hexecuted : p.continuation.executedCall state (world.cancelled n) with
    | none => rfl
    | some executed =>
      have hsame := key_of_undisturbed hreached hundisturbed hexecuted
      simp only [Option.map_some, hsame]
      rfl

/-! ### The other nodes -/

theorem lift_executeHandoffRequest {n : Nat} (text : String) (cost : Option Binary64)
    {state : RuntimeState} (hunobserved : p.Unobserved world n) (validated : HandoffValidation) :
    p.context.executeHandoffRequest (p.lift text cost state) (world.cancelled n) validated =
      p.lift text cost
        (p.continuation.executeHandoffRequest state (world.cancelled n) validated) := by
  have hobserved : p.context.observesCancellation (world.cancelled n) ≠ true := by
    rw [show p.context.observesCancellation _ = false from hunobserved]
    simp
  have hpending : (p.lift text cost state).pendingHandoffRequest =
      state.pendingHandoffRequest := rfl
  unfold RunContext.executeHandoffRequest
  rw [hpending, context_requestHandoff, show p.continuation.requestHandoff = true from rfl]
  cases state.pendingHandoffRequest with
  | none => rfl
  | some request =>
    dsimp only
    rw [if_neg hobserved]
    cases validated <;> rfl

theorem executeHandoffRequest_frame (ctx : RunContext) (state : RuntimeState) (cancelled : Bool)
    (validated : HandoffValidation) :
    (ctx.executeHandoffRequest state cancelled validated).finalResponse = state.finalResponse ∧
      (ctx.executeHandoffRequest state cancelled validated).estimatedCostUsd =
        state.estimatedCostUsd := by
  unfold RunContext.executeHandoffRequest RunContext.withError
  split
  · exact ⟨rfl, rfl⟩
  · exact ⟨rfl, rfl⟩
  · split
    · exact ⟨rfl, rfl⟩
    · cases validated <;> exact ⟨rfl, rfl⟩

theorem lift_validateProviderResult (p : Pause digest) (cost : Option Binary64)
    (state : RuntimeState) :
    RunContext.validateProviderResult (p.lift state.finalResponse cost state) =
      p.lift state.finalResponse cost (RunContext.validateProviderResult state) := by
  unfold RunContext.validateProviderResult
  show (if state.finalResponse = "" then _ else _) = _
  split <;> rfl

theorem validateProviderResult_frame (state : RuntimeState) :
    (RunContext.validateProviderResult state).finalResponse = state.finalResponse ∧
      (RunContext.validateProviderResult state).estimatedCostUsd = state.estimatedCostUsd := by
  unfold RunContext.validateProviderResult RunContext.withError
  split <;> exact ⟨rfl, rfl⟩

/-- The segment that makes the call settles a run that is not cancelled as a continuation
does. -/
theorem context_outcome (p : Pause digest) {state : RuntimeState}
    (hcancelled : state.cancelled = false) :
    p.context.outcome state = continuedOutcome p.hasConversation state := by
  unfold SegmentContext.outcome context
  cases p.segment with
  | main => exact if_neg (by simp [hcancelled])
  | resumed => rfl

theorem outcome_lift (p : Pause digest) (text : String) (cost : Option Binary64)
    {state : RuntimeState} (hcancelled : state.cancelled = false)
    (htext : text = state.finalResponse ∨ truthy state.safeErrorCode = true ∨
      state.budgetExceeded = true) :
    p.context.outcome (p.lift text cost state) = p.continuation.outcome state := by
  rw [context_outcome p (by exact hcancelled)]
  show _ = continuedOutcome p.hasConversation state
  rcases htext with rfl | herror | hbudget
  · rfl
  · unfold continuedOutcome
    simp [lift, herror]
  · unfold continuedOutcome
    simp [lift, hbudget]

/-- At every node an undisturbed step keeps the runs together. -/
theorem mirrors_follow {n : Nat} {a : Followed} {c : GraphRun} (h : p.Mirrors a c)
    (hundisturbed : p.Undisturbed world n a.run a.restored) :
    p.Mirrors (p.follow world n a)
      (p.continuation.advance p.resumedMonotonic world n digest c) := by
  obtain ⟨node', state⟩ := c
  obtain ⟨⟨node, state'⟩, restored⟩ := a
  obtain ⟨hnode, ⟨text, cost, hstate, htext⟩, hrestored, hreached⟩ := h
  simp only at hnode hstate hrestored
  subst hnode hstate hrestored
  have hreached' := reached_advance world p.resumedMonotonic n hreached
  cases node with
  | prepareRun =>
    obtain rfl := htext.resolve_right (by simp [Unanswered])
    exact ⟨rfl, ⟨_, _, rfl, .inl rfl⟩, rfl, hreached'⟩
  | checkBudget => exact mirrors_checkBudget hreached hundisturbed.1 hundisturbed.2
  | generateResponse => exact mirrors_generateResponse hreached hundisturbed.1 hundisturbed.2
  | executeToolCall =>
    obtain rfl := htext.resolve_right (by simp [Unanswered])
    exact mirrors_executeToolCall hreached hundisturbed
  | executeHandoffRequest =>
    obtain rfl := htext.resolve_right (by simp [Unanswered])
    obtain ⟨hresponse, hspent⟩ := executeHandoffRequest_frame p.continuation.toRunContext state
      (world.cancelled n) (world.requestHandoff (state.pendingHandoffRequest.getD ⟨"", ""⟩))
    exact ⟨rfl, ⟨_, _, lift_executeHandoffRequest _ _ hundisturbed _, .inl hresponse.symm⟩,
      hspent.symm, hreached'⟩
  | validateProviderResult =>
    obtain rfl := htext.resolve_right (by simp [Unanswered])
    obtain ⟨hresponse, hspent⟩ := validateProviderResult_frame state
    have hstate := lift_validateProviderResult p cost state
    refine ⟨?_, ⟨_, _, hstate, .inl hresponse.symm⟩, hspent.symm, hreached'⟩
    show RunContext.routeAfterValidation
      (RunContext.validateProviderResult (p.lift _ cost state)) = _
    rw [hstate]
    rfl
  | finalizeResponse =>
    obtain rfl := htext.resolve_right (by simp [Unanswered])
    exact ⟨rfl, ⟨_, _, rfl, .inl rfl⟩, rfl, hreached'⟩
  | finished => exact ⟨rfl, ⟨text, cost, rfl, htext⟩, rfl, hreached'⟩
  | raised => exact ⟨rfl, ⟨text, cost, rfl, htext⟩, rfl, hreached'⟩

theorem sight_checkBudget {n : Nat} {text : String} {cost : Option Binary64}
    {state : RuntimeState}
    (hboth : p.Undisturbed world n ⟨.checkBudget, p.lift text cost state⟩ state.estimatedCostUsd →
      (p.context.advance p.calledMonotonic world n digest
          ⟨.checkBudget, p.lift text cost state⟩).node =
        (p.continuation.advance p.resumedMonotonic world n digest ⟨.checkBudget, state⟩).node) :
    p.context.sight p.calledMonotonic world n digest ⟨.checkBudget, p.lift text cost state⟩ =
        p.continuation.sight p.resumedMonotonic world n digest ⟨.checkBudget, state⟩ ↔
      p.Undisturbed world n ⟨.checkBudget, p.lift text cost state⟩ state.estimatedCostUsd := by
  have hevent : p.continuation.event p.resumedMonotonic world n ⟨.checkBudget, state⟩ =
      .budgetChecked (p.continuation.budgetResult p.resumedMonotonic world n state) := rfl
  have hevent' : p.context.event p.calledMonotonic world n ⟨.checkBudget, p.lift text cost state⟩ =
      if p.context.observesCancellation (world.cancelled n) then .cancelled
      else .budgetChecked
        (p.context.budgetResult p.calledMonotonic world n (p.lift text cost state)) := rfl
  constructor
  · intro hsight
    have hsame := (Sight.mk.inj hsight).1
    rw [hevent, hevent'] at hsame
    by_cases hobserved : p.context.observesCancellation (world.cancelled n) = true
    · rw [if_pos hobserved] at hsame
      cases hsame
    · rw [if_neg hobserved] at hsame
      exact ⟨Bool.eq_false_of_not_eq_true hobserved,
        (budgetResult_eq_iff p n text cost state).mp (NodeEvent.budgetChecked.inj hsame)⟩
  · intro hundisturbed
    refine Sight.mk.injEq .. ▸ ⟨?_, hboth hundisturbed⟩
    obtain ⟨hunobserved, hlimits⟩ := hundisturbed
    rw [hevent, hevent', (budgetResult_eq_iff p n text cost state).mpr hlimits]
    exact if_neg (Bool.eq_false_iff.mp hunobserved)

theorem sight_executeHandoffRequest {n : Nat} {text : String} {cost restored : Option Binary64}
    {state : RuntimeState}
    (hreached : (segmentGraph digest p.agentVersion p.run .resumed).Reach (fun _ _ => True)
      ⟨.executeHandoffRequest, state⟩)
    (hboth : p.Undisturbed world n ⟨.executeHandoffRequest, p.lift text cost state⟩ restored →
      (p.context.advance p.calledMonotonic world n digest
          ⟨.executeHandoffRequest, p.lift text cost state⟩).node =
        (p.continuation.advance p.resumedMonotonic world n digest
          ⟨.executeHandoffRequest, state⟩).node) :
    p.context.sight p.calledMonotonic world n digest
          ⟨.executeHandoffRequest, p.lift text cost state⟩ =
        p.continuation.sight p.resumedMonotonic world n digest ⟨.executeHandoffRequest, state⟩ ↔
      p.Undisturbed world n ⟨.executeHandoffRequest, p.lift text cost state⟩ restored := by
  obtain ⟨request, hrequest⟩ :=
    Option.isSome_iff_exists.mp ((live_of_reach hreached).handoff rfl)
  have hsame : state.pendingHandoffRequest = some request := hrequest
  have hevent : p.continuation.event p.resumedMonotonic world n ⟨.executeHandoffRequest, state⟩ =
      .handoffRequested request := by
    unfold SegmentContext.event
    simp only [hsame]
    rfl
  have hevent' : p.context.event p.calledMonotonic world n
        ⟨.executeHandoffRequest, p.lift text cost state⟩ =
      if p.context.observesCancellation (world.cancelled n) then .cancelled
      else .handoffRequested request := by
    unfold SegmentContext.event
    simp only [lift, hsame]
  constructor
  · intro hsight
    have hshown := (Sight.mk.inj hsight).1
    rw [hevent, hevent'] at hshown
    by_cases hobserved : p.context.observesCancellation (world.cancelled n) = true
    · rw [if_pos hobserved] at hshown
      cases hshown
    · exact Bool.eq_false_of_not_eq_true hobserved
  · intro hundisturbed
    refine Sight.mk.injEq .. ▸ ⟨?_, hboth hundisturbed⟩
    rw [hevent, hevent']
    exact if_neg (Bool.eq_false_iff.mp hundisturbed)

/-- At every node the runs look alike exactly where it is undisturbed. -/
theorem sight_eq_iff {n : Nat} {a : Followed} {c : GraphRun} (h : p.Mirrors a c) :
    p.context.sight p.calledMonotonic world n digest a.run =
        p.continuation.sight p.resumedMonotonic world n digest c ↔
      p.Undisturbed world n a.run a.restored := by
  have hboth := fun hundisturbed : p.Undisturbed world n a.run a.restored =>
    (mirrors_follow h hundisturbed).node
  obtain ⟨node', state⟩ := c
  obtain ⟨⟨node, state'⟩, restored⟩ := a
  obtain ⟨hnode, ⟨text, cost, hstate, htext⟩, hrestored, hreached⟩ := h
  simp only at hnode hstate hrestored
  subst hnode hstate hrestored
  have hsilent : p.continuation.observesCancellation (world.cancelled n) = false := rfl
  cases node with
  | prepareRun | validateProviderResult | finalizeResponse =>
    refine iff_of_true ?_ trivial
    exact Sight.mk.injEq .. ▸ ⟨rfl, hboth trivial⟩
  | checkBudget => exact sight_checkBudget hboth
  | generateResponse => exact sight_generateResponse hreached
  | executeToolCall =>
    obtain rfl := htext.resolve_right (by simp [Unanswered])
    exact sight_executeToolCall hreached
  | executeHandoffRequest => exact sight_executeHandoffRequest hreached hboth
  | finished =>
    refine iff_of_true ?_ trivial
    have hend := outcome_lift p text cost ((live_of_reach hreached).unprobed rfl)
      (htext.imp_right fun hover => by simpa [Unanswered] using hover)
    exact Sight.mk.injEq .. ▸ ⟨congrArg NodeEvent.ended hend, rfl⟩
  | raised => exact iff_of_true rfl trivial

end Pause

end SupportPilot
