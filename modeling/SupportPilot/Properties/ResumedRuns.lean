import SupportPilot.Continuations.Simulation

/-!
# A resumed run against the run that never paused

From the call on, the continuation is compared with the segment whose policy had allowed the
call: what both ask the provider, the tools and the budget, and how both end.
-/

namespace SupportPilot

open Library

variable {digest : String → String}

namespace Pause

variable {p : Pause digest} {world : Surroundings}

/-! ## From the call on -/

theorem lockstep (p : Pause digest) (world : Surroundings) :
    Lockstep (p.follow world) (fun n => p.continuation.advance p.resumedMonotonic world n digest)
      (fun n a => p.context.sight p.calledMonotonic world n digest a.run)
      (fun n => p.continuation.sight p.resumedMonotonic world n digest) p.Mirrors
      fun n a => p.Undisturbed world n a.run a.restored where
  shown _ _ _ := sight_eq_iff
  step _ _ _ := mirrors_follow

/-- The uninterrupted run after a result of the call, with the stored cost. -/
def followed (p : Pause digest) (output : String) : Followed :=
  ⟨p.allowed (.ok output), (storedUsage p.pausedUsage).estimatedCostUsd⟩

theorem trajectory_follow (p : Pause digest) (world : Surroundings) (output : String) (n : Nat) :
    trajectory (p.follow world) (p.followed output) n =
      ⟨p.allowedAt world (.ok output) n, p.restoredCost world output n⟩ := by
  induction n with
  | zero => rfl
  | succ n ih =>
    rw [trajectory_succ, ih]
    rfl

theorem afterCall_eq (p : Pause digest) (result : Except ToolError String) :
    p.afterCall result =
      p.graph.state.called p.call (executeToolOutcome p.call.toolName result) := by
  have hsilent : p.context.observesCancellation false = false := Bool.and_false _
  exact RunContext.executeToolCall_called (context_executeTool p) p.pending hsilent _

theorem called_result (state : RuntimeState) {call : PendingToolCall}
    (h : truthy call.normalizationError = false) (result : ToolResultContext) :
    state.called call (.result result) = { state with
      pendingToolCall := none
      stepCount := state.stepCount + 1
      toolResultSummary := some result } :=
  if_neg (by simp [h])

theorem pausedUsage_eq (p : Pause digest) :
    p.pausedUsage = { p.graph.state.toRunUsage with stepCount := p.graph.state.stepCount + 1 } := by
  have hpause : executeToolOutcome p.call.toolName (.error (.raise .approvalRequired)) =
      .approvalRequired "approval_required"
        "This action requires human approval before it can execute." := rfl
  unfold pausedUsage
  rw [afterCall_eq, hpause, RuntimeState.called, if_neg (by simp [p.normalized])]
  rfl

/-- After a result of the call the continuation stands where the uninterrupted run stands. -/
theorem mirrors_resumed (p : Pause digest) (output : String) :
    p.Mirrors (p.followed output) (p.resumed output) := by
  have hlive := live_of_reach p.reached
  obtain ⟨-, hhandoff, hcode, hmessage, hretryable⟩ := hlive.tool p.atTool
  obtain ⟨hbudget, hreason, hcancelled, hrequest⟩ :=
    hlive.unended (by simp [p.atTool]) (by simp [p.atTool])
  have hcalled : p.afterCall (.ok output) = { p.graph.state with
      pendingToolCall := none
      stepCount := p.graph.state.stepCount + 1
      toolResultSummary := some ⟨p.call.toolName, .succeeded, output, none⟩ } := by
    rw [afterCall_eq]
    exact called_result _ p.normalized _
  have hnode : RunContext.routeAfterTool (p.afterCall (.ok output)) = .checkBudget := by
    rw [hcalled]
    exact if_neg (by simp [hcode, hbudget, hcancelled, truthy])
  refine ⟨hnode, ⟨p.graph.state.finalResponse, p.graph.state.estimatedCostUsd, ?_,
    .inr (.inl rfl)⟩, rfl, .init ⟨_, _, rfl⟩⟩
  show p.afterCall (.ok output) = _
  rw [hcalled]
  unfold resumed resumeStateAfterTool storedUsage lift
  rw [pausedUsage_eq]
  simp [priorAttempts, hhandoff, hcode, hmessage, hretryable, hbudget, hreason, hcancelled,
    hrequest]

end Pause

theorem SegmentContext.advance_finished {ctx : SegmentContext} {called : Rat}
    {world : Surroundings} {n : Nat} {g : GraphRun} (h : g.node = .finished) :
    ctx.advance called world n digest g = g := by
  obtain ⟨node, state⟩ := g
  cases h
  rfl

/-! ## Errors of the call -/

theorem executeToolOutcome_terminal {toolName : String} {e : ToolError}
    (h : e.code ∈ Point.terminalToolCodes) :
    executeToolOutcome toolName (.error e) = .terminal e.code e.safeMessage := by
  have hcode : ∀ cls, e.cls = cls → cls.code ∈ Point.terminalToolCodes := by
    rintro cls rfl
    exact h
  have happroval : e.cls ≠ .approvalRequired := fun hcls => absurd (hcode _ hcls) (by decide)
  have hbudget : e.cls ≠ .budgetExceeded := fun hcls => absurd (hcode _ hcls) (by decide)
  simp only [executeToolOutcome, happroval, hbudget, h, if_false, if_true]

theorem failOrHandoff_terminal {code message : String} (hasConversation : Bool)
    (h : code ∈ Point.terminalToolCodes) :
    failOrHandoff hasConversation code message =
      .failed code (RunContext.orDefault message "The agent run failed.") := by
  have hprovider : code ∉
      ["provider_rate_limited", "provider_timeout", "provider_temporarily_unavailable"] := by
    unfold Point.terminalToolCodes at h
    intro hcode
    simp only [List.mem_cons, List.not_mem_nil, or_false] at h hcode
    rcases hcode with rfl | rfl | rfl <;> simp at h
  unfold failOrHandoff classifyTerminalFailure
  rw [if_neg (fun hboth => hprovider hboth.2)]

namespace Pause

variable {p : Pause digest} {world : Surroundings}

/-- A terminal error fails the uninterrupted run at once, with a message in any case. -/
theorem allowed_terminal (p : Pause digest) {e : ToolError}
    (h : e.code ∈ Point.terminalToolCodes) :
    (p.allowed (.error e)).node = .finished ∧
      p.context.outcome (p.allowed (.error e)).state =
        .failed e.code (RunContext.orDefault e.safeMessage "The requested tool failed.") := by
  obtain ⟨hbudget, -, hcancelled, hrequest⟩ :=
    (live_of_reach p.reached).unended (by simp [p.atTool]) (by simp [p.atTool])
  have hcode : RunContext.orDefault e.code "tool_execution_failed" = e.code := by
    refine if_neg fun hempty => ?_
    rw [hempty] at h
    exact absurd h (by decide)
  have hnonempty : e.code ≠ "" := by
    rintro hempty
    rw [hempty] at h
    exact absurd h (by decide)
  have happroval : e.code ≠ "approval_required" := by
    intro hpause
    rw [hpause] at h
    exact absurd h (by decide)
  have hmessage : RunContext.orDefault (RunContext.orDefault e.safeMessage
      "The requested tool failed.") "The agent run failed." =
      RunContext.orDefault e.safeMessage "The requested tool failed." := by
    refine if_neg ?_
    unfold RunContext.orDefault
    split
    · decide
    · assumption
  have hstate : p.afterCall (.error e) = RunContext.withToolError
      { p.graph.state with pendingToolCall := none, stepCount := p.graph.state.stepCount + 1 }
      e.code e.safeMessage := by
    rw [afterCall_eq, executeToolOutcome_terminal h, RuntimeState.called,
      if_neg (by simp [p.normalized])]
  constructor
  · show RunContext.routeAfterTool (p.afterCall (.error e)) = .finished
    rw [hstate]
    exact if_pos (.inl (by simp [RunContext.withToolError, RunContext.withError, hcode, truthy,
      hnonempty]))
  · show p.context.outcome (p.afterCall (.error e)) = _
    rw [hstate, context_outcome p (by exact hcancelled)]
    unfold continuedOutcome
    simp only [RunContext.withToolError, RunContext.withError, hrequest, hbudget, hcode, truthy,
      Option.some.injEq, happroval, Option.any_some, hnonempty, Option.getD_some, if_false,
      Bool.false_eq_true, ne_eq, not_false_eq_true, decide_true, if_true]
    rw [failOrHandoff_terminal p.hasConversation h, hmessage]

/-- Any other error lets the uninterrupted run go on, pause or exceed its budget. -/
theorem allowed_other (p : Pause digest) {e : ToolError}
    (h : e.code ∉ Point.terminalToolCodes) :
    (p.allowed (.error e)).node = .checkBudget ∨
      p.context.outcome (p.allowed (.error e)).state = .waitingForApproval ∨
      p.context.outcome (p.allowed (.error e)).state =
        .budgetExceeded "max_tool_calls_reached" := by
  obtain ⟨hbudget, -, hcancelled, hrequest⟩ :=
    (live_of_reach p.reached).unended (by simp [p.atTool]) (by simp [p.atTool])
  obtain ⟨-, -, hcode, -, -⟩ := (live_of_reach p.reached).tool p.atTool
  by_cases happroval : e.cls = .approvalRequired
  · refine .inr (.inl ?_)
    have hpause : e.code = "approval_required" := congrArg ToolErrorClass.code happroval
    have hstate : p.afterCall (.error e) = RunContext.withToolError
        { p.graph.state with pendingToolCall := none, stepCount := p.graph.state.stepCount + 1 }
        e.code e.safeMessage := by
      rw [afterCall_eq]
      simp only [RuntimeState.called, p.normalized, executeToolOutcome, happroval, if_true,
        if_false, Bool.false_eq_true]
    show p.context.outcome (p.afterCall (.error e)) = _
    rw [hstate, context_outcome p (by exact hcancelled)]
    simp [continuedOutcome, RunContext.withToolError, RunContext.withError, hrequest, hbudget,
      hpause, RunContext.orDefault]
  by_cases hexhausted : e.cls = .budgetExceeded
  · refine .inr (.inr ?_)
    have hstate : p.afterCall (.error e) = { p.graph.state with
        pendingToolCall := none
        stepCount := p.graph.state.stepCount + 1
        budgetExceeded := true
        budgetExceededReason := some "max_tool_calls_reached" } := by
      rw [afterCall_eq]
      simp only [RuntimeState.called, p.normalized, executeToolOutcome, hexhausted, if_true,
        if_false, Bool.false_eq_true, reduceCtorEq]
    show p.context.outcome (p.afterCall (.error e)) = _
    rw [hstate, context_outcome p (by exact hcancelled)]
    simp [continuedOutcome, hrequest, RunContext.orDefault]
  · refine .inl ?_
    have hstate : ∃ result, p.afterCall (.error e) = { p.graph.state with
        pendingToolCall := none
        stepCount := p.graph.state.stepCount + 1
        toolResultSummary := some result } := by
      rw [afterCall_eq]
      simp only [executeToolOutcome, happroval, hexhausted, h, if_false]
      exact ⟨_, called_result _ p.normalized _⟩
    obtain ⟨result, hstate⟩ := hstate
    show RunContext.routeAfterTool (p.afterCall (.error e)) = .checkBudget
    rw [hstate]
    exact if_neg (by simp [hcode, hbudget, hcancelled, truthy])

/-- After an error of the call the runs look alike exactly where it ends them alike. -/
theorem sight_error_iff (p : Pause digest) (world : Surroundings) (e : ToolError) :
    (∀ n, p.allowedSight world (.error e) n = p.resumedSight world (.error e) n) ↔
      e.EndsAlike := by
  constructor
  · intro hsight
    have hevent : p.context.event p.calledMonotonic world 0 (p.allowed (.error e)) =
        .ended (resumeErrorOutcome e) := (Sight.mk.inj (hsight 0)).1
    have hnode : (p.allowed (.error e)).node ≠ .checkBudget := by
      intro hgoes
      unfold SegmentContext.event at hevent
      rw [hgoes] at hevent
      split_ifs at hevent
    have hfinished : (p.allowed (.error e)).node = .finished := by
      have hroute : (p.allowed (.error e)).node =
        if _ then Node.finished else Node.checkBudget := rfl
      by_contra hnot
      exact hnode (hroute.trans (if_neg fun hover => hnot (hroute.trans (if_pos hover))))
    unfold SegmentContext.event at hevent
    simp only [hfinished, NodeEvent.ended.injEq] at hevent
    by_cases hterminal : e.code ∈ Point.terminalToolCodes
    · rw [(allowed_terminal p hterminal).2] at hevent
      unfold resumeErrorOutcome at hevent
      split at hevent
      · cases hevent
      · rename_i hprogress
        refine ⟨hterminal, hprogress, fun hempty => ?_⟩
        rw [hempty] at hevent
        exact absurd (RunOutcome.failed.inj hevent).2 (by decide)
    · unfold resumeErrorOutcome at hevent
      rcases allowed_other p hterminal with hgoes | hpauses | hexceeds
      · exact absurd hgoes hnode
      · rw [hpauses] at hevent
        split at hevent <;> cases hevent
      · rw [hexceeds] at hevent
        split at hevent <;> cases hevent
  · rintro ⟨hterminal, hprogress, hmessage⟩ n
    obtain ⟨hfinished, houtcome⟩ := allowed_terminal p hterminal
    have hfixed : ∀ m, p.context.advance p.calledMonotonic world m digest (p.allowed (.error e)) =
        p.allowed (.error e) := fun m => SegmentContext.advance_finished hfinished
    have hsettled : RunContext.orDefault e.safeMessage "The requested tool failed." =
        e.safeMessage := if_neg hmessage
    have hresumed : resumeErrorOutcome e = .failed e.code e.safeMessage := if_neg hprogress
    unfold allowedSight resumedSight allowedAt
    rw [trajectory_of_fixed hfixed, SegmentContext.sight, hfixed, hfinished]
    unfold SegmentContext.event
    simp only [hfinished, houtcome, hsettled, hresumed]

end Pause

/-- From the call on, what the provider, the tools and the budget see of the continuation, and
the end of the run, are those of the run whose policy allowed the call exactly where the pause is
transparent. -/
theorem resumed_run_transparent (p : Pause digest) (world : Surroundings)
    (result : Except ToolError String) :
    (∀ n, p.allowedSight world result n = p.resumedSight world result n) ↔
      p.Transparent world result := by
  cases result with
  | error e => exact p.sight_error_iff world e
  | ok output =>
    have hlockstep := (p.lockstep world).shown_eq_iff (p.mirrors_resumed output)
    simp only [Pause.trajectory_follow] at hlockstep
    exact hlockstep

/-- Of a cost of 1.1235000000000002 the column keeps 1.1235: a turn of 0.8764999999999997 then
brings the run to 2, and its continuation not. -/
example :
    RunContext.accumulatedCost (some (.finite (5059794181350753 / 4503599627370496)))
        (some (7894810146780477 / 9007199254740992)) = some (.finite 2) ∧
      RunContext.accumulatedCost
          (some (storedCost (.finite (5059794181350753 / 4503599627370496))))
          (some (7894810146780477 / 9007199254740992)) =
        some (.finite (9007199254740991 / 4503599627370496)) := by
  decide +kernel

/-! ## A continuation that differs -/

/-- The first call of a run, of a tool that is offered to the provider. -/
def lookupPause : Pause sampleDigest where
  toTurn := mainTurn
  hasConversation := true
  toolDescriptors := [⟨"crm_lookup", "Look up a customer", "Find a customer.", "\x7b\x7d"⟩]
  startedMonotonic := 0
  calledMonotonic := 1
  resumedMonotonic := 60
  normalized := rfl

/-- The provider answers at once, and the run is cancelled during the continuation or not. -/
def answering (cancelled : Bool) : Surroundings where
  provider _ _ := some (.ok { text := "Done." })
  executeTool _ _ _ _ := none
  cancelled _ := cancelled
  elapsed _ := 0
  requestHandoff _ := .refused "" ""
  errorCode _ _ _ h := by cases h

/-- The continuation offers no tools where the uninterrupted run offers its own, does not stop
when the run is cancelled, and fails on an error that the uninterrupted run tells its model. -/
theorem resumed_run_not_always_transparent :
    (lookupPause.allowedSight (answering false) (.ok "\x7b\x7d") 1 =
        ⟨.requested ⟨some ⟨"crm_lookup", .succeeded, "\x7b\x7d", none⟩,
          lookupPause.toolDescriptors⟩, .validateProviderResult⟩ ∧
      lookupPause.resumedSight (answering false) (.ok "\x7b\x7d") 1 =
        ⟨.requested ⟨some ⟨"crm_lookup", .succeeded, "\x7b\x7d", none⟩, []⟩,
          .validateProviderResult⟩) ∧
    (lookupPause.allowedSight (answering true) (.ok "\x7b\x7d") 0 = ⟨.cancelled, .finished⟩ ∧
      lookupPause.resumedSight (answering true) (.ok "\x7b\x7d") 0 =
        ⟨.budgetChecked ⟨true, none⟩, .generateResponse⟩) ∧
    lookupPause.allowedSight (answering false) (.error (.raise .timeout)) 0 =
        ⟨.budgetChecked ⟨true, none⟩, .generateResponse⟩ ∧
      lookupPause.resumedSight (answering false) (.error (.raise .timeout)) 0 =
        ⟨.ended (.failed "tool_timeout" "The tool did not complete within its allotted time."),
          .finished⟩ := by
  decide +kernel

end SupportPilot
