import SupportPilot.Agents.SegmentRuns

/-!
# The model calls of a run

The budget check lets a call be made only while the counter is below the limit, the counter goes
with the graph result into the row and from there into the next segment, and only one segment of a
run is ever alive. The nodes of a graph are paid for by its calls, three for each, which keeps every
path below the step limit of the engine.
-/

namespace SupportPilot

open Library GraphEvent

/-! ## One graph -/

/-- How many nodes a graph has executed at most when it stands at a node after so many calls. -/
def Node.executedBound (limit calls : Nat) : Node → Nat
  | .prepareRun => 0
  | .checkBudget | .finalizeResponse => 3 * calls + 1
  | .generateResponse => 3 * calls + 2
  | .executeToolCall | .executeHandoffRequest | .validateProviderResult => 3 * calls
  | .finished | .raised => 3 * limit + 2

/-- What a graph may have spent of the call limit. -/
structure Spent (limit : Nat) (g : GraphRun) (nodes : Nat) : Prop where
  nodes : nodes ≤ g.node.executedBound limit g.state.modelCallCount
  within : g.state.modelCallCount ≤ limit
  spare : g.node = .generateResponse → g.state.modelCallCount < limit

namespace Spent

variable {limit nodes : Nat} {g : GraphRun}

/-- A graph that is not over can still afford its end. -/
theorem affords (h : Spent limit g nodes) (hfinished : g.node ≠ .finished)
    (hraised : g.node ≠ .raised) : nodes + 1 ≤ 3 * limit + 2 := by
  obtain ⟨node, state⟩ := g
  obtain ⟨hnodes, hwithin, hspare⟩ := h
  cases node with
  | generateResponse =>
    have hlt := hspare rfl
    simp only [Node.executedBound] at hnodes hlt
    omega
  | finished => exact absurd rfl hfinished
  | raised => exact absurd rfl hraised
  | _ =>
    simp only [Node.executedBound] at hnodes hwithin
    omega

theorem le_recursionLimit {budgets : Budgets} (h : Spent budgets.maxModelCalls g nodes) :
    nodes + 1 ≤ recursionLimit budgets := by
  have hnodes : nodes ≤ 3 * budgets.maxModelCalls + 2 := by
    by_cases hfinished : g.node = .finished
    · have hle := h.nodes
      rw [hfinished] at hle
      exact hle
    · by_cases hraised : g.node = .raised
      · have hle := h.nodes
        rw [hraised] at hle
        exact hle
      · have hle := h.affords hfinished hraised
        omega
  unfold recursionLimit
  omega

end Spent

section Graph

variable {digest : String → String} {ctx : RunContext} {g g' : GraphRun} {a : Answer} {nodes : Nat}

/-- The budget check goes on only below the call limit. -/
theorem modelCallCount_lt_of_generate {state : RuntimeState} {cancelled : Bool} {elapsed : Rat}
    (h : RunContext.routeAfterBudget (ctx.checkBudgetNode state cancelled elapsed) =
      .generateResponse) : state.modelCallCount < ctx.budgets.maxModelCalls := by
  by_cases hobserved : ctx.observesCancellation cancelled = true
  · unfold RunContext.routeAfterBudget RunContext.checkBudgetNode at h
    simp [hobserved] at h
  · rw [RunContext.checkBudgetNode_unobserved (by simpa using hobserved)] at h
    by_cases hallows : ctx.allowsCall state elapsed = true
    · exact RunContext.modelCallCount_lt_of_allowsCall hallows
    · simp [RunContext.routeAfterBudget, hallows] at h

variable (ctx) in
theorem routeAfterGenerate_mem (state : RuntimeState) :
    ctx.routeAfterGenerate state ∈ [Node.checkBudget, .executeToolCall, .executeHandoffRequest,
      .validateProviderResult, .finished] := by
  unfold RunContext.routeAfterGenerate
  split_ifs <;> simp

variable (ctx digest) in
theorem generateResponse_counts (state : RuntimeState)
    (outcome : Except ProviderError LLMResponse) :
    (ctx.generateResponse state digest outcome).modelCallCount = state.modelCallCount + 1 ∨
      (ctx.generateResponse state digest outcome).modelCallCount = state.modelCallCount ∧
        ctx.routeAfterGenerate (ctx.generateResponse state digest outcome) = .finished := by
  unfold RunContext.generateResponse
  split
  · rename_i hbudget
    exact .inr ⟨rfl, if_pos hbudget⟩
  · cases outcome <;> exact .inl rfl

/-- A step pays for its node with its call, or out of what the last call has left. -/
theorem spent_graphStep (hg : Spent ctx.budgets.maxModelCalls g nodes)
    (h : ctx.graphStep digest a g = some g') :
    Spent ctx.budgets.maxModelCalls g' (nodes + 1) := by
  obtain ⟨hnodes, hwithin, hspare⟩ := hg
  have hg : Spent ctx.budgets.maxModelCalls g nodes := ⟨hnodes, hwithin, hspare⟩
  cases RunContext.graphStep_cases ctx h with
  | raised hfinished hraised => exact ⟨hg.affords hfinished hraised, hwithin, by simp⟩
  | prepared =>
    simp only [Node.executedBound] at hnodes hwithin
    exact ⟨by simp only [Node.executedBound]; omega, hwithin, by simp⟩
  | @checked cancelled elapsed state state' hstate =>
    subst hstate
    have hover := hg.affords (by simp) (by simp)
    have hcount := (ctx.checkBudgetNode_counters state cancelled elapsed).2
    simp only [Node.executedBound] at hnodes hwithin
    rcases RunContext.routeAfterBudget_cases (ctx.checkBudgetNode state cancelled elapsed) with
      ⟨hroute, -⟩ | hroute
    · rw [hroute]
      exact ⟨hover, by simpa only [hcount] using hwithin, by simp⟩
    · refine ⟨?_, by simpa only [hcount] using hwithin, fun _ => ?_⟩
      · simp only [hroute, hcount, Node.executedBound]
        omega
      · simp only [hcount]
        exact modelCallCount_lt_of_generate hroute
  | @generated outcome state state' hstate =>
    subst hstate
    have hover := hg.affords (by simp) (by simp)
    have hlt := hspare rfl
    simp only [Node.executedBound] at hnodes hwithin hlt
    rcases generateResponse_counts digest ctx state outcome with hcount | ⟨hcount, hroute⟩
    · have hroute := routeAfterGenerate_mem ctx (ctx.generateResponse state digest outcome)
      refine ⟨?_, by simp only [hcount]; omega, ?_⟩
      · simp only [hcount]
        simp only [List.mem_cons, List.not_mem_nil, or_false] at hroute
        rcases hroute with h | h | h | h | h <;> rw [h] <;> simp only [Node.executedBound] <;> omega
      · intro hnode
        simp only at hnode
        rw [hnode] at hroute
        simp at hroute
    · rw [hroute]
      exact ⟨hover, by simpa only [hcount] using hwithin, by simp⟩
  | @executed cancelled outcome state state' hstate =>
    subst hstate
    have hover := hg.affords (by simp) (by simp)
    have hcount := (ctx.executeToolCall_counters state cancelled outcome).2
    simp only [Node.executedBound] at hnodes hwithin
    rcases RunContext.routeAfterTool_cases (ctx.executeToolCall state cancelled outcome) with
      ⟨hroute, -⟩ | hroute
    · rw [hroute]
      exact ⟨hover, by simpa only [hcount] using hwithin, by simp⟩
    · rw [hroute]
      refine ⟨?_, by simpa only [hcount] using hwithin, by simp⟩
      simp only [Node.executedBound, hcount]
      omega
  | @handedOff cancelled validated state state' hstate =>
    subst hstate
    have hcount := (ctx.executeHandoffRequest_keeps state cancelled validated).2
    exact ⟨hg.affords (by simp) (by simp), by simpa only [hcount] using hwithin, by simp⟩
  | @validated state state' hstate =>
    subst hstate
    have hover := hg.affords (by simp) (by simp)
    have hcount := (RunContext.validateProviderResult_keeps state).2
    simp only [Node.executedBound] at hnodes hwithin
    rcases RunContext.routeAfterValidation_cases (RunContext.validateProviderResult state) with
      ⟨hroute, -⟩ | hroute
    · rw [hroute]
      exact ⟨hover, by simpa only [hcount] using hwithin, by simp⟩
    · rw [hroute]
      refine ⟨?_, by simpa only [hcount] using hwithin, by simp⟩
      simp only [Node.executedBound, hcount]
      omega
  | finalized => exact ⟨hg.affords (by simp) (by simp), hwithin, by simp⟩

end Graph

/-! ## The segments of a run -/

section Run

variable {digest : String → String} {uuid : Uuid} {r : Nat}

def SegmentPhase.live : SegmentPhase → Prop
  | .left => False
  | _ => True

/-- What a live segment knows of the calls of its run. -/
def SegmentPhase.Counts (s : RunRecord) (segment : Segment) : SegmentPhase → Prop
  | .claimed usage => usage.modelCallCount = s.calls ∧ (segment = .main → s.calls = 0)
  | .graph g nodes => Spent s.run.agentVersion.maxModelCalls g nodes ∧
      (g.node ≠ .raised → g.state.modelCallCount = s.calls)
  | .left => True

/-- The status of a run while a segment may be alive. -/
def AgentRunStatus.claimed : AgentRunStatus → Bool
  | .running | .failed | .cancelled => true
  | _ => false

/-- What the row says of the calls of its run. -/
structure RunRecord.Accounts (s : RunRecord) : Prop where
  within : s.calls ≤ s.run.agentVersion.maxModelCalls
  unused : s.run.status = .pending → s.calls = 0
  saved : s.run.status.claimed = false → s.run.usage.modelCallCount = s.calls

abbrev SegmentConfig := Config SegmentProcess RunRecord

/-- The accounts of a run with its segments, of which at most one is alive. -/
structure RunAccount (c : SegmentConfig) : Prop where
  store : c.store.Accounts
  alone : Program.Exclusive (fun (p : SegmentProcess) (_ : Unit) => p.phase.live) c
  claimed : ∀ (i : Nat) (p : SegmentProcess), c.procs[i]? = some p → p.phase.live →
    c.store.run.status.claimed = true
  counts : ∀ (i : Nat) (p : SegmentProcess), c.procs[i]? = some p →
    p.phase.Counts c.store p.segment

theorem SegmentPhase.Counts.congr {s s' : RunRecord} {segment : Segment} {phase : SegmentPhase}
    (hversion : s'.run.agentVersion = s.run.agentVersion) (hcalls : s'.calls = s.calls)
    (h : phase.Counts s segment) : phase.Counts s' segment := by
  unfold SegmentPhase.Counts at h ⊢
  rw [hversion, hcalls]
  exact h

/-- What an event from outside does to the row, and whom it starts. -/
theorem runEvent_some {s s' : RunRecord} {e : RunEvent} {started : Option SegmentProcess}
    (h : s.runEvent e = some (s', started)) :
    s'.calls = s.calls ∧ s'.run.agentVersion = s.run.agentVersion ∧
      s'.run.status.claimed = true ∧
      ∀ p ∈ started, s.run.status.claimed = false ∧
        p.phase = .claimed s.run.usage ∧ (p.segment = .main → s.run.status = .pending) := by
  cases e with
  | claim now =>
    obtain ⟨run, hrun, hout⟩ := Option.map_eq_some_iff.mp h
    unfold claimAgentRun at hrun
    split at hrun
    · cases hrun
    · rename_i hpending
      cases hrun
      cases hout
      simp only [ne_eq, Decidable.not_not] at hpending
      exact ⟨rfl, rfl, rfl, by simp [hpending, AgentRunStatus.claimed]⟩
  | claimForResume now =>
    obtain ⟨run, hrun, hout⟩ := Option.map_eq_some_iff.mp h
    unfold claimRunForResume at hrun
    split at hrun
    · cases hrun
    · rename_i hwaiting
      cases hrun
      cases hout
      simp only [ne_eq, Decidable.not_not] at hwaiting
      exact ⟨rfl, rfl, rfl, by simp [hwaiting, AgentRunStatus.claimed]⟩
  | cancel now =>
    obtain ⟨run, hrun, hout⟩ := Option.map_eq_some_iff.mp h
    unfold cancelAgentRun at hrun
    split at hrun
    · cases hrun
    · cases hrun
      cases hout
      exact ⟨rfl, rfl, rfl, by simp⟩
  | recover cutoff now =>
    obtain ⟨run, hrun, hout⟩ := Option.map_eq_some_iff.mp h
    obtain ⟨-, -, rfl⟩ := recoverOneStuckRun_some hrun
    cases hout
    exact ⟨rfl, rfl, rfl, by simp⟩

theorem runAccount_env {c : SegmentConfig} {e : RunEvent} {s' : RunRecord}
    {started : Option SegmentProcess} (hc : RunAccount c)
    (h : c.store.runEvent e = some (s', started)) :
    RunAccount ⟨s', c.procs ++ started.toList⟩ := by
  obtain ⟨hcalls, hversion, hclaimed, hstarted⟩ := runEvent_some h
  refine ⟨⟨?_, ?_, ?_⟩, ?_, ?_, ?_⟩
  · rw [hcalls, hversion]
    exact hc.store.within
  · intro hpending
    rw [hpending] at hclaimed
    cases hclaimed
  · intro hunclaimed
    rw [hclaimed] at hunclaimed
    cases hunclaimed
  · refine Program.exclusive_append hc.alone fun p hp _ _ j q hq hlive => ?_
    have hstatus := hc.claimed j q hq hlive
    rw [(hstarted p hp).1] at hstatus
    cases hstatus
  · exact fun _ _ _ _ => hclaimed
  · intro i p hp
    rcases Program.proc_append hp with hold | hnew
    · exact (hc.counts i p hold).congr hversion hcalls
    · obtain ⟨hstatus, hphase, hmain⟩ := hstarted p hnew
      simp only [hphase, SegmentPhase.Counts]
      rw [hcalls]
      exact ⟨hc.store.saved hstatus, fun hsegment => hc.store.unused (hmain hsegment)⟩

/-- A live segment that takes a step answers for its own accounts only. -/
theorem runAccount_set {c : SegmentConfig} {i : Nat} {p : SegmentProcess} {s' : RunRecord}
    {phase : SegmentPhase} (hc : RunAccount c) (hp : c.procs[i]? = some p) (hlive : p.phase.live)
    (hstore : s'.Accounts) (hclaimed : phase.live → s'.run.status.claimed = true)
    (hcounts : phase.Counts s' p.segment) :
    RunAccount ⟨s', c.procs.set i { p with phase := phase }⟩ := by
  have hothers : ∀ j q, j ≠ i → c.procs[j]? = some q → ¬ q.phase.live :=
    fun j q hj hq hlive' => hj (hc.alone j i q p () hq hp hlive' hlive)
  refine ⟨hstore, ?_, ?_, ?_⟩
  · exact Program.exclusive_set hc.alone hp fun _ _ => .inr hothers
  · intro j q hq hlive'
    rcases getElem?_set_cases hq with ⟨-, rfl⟩ | ⟨hj, hold⟩
    · exact hclaimed hlive'
    · exact absurd hlive' (hothers j q hj hold)
  · intro j q hq
    rcases getElem?_set_cases hq with ⟨-, rfl⟩ | ⟨hj, hold⟩
    · exact hcounts
    · have hover := hothers j q hj hold
      cases hphase : q.phase with
      | left => trivial
      | claimed | graph =>
        rw [hphase] at hover
        exact absurd trivial hover

/-- The accounts stay right when a segment writes a row that says what was called, or one that
still counts as claimed. -/
theorem accounts_write {s : RunRecord} {row : Option AgentRun} (hs : s.Accounts)
    (hrow : ∀ run, row = some run → run.agentVersion = s.run.agentVersion ∧
      run.status ≠ .pending ∧
      (run.status.claimed = false → run.usage.modelCallCount = s.calls)) :
    (s.write row).Accounts := by
  cases row with
  | none => exact hs
  | some run =>
    obtain ⟨hversion, hpending, hsaved⟩ := hrow run rfl
    refine ⟨?_, fun hstatus => absurd hstatus hpending, hsaved⟩
    show s.calls ≤ run.agentVersion.maxModelCalls
    rw [hversion]
    exact hs.within

theorem accounts_failed {s : RunRecord} {code message : String} {now : Nat} (hs : s.Accounts) :
    (s.write (failRun s.run code message none now)).Accounts := by
  refine accounts_write hs fun run hrun => ?_
  obtain ⟨-, rfl⟩ := failRun_some hrun
  exact ⟨rfl, by simp, by simp [AgentRunStatus.claimed]⟩

theorem accounts_settled {s : RunRecord} {usage : RunUsage} {row : Option AgentRun}
    (hs : s.Accounts) (husage : usage.modelCallCount = s.calls)
    (hrow : ∀ run, row = some run → Settled s.run run usage) : (s.write row).Accounts := by
  refine accounts_write hs fun run hrun => ?_
  obtain ⟨hversion, hstatus, hwritten⟩ := hrow run hrun
  refine ⟨hversion, hstatus.1, fun _ => ?_⟩
  rw [hwritten, husage]

/-- At most the call that an exception has broken off is missing from the counter. -/
theorem calls_raised {ctx : RunContext} {g g' : GraphRun} {a : Answer}
    (h : ctx.graphStep digest a g = some g') (hraised : g'.node = .raised) :
    calls (ctx.event g a).toList = 0 ∨
      g.node = .generateResponse ∧ calls (ctx.event g a).toList = 1 := by
  cases RunContext.graphStep_cases ctx h with
  | @raised node state hfinished _ =>
    cases node with
    | generateResponse =>
      unfold RunContext.event
      dsimp only
      split
      · exact .inl rfl
      · exact .inr ⟨rfl, rfl⟩
    | executeToolCall =>
      left
      unfold RunContext.event
      dsimp only
      cases ctx.executedCall state false <;> rfl
    | _ => exact .inl rfl
  | @checked _ _ _ state' =>
    rcases RunContext.routeAfterBudget_cases state' with ⟨hroute, -⟩ | hroute <;>
      simp [hroute] at hraised
  | generated => exact absurd hraised RunContext.routeAfterGenerate_ne_raised
  | @executed _ _ _ state' =>
    rcases RunContext.routeAfterTool_cases state' with ⟨hroute, -⟩ | hroute <;>
      simp [hroute] at hraised
  | @validated _ state' =>
    rcases RunContext.routeAfterValidation_cases state' with ⟨hroute, -⟩ | hroute <;>
      simp [hroute] at hraised
  | prepared | handedOff | finalized => cases hraised

/-- A node of a live graph keeps the accounts, its own call included. -/
theorem runAccount_node {c : SegmentConfig} {i : Nat} {segment : Segment} {a : Answer}
    {g g' : GraphRun} {nodes : Nat} (hc : RunAccount c)
    (hp : c.procs[i]? = some ⟨segment, .graph g nodes⟩)
    (h : (segmentContext c.store.run.agentVersion uuid segment).graphStep digest a g = some g') :
    RunAccount ⟨c.store.count ((segmentContext c.store.run.agentVersion uuid segment).event g a),
      c.procs.set i ⟨segment, .graph g' (nodes + 1)⟩⟩ := by
  obtain ⟨hspent, hcount⟩ := hc.counts i _ hp
  have hclaimed := hc.claimed i _ hp trivial
  have hspent' : Spent c.store.run.agentVersion.maxModelCalls g' (nodes + 1) := by
    have hbudgets : Spent (segmentContext c.store.run.agentVersion uuid
        segment).budgets.maxModelCalls g nodes := by
      simpa [versionBudgets] using hspent
    simpa [versionBudgets] using spent_graphStep hbudgets h
  have hbefore : g.node ≠ .raised := by
    intro hraised
    cases RunContext.graphStep_cases _ h <;> simp_all
  have hcalls : g'.node ≠ .raised → g'.state.modelCallCount = c.store.calls +
      calls ((segmentContext c.store.run.agentVersion uuid segment).event g a).toList := by
    intro hnode
    rw [(RunContext.counts_graphStep h hnode).modelCallCount, hcount hbefore]
  refine runAccount_set hc hp trivial ?_ (fun _ => hclaimed) ⟨hspent', hcalls⟩
  refine ⟨?_, fun hpending => ?_, fun hunclaimed => ?_⟩
  · show c.store.calls + calls _ ≤ c.store.run.agentVersion.maxModelCalls
    by_cases hraised : g'.node = .raised
    · rcases calls_raised h hraised with hnone | ⟨hgenerate, hone⟩
      · rw [hnone]
        exact hc.store.within
      · have hlt := hspent.spare hgenerate
        rw [hone, ← hcount hbefore]
        exact hlt
    · rw [← hcalls hraised]
      exact hspent'.within
  · have hpending : c.store.run.status = .pending := hpending
    rw [hpending] at hclaimed
    cases hclaimed
  · have hunclaimed : c.store.run.status.claimed = false := hunclaimed
    rw [hclaimed] at hunclaimed
    cases hunclaimed

theorem counts_segmentStart {s : RunRecord} {segment : Segment} {usage : RunUsage}
    {summary : ToolResultContext} (hs : s.Accounts)
    (h : (SegmentPhase.claimed usage).Counts s segment) :
    (SegmentPhase.graph (segmentStart usage summary segment) 0).Counts s segment := by
  obtain ⟨hcount, hmain⟩ := h
  cases segment with
  | main =>
    exact ⟨⟨Nat.zero_le _, Nat.zero_le _, by simp [segmentStart]⟩, fun _ => (hmain rfl).symm⟩
  | resumed =>
    refine ⟨⟨Nat.zero_le _, ?_, by simp [segmentStart]⟩, fun _ => hcount⟩
    show usage.modelCallCount ≤ s.run.agentVersion.maxModelCalls
    rw [hcount]
    exact hs.within

/-- Every step of a segment keeps the accounts. -/
theorem runAccount_work {c : SegmentConfig} {i : Nat} {p : SegmentProcess} {a : SegmentAction}
    {s' : RunRecord} {phase : SegmentPhase} (hc : RunAccount c) (hp : c.procs[i]? = some p)
    (h : SegmentStep digest uuid r p.segment c.store a p.phase s' phase) :
    RunAccount ⟨s', c.procs.set i { p with phase := phase }⟩ := by
  have hcounts := hc.counts i p hp
  have hclaimed := hc.claimed i p hp
  obtain ⟨segment, phase₀⟩ := p
  cases h with
  | started usage summary =>
    exact runAccount_set hc hp trivial hc.store (fun _ => hclaimed trivial)
      (counts_segmentStart hc.store hcounts)
  | executed hstep => exact runAccount_node hc hp hstep
  | settled state nodes messageId now =>
    refine runAccount_set hc hp trivial ?_ False.elim trivial
    exact accounts_settled hc.store (hcounts.2 (by simp)) fun run hrun => settleRun_settled hrun
  | raised state nodes messageId now =>
    exact runAccount_set hc hp trivial (accounts_failed hc.store) False.elim trivial
  | refused usage code message now =>
    exact runAccount_set hc hp trivial (accounts_failed hc.store) False.elim trivial
  | handedOff usage messageId now hmain =>
    refine runAccount_set hc hp trivial ?_ False.elim trivial
    refine accounts_settled hc.store hcounts.1 fun run hrun => ?_
    have hsettle : settleRun r c.store.run usage messageId now (.handedOff "" "") = some run := hrun
    exact settleRun_settled hsettle
  | left hphase =>
    refine runAccount_set hc hp ?_ hc.store False.elim trivial
    cases phase₀ with
    | left => exact absurd rfl hphase
    | claimed | graph => trivial

theorem runAccount_of_reach {c : SegmentConfig}
    (h : (segmentRuns digest uuid r).system.Reach (fun _ _ => True) c) : RunAccount c := by
  refine h.invariant (fun c hinit => ?_) fun c label c' _ hc _ hstep => ?_
  · obtain ⟨⟨hpending, husage, hcalls⟩, hprocs⟩ := hinit
    refine ⟨⟨?_, fun _ => hcalls, fun _ => ?_⟩, ?_, ?_, ?_⟩
    · rw [hcalls]
      exact Nat.zero_le _
    · rw [husage, hcalls]
    · intro i j p q _ hp
      simp [hprocs] at hp
    · intro i p hp
      simp [hprocs] at hp
    · intro i p hp
      simp [hprocs] at hp
  · cases label with
    | env e =>
      obtain ⟨s', started, hout, rfl⟩ := Program.step_env hstep
      exact runAccount_env hc hout
    | work i a =>
      obtain ⟨p, s', p', hp, hout, rfl⟩ := Program.step_work hstep
      obtain ⟨phase, hphase, rfl⟩ := segmentRuns_work hout
      exact runAccount_work hc hp hphase

/-! ## Main results -/

/-- The answers that a node can be given. -/
def Node.takes : Node → Answer → Bool
  | .prepareRun, .nothing | .validateProviderResult, .nothing | .finalizeResponse, .nothing => true
  | .checkBudget, .budget _ _ | .generateResponse, .provider _ => true
  | .executeToolCall, .tool _ _ | .executeHandoffRequest, .handoff _ _ => true
  | _, _ => false

/-- A node goes on with every answer that it can be given. -/
theorem graphStep_isSome {ctx : RunContext} {g : GraphRun} {a : Answer}
    (h : g.node.takes a = true) : (ctx.graphStep digest a g).isSome := by
  obtain ⟨node, state⟩ := g
  cases node <;> cases a <;> first | rfl | cases h

/-- The provider is called for a run at most as often as its version allows, over all its segments;
the graph of a segment goes on at every node and has ended before the step limit of the engine; and
a segment that settles its run with the result writes the number of the calls, as it does when the
run is running and the result settles it, so a run that waits, has succeeded, is handed off or out
of its budget has that number. -/
theorem modelCalls_accounted {c : SegmentConfig}
    (h : (segmentRuns digest uuid r).system.Reach (fun _ _ => True) c) :
    c.store.calls ≤ c.store.run.agentVersion.maxModelCalls ∧
    (∀ (i : Nat) (segment : Segment) (g : GraphRun) (nodes : Nat),
      c.procs[i]? = some ⟨segment, .graph g nodes⟩ →
      nodes + 1 ≤ recursionLimit (versionBudgets c.store.run.agentVersion) ∧
        ∀ a, g.node.takes a = true →
          ((segmentContext c.store.run.agentVersion uuid segment).graphStep digest a g).isSome) ∧
    (∀ (i : Nat) (segment : Segment) (state : RuntimeState) (nodes messageId now : Nat)
        (c' : SegmentConfig), c.procs[i]? = some ⟨segment, .graph ⟨.finished, state⟩ nodes⟩ →
      (segmentRuns digest uuid r).system.step (.work i (.settle messageId now)) c = some c' →
      (c'.store.run = c.store.run ∨ c'.store.run.usage.modelCallCount = c'.store.calls) ∧
      (c.store.run.status = .running →
        (segmentOutcome segment c.store.run.conversation.isSome state).settles c.store.run = true →
        c'.store.run.usage.modelCallCount = c'.store.calls)) ∧
    (c.store.run.status ∈ [.waitingForApproval, .succeeded, .handedOff, .budgetExceeded] →
      c.store.run.usage.modelCallCount = c.store.calls) := by
  have hc := runAccount_of_reach h
  refine ⟨hc.store.within, ?_, ?_, ?_⟩
  · intro i segment g nodes hp
    obtain ⟨hspent, -⟩ := hc.counts i _ hp
    have hbudgets : Spent (versionBudgets c.store.run.agentVersion).maxModelCalls g nodes := hspent
    exact ⟨hbudgets.le_recursionLimit, fun a ha => graphStep_isSome ha⟩
  · intro i segment state nodes messageId now c' hp hstep
    obtain ⟨p, s', p', hp', hout, rfl⟩ := Program.step_work hstep
    obtain rfl := Option.some.inj (hp.symm.trans hp')
    obtain ⟨phase, hphase, rfl⟩ := segmentRuns_work hout
    cases hphase with
    | settled =>
      obtain ⟨-, hcount⟩ := hc.counts i _ hp
      cases hrow : settleRun r c.store.run state.toRunUsage messageId now
        (segmentOutcome segment c.store.run.conversation.isSome state) with
      | none =>
        refine ⟨.inl rfl, fun hrunning hsettles => ?_⟩
        have hsome : (settleRun r c.store.run state.toRunUsage messageId now _).isSome :=
          settleRun_isSome hrunning hsettles
        simp [hrow] at hsome
      | some run =>
        have hwritten : run.usage.modelCallCount = c.store.calls := by
          rw [(settleRun_settled hrow).usage]
          exact hcount (by simp)
        exact ⟨.inr hwritten, fun _ _ => hwritten⟩
  · intro hstatus
    apply hc.store.saved
    simp only [List.mem_cons, List.not_mem_nil, or_false] at hstatus
    rcases hstatus with h | h | h | h <;> rw [h] <;> rfl

end Run

/-! ## A run that waits once -/

/-- A tool call pauses the run for approval, and the resumed segment answers. -/
def resumedLabels : List (Label RunEvent SegmentAction) :=
  [.env (.claim 0), .work 0 (.start ⟨"", .succeeded, "", none⟩), .work 0 (.node .nothing),
    .work 0 (.node (.budget false 0)),
    .work 0 (.node (.provider (.ok { toolCalls := [⟨"crm_lookup", "\x7b\x7d", none⟩] }))),
    .work 0 (.node (.tool false (.approvalRequired "approval_required" "Approval is required."))),
    .work 0 (.settle 0 1), .env (.claimForResume 2),
    .work 1 (.start ⟨"crm_lookup", .succeeded, "\x7b\x7d", none⟩),
    .work 1 (.node (.budget false 0)), .work 1 (.node (.provider (.ok { text := "It ships." }))),
    .work 1 (.node .nothing), .work 1 (.node .nothing), .work 1 (.settle 0 3)]

def pendingConfig : SegmentConfig :=
  ⟨{ run := { workspace := 1, agentVersion := lookupVersion, conversation := some 1 } }, []⟩

def resumedConfig : SegmentConfig :=
  (segmentRuns sampleDigest (sampleUuid 0) 0).system.replayEnd (fun _ _ => True) resumedLabels
    pendingConfig

theorem modelCalls_accounted_resumed :
    resumedConfig.store.calls ≤ 3 ∧ resumedConfig.store.run.status = .succeeded ∧
      resumedConfig.store.run.usage.modelCallCount = resumedConfig.store.calls := by
  have hpending : (segmentRuns sampleDigest (sampleUuid 0) 0).system.initial pendingConfig :=
    ⟨⟨rfl, rfl, rfl⟩, rfl⟩
  have hreach : (segmentRuns sampleDigest (sampleUuid 0) 0).system.Reach (fun _ _ => True)
      resumedConfig := System.reach_replayEnd (.init hpending) resumedLabels
  have haccounted := modelCalls_accounted hreach
  have hstatus : resumedConfig.store.run.status = .succeeded := by decide
  exact ⟨haccounted.1, hstatus, haccounted.2.2.2 (by simp [hstatus])⟩

end SupportPilot
