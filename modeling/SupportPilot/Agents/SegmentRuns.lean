import SupportPilot.Agents.Traces
import SupportPilot.Library.Processes

/-!
# The segments of one run

A process executes one segment of an agent run: it holds what the claim has read, then its graph,
node by node, and settles the row of the run with the result. Claims, cancellations and the
recovery of stuck runs come from outside, at any time. Beside the row stands the number of provider
calls that were made for the run.
-/

namespace SupportPilot

open Library

structure RunRecord where
  run : AgentRun
  calls : Nat := 0

/-- How far a segment has come; its graph with the number of nodes that it has executed. -/
inductive SegmentPhase
  | claimed (usage : RunUsage)
  | graph (g : GraphRun) (nodes : Nat)
  | left

structure SegmentProcess where
  segment : Segment
  phase : SegmentPhase

inductive RunEvent
  | claim (now : Nat)
  | claimForResume (now : Nat)
  | cancel (now : Nat)
  | recover (cutoff now : Nat)

inductive SegmentAction
  | start (toolResultSummary : ToolResultContext)
  | node (a : Answer)
  | settle (messageId now : Nat)
  | refuse (code message : String) (now : Nat)
  | reuseHandoff (messageId now : Nat)
  | leave

namespace RunRecord

variable (s : RunRecord)

def runEvent : RunEvent → Option (RunRecord × Option SegmentProcess)
  | .claim now => (claimAgentRun s.run now).map fun run =>
    ({ s with run := run }, some ⟨.main, .claimed run.usage⟩)
  | .claimForResume now => (claimRunForResume s.run now).map fun run =>
    ({ s with run := run }, some ⟨.resumed, .claimed run.usage⟩)
  | .cancel now => (cancelAgentRun s.run now).map fun run => ({ s with run := run }, none)
  | .recover cutoff now =>
    (recoverOneStuckRun s.run cutoff now).map fun run => ({ s with run := run }, none)

/-- The row that a settlement writes, or the old one where it returns without writing. -/
def write (run : Option AgentRun) : RunRecord := { s with run := run.getD s.run }

/-- The provider calls of a node. -/
def count (event : Option GraphEvent) : RunRecord :=
  { s with calls := s.calls + GraphEvent.calls event.toList }

end RunRecord

/-- `recursion_limit` of `run_graph` and `run_resume_graph`. -/
def recursionLimit (budgets : Budgets) : Nat :=
  max 25 (budgets.maxSteps * 4 + budgets.maxModelCalls * 4)

/-- The state in which the graph of a segment starts. -/
def segmentStart (usage : RunUsage) (toolResultSummary : ToolResultContext) : Segment → GraphRun
  | .main => ⟨.prepareRun, initialState⟩
  | .resumed => ⟨.checkBudget, resumeStateAfterTool (storedUsage usage) toolResultSummary⟩

/-- The settlement of run `r` with the outcome of its segment and the usage of the graph result. -/
def settleRun (r : Nat) (run : AgentRun) (usage : RunUsage) (messageId now : Nat) :
    RunOutcome → Option AgentRun
  | .cancelled | .alreadyResumed => none
  | .handedOff _ _ => (completeRunAsHandoff r run usage messageId now).map Prod.fst
  | .budgetExceeded reason => budgetExceededRun run reason usage now
  | .waitingForApproval => pauseRunForApproval run usage now
  | .failed code message => failRun run code message (some usage) now
  | .succeeded finalResponse =>
    (completeRun r run usage finalResponse messageId now).map Prod.fst

section Program

variable (digest : String → String) (uuid : Uuid) (r : Nat)

/-- What a segment does next. A run whose tools or provider cannot be had, or whose approved call
fails, fails before its graph starts; one whose conversation waits for a specialist already is
completed with that handoff. -/
def segmentStep (p : SegmentProcess) (s : RunRecord) :
    SegmentAction → Option (RunRecord × SegmentPhase)
  | .start toolResultSummary =>
    match p.phase with
    | .claimed usage => some (s, .graph (segmentStart usage toolResultSummary p.segment) 0)
    | _ => none
  | .node a =>
    match p.phase with
    | .graph g nodes =>
      let ctx := segmentContext s.run.agentVersion uuid p.segment
      (ctx.graphStep digest a g).map fun g' =>
        (s.count (ctx.event g a), .graph g' (nodes + 1))
    | _ => none
  | .settle messageId now =>
    match p.phase with
    | .graph ⟨.finished, state⟩ _ =>
      some (s.write (settleRun r s.run state.toRunUsage messageId now
        (segmentOutcome p.segment s.run.conversation.isSome state)), .left)
    | .graph ⟨.raised, _⟩ _ =>
      some (s.write (failRun s.run "agent_internal_error" "The agent run failed unexpectedly." none
        now), .left)
    | _ => none
  | .refuse code message now =>
    match p.phase with
    | .claimed _ => some (s.write (failRun s.run code message none now), .left)
    | _ => none
  | .reuseHandoff messageId now =>
    match p with
    | ⟨.main, .claimed usage⟩ =>
      some (s.write ((completeRunAsHandoff r s.run usage messageId now).map Prod.fst), .left)
    | _ => none
  | .leave =>
    match p.phase with
    | .left => none
    | _ => some (s, .left)

/-- The segments of run `r`, which is created pending and unused. -/
def segmentRuns : Program RunEvent SegmentAction SegmentProcess RunRecord where
  initial s := s.run.status = .pending ∧ s.run.usage = {} ∧ s.calls = 0
  env e s := s.runEvent e
  work _ a p s :=
    (segmentStep digest uuid r p s a).map fun out => (out.1, { p with phase := out.2 })

end Program

/-! ## What one step can do -/

/-- What a segment has done when it takes a step. -/
inductive SegmentStep (digest : String → String) (uuid : Uuid) (r : Nat) (segment : Segment)
    (s : RunRecord) : SegmentAction → SegmentPhase → RunRecord → SegmentPhase → Prop
  | started (usage : RunUsage) (summary : ToolResultContext) :
      SegmentStep digest uuid r segment s (.start summary) (.claimed usage) s
        (.graph (segmentStart usage summary segment) 0)
  | executed {a : Answer} {g g' : GraphRun} {nodes : Nat} :
      (segmentContext s.run.agentVersion uuid segment).graphStep digest a g = some g' →
      SegmentStep digest uuid r segment s (.node a) (.graph g nodes)
        (s.count ((segmentContext s.run.agentVersion uuid segment).event g a))
        (.graph g' (nodes + 1))
  | settled (state : RuntimeState) (nodes messageId now : Nat) :
      SegmentStep digest uuid r segment s (.settle messageId now)
        (.graph ⟨.finished, state⟩ nodes)
        (s.write (settleRun r s.run state.toRunUsage messageId now
          (segmentOutcome segment s.run.conversation.isSome state))) .left
  | raised (state : RuntimeState) (nodes messageId now : Nat) :
      SegmentStep digest uuid r segment s (.settle messageId now) (.graph ⟨.raised, state⟩ nodes)
        (s.write (failRun s.run "agent_internal_error" "The agent run failed unexpectedly." none
          now)) .left
  | refused (usage : RunUsage) (code message : String) (now : Nat) :
      SegmentStep digest uuid r segment s (.refuse code message now) (.claimed usage)
        (s.write (failRun s.run code message none now)) .left
  | handedOff (usage : RunUsage) (messageId now : Nat) : segment = .main →
      SegmentStep digest uuid r segment s (.reuseHandoff messageId now) (.claimed usage)
        (s.write ((completeRunAsHandoff r s.run usage messageId now).map Prod.fst)) .left
  | left {phase : SegmentPhase} : phase ≠ .left →
      SegmentStep digest uuid r segment s .leave phase s .left

theorem segmentStep_cases {digest : String → String} {uuid : Uuid} {r : Nat} {p : SegmentProcess}
    {s s' : RunRecord} {a : SegmentAction} {phase : SegmentPhase}
    (h : segmentStep digest uuid r p s a = some (s', phase)) :
    SegmentStep digest uuid r p.segment s a p.phase s' phase := by
  obtain ⟨segment, phase₀⟩ := p
  cases a with
  | start summary =>
    cases phase₀ with
    | claimed usage =>
      cases h
      exact .started usage summary
    | graph | left => cases h
  | node a =>
    cases phase₀ with
    | graph g nodes =>
      obtain ⟨g', hstep, hout⟩ := Option.map_eq_some_iff.mp h
      cases hout
      exact .executed hstep
    | claimed | left => cases h
  | settle messageId now =>
    cases phase₀ with
    | graph g nodes =>
      obtain ⟨node, state⟩ := g
      cases node with
      | finished =>
        cases h
        exact .settled state nodes messageId now
      | raised =>
        cases h
        exact .raised state nodes messageId now
      | _ => cases h
    | claimed | left => cases h
  | refuse code message now =>
    cases phase₀ with
    | claimed usage =>
      cases h
      exact .refused usage code message now
    | graph | left => cases h
  | reuseHandoff messageId now =>
    cases segment with
    | main =>
      cases phase₀ with
      | claimed usage =>
        cases h
        exact .handedOff usage messageId now rfl
      | graph | left => cases h
    | resumed => cases phase₀ <;> cases h
  | leave =>
    cases phase₀ with
    | left => cases h
    | claimed | graph =>
      cases h
      exact .left (by simp)

theorem segmentRuns_work {digest : String → String} {uuid : Uuid} {r i : Nat}
    {p p' : SegmentProcess} {s s' : RunRecord} {a : SegmentAction}
    (h : (segmentRuns digest uuid r).work i a p s = some (s', p')) :
    ∃ phase, SegmentStep digest uuid r p.segment s a p.phase s' phase ∧
      p' = { p with phase := phase } := by
  obtain ⟨⟨s'', phase⟩, hphase, hsame⟩ := Option.map_eq_some_iff.mp h
  cases hsame
  exact ⟨phase, segmentStep_cases hphase, rfl⟩

/-! ## What settles a run -/

/-- A row after its settlement: in a status that it only gets by one, with this usage. -/
structure Settled (run row : AgentRun) (usage : RunUsage) : Prop where
  version : row.agentVersion = run.agentVersion
  status : row.status ≠ .pending ∧ row.status ≠ .running
  usage : row.usage = usage

theorem settleRun_settled {r messageId now : Nat} {run row : AgentRun} {usage : RunUsage}
    {outcome : RunOutcome} (h : settleRun r run usage messageId now outcome = some row) :
    Settled run row usage := by
  cases outcome with
  | cancelled | alreadyResumed => cases h
  | handedOff reasonCode summary =>
    obtain ⟨⟨row', message⟩, hrow, rfl⟩ := Option.map_eq_some_iff.mp h
    obtain ⟨-, conversation, outputMessage, -, rfl, -⟩ := completeRunAsHandoff_some hrow
    exact ⟨rfl, ⟨by simp [completed], by simp [completed]⟩, rfl⟩
  | budgetExceeded reason =>
    obtain ⟨-, rfl⟩ := budgetExceededRun_some h
    exact ⟨rfl, ⟨by simp, by simp⟩, rfl⟩
  | waitingForApproval =>
    simp only [settleRun, pauseRunForApproval] at h
    split at h
    · cases h
    · cases h
      exact ⟨rfl, ⟨by simp, by simp⟩, rfl⟩
  | failed code message =>
    obtain ⟨-, rfl⟩ := failRun_some h
    exact ⟨rfl, ⟨by simp, by simp⟩, rfl⟩
  | succeeded finalResponse =>
    obtain ⟨⟨row', message⟩, hrow, rfl⟩ := Option.map_eq_some_iff.mp h
    obtain ⟨-, outputMessage, rfl, -⟩ := completeRun_some hrow
    exact ⟨rfl, ⟨by simp [completed], by simp [completed]⟩, rfl⟩

/-- The outcomes with which a segment settles its run. A handoff needs a conversation. -/
def RunOutcome.settles (run : AgentRun) : RunOutcome → Bool
  | .cancelled | .alreadyResumed => false
  | .handedOff _ _ => run.conversation.isSome
  | _ => true

/-- A running run is settled. -/
theorem settleRun_isSome {r messageId now : Nat} {run : AgentRun} {usage : RunUsage}
    {outcome : RunOutcome} (hrunning : run.status = .running)
    (h : outcome.settles run = true) :
    (settleRun r run usage messageId now outcome).isSome := by
  have hopen : run.status.terminal = false := by rw [hrunning]; rfl
  cases outcome with
  | cancelled | alreadyResumed => cases h
  | handedOff reasonCode summary =>
    obtain ⟨conversation, hconversation⟩ := Option.isSome_iff_exists.mp h
    simp only [settleRun, Option.isSome_map, completeRunAsHandoff, hrunning, hconversation]
    cases run.outputMessage <;> rfl
  | budgetExceeded reason => simp [settleRun, budgetExceededRun, hopen]
  | waitingForApproval => simp [settleRun, pauseRunForApproval, hrunning]
  | failed code message => simp [settleRun, failRun, hopen]
  | succeeded finalResponse =>
    simp only [settleRun, Option.isSome_map, completeRun, hrunning, ne_eq, not_true_eq_false,
      if_false]
    split
    · split <;> rfl
    · rfl

end SupportPilot
