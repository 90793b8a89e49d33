import SupportPilot.Continuations.Live
import SupportPilot.Continuations.Segments
import SupportPilot.Library.Lockstep

/-!
# A paused call and its two continuations

A tool call pauses its run for approval, is approved, and the run is continued with the result
of the call. Beside it stands the segment whose policy had allowed the call.
-/

namespace SupportPilot

open Library

variable {digest : String → String}

/-- A tool call that pauses its run. The segment started its clock, the call ends at one time if
the policy allows it, and the approved run is continued at another. -/
structure Pause (digest : String → String) extends Turn digest where
  hasConversation : Bool
  toolDescriptors : List ToolDescriptor
  startedMonotonic : Rat
  calledMonotonic : Rat
  resumedMonotonic : Rat
  normalized : truthy call.normalizationError = false

namespace Pause

variable (p : Pause digest) (world : Surroundings)

/-- The context of the segment that makes the call. -/
def context : SegmentContext :=
  match p.segment with
  | .main => claimedContext p.agentVersion p.run p.hasConversation p.toolDescriptors
      p.startedMonotonic
  | .resumed => continuedContext p.agentVersion p.hasConversation p.startedMonotonic

/-- The context of the continuation. -/
def continuation : SegmentContext :=
  continuedContext p.agentVersion p.hasConversation p.resumedMonotonic

/-- The state after the call, with its result. -/
def afterCall (result : Except ToolError String) : RuntimeState :=
  p.context.executeToolCall p.graph.state false (executeToolOutcome p.call.toolName result)

/-- The segment after the call that the policy allowed. -/
def allowed (result : Except ToolError String) : GraphRun :=
  ⟨RunContext.routeAfterTool (p.afterCall result), p.afterCall result⟩

/-- The counters that the pause saves. -/
def pausedUsage : RunUsage := (p.afterCall (.error (.raise .approvalRequired))).toRunUsage

/-- The continuation with the result of the approved call. -/
def resumed (output : String) : GraphRun :=
  ⟨.checkBudget,
    resumeStateAfterTool (storedUsage p.pausedUsage) ⟨p.call.toolName, .succeeded, output, none⟩⟩

def allowedAt (result : Except ToolError String) : Nat → GraphRun :=
  trajectory (fun n => p.context.advance p.calledMonotonic world n digest) (p.allowed result)

def resumedAt (output : String) : Nat → GraphRun :=
  trajectory (fun n => p.continuation.advance p.resumedMonotonic world n digest)
    (p.resumed output)

/-- What is seen of the uninterrupted run from the call on. -/
def allowedSight (result : Except ToolError String) (n : Nat) : Sight :=
  p.context.sight p.calledMonotonic world n digest (p.allowedAt world result n)

/-- What is seen of the continuation. After an error of the call there is none: the run is
settled at once. -/
def resumedSight (result : Except ToolError String) (n : Nat) : Sight :=
  match result with
  | .ok output =>
    p.continuation.sight p.resumedMonotonic world n digest (p.resumedAt world output n)
  | .error e => ⟨.ended (resumeErrorOutcome e), .finished⟩

/-! ## What the continuation misses -/

def priorAttempts : Nat := p.graph.state.attempt

def wallTimeReached (elapsed : Rat) : Prop :=
  (p.agentVersion.wallTimeLimitSeconds : Rat) ≤ elapsed

def costReached (cost : Option Binary64) : Prop :=
  ∃ limit, p.agentVersion.maxEstimatedCostUsd = some limit ∧
    ∃ spent, cost = some spent ∧ spent ≠ .finite 0 ∧
      (Binary64.finite limit).le spent.toDecimal = true

def tokensReached (state : RuntimeState) : Prop :=
  ∃ limit, p.agentVersion.maxTotalTokens = some limit ∧ limit ≤ state.totalTokens

def countersReached (state : RuntimeState) : Prop :=
  p.agentVersion.maxModelCalls ≤ state.modelCallCount ∨ p.agentVersion.maxSteps ≤ state.stepCount

/-- What a node makes of a cost: a model turn adds its own. -/
def spend (n : Nat) (g : GraphRun) (cost : Option Binary64) : Option Binary64 :=
  match g.node with
  | .generateResponse =>
    match world.provider n (p.context.request g.state) with
    | some (.ok response) => RunContext.accumulatedCost cost response.estimatedCostUsd
    | _ => cost
  | _ => cost

/-- What the turns of the uninterrupted run since the call make of the cost that the pause has
stored. -/
def restoredCost (output : String) : Nat → Option Binary64
  | 0 => (storedUsage p.pausedUsage).estimatedCostUsd
  | n + 1 => p.spend world n (p.allowedAt world (.ok output) n) (restoredCost output n)

/-- The budget check of the continuation, with its own clock and with the restored cost, has the
result of the uninterrupted run's. -/
def SameLimits (n : Nat) (state : RuntimeState) (restored : Option Binary64) : Prop :=
  p.countersReached state ∨
    (p.wallTimeReached (p.context.elapsed p.calledMonotonic world n) ↔
      p.wallTimeReached (Binary64.toPrecision (world.elapsed n))) ∧
    (p.wallTimeReached (Binary64.toPrecision (world.elapsed n)) ∨ p.tokensReached state ∨
      (p.costReached state.estimatedCostUsd ↔ p.costReached restored))

/-- A failed turn is retried with the attempts of the whole run counted exactly where it is
retried with those of the continuation. -/
def SameRetry (n : Nat) (state : RuntimeState) : Prop :=
  ∀ e, world.provider n (p.context.request state) = some (.error e) → e.retryable = true →
    state.modelCallCount + 1 < p.agentVersion.maxModelCalls →
    (state.attempt + 1 < p.agentVersion.maxRetryAttempts ↔
      state.attempt + 1 - p.priorAttempts < p.agentVersion.maxRetryAttempts)

def Unobserved (n : Nat) : Prop := p.context.observesCancellation (world.cancelled n) = false

/-- At this node of the uninterrupted run the continuation misses nothing: no cancellation is
observed, no tools are offered, no tool is called under a key of the run, and neither the budget
nor a retry depends on what was spent before the pause and not carried over. -/
def Undisturbed (n : Nat) (g : GraphRun) (restored : Option Binary64) : Prop :=
  match g.node with
  | .checkBudget => p.Unobserved world n ∧ p.SameLimits world n g.state restored
  | .generateResponse => p.context.toolDescriptors = [] ∧ p.SameRetry world n g.state
  | .executeToolCall => p.Unobserved world n ∧
      (p.context.keyOwner = "unknown" ∨
        ∀ call, g.state.pendingToolCall = some call → truthy call.normalizationError = true)
  | .executeHandoffRequest => p.Unobserved world n
  | _ => True

end Pause

/-- The graph ends the run on this error as the resumed call does. -/
def ToolError.EndsAlike (e : ToolError) : Prop :=
  e.code ∈ Point.terminalToolCodes ∧ e.cls ≠ .executionInProgress ∧ e.safeMessage ≠ ""

/-- After its result every node of the uninterrupted run is undisturbed; an error ends both. -/
def Pause.Transparent (p : Pause digest) (world : Surroundings) :
    Except ToolError String → Prop
  | .ok output => ∀ n, p.Undisturbed world n (p.allowedAt world (.ok output) n)
      (p.restoredCost world output n)
  | .error e => e.EndsAlike

end SupportPilot
