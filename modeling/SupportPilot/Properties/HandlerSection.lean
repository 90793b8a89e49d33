import SupportPilot.Runtime.Invariants
import SupportPilot.Runtime.Scenario

/-!
# How a started call leaves its row

Both entry points go through the same section after their row became `RUNNING`: checks on
the claimed row in the resume, the reservation of a slot, and the attempts of the handler.
Every exit is fixed by what the section reads on its way. The exits that no finalizer
stores leave the row `RUNNING`.
-/

namespace SupportPilot

open Library

/-! ## What a finalizer stores -/

def ToolError.storable (e : ToolError) : Bool :=
  varcharAccepts maxErrorCodeLength e.code && varcharAccepts maxErrorMessageLength e.safeMessage

/-- A finalizer runs for the exit, and the table accepts what it writes. -/
def CallExit.storable : CallExit → Bool
  | .success output => output.jsonbAccepts
  | .failure _ code message _ =>
    varcharAccepts maxErrorCodeLength code && varcharAccepts maxErrorMessageLength message
  | .raised _ | .uncaught => false

/-- The exit for what `runWithRetries` returns or raises. -/
def CallExit.ofOutcome : Except Raised ToolOutput → CallExit
  | .ok output => .success output
  | .error r => .ofRaised r

/-- The retry loop from the handler's invocation on attempt `attemptCount` on. -/
def attemptOutcome (policy : RetryPolicy) (attemptCount : Nat)
    (handler : Nat → HandlerBehaviour) : Except Raised ToolOutput :=
  match afterAttempt policy attemptCount (handler attemptCount) with
  | .retry => runWithRetries policy attemptCount handler
  | .returns output => .ok output
  | .raises r => .error r

/-- The attempt ends with a tool error that the loop may try again. -/
def HandlerBehaviour.retryable (policy : RetryPolicy) (b : HandlerBehaviour) : Bool :=
  match invokeWithTimeout b with
  | .error (.toolError e) => e.cls ≠ .timeout && decide (e.code ∈ policy.retryableErrorCodes)
  | _ => false

/-- What the attempt ends with is tried again, or can be stored. -/
def HandlerBehaviour.storable (policy : RetryPolicy) (b : HandlerBehaviour) : Bool :=
  match invokeWithTimeout b with
  | .ok output => output.jsonbAccepts
  | .error (.toolError e) => b.retryable policy || e.storable
  | .error .uncaught => false

/-- Attempt `k` is made by a call that starts with `n` attempts on its row. -/
def Attempted (policy : RetryPolicy) (n : Nat) (handler : Nat → HandlerBehaviour) (k : Nat) :
    Prop :=
  n < k ∧ k ≤ policy.maxRetries + 1 ∧ ∀ m, n < m → m < k → (handler m).retryable policy = true

def AttemptsStorable (policy : RetryPolicy) (n : Nat) (handler : Nat → HandlerBehaviour) :
    Prop :=
  ∀ k, Attempted policy n handler k → (handler k).storable policy = true

section Exits

variable {P : CallExit → Prop} (hexhausted : P (.ofRaised (.toolError (.raise .retryExhausted))))

include hexhausted

end Exits

/-- All that a call reads between the start of its row and its exit: the claimed row with its
request and the registry state (a resume only), whether its run has a slot left, and what the
handler does on each attempt. -/
structure SectionInputs where
  claimed : ToolExecution
  lookup : ResumeLookup
  slotLeft : Bool
  handler : Nat → HandlerBehaviour

namespace SectionInputs

variable (inputs : SectionInputs)

/-- The exit of a call that reserves a slot with `attemptCount` attempts on its row. -/
def exitOfSlot (policy : RetryPolicy) (attemptCount : Nat) : CallExit :=
  if inputs.slotLeft then .ofOutcome (runWithRetries policy attemptCount inputs.handler)
  else budgetRefusal

/-- The exit that the inputs lead to from a point of the section. -/
def exit : Point → Option CallExit
  | .resumeChecks _ attemptCount =>
    match checkResume inputs.claimed inputs.lookup with
    | .error exit => some exit
    | .ok tool => some (inputs.exitOfSlot tool.retryPolicy attemptCount)
  | .reserveSlot call => some (inputs.exitOfSlot call.tool.retryPolicy call.attemptCount)
  | .attempt call =>
    some (.ofOutcome (runWithRetries call.tool.retryPolicy call.attemptCount inputs.handler))
  | .invoke call | .handler call =>
    some (.ofOutcome (attemptOutcome call.tool.retryPolicy call.attemptCount inputs.handler))
  | .leave _ exit => some exit
  | _ => none

/-- The step of worker `i` reads what the inputs say, and does not leave the section. -/
def follows (i : Nat) (c : Configuration) : Step → Bool
  | .work j a => j != i || (c.procs[i]?).any fun w =>
    match a, w.point with
    | .checkResume lookup, .resumeChecks x _ =>
      lookup == inputs.lookup && c.store.executions[x]? == some inputs.claimed
    | .reserveSlot, .reserveSlot call =>
      (c.store.runs[w.run]?).any fun run => (c.store.executions[call.execution]?).any fun row =>
        inputs.slotLeft == decide (run.toolCallCount < Store.slotLimit call run row)
    | .handlerEnds b, .handler call => b == inputs.handler call.attemptCount
    | .finalize _, _ => false
    | _, _ => true
  | .env _ => true

end SectionInputs

variable {inputs : SectionInputs} {i x : Nat} {w : Worker} {c c₀ c' : Configuration}
  {a : WorkerAction} {s' : Store} {p' : Point} {exit : CallExit}

/-- Worker `i` is in the section of row `x`, and its inputs lead it to `exit`. -/
def HeadsFor (inputs : SectionInputs) (i x : Nat) (exit : CallExit) (c : Configuration) : Prop :=
  ∃ w, c.procs[i]? = some w ∧ w.point.sectionRow = some x ∧ inputs.exit w.point = some exit

/-- A call leaves the section with the exit that its inputs lead to. -/
theorem HeadsFor.leaves (h : HeadsFor inputs i x exit c) {now : Nat}
    (hstep : program.system.step (.work i (.finalize now)) c = some c') :
    ∃ w call, c.procs[i]? = some w ∧ w.point = .leave call exit ∧ call.execution = x := by
  obtain ⟨w, hw, hx, hexit⟩ := h
  obtain ⟨v, s', v', hv, hout, -⟩ := Program.step_work hstep
  cases hw.symm.trans hv
  have hwork : workStep i (.finalize now) w c.store = some (s', v') := hout
  obtain ⟨-, p', alive, hcase, -⟩ := workStep_cases hwork
  generalize hp : w.point = p at hcase hx hexit
  cases hcase with
  | finalized | leftUnfinalized =>
    cases hx
    cases hexit
    exact ⟨w, _, hw, hp, rfl⟩
  | failedRun hends => rcases hends with ⟨_, _, hf, -⟩ | ⟨hf, -⟩ <;> cases hf
  | unfinishedRun hends => rcases hends with ⟨_, _, _, hf, -⟩ | ⟨_, _, _, hf, -⟩ <;> cases hf

/-! ## Main results -/

namespace SectionInputs

variable (inputs : SectionInputs)

/-- No slot is left, or every attempt ends with what can be stored. -/
def CallStorable (policy : RetryPolicy) (attemptCount : Nat) : Prop :=
  inputs.slotLeft = true → AttemptsStorable policy attemptCount inputs.handler

/-- The condition on what a started call reads under which its row becomes terminal. -/
def Storable : Point → Prop
  | .reserveSlot call => inputs.CallStorable call.tool.retryPolicy call.attemptCount
  | .resumeChecks _ attemptCount =>
    inputs.claimed.actionChanged = true ∨ ∃ tool, inputs.lookup.tool = some tool ∧
      (inputs.lookup.bindingEnabled = false ∨ inputs.lookup.definitionActive = false ∨
        inputs.lookup.snapshot = .validationError ∨
        inputs.lookup.snapshot = .valid ∧ inputs.CallStorable tool.retryPolicy attemptCount)
  | _ => False

end SectionInputs

end SupportPilot
