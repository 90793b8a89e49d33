import SupportPilot.Runtime.Guarantee

/-!
# Scenarios

A scenario is a list of steps from empty tables. Replayed under a condition, it ends in the
configuration of a run whose steps all meet that condition.
-/

namespace SupportPilot

open Library

def emptyConfiguration : Configuration := ⟨{}, []⟩

theorem emptyConfiguration_initial : program.system.initial emptyConfiguration := ⟨rfl, rfl⟩

/-- Where a scenario ends; a scenario that does not replay ends where it starts. -/
def scenarioEnd (condition : Configuration → Step → Prop) [∀ c l, Decidable (condition c l)]
    (steps : List Step) : Configuration :=
  program.system.replayEnd condition steps emptyConfiguration

theorem runsWith_scenarioEnd (condition : Configuration → Step → Prop)
    [∀ c l, Decidable (condition c l)] (steps : List Step) :
    RunsWith condition (scenarioEnd condition steps) :=
  System.reach_replayEnd (.init emptyConfiguration_initial) steps

/-- The end of a scenario without a condition. -/
abbrev freeEnd (steps : List Step) : Configuration := scenarioEnd (fun _ _ => True) steps

/-! ## Pieces of scenarios -/

/-- Worker `i` takes a call to the row that carries its key. -/
def claimsCall (i : Nat) (request : ToolRequest) (tool : ToolSpec) : List Step :=
  [.work i (.callTool request),
    .work i (.checkCall ⟨some tool, true, .enabled, some 2, true, true⟩),
    .work i .claimExecution, .work i .checkEvaluated]

/-- The gate makes the call wait for an approval, and its run pauses. -/
def pausesCall (i : Nat) (request : ToolRequest) (tool : ToolSpec) : List Step :=
  claimsCall i request tool ++
    [.work i (.runPolicyGate (.requireApproval "rule" "Needs approval." "admin" 60) 2),
      .work i (.pauseRun {} 3)]

/-- The row `x` is approved, and worker `j` resumes its run and its call. -/
def resumesCall (j x : Nat) (tool : ToolSpec) : List Step :=
  [.env (.decide x 8 "owner" .approve 4 4), .env (.deliverResume x),
    .work j (.claimRunForResume 5), .work j (.claimResume 6),
    .work j (.checkResume ⟨some tool, true, true, .valid⟩), .work j .reserveSlot,
    .work j .countAttempt, .work j .invokeHandler,
    .work j (.handlerEnds (.returns (.dict (.valid (.dumped ⟨"{}", true⟩))))),
    .work j (.finalize 7)]

/-- A run that is claimed, pauses for an approval, is resumed by the decision and answers. -/
def answeredRun : List Step :=
  [.env (.createRun 1 {} (some 5) none (some 7) 0), .env (.claimRun 0 1)] ++
    pausesCall 0 ⟨"crm_update", "{}", "f", "agent:a:turn:1:d"⟩ ⟨"crm_update", {}⟩ ++
    resumesCall 1 0 ⟨"crm_update", {}⟩ ++
    [.work 1 (.endGraph (.succeeded "Done.")), .work 1 (.finishRun {} 8)]

end SupportPilot
