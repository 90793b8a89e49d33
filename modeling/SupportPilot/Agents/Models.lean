import SupportPilot.Library.Binary64

/-!
# Agent versions, agent runs and what a run leaves behind

Rows of the agent tables with the fields that the run lifecycle reads and writes.
Timestamps are microseconds on one wall clock, users, workspaces and conversations
are numbers, and a run is named by its position in the table of runs.
-/

namespace SupportPilot

open Library

inductive AgentRunStatus
  | pending
  | running
  | succeeded
  | failed
  | cancelled
  | budgetExceeded
  | waitingForApproval
  | handedOff
  deriving DecidableEq, Repr

/-- Membership in `AGENT_RUN_TERMINAL_STATUSES`. -/
def AgentRunStatus.terminal : AgentRunStatus → Bool
  | .succeeded | .failed | .cancelled | .budgetExceeded | .handedOff => true
  | .pending | .running | .waitingForApproval => false

/-- The life of a run: claimed once, paused and resumed, and ended by one step into a terminal
status. -/
inductive AgentRunStatus.Step : AgentRunStatus → AgentRunStatus → Prop
  | stay (status : AgentRunStatus) : Step status status
  | claim : Step .pending .running
  | pause : Step .running .waitingForApproval
  | resume : Step .waitingForApproval .running
  | finish {status status' : AgentRunStatus} :
      status.terminal = false → status'.terminal = true → Step status status'

namespace AgentRunStatus.Step

variable {status status' : AgentRunStatus}

theorem of_terminal (h : Step status status') (hterminal : status.terminal = true) :
    status' = status := by
  cases h with
  | stay => rfl
  | finish hnot => simp [hterminal] at hnot
  | _ => cases hterminal

theorem to_pending (h : Step status .pending) : status = .pending := by
  cases h with
  | stay => rfl
  | finish _ hterminal => cases hterminal

end AgentRunStatus.Step

/-- The execution budgets of a published version; they never change after its creation. -/
structure AgentVersion where
  maxModelCalls : Nat := 1
  maxSteps : Nat := 20
  wallTimeLimitSeconds : Nat := 30
  providerTimeoutSeconds : Nat := 30
  maxTotalTokens : Option Nat := none
  maxEstimatedCostUsd : Option Rat := none
  maxRetryAttempts : Nat := 1
  maxToolCalls : Nat := 3
  deriving DecidableEq, Repr

/-- The counters that a graph result carries back to its run. The cost is a float. -/
structure RunUsage where
  modelCallCount : Nat := 0
  stepCount : Nat := 0
  inputTokens : Nat := 0
  outputTokens : Nat := 0
  totalTokens : Nat := 0
  estimatedCostUsd : Option Binary64 := none
  deriving DecidableEq, Repr

structure AgentRun where
  workspace : Nat
  agentVersion : AgentVersion
  conversation : Option Nat := none
  triggerMessage : Option Nat := none
  createdBy : Option Nat := none
  status : AgentRunStatus := .pending
  usage : RunUsage := {}
  toolCallCount : Nat := 0
  finalResponse : String := ""
  outputMessage : Option Nat := none
  failureCode : String := ""
  failureMessageSafe : String := ""
  startedAt : Option Nat := none
  completedAt : Option Nat := none
  cancelledAt : Option Nat := none
  updatedAt : Nat := 0
  deriving DecidableEq, Repr

/-- A message of the AI agent to the customer, with the run its metadata names. -/
structure Message where
  conversation : Nat
  body : String
  agentRun : Nat
  deriving DecidableEq, Repr

inductive HumanHandoffStatus
  | pending
  | assigned
  | resolved
  | cancelled
  deriving DecidableEq, Repr

/-- Membership in `HUMAN_HANDOFF_ACTIVE_STATUSES`. -/
def HumanHandoffStatus.active : HumanHandoffStatus → Bool
  | .pending | .assigned => true
  | .resolved | .cancelled => false

structure HumanHandoff where
  conversation : Nat
  agentRun : Nat
  status : HumanHandoffStatus := .pending
  reasonCode : String
  safeSummary : String
  assignedTo : Option Nat := none
  resolvedAt : Option Nat := none
  deriving DecidableEq, Repr

end SupportPilot
