import SupportPilot.Agents.Services
import SupportPilot.Library.Processes
import SupportPilot.Library.Text
import SupportPilot.Library.Versions
import SupportPilot.Workspaces.Models

/-!
# Handoffs to human operators

A run is handed off in one transaction, which locks the run and then looks for the active handoff
of its conversation. Other transactions commit between its statements. An INSERT keeps its slot of
the unique constraint until the commit, and no statement after it reads what others may change, so
that the two are one step; the rollback of a transaction is one too.
-/

namespace SupportPilot.Tickets

open Library
open Workspaces (WorkspaceRole)

/-- Membership in `HANDOFF_MANAGE_ROLES`. -/
def mayManageHandoffs : WorkspaceRole → Bool
  | .owner | .admin | .supportManager => true
  | .supportAgent | .viewer => false

/-- A row that a transaction has locked. -/
inductive RowLock
  | run (r : Nat)
  | handoff (h : Nat)
  deriving DecidableEq, Repr

/-- The step that records a handoff in the trace of its run. -/
structure HandedOffStep where
  run : Nat
  handoff : Nat
  reused : Bool
  deriving DecidableEq, Repr

/-- The tables, the row locks of open transactions, and the number of transactions so far. -/
structure HandoffStore where
  runs : List AgentRun := []
  messages : List Message := []
  handoffs : List HumanHandoff := []
  steps : List HandedOffStep := []
  locks : List (RowLock × Nat) := []
  transactions : Nat := 0
  deriving DecidableEq, Repr

/-- Where a call of `_complete_run_as_handoff` is. -/
inductive HandoffPoint
  | called
  | locked (conversation : Nat)
  | inserting (conversation : Nat)
  | conflicted (conversation : Nat)
  | reusing (handoff : Object HumanHandoff) (forUpdate : Bool)
  | handedOff (handoff : Object HumanHandoff)
  | ended
  deriving DecidableEq, Repr

/-- A call of `_complete_run_as_handoff` and its transaction. -/
structure HandoffCall where
  transaction : Nat
  run : Nat
  reasonCode : String
  safeSummary : String
  usage : RunUsage
  point : HandoffPoint := .called
  deriving DecidableEq, Repr

namespace HandoffStore

/-- No open transaction has locked the row. -/
def Free (s : HandoffStore) (lock : RowLock) : Prop := ∀ x ∈ s.locks, x.1 ≠ lock

instance (s : HandoffStore) (lock : RowLock) : Decidable (s.Free lock) :=
  inferInstanceAs (Decidable (∀ x ∈ s.locks, x.1 ≠ lock))

def acquire (s : HandoffStore) (lock : RowLock) (transaction : Nat) : HandoffStore :=
  { s with locks := (lock, transaction) :: s.locks }

/-- The locks of a transaction are released when it commits or rolls back. -/
def release (s : HandoffStore) (transaction : Nat) : HandoffStore :=
  { s with locks := s.locks.filter (·.2 ≠ transaction) }

/-- The active handoff of a conversation. -/
def activeHandoff (s : HandoffStore) (conversation : Nat) : Option (Object HumanHandoff) :=
  (s.handoffs.findIdx? fun h => h.conversation = conversation && h.status.active).bind fun k =>
    (s.handoffs[k]?).map fun h => ⟨k, h⟩

/-! ## Other transactions -/

def createRun (s : HandoffStore) (workspace : Nat) (agentVersion : AgentVersion)
    (conversation triggerMessage createdBy : Option Nat) (now : Nat) : HandoffStore :=
  { s with runs := s.runs ++
      [newAgentRun workspace agentVersion conversation triggerMessage createdBy now] }

/-- A transaction that locks a run and writes it. -/
def writeRun (s : HandoffStore) (r : Nat) (f : AgentRun → Option AgentRun) :
    Option HandoffStore :=
  if s.Free (.run r) then
    (s.runs[r]?).bind fun run => (f run).map fun row => { s with runs := s.runs.set r row }
  else none

/-- `_complete_run` -/
def completeRun (s : HandoffStore) (r : Nat) (usage : RunUsage) (finalResponse : String)
    (now : Nat) : Option HandoffStore :=
  if s.Free (.run r) then
    (s.runs[r]?).bind fun run =>
      (SupportPilot.completeRun r run usage finalResponse s.messages.length now).map fun out =>
        { s with runs := s.runs.set r out.1, messages := s.messages ++ out.2.toList }
  else none

/-- `cancel_agent_run` with `cancel_handoffs_for_run`, which locks the active handoffs of the
run. -/
def cancelRun (s : HandoffStore) (r now : Nat) : Option HandoffStore :=
  if s.Free (.run r) ∧ ∀ h ∈ List.range s.handoffs.length,
      (s.handoffs[h]?).any (fun row => row.agentRun = r && row.status.active) = true →
        s.Free (.handoff h) then
    (s.runs[r]?).bind fun run => (cancelAgentRun run now).map fun row =>
      { s with
        runs := s.runs.set r row
        handoffs := s.handoffs.map fun h => if h.agentRun = r then cancelHandoff h else h }
  else none

def assignHandoff (s : HandoffStore) (role : WorkspaceRole) (h target : Nat) :
    Option HandoffStore :=
  if mayManageHandoffs role ∧ s.Free (.handoff h) then
    (s.handoffs[h]?).bind fun locked =>
      if locked.status.active then
        let row := { locked with assignedTo := some target, status := .assigned }
        some { s with handoffs := s.handoffs.set h row }
      else none
  else none

def resolveHandoff (s : HandoffStore) (role : WorkspaceRole) (h now : Nat) :
    Option HandoffStore :=
  if mayManageHandoffs role ∧ s.Free (.handoff h) then
    (s.handoffs[h]?).bind fun locked =>
      if locked.status.active then
        let row := { locked with status := .resolved, resolvedAt := some now }
        some { s with handoffs := s.handoffs.set h row }
      else none
  else none

/-! ## The handoff of a run -/

/-- The run is locked; a run that is not running, or has no conversation, ends the call. -/
def lockRun (s : HandoffStore) (call : HandoffCall) : Option (HandoffStore × HandoffPoint) :=
  if s.Free (.run call.run) then
    (s.runs[call.run]?).map fun run =>
      match run.conversation with
      | some conversation =>
        if run.status = .running then
          (s.acquire (.run call.run) call.transaction, .locked conversation)
        else (s, .ended)
      | none => (s, .ended)
  else none

/-- The first query of `create_or_reuse_handoff`, which locks the handoff that it finds. -/
def findActive (s : HandoffStore) (call : HandoffCall) (conversation : Nat) :
    Option (HandoffStore × HandoffPoint) :=
  match s.activeHandoff conversation with
  | some existing =>
    if s.Free (.handoff existing.pk) then
      some (s.acquire (.handoff existing.pk) call.transaction, .reusing existing true)
    else none
  | none => some (s, .inserting conversation)

/-- The row that `create_or_reuse_handoff` inserts. -/
def newHandoff (call : HandoffCall) (conversation : Nat) : HumanHandoff where
  conversation := conversation
  agentRun := call.run
  reasonCode := call.reasonCode
  safeSummary := truncate 500 (strip call.safeSummary)

/-- The rest of the transaction: the message, the run and its step. -/
def commit (s : HandoffStore) (call : HandoffCall) (handoff : Object HumanHandoff)
    (reused : Bool) (now : Nat) : Option (HandoffStore × HandoffPoint) :=
  (s.runs[call.run]?).bind fun run =>
    (completeRunAsHandoff call.run run call.usage s.messages.length now).map fun out =>
      let s : HandoffStore := { s with
        runs := s.runs.set call.run out.1
        messages := s.messages ++ out.2.toList
        steps := s.steps ++ [⟨call.run, handoff.pk, reused⟩] }
      (s.release call.transaction, .handedOff handoff)

/-- The INSERT: the unique constraint refuses it while the conversation has an active handoff. -/
def insertHandoff (s : HandoffStore) (call : HandoffCall) (conversation now : Nat) :
    Option (HandoffStore × HandoffPoint) :=
  match s.activeHandoff conversation with
  | some _ => some (s, .conflicted conversation)
  | none =>
    let handoff := newHandoff call conversation
    let inserted : HandoffStore := { s with handoffs := s.handoffs ++ [handoff] }
    inserted.commit call ⟨s.handoffs.length, handoff⟩ false now

/-- The second query, after a lost race. It takes no lock, and without an active handoff it
raises. -/
def rereadActive (s : HandoffStore) (call : HandoffCall) (conversation : Nat) :
    HandoffStore × HandoffPoint :=
  match s.activeHandoff conversation with
  | some handoff => (s, .reusing handoff false)
  | none => (s.release call.transaction, .ended)

end HandoffStore

inductive HandoffEvent
  | createRun (workspace : Nat) (agentVersion : AgentVersion)
    (conversation triggerMessage createdBy : Option Nat) (now : Nat)
  | claim (r now : Nat)
  | pause (r : Nat) (usage : RunUsage) (now : Nat)
  | resume (r now : Nat)
  | complete (r : Nat) (usage : RunUsage) (finalResponse : String) (now : Nat)
  | fail (r : Nat) (code message : String) (usage : Option RunUsage) (now : Nat)
  | exceedBudget (r : Nat) (reason : String) (usage : RunUsage) (now : Nat)
  | recover (r cutoff now : Nat)
  | cancel (r now : Nat)
  | assign (role : WorkspaceRole) (h target : Nat)
  | resolve (role : WorkspaceRole) (h now : Nat)
  | handOff (r : Nat) (reasonCode safeSummary : String) (usage : RunUsage)
  deriving DecidableEq

inductive HandoffAction
  | lockRun
  | findActive
  | insert (now : Nat)
  | reread
  | commit (now : Nat)
  | rollback
  deriving DecidableEq

def handoffEventStep :
    HandoffEvent → HandoffStore → Option (HandoffStore × Option HandoffCall)
  | .createRun workspace agentVersion conversation triggerMessage createdBy now, s =>
    some (s.createRun workspace agentVersion conversation triggerMessage createdBy now, none)
  | .claim r now, s => (s.writeRun r (claimAgentRun · now)).map (·, none)
  | .pause r usage now, s => (s.writeRun r (pauseRunForApproval · usage now)).map (·, none)
  | .resume r now, s => (s.writeRun r (claimRunForResume · now)).map (·, none)
  | .complete r usage finalResponse now, s =>
    (s.completeRun r usage finalResponse now).map (·, none)
  | .fail r code message usage now, s =>
    (s.writeRun r (failRun · code message usage now)).map (·, none)
  | .exceedBudget r reason usage now, s =>
    (s.writeRun r (budgetExceededRun · reason usage now)).map (·, none)
  | .recover r cutoff now, s => (s.writeRun r (recoverOneStuckRun · cutoff now)).map (·, none)
  | .cancel r now, s => (s.cancelRun r now).map (·, none)
  | .assign role h target, s => (s.assignHandoff role h target).map (·, none)
  | .resolve role h now, s => (s.resolveHandoff role h now).map (·, none)
  | .handOff r reasonCode safeSummary usage, s =>
    some ({ s with transactions := s.transactions + 1 },
      some { transaction := s.transactions, run := r, reasonCode, safeSummary, usage })

/-- `_complete_run_as_handoff`; the transaction may roll back at any of its statements. -/
def handoffStep (a : HandoffAction) (call : HandoffCall) (s : HandoffStore) :
    Option (HandoffStore × HandoffCall) :=
  let goTo (out : HandoffStore × HandoffPoint) : HandoffStore × HandoffCall :=
    (out.1, { call with point := out.2 })
  match a, call.point with
  | .lockRun, .called => (s.lockRun call).map goTo
  | .findActive, .locked conversation => (s.findActive call conversation).map goTo
  | .insert now, .inserting conversation => (s.insertHandoff call conversation now).map goTo
  | .reread, .conflicted conversation => some (goTo (s.rereadActive call conversation))
  | .commit now, .reusing handoff _ => (s.commit call handoff true now).map goTo
  | .rollback, .locked _ | .rollback, .inserting _ | .rollback, .conflicted _
  | .rollback, .reusing _ _ => some (goTo (s.release call.transaction, .ended))
  | _, _ => none

/-- Runs, handoffs and staff over empty tables. -/
def handoffs : Program HandoffEvent HandoffAction HandoffCall HandoffStore where
  initial s := s = {}
  env := handoffEventStep
  work _ := handoffStep

abbrev Handoffs := Config HandoffCall HandoffStore

abbrev HandoffLabel := Label HandoffEvent HandoffAction

end SupportPilot.Tickets
