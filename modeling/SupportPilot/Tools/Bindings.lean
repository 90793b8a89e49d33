import SupportPilot.Library.Transition
import SupportPilot.Library.Versions

/-!
# Tool bindings

The tools of an agent version are bound while it is a draft. The services check the version object
that they were given, and a binding object carries such a version; publication locks the row.
-/

namespace SupportPilot.Bindings

open Library

inductive AgentVersionStatus
  | draft
  | published
  | retired
  deriving DecidableEq, Repr

structure AgentVersion where
  agentDefinition : Nat
  version : Nat
  status : AgentVersionStatus := .draft
  publishedAt : Option Nat := none
  deriving DecidableEq, Repr

structure ToolDefinition where
  key : String
  active : Bool
  deriving DecidableEq, Repr

/-- The configuration is JSON text. -/
structure ToolBinding where
  agentVersion : Nat
  toolDefinition : Nat
  enabled : Bool := true
  configuration : String
  deriving DecidableEq, Repr

structure Store where
  versions : Versioned AgentVersion
  definitions : Versioned ToolDefinition
  bindings : List ToolBinding
  deriving DecidableEq

def Store.empty : Store := ⟨.empty, .empty, []⟩

namespace Store

def createAgentVersion (s : Store) (agentDefinition : Nat) : Store :=
  let last := ((s.versions.rows.filter (·.agentDefinition = agentDefinition)).map (·.version)).max?
  { s with
    versions := s.versions.insert
      { agentDefinition := agentDefinition, version := (last.map (· + 1)).getD 1 } }

def publishAgentVersion (s : Store) (k now : Nat) : Option Store :=
  (s.versions.rows[k]?).bind fun locked =>
    if locked.status ≠ .draft then none
    else some { s with versions :=
      s.versions.update k fun v => { v with status := .published, publishedAt := some now } }

/-- `_sync_one`: the catalogue follows the registry. -/
def syncOne (s : Store) (key : String) (enabled : Bool) : Store :=
  match s.definitions.rows.findIdx? (·.key = key) with
  | some d => { s with definitions := s.definitions.update d fun t => { t with active := enabled } }
  | none => { s with definitions := s.definitions.insert ⟨key, enabled⟩ }

def createToolBinding (s : Store) (agentVersion : Object AgentVersion)
    (toolDefinition : Object ToolDefinition) (configuration : String) : Option Store :=
  if agentVersion.value.status ≠ .draft then none
  else if toolDefinition.value.active = false then none
  else if s.bindings.any fun b => b.agentVersion = agentVersion.pk &&
      b.toolDefinition = toolDefinition.pk then none
  else
    let binding : ToolBinding :=
      { agentVersion := agentVersion.pk, toolDefinition := toolDefinition.pk
        configuration := configuration }
    some { s with bindings := s.bindings ++ [binding] }

/-- The binding object is its key and the version object that it carries. -/
def setToolBindingEnabled (s : Store) (binding : Nat) (agentVersion : Object AgentVersion)
    (enabled : Bool) : Option Store :=
  if agentVersion.value.status ≠ .draft then none
  else some { s with bindings := s.bindings.modify binding fun b => { b with enabled := enabled } }

def resolveEnabledBinding (s : Store) (agentVersion : Nat) (toolKey : String) :
    Option ToolBinding :=
  s.bindings.find? fun b => b.agentVersion = agentVersion && b.enabled &&
    (s.definitions.rows[b.toolDefinition]?).any fun d => d.key = toolKey && d.active

end Store

inductive BindingCall
  | createAgentVersion (agentDefinition : Nat)
  | publishAgentVersion (k now : Nat)
  | syncOne (key : String) (enabled : Bool)
  | createToolBinding (agentVersion : Object AgentVersion)
    (toolDefinition : Object ToolDefinition) (configuration : String)
  | setToolBindingEnabled (binding : Nat) (agentVersion : Object AgentVersion) (enabled : Bool)
  deriving DecidableEq

/-- The version that a binding object carries is the one of its row. -/
def Store.carries (s : Store) (binding : Nat) (agentVersion : Object AgentVersion) : Prop :=
  s.versions.Loaded agentVersion ∧
    (s.bindings[binding]?).any (·.agentVersion = agentVersion.pk) = true

instance (s : Store) (binding : Nat) (agentVersion : Object AgentVersion) :
    Decidable (s.carries binding agentVersion) := by
  unfold Store.carries
  infer_instance

def bindingStep : BindingCall → Store → Option Store
  | .createAgentVersion agentDefinition, s => some (s.createAgentVersion agentDefinition)
  | .publishAgentVersion k now, s => s.publishAgentVersion k now
  | .syncOne key enabled, s => some (s.syncOne key enabled)
  | .createToolBinding agentVersion toolDefinition configuration, s =>
    if s.versions.Loaded agentVersion ∧ s.definitions.Loaded toolDefinition then
      s.createToolBinding agentVersion toolDefinition configuration
    else none
  | .setToolBindingEnabled binding agentVersion enabled, s =>
    if s.carries binding agentVersion then s.setToolBindingEnabled binding agentVersion enabled
    else none

/-- Calls of the binding services over empty tables. -/
def toolBindings : System Store BindingCall where
  initial s := s = .empty
  step := bindingStep

end SupportPilot.Bindings
