import Mathlib.Data.List.Sort
import Mathlib.Data.String.Basic
import SupportPilot.Library.Json
import SupportPilot.Tools.Bindings

/-!
# The tools that are offered to the model

The catalogue of a version lists its bound tools with the schemas of the registry, and an adapter
renames them for its provider and names the tools of a reply back. The handler key of a definition
is its key, which `_sync_one` writes for both.
-/

namespace SupportPilot.Bindings

open Library

/-- What the catalogue reads of a tool. -/
structure ToolSpec where
  key : String
  displayName : String
  description : String
  enabled : Bool := true
  inputSchema : Json

/-- The tools that have been registered, each under its own key. -/
structure ToolRegistry where
  tools : List ToolSpec
  distinct : (tools.map (·.key)).Nodup

namespace ToolRegistry

def empty : ToolRegistry := ⟨[], .nil⟩

/-- Without a result where the key is registered already. -/
def register (registry : ToolRegistry) (tool : ToolSpec) : Option ToolRegistry :=
  if h : tool.key ∈ registry.tools.map (·.key) then none
  else
    some ⟨tool :: registry.tools, List.nodup_cons.mpr ⟨h, registry.distinct⟩⟩

def getOrNone (registry : ToolRegistry) (key : String) : Option ToolSpec :=
  registry.tools.find? (·.key = key)

end ToolRegistry

/-! ## Server-owned fields -/

/-- `_SERVER_OWNED_FIELDS` -/
def serverOwnedFields : List String :=
  ["workspace_id", "agent_run_id", "agent_version_id", "tool_execution_id", "actor_role",
    "integration_credential", "approved", "approval_override", "policy_decision", "risk",
    "timeout_override", "retry_override"]

/-- An object whose properties include a field of the server. -/
def declaresServerOwned (fields : JsonObject) : Bool :=
  match fields.lookup "properties" with
  | some (.object properties) => properties.any fun property =>
    serverOwnedFields.contains property.1
  | _ => false

mutual

/-- The recursive `inspect`, which raises where this is true. -/
def inspect : Json → Bool
  | .object fields => declaresServerOwned fields || inspectFields fields
  | .list items => inspectItems items
  | _ => false

def inspectItems : List Json → Bool
  | [] => false
  | item :: items => inspect item || inspectItems items

def inspectFields : JsonObject → Bool
  | [] => false
  | (_, value) :: fields => inspect value || inspectFields fields

end

/-! ## The catalogue -/

structure ToolDescriptor where
  key : String
  displayName : String
  description : String
  inputSchema : Json

/-- `ToolCatalogConfigurationError` -/
inductive CatalogError
  | toolCatalogConfigurationError
  deriving DecidableEq, Repr

def describe (registry : ToolRegistry) (definition : ToolDefinition) :
    Except CatalogError ToolDescriptor :=
  match registry.getOrNone definition.key with
  | none => .error .toolCatalogConfigurationError
  | some tool =>
    if tool.enabled = false ∨ inspect tool.inputSchema = true then
      .error .toolCatalogConfigurationError
    else .ok ⟨tool.key, tool.displayName, tool.description, tool.inputSchema⟩

/-- The active definitions of the enabled bindings of a version, the latest binding first. -/
def Store.boundDefinitions (s : Store) (agentVersion : Nat) : List ToolDefinition :=
  (s.bindings.reverse.filter fun b => b.agentVersion = agentVersion && b.enabled).filterMap
    fun b => (s.definitions.rows[b.toolDefinition]?).filter (·.active)

/-- `workspaceOf` gives the workspace of an agent definition. -/
def getBoundToolDescriptors (registry : ToolRegistry) (workspaceOf : Nat → Nat) (s : Store)
    (agentVersion : Object AgentVersion) (workspace : Nat) :
    Except CatalogError (List ToolDescriptor) :=
  if agentVersion.value.status ≠ .published ∨
      workspaceOf agentVersion.value.agentDefinition ≠ workspace then
    .error .toolCatalogConfigurationError
  else do
    let descriptors ← (s.boundDefinitions agentVersion.pk).mapM (describe registry)
    return descriptors.insertionSort fun descriptor other => descriptor.key ≤ other.key

/-! ## Names for a provider -/

section Names

variable (sha256 : String → List Char)

/-- A character that the names of the provider may have. -/
def isNameChar (c : Char) : Bool :=
  'a' ≤ c && c ≤ 'z' || 'A' ≤ c && c ≤ 'Z' || '0' ≤ c && c ≤ '9' || c = '_' || c = '-'

/-- `_openai_tool_name`, with the hexadecimal digest of a text as a parameter. -/
def openaiToolName (key : String) : List Char :=
  let slug := (key.toList.map fun c => if isNameChar c then c else '_').take 48
  slug ++ '_' :: (sha256 key).take 8

/-- `provider_tool_names`, in which a later tool takes the name of an earlier one. -/
def providerToolNames (tools : List ToolDescriptor) : List (List Char × String) :=
  (tools.map fun tool => (openaiToolName sha256 tool.key, tool.key)).reverse

/-- The key of a tool call of the provider, which is the name itself for a name that it was not
given. -/
def toolKeyOf (tools : List ToolDescriptor) (name : String) : String :=
  ((providerToolNames sha256 tools).lookup name.toList).getD name

end Names

end SupportPilot.Bindings
