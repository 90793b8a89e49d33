import SupportPilot.Agents.Models
import SupportPilot.Evaluations.Models

/-!
# Providers of a case and of the configuration

An evaluation case brings the scenarios that its provider replays. Every other segment of an
agent run takes its provider from the settings of the process that executes it.
-/

namespace SupportPilot.Evaluations

/-- The settings of a worker process, which are read when it starts. -/
structure ProcessSettings extends EvaluationSettings where
  agentsLlmProvider : String := "fake"
  agentsOpenaiApiKey : String := ""
  deriving DecidableEq, Repr

/-- What `get_llm_provider` constructs. -/
inductive ConfiguredProvider
  | deterministicFake
  | openAI (apiKey : String)
  deriving DecidableEq, Repr

/-- A provider object, told apart by what built it. -/
inductive LLMProvider
  | scripted (result : Nat) (scenarios : List String)
  | configured (provider : ConfiguredProvider)
  deriving DecidableEq, Repr

/-! ## The configured provider -/

/-- `get_llm_provider`; `none` stands for `ProviderConfigurationError`. -/
def getLlmProvider (settings : ProcessSettings) : Option ConfiguredProvider :=
  if settings.agentsLlmProvider = "fake" then some .deterministicFake
  else if settings.agentsLlmProvider = "openai" then
    if settings.agentsOpenaiApiKey = "" then none
    else some (.openAI settings.agentsOpenaiApiKey)
  else none

/-- `_provider_for` a version that names this provider. -/
def providerFor (settings : ProcessSettings) (versionProvider : String) :
    Option ConfiguredProvider :=
  if settings.agentsLlmProvider ≠ versionProvider then none else getLlmProvider settings

/-- The resolution that the main segment and the continuation after a resume share. -/
def resolveProvider (settings : ProcessSettings) (versionProvider : String) :
    Option ConfiguredProvider :=
  if versionProvider = "fake" then getLlmProvider settings
  else providerFor settings versionProvider

def providerConfigurationCode : String := "provider_configuration_error"

def providerConfigurationMessage : String := "The AI provider is not configured correctly."

/-! ## The provider of a case -/

/-- One element of `llm_scenarios`: an object that makes a scenario, one that
`InvalidLLMScenarioError` refuses, or one that makes the conversion raise otherwise. -/
inductive RawScenario
  | scenario (json : String)
  | invalid (message : String)
  | malformed
  deriving DecidableEq, Repr

inductive ScenarioError
  | invalidLLMScenario (message : String)
  | other
  deriving DecidableEq, Repr

def RawScenario.build : RawScenario → Except ScenarioError String
  | .scenario json => .ok json
  | .invalid message => .error (.invalidLLMScenario message)
  | .malformed => .error .other

def defaultScenario : String := "This is a deterministic fake response."

/-- `build_fake_llm_provider`: the scenarios that the provider replays. -/
def buildFakeLlmProvider (llmScenarios : List RawScenario) :
    Except ScenarioError (List String) :=
  if llmScenarios.isEmpty then .ok [defaultScenario] else llmScenarios.mapM RawScenario.build

/-- What the rows of a result say and no operation changes: the version and the requester of
its run, and the scenarios of its snapshot. -/
structure CasePlan where
  workspace : Nat
  agentVersion : AgentVersion
  versionProvider : String
  createdBy : Option Nat
  llmScenarios : List RawScenario
  deriving DecidableEq, Repr

end SupportPilot.Evaluations
