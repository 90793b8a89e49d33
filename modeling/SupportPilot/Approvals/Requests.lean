import SupportPilot.Library.Text
import SupportPilot.Policies.Predicates
import SupportPilot.Tools.Redaction

/-!
# What an approval request shows

The redacted arguments of an execution, and the summary, the context and the event of the
approval request that is created for it, each from the canonical arguments and the specification
of the tool.
-/

namespace SupportPilot.Approvals

open Library Policies Tools

/-- What the two redactions and the request read of a tool specification. -/
structure ToolContract where
  key : String
  displayName : String
  inputSensitiveFields : List String

/-- Python's lower case, and its text of a value in an f-string. -/
structure Texts where
  lower : String → String
  str : Json → String

/-- The `arguments_redacted` that `execute_tool` stores. -/
def argumentsRedacted (py : Texts) (tool : ToolContract) (canonical : JsonObject) : JsonObject :=
  hideFields (hiddenKey py.lower (tool.inputSensitiveFields.map py.lower)) canonical

/-- The `safe_arguments` of `create_or_reuse_approval_request`. -/
def safeArguments (py : Texts) (tool : ToolContract) (canonical : JsonObject) : JsonObject :=
  hideFields (hiddenKey py.lower tool.inputSensitiveFields) canonical

def maxSummaryArgumentChars : Nat := 300

/-- `_build_summary` -/
def buildSummary (py : Texts) (toolKey : String) (arguments : JsonObject) : String :=
  let sorted := arguments.mergeSort fun a b => a.1 ≤ b.1
  let parts := sorted.map fun (key, value) => key ++ "=" ++ py.str value
  let body := truncate maxSummaryArgumentChars (", ".intercalate parts)
  truncate 500 (toolKey ++ ": " ++ body)

/-- What the request takes from the evaluation and the risk assessment. -/
structure RequestFacts where
  approvalId : String
  riskLevel : RiskLevel
  sideEffectType : SideEffectType
  policyReason : String
  requiredRole : String
  expiresAt : String

/-- The columns of a request that are read by approvers, and the data of its event. -/
structure RequestView where
  summary : String
  safeContext : JsonObject
  eventData : JsonObject

/-- The request that `create_or_reuse_approval_request` creates. -/
def createApprovalRequest (py : Texts) (tool : ToolContract) (facts : RequestFacts)
    (canonical : JsonObject) : RequestView :=
  let arguments := safeArguments py tool canonical
  let summary := buildSummary py tool.key arguments
  { summary
    safeContext :=
      [("tool_key", .string tool.key), ("tool_display_name", .string tool.displayName),
        ("risk_level", .string facts.riskLevel.value),
        ("side_effect_type", .string facts.sideEffectType.value),
        ("policy_reason", .string facts.policyReason), ("arguments", .object arguments)]
    eventData :=
      [("approval_id", .string facts.approvalId), ("tool_key", .string tool.key),
        ("risk_level", .string facts.riskLevel.value),
        ("required_role", .string facts.requiredRole), ("summary", .string summary),
        ("expires_at", .string facts.expiresAt)] }

end SupportPilot.Approvals
