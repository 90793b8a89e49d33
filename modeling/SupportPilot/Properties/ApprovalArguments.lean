import SupportPilot.Approvals.Requests

/-!
# The arguments that an approval shows

`execute_tool` puts the declared sensitive fields in lower case before it redacts, and
`create_or_reuse_approval_request` does not, while `redact` compares the key in lower case. The
request shows what the execution stores exactly when that makes no difference for the keys that
the arguments have.
-/

namespace SupportPilot.Approvals

open Library Tools

variable {py : Texts} {tool : ToolContract} {facts : RequestFacts} {canonical : JsonObject}

/-- The request, its summary and its event show the arguments as the execution stores them. -/
structure ShowsStored (py : Texts) (tool : ToolContract) (stored : JsonObject)
    (request : RequestView) : Prop where
  safeContext : request.safeContext.lookup "arguments" = some (.object stored)
  summary : request.summary = buildSummary py tool.key stored
  eventData : request.eventData.lookup "summary" = some (.string (buildSummary py tool.key stored))

/-- The two redactions treat every key of the arguments alike. -/
def SameKeys (py : Texts) (tool : ToolContract) (canonical : JsonObject) : Prop :=
  AgreesFields (hiddenKey py.lower (tool.inputSensitiveFields.map py.lower))
    (hiddenKey py.lower tool.inputSensitiveFields) canonical

theorem safeArguments_eq_iff :
    argumentsRedacted py tool canonical = safeArguments py tool canonical ↔
      SameKeys py tool canonical :=
  hideFields_eq_iff _ _ canonical

/-- Declarations in lower case are treated alike on all arguments. -/
theorem sameKeys_of_lower (h : ∀ field ∈ tool.inputSensitiveFields, py.lower field = field)
    (canonical : JsonObject) : SameKeys py tool canonical := by
  have hsame : tool.inputSensitiveFields.map py.lower = tool.inputSensitiveFields := by
    rw [List.map_congr_left h, List.map_id']
  rw [← safeArguments_eq_iff]
  unfold argumentsRedacted safeArguments
  rw [hsame]

/-- A key that is declared in another case only, and has no marker, is treated differently. -/
theorem not_sameKeys_of_declared {key : String} {value : Json} {rest : JsonObject}
    (hmarker : isSensitiveKey py.lower key = false)
    (hdeclared : py.lower key ∈ tool.inputSensitiveFields.map py.lower)
    (hcase : py.lower key ∉ tool.inputSensitiveFields)
    (hvalue : value ≠ .string redactedText) : ¬ SameKeys py tool ((key, value) :: rest) := by
  intro hsame
  have hstored : hiddenKey py.lower (tool.inputSensitiveFields.map py.lower) key = true := by
    rw [hiddenKey, hmarker, Bool.false_or]
    exact List.elem_eq_true_of_mem hdeclared
  have hshown : hiddenKey py.lower tool.inputSensitiveFields key = false := by
    rw [hiddenKey, hmarker, Bool.false_or]
    simpa using hcase
  unfold SameKeys AgreesFields at hsame
  rw [hstored, hshown] at hsame
  exact hvalue hsame.1

/-- An approval request shows the stored arguments exactly when both redactions treat the keys
of the arguments alike. -/
theorem approval_shows_stored_iff (py : Texts) (tool : ToolContract) (facts : RequestFacts)
    (canonical : JsonObject) :
    ShowsStored py tool (argumentsRedacted py tool canonical)
        (createApprovalRequest py tool facts canonical) ↔
      SameKeys py tool canonical := by
  rw [← safeArguments_eq_iff]
  constructor
  · intro hshows
    have harguments : some (Json.object (safeArguments py tool canonical)) =
        some (.object (argumentsRedacted py tool canonical)) := hshows.safeContext
    simp only [Option.some.injEq, Json.object.injEq] at harguments
    exact harguments.symm
  · intro hsame
    rw [hsame]
    exact ⟨rfl, rfl, rfl⟩

/-- Lower case on the words of the example. -/
def sampleTexts : Texts where
  lower text := if text = "accountNumber" then "accountnumber" else text
  str _ := ""

/-- A tool that declares its field by the name that the field has. -/
def transferTool : ToolContract :=
  ⟨"bank.transfer", "Bank transfer", ["accountNumber"]⟩

/-- The account number is hidden in the execution and shown to the approver. -/
theorem approval_not_always_shows_stored :
    ¬ ∀ (py : Texts) (tool : ToolContract) (facts : RequestFacts) (canonical : JsonObject),
      ShowsStored py tool (argumentsRedacted py tool canonical)
        (createApprovalRequest py tool facts canonical) := by
  intro hshows
  have harguments := (hshows sampleTexts transferTool
    ⟨"1", .high, .financial, "", "owner", ""⟩ [("accountNumber", .string "DE02")]).safeContext
  have hclear : some (Json.object [("accountNumber", .string "DE02")]) =
      some (Json.object [("accountNumber", .string redactedText)]) := harguments
  simp [redactedText] at hclear

end SupportPilot.Approvals
