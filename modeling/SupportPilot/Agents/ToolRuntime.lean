import SupportPilot.Library.JsonText
import SupportPilot.Tools.Redaction

/-!
# Tool results for the model

What a tool returned goes back to the model as one message: a preamble, the JSON of the result
cut to what the configured limit leaves room for, and an end line. Lower case is a parameter.
-/

namespace SupportPilot.Agents

open Library

/-! ## Redaction -/

def isSensitiveKey (lower : CodePoints → CodePoints) (key : CodePoints) : Bool :=
  Tools.sensitiveKeyMarkers.any fun marker => codePoints marker <:+: lower key

section Redact

variable (lower : CodePoints → CodePoints)

mutual

/-- `redact(value)` on values with strings of any code points. -/
def redact : JsonValue → JsonValue
  | .list items => .list (redactItems items)
  | .object fields => .object (redactFields fields)
  | value => value

def redactItems : List JsonValue → List JsonValue
  | [] => []
  | item :: rest => redact item :: redactItems rest

def redactFields : JsonFields → JsonFields
  | [] => []
  | (key, value) :: rest =>
    (key, if isSensitiveKey lower key then .string (codePoints Tools.redactedText)
      else redact value) :: redactFields rest

end

end Redact

/-! ## Messages -/

inductive ToolResultStatus
  | succeeded
  | denied
  | failed
  deriving DecidableEq, Repr

def ToolResultStatus.text : ToolResultStatus → String
  | .succeeded => "succeeded"
  | .denied => "denied"
  | .failed => "failed"

structure ToolResultContext where
  toolKey : CodePoints
  status : ToolResultStatus
  result : Option JsonFields := none
  errorCode : Option CodePoints := none

def toolResultPreamble : List Char := "TOOL RESULT — UNTRUSTED EXTERNAL DATA".toList

def toolResultEnd : List Char := "END TOOL RESULT".toList

/-- The delimiter before the payload. -/
def framePrefix : List Char := toolResultPreamble ++ ['\n']

/-- The delimiter behind the payload. -/
def frameSuffix : List Char := '\n' :: toolResultEnd

namespace ToolResultContext

variable (lower : CodePoints → CodePoints) (context : ToolResultContext)

def payload : List Char :=
  let safeResult := redact lower (.object (context.result.getD []))
  dumps (.object
    [(codePoints "tool", .string context.toolKey),
      (codePoints "status", .string (codePoints context.status.text)),
      (codePoints "error_code", .string (context.errorCode.getD [])),
      (codePoints "data", safeResult)])

/-- The message under the configured maximum number of characters. -/
def asModelMessage (maxCharacters : Int) : List Char :=
  let available := max 0 (maxCharacters - framePrefix.length - frameSuffix.length)
  framePrefix ++ (context.payload lower).take available.toNat ++ frameSuffix

end ToolResultContext

end SupportPilot.Agents
