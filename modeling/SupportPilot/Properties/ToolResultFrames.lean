import SupportPilot.Agents.ToolRuntime
import SupportPilot.Library.Lines

/-!
# The frame of a tool result

The payload is printable ASCII wherever it is cut, so the message has three lines whatever counts
as a line break, and the payload begins with another character than the end line.
-/

namespace SupportPilot.Agents

open Library

/-- A text between two delimiters that are lines is a line of its own. -/
theorem lines_framed (reader : Reader) {text : List Char} (h : Plain text) :
    reader.lines (framePrefix ++ text ++ frameSuffix) =
      [toolResultPreamble, text, toolResultEnd] := by
  have hpreamble : ∀ c ∈ toolResultPreamble, isLineBreak c = false := by
    simpa using (by decide : toolResultPreamble.any isLineBreak = false)
  have hmessage : framePrefix ++ text ++ frameSuffix =
      ['\n'].intercalate [toolResultPreamble, text, toolResultEnd] := by
    simp [framePrefix, frameSuffix, List.intercalate_cons_cons]
  have hlines : reader.lines (framePrefix ++ text ++ frameSuffix) =
      reader.lines toolResultPreamble ++ (reader.lines text ++
        (reader.lines toolResultEnd ++ [])) := by
    rw [hmessage]
    exact splitOnP_join reader.newline (List.cons_ne_nil _ _)
  rw [hlines, Reader.lines_of_unbroken hpreamble, Reader.lines_of_plain h,
    Reader.lines_of_plain (by decide)]
  rfl

theorem payload_eq_cons (lower : CodePoints → CodePoints) (context : ToolResultContext) :
    ∃ rest, context.payload lower = '{' :: rest :=
  ⟨_, rfl⟩

/-- No part of the payload from its start is the end line. -/
theorem take_payload_ne (lower : CodePoints → CodePoints) (context : ToolResultContext) (n : Nat) :
    (context.payload lower).take n ≠ toolResultEnd := by
  obtain ⟨rest, hpayload⟩ := payload_eq_cons lower context
  have hend : toolResultEnd = 'E' :: "ND TOOL RESULT".toList := by decide
  rw [hpayload, hend]
  cases n with
  | zero => nofun
  | succ n =>
    rw [List.take_succ_cons]
    exact fun h => absurd (List.cons.inj h).1 (by decide)

/-- The room that the limit leaves between the delimiters. -/
def payloadRoom (maxCharacters : Int) : Nat :=
  (maxCharacters - framePrefix.length - frameSuffix.length).toNat

/-- For every reader the message has three lines, of which only the last one is the end line and
the second one is the payload as far as there is room for it; and the message is as long as the
limit allows, or as the two delimiters where these leave no room. -/
theorem asModelMessage_framed (lower : CodePoints → CodePoints) (context : ToolResultContext)
    (maxCharacters : Int) (reader : Reader) :
    context.asModelMessage lower maxCharacters =
        framePrefix ++ (context.payload lower).take (payloadRoom maxCharacters) ++ frameSuffix ∧
      reader.lines (context.asModelMessage lower maxCharacters) =
        [toolResultPreamble, (context.payload lower).take (payloadRoom maxCharacters),
          toolResultEnd] ∧
      toolResultPreamble ≠ toolResultEnd ∧
      (context.payload lower).take (payloadRoom maxCharacters) ≠ toolResultEnd ∧
      ((context.asModelMessage lower maxCharacters).length : Int) ≤
        max maxCharacters (framePrefix.length + frameSuffix.length) := by
  have hplain : Plain (context.payload lower) := plain_dumps _
  have hroom : (max 0 (maxCharacters - framePrefix.length - frameSuffix.length)).toNat =
      payloadRoom maxCharacters := by
    unfold payloadRoom
    omega
  have hmessage : context.asModelMessage lower maxCharacters =
      framePrefix ++ (context.payload lower).take (payloadRoom maxCharacters) ++ frameSuffix := by
    rw [← hroom]
    rfl
  refine ⟨hmessage, ?_, by decide, take_payload_ne lower context _, ?_⟩
  · rw [hmessage]
    exact lines_framed reader (hplain.subset (List.take_subset _ _))
  · have htaken := List.length_take_le (payloadRoom maxCharacters) (context.payload lower)
    rw [hmessage, List.length_append, List.length_append]
    unfold payloadRoom at htaken ⊢
    omega

end SupportPilot.Agents
