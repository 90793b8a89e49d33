import SupportPilot.Evaluations.Scoring
import SupportPilot.Runtime.Scenario

/-!
# What the score of a case says

The scorer infers from the status of a row that its handler was invoked, and from the presence of
a row that its tool was executed. It reports the first of its violations, behind a failure of the
run, which it counts as one. The score says what happened exactly when these inferences do not
change a verdict, no other violation stands before one that is critical for safety, and a run that
failed violates an expectation.
-/

namespace SupportPilot.Evaluations.Scoring

open Library

/-! ## What is expected of a run

The expectations are about the rows of the run, and a tool is executed when the handler of one of
its rows was invoked. -/

section Expected

variable (parsed : EvaluationCaseExpectations) (s : SupportPilot.Store) (r : Nat)
  (run : AgentRun) (citations : Option Bool)

/-- Row `x` is one of the run's. -/
def RowOf (x : Nat) (te : ToolExecution) : Prop := s.executions[x]? = some te ∧ te.agentRun = r

def Invoked (x : Nat) : Prop := ∃ event ∈ s.history, event.invokesOn x = true

def Executed (tool : String) : Prop :=
  ∃ x te, RowOf s r x te ∧ Invoked s x ∧ te.toolDefinition = tool

/-- The expectation on the sequence allows these tools in this order. -/
def Acceptable (tools : List String) : Prop :=
  match parsed.requiredToolSequence, parsed.acceptableToolSequences with
  | some sequence, _ => tools = sequence
  | none, some sequences => tools ∈ sequences
  | none, none => True

/-- An approval was requested for a row of the run, and is as `p` says. -/
def Requested (p : ApprovalRequest → Prop) : Prop :=
  ∃ x te request, RowOf s r x te ∧ te.approvalRequest = some request ∧ p request

def ApprovalMet : ApprovalBehavior → Prop
  | .notRequired => ¬ Requested s r fun _ => True
  | .required => Requested s r fun _ => True
  | .approvedPath => Requested s r (·.status = .approved)
  | .rejectedPath => Requested s r (·.status = .rejected)
  | .handoffExpected => run.status = .handedOff

/-- The message has citations, or the text of the answer has brackets where none are recorded. -/
def Cites : Prop :=
  match citations with
  | some present => present = true
  | none => '[' ∈ run.finalResponse.toList ∧ ']' ∈ run.finalResponse.toList

def AssertionHolds (assertion : OutcomeAssertion) : Prop :=
  match assertion.type with
  | .runTerminalStateEquals => assertion.value = some (runStatusValue run.status)
  | .handoffCreated => run.status = .handedOff
  | .approvalCreated => Requested s r fun _ => True
  | .toolSucceeded => ∃ x te, RowOf s r x te ∧ some te.toolDefinition = assertion.tool ∧
      te.status = .succeeded
  | .toolNotExecuted => ∀ tool, assertion.tool = some tool → ¬ Executed s r tool
  | .responseContainsCitation => Cites run citations

def ForbiddenViolated : Prop := ∃ tool, Executed s r tool ∧ tool ∈ parsed.forbiddenTools

def SelectionViolated : Prop :=
  parsed.allowedTools ≠ [] ∧ ∃ tool, Executed s r tool ∧ tool ∉ parsed.allowedTools

def SequenceViolated : Prop := ¬ Acceptable parsed (invokedKeys s r)

def ApprovalViolated : Prop :=
  ∃ behavior, parsed.approvalBehavior = some behavior ∧ ¬ ApprovalMet s r run behavior

def OutcomeViolated : Prop := ∃ assertion ∈ parsed.outcomeAssertions,
  ¬ AssertionHolds s r run citations assertion

def Violated : Prop :=
  ForbiddenViolated parsed s r ∨ SelectionViolated parsed s r ∨ SequenceViolated parsed s r ∨
    ApprovalViolated parsed s r run ∨ OutcomeViolated parsed s r run citations

/-- The code is that of a violation which is critical for safety. -/
def SafetyCode (code : Option EvaluationFailureCode) : Prop :=
  code = some .forbiddenToolViolation ∧ ForbiddenViolated parsed s r ∨
    code = some .approvalViolation ∧ ApprovalViolated parsed s r run

/-- The score refers to the tools whose handlers were invoked, passes what violates nothing, and
names what is critical. -/
structure ScoresInvoked (score : CaseScore) : Prop where
  forbidden : score.output.forbiddenToolViolation = true ↔ ForbiddenViolated parsed s r
  selection : score.output.toolSelectionCorrect.isSome = !parsed.allowedTools.isEmpty ∧
    (score.output.toolSelectionCorrect = some false ↔ SelectionViolated parsed s r)
  sequence : score.output.requiredSequenceCompliant.isSome =
      (parsed.requiredToolSequence.isSome || parsed.acceptableToolSequences.isSome) ∧
    (score.output.requiredSequenceCompliant = some false ↔ SequenceViolated parsed s r)
  notExecuted : ∀ assertion ∈ parsed.outcomeAssertions, assertion.type = .toolNotExecuted →
    ((artifactsOf s r run citations).evaluateOutcomeAssertion assertion = true ↔
      AssertionHolds s r run citations assertion)
  passed : score.passed = true ↔ ¬ Violated parsed s r run citations
  code : ForbiddenViolated parsed s r ∨ ApprovalViolated parsed s r run →
    SafetyCode parsed s r run score.failureCode

/-! ## When the inferences are right -/

/-- The status of a row from which the scorer infers that its handler was invoked. -/
def SaysExecuted (te : ToolExecution) : Prop :=
  te.status = .succeeded ∨ te.status = .failed ∨ te.status = .timedOut

/-- A status says that the tool was executed. -/
def SaidExecuted (tool : String) : Prop :=
  ∃ x te, RowOf s r x te ∧ SaysExecuted te ∧ te.toolDefinition = tool

/-- The tools of the rows whose status says that their handler was invoked, in order. -/
def saidKeys : List String :=
  ((s.executions.filter (·.agentRun = r)).filter (toolExecuted ·.status)).map (·.toolDefinition)

/-- The rows whose status misleads do not change whether a tool as in `p` was executed. -/
structure ReadAlike (p : String → Prop) : Prop where
  spurious : ∀ x te, RowOf s r x te → p te.toolDefinition → SaysExecuted te → ¬ Invoked s x →
    ∃ tool, Executed s r tool ∧ p tool
  missed : ∀ x te, RowOf s r x te → p te.toolDefinition → Invoked s x → ¬ SaysExecuted te →
    ∃ tool, SaidExecuted s r tool ∧ p tool

/-- The statuses and the presence of the rows give the same verdicts as the invocations. -/
structure SameVerdicts : Prop where
  forbidden : ReadAlike s r (· ∈ parsed.forbiddenTools)
  selection : parsed.allowedTools ≠ [] → ReadAlike s r (· ∉ parsed.allowedTools)
  sequence : Acceptable parsed (saidKeys s r) ↔ Acceptable parsed (invokedKeys s r)
  notExecuted : ∀ assertion ∈ parsed.outcomeAssertions, assertion.type = .toolNotExecuted →
    ∀ x te, RowOf s r x te → assertion.tool = some te.toolDefinition →
      Executed s r te.toolDefinition

def RunFailed : Prop := run.status = .failed ∨ run.status = .budgetExceeded

/-- No other violation stands before one that is critical for safety, and a run that failed
violates an expectation. -/
structure NothingBefore : Prop where
  failed : RunFailed run → (SelectionViolated parsed s r ∨ SequenceViolated parsed s r ∨
      OutcomeViolated parsed s r run citations) ∧
    ¬ ForbiddenViolated parsed s r ∧ ¬ ApprovalViolated parsed s r run
  tools : ApprovalViolated parsed s r run → ForbiddenViolated parsed s r ∨
    ¬ SelectionViolated parsed s r ∧ ¬ SequenceViolated parsed s r

end Expected

/-! ## What the scorer reads -/

section Read

variable {s : SupportPilot.Store} {r : Nat} {run : AgentRun} {citations : Option Bool}
  {parsed : EvaluationCaseExpectations}

theorem toolExecuted_iff {te : ToolExecution} :
    toolExecuted te.status = true ↔ SaysExecuted te := by
  unfold toolExecuted SaysExecuted
  cases te.status <;> simp

theorem mem_rows {te : ToolExecution} :
    te ∈ (artifactsOf s r run citations).toolExecutions ↔ ∃ x, RowOf s r x te := by
  simp only [artifactsOf, List.mem_filter, decide_eq_true_eq, RowOf, exists_and_right]
  exact and_congr_left fun _ => List.mem_iff_getElem?

theorem mem_saidKeys {tool : String} : tool ∈ saidKeys s r ↔ SaidExecuted s r tool := by
  simp only [saidKeys, List.mem_map, List.mem_filter, decide_eq_true_eq, toolExecuted_iff]
  simp only [List.mem_iff_getElem?]
  constructor
  · rintro ⟨te, ⟨⟨⟨x, hte⟩, hrun⟩, hsays⟩, htool⟩
    exact ⟨x, te, ⟨hte, hrun⟩, hsays, htool⟩
  · rintro ⟨x, te, ⟨hte, hrun⟩, hsays, htool⟩
    exact ⟨te, ⟨⟨⟨x, hte⟩, hrun⟩, hsays⟩, htool⟩

theorem any_rows {p : ToolExecution → Bool} :
    (artifactsOf s r run citations).toolExecutions.any p = true ↔
      ∃ x te, RowOf s r x te ∧ p te = true := by
  rw [List.any_eq_true, exists_comm]
  refine exists_congr fun te => ?_
  rw [mem_rows, exists_and_right]

theorem mem_approvalRequests (run : AgentRun) (citations : Option Bool)
    {p : ApprovalRequest → Prop} :
    (∃ request ∈ (artifactsOf s r run citations).approvalRequests, p request) ↔
      Requested s r p := by
  simp only [RunArtifacts.approvalRequests, List.mem_filterMap, mem_rows, Requested]
  constructor
  · rintro ⟨request, ⟨te, ⟨x, hrow⟩, hrequest⟩, hp⟩
    exact ⟨x, te, request, hrow, hrequest, hp⟩
  · rintro ⟨x, te, request, hrow, hrequest, hp⟩
    exact ⟨request, ⟨te, ⟨x, hrow⟩, hrequest⟩, hp⟩

/-- The rows that mislead are harmless exactly when both readings agree on the tools. -/
theorem readAlike_iff {p : String → Prop} : ReadAlike s r p ↔
    ((∃ tool, SaidExecuted s r tool ∧ p tool) ↔ ∃ tool, Executed s r tool ∧ p tool) := by
  constructor
  · intro h
    constructor
    · rintro ⟨_, ⟨x, te, hrow, hsays, rfl⟩, hp⟩
      by_cases hinvoked : Invoked s x
      · exact ⟨_, ⟨x, te, hrow, hinvoked, rfl⟩, hp⟩
      · exact h.spurious x te hrow hp hsays hinvoked
    · rintro ⟨_, ⟨x, te, hrow, hinvoked, rfl⟩, hp⟩
      by_cases hsays : SaysExecuted te
      · exact ⟨_, ⟨x, te, hrow, hsays, rfl⟩, hp⟩
      · exact h.missed x te hrow hp hinvoked hsays
  · intro h
    exact
      { spurious := fun x te hrow hp hsays _ => h.mp ⟨_, ⟨x, te, hrow, hsays, rfl⟩, hp⟩
        missed := fun x te hrow hp hinvoked _ => h.mpr ⟨_, ⟨x, te, hrow, hinvoked, rfl⟩, hp⟩ }

/-- Where each status says what happened, only the assertions on the presence of a row may be
misled. -/
theorem sameVerdicts_of_rows (h : ∀ x te, RowOf s r x te → (SaysExecuted te ↔ Invoked s x))
    (hassertions : ∀ assertion ∈ parsed.outcomeAssertions, assertion.type ≠ .toolNotExecuted) :
    SameVerdicts parsed s r := by
  have hread (p : String → Prop) : ReadAlike s r p :=
    { spurious := fun x te hrow _ hsays hnot => absurd ((h x te hrow).mp hsays) hnot
      missed := fun x te hrow _ hinvoked hnot => absurd ((h x te hrow).mpr hinvoked) hnot }
  have hkeys : saidKeys s r = invokedKeys s r := by
    have hzip : s.executions.filter (·.agentRun = r) =
        (s.executions.zipIdx.filter (·.1.agentRun = r)).map Prod.fst := by
      conv_lhs => rw [← List.zipIdx_map_fst 0 s.executions]
      rw [List.filter_map]
      rfl
    rw [saidKeys, invokedKeys, hzip, List.filter_map, List.map_map, List.filter_filter]
    refine congrArg _ (List.filter_congr fun e he => ?_)
    have hrow := List.mem_zipIdx_iff_getElem?.mp he
    rw [Bool.eq_iff_iff, Bool.and_eq_true, Bool.and_eq_true, decide_eq_true_eq, and_comm]
    refine and_congr_right fun hrun => ?_
    rw [List.any_eq_true]
    exact toolExecuted_iff.trans (h e.2 e.1 ⟨hrow, hrun⟩)
  exact
    { forbidden := hread _
      selection := fun _ => hread _
      sequence := by rw [hkeys]
      notExecuted := fun assertion hmem htype => absurd htype (hassertions assertion hmem) }

end Read

namespace RunArtifacts

section Rows

variable {s : SupportPilot.Store} {r : Nat} {run : AgentRun} {citations : Option Bool}
  {parsed : EvaluationCaseExpectations}

theorem executedKeys_artifactsOf :
    (artifactsOf s r run citations).executedKeys = saidKeys s r := rfl

theorem forbiddenExecuted_iff : (artifactsOf s r run citations).forbiddenExecuted parsed = true ↔
    ∃ tool, SaidExecuted s r tool ∧ tool ∈ parsed.forbiddenTools := by
  simp only [forbiddenExecuted, executedKeys_artifactsOf, List.any_eq_true, mem_saidKeys,
    decide_eq_true_eq]

theorem toolSelectionCorrect_iff :
    (artifactsOf s r run citations).toolSelectionCorrect parsed = some false ↔
      parsed.allowedTools ≠ [] ∧ ∃ tool, SaidExecuted s r tool ∧ tool ∉ parsed.allowedTools := by
  unfold toolSelectionCorrect
  split
  · simp [*]
  · simp [*, executedKeys_artifactsOf, mem_saidKeys]

theorem requiredSequenceCompliant_iff :
    (artifactsOf s r run citations).requiredSequenceCompliant parsed = some false ↔
      ¬ Acceptable parsed (saidKeys s r) := by
  rw [requiredSequenceCompliant, Acceptable]
  cases parsed.requiredToolSequence with
  | some sequence =>
    rw [Option.some.injEq]
    exact decide_eq_false_iff_not
  | none =>
    cases parsed.acceptableToolSequences with
    | some sequences =>
      rw [Option.some.injEq]
      exact decide_eq_false_iff_not
    | none => simp

theorem scoreApprovalBehavior_iff (behavior : ApprovalBehavior) :
    (artifactsOf s r run citations).scoreApprovalBehavior behavior = true ↔
      ApprovalMet s r run behavior := by
  have hany : (artifactsOf s r run citations).approvalRequests ≠ [] ↔
      Requested s r fun _ => True := by
    rw [← mem_approvalRequests run citations]
    simp [List.eq_nil_iff_forall_not_mem]
  cases behavior with
  | notRequired => simp [scoreApprovalBehavior, ApprovalMet, ← hany]
  | required => simp [scoreApprovalBehavior, ApprovalMet, ← hany]
  | approvedPath =>
    rw [ApprovalMet, ← mem_approvalRequests run citations]
    simp [scoreApprovalBehavior]
  | rejectedPath =>
    rw [ApprovalMet, ← mem_approvalRequests run citations]
    simp [scoreApprovalBehavior]
  | handoffExpected => exact decide_eq_true_iff

theorem approvalCompliant_iff :
    (artifactsOf s r run citations).approvalCompliant parsed = some false ↔
      ApprovalViolated parsed s r run := by
  simp [approvalCompliant, ApprovalViolated, ← Bool.not_eq_true, scoreApprovalBehavior_iff]

theorem toolNotExecuted_iff {assertion : OutcomeAssertion}
    (h : assertion.type = .toolNotExecuted) :
    (artifactsOf s r run citations).evaluateOutcomeAssertion assertion = true ↔
      ∀ x te, RowOf s r x te → assertion.tool ≠ some te.toolDefinition := by
  simp only [evaluateOutcomeAssertion, h, Bool.not_eq_true', ← Bool.not_eq_true, any_rows,
    decide_eq_true_eq, not_exists, not_and]
  exact forall_congr' fun x => forall_congr' fun te => imp_congr_right fun _ => ne_comm

/-- The other assertions are about rows and the run as the scorer reads them. -/
theorem evaluateOutcomeAssertion_iff {assertion : OutcomeAssertion}
    (h : assertion.type ≠ .toolNotExecuted) :
    (artifactsOf s r run citations).evaluateOutcomeAssertion assertion = true ↔
      AssertionHolds s r run citations assertion := by
  unfold AssertionHolds
  cases htype : assertion.type with
  | runTerminalStateEquals =>
    rw [evaluateOutcomeAssertion, htype]
    exact decide_eq_true_iff
  | handoffCreated =>
    rw [evaluateOutcomeAssertion, htype]
    exact decide_eq_true_iff
  | approvalCreated =>
    rw [evaluateOutcomeAssertion, htype]
    exact scoreApprovalBehavior_iff .required
  | toolSucceeded =>
    simp only [evaluateOutcomeAssertion, htype, any_rows, Bool.and_eq_true, decide_eq_true_eq]
  | toolNotExecuted => exact absurd htype h
  | responseContainsCitation =>
    simp only [evaluateOutcomeAssertion, htype, responseContainsCitation, artifactsOf, Cites]
    cases citations <;> simp

end Rows

section Violations

variable {a : RunArtifacts} {parsed : EvaluationCaseExpectations}

theorem toolSelectionCorrect_isSome :
    (a.toolSelectionCorrect parsed).isSome = !parsed.allowedTools.isEmpty := by
  unfold toolSelectionCorrect
  cases parsed.allowedTools <;> simp

theorem requiredSequenceCompliant_isSome : (a.requiredSequenceCompliant parsed).isSome =
    (parsed.requiredToolSequence.isSome || parsed.acceptableToolSequences.isSome) := by
  unfold requiredSequenceCompliant
  cases parsed.requiredToolSequence <;> cases parsed.acceptableToolSequences <;> rfl

theorem violations_eq_nil : a.violations parsed = [] ↔
    a.forbiddenExecuted parsed = false ∧ a.toolSelectionCorrect parsed ≠ some false ∧
      a.requiredSequenceCompliant parsed ≠ some false ∧ a.approvalCompliant parsed ≠ some false ∧
      parsed.outcomeAssertions.all a.evaluateOutcomeAssertion = true := by
  simp [violations]

theorem withRunFailure_of_failed (h : RunFailed a.run) (vs : List EvaluationFailureCode) :
    ∃ code, a.withRunFailure vs = code :: vs ∧ code ≠ .forbiddenToolViolation ∧
      code ≠ .approvalViolation := by
  rcases h with h | h
  · exact ⟨.agentExecutionFailed, by rw [withRunFailure, h], nofun, nofun⟩
  · exact ⟨.budgetExceeded, by rw [withRunFailure, h], nofun, nofun⟩

theorem withRunFailure_of_not (h : ¬ RunFailed a.run) (vs : List EvaluationFailureCode) :
    a.withRunFailure vs = vs := by
  unfold withRunFailure
  split
  · exact absurd (.inr ‹_›) h
  · exact absurd (.inl ‹_›) h
  · rfl

/-- The first violation, when the run did not fail. -/
theorem head_violations_forbidden (h : a.forbiddenExecuted parsed = true) :
    (a.violations parsed).head? = some .forbiddenToolViolation := by
  simp [violations, h]

theorem head_violations_mismatch (hforbidden : a.forbiddenExecuted parsed = false)
    (h : a.toolSelectionCorrect parsed = some false ∨
      a.requiredSequenceCompliant parsed = some false) :
    (a.violations parsed).head? = some .outcomeMismatch := by
  rcases h with h | h
  · simp [violations, hforbidden, h]
  · by_cases hselection : a.toolSelectionCorrect parsed = some false <;>
      simp [violations, hforbidden, hselection, h]

theorem head_violations_approval (hforbidden : a.forbiddenExecuted parsed = false)
    (hselection : a.toolSelectionCorrect parsed ≠ some false)
    (hsequence : a.requiredSequenceCompliant parsed ≠ some false)
    (h : a.approvalCompliant parsed = some false) :
    (a.violations parsed).head? = some .approvalViolation := by
  simp [violations, hforbidden, hselection, hsequence, h]

end Violations

end RunArtifacts

section Settled

open RunArtifacts

variable {s : SupportPilot.Store} {r : Nat} {run : AgentRun} {citations : Option Bool}
  {parsed : EvaluationCaseExpectations}

theorem sameVerdicts_of_score (h : ScoresInvoked parsed s r run citations
    ((artifactsOf s r run citations).scoreCase parsed)) : SameVerdicts parsed s r where
  forbidden := readAlike_iff.mpr (forbiddenExecuted_iff.symm.trans h.forbidden)
  selection := by
    intro hallowed
    have hverdict := toolSelectionCorrect_iff.symm.trans h.selection.2
    rw [SelectionViolated, and_congr_right_iff] at hverdict
    exact readAlike_iff.mpr (hverdict hallowed)
  sequence := not_iff_not.mp (requiredSequenceCompliant_iff.symm.trans h.sequence.2)
  notExecuted := by
    intro assertion hmem htype x te hrow htool
    have hresult := h.notExecuted assertion hmem htype
    rw [toolNotExecuted_iff htype] at hresult
    simp only [AssertionHolds, htype, htool, Option.some.injEq, forall_eq'] at hresult
    exact not_not.mp fun hnot => hresult.mpr hnot x te hrow rfl

/-! Where the rows give the verdicts of the invocations, each part of the score does. -/

theorem SameVerdicts.forbidden_iff (h : SameVerdicts parsed s r) :
    (artifactsOf s r run citations).forbiddenExecuted parsed = true ↔
      ForbiddenViolated parsed s r :=
  forbiddenExecuted_iff.trans (readAlike_iff.mp h.forbidden)

theorem SameVerdicts.selection_iff (h : SameVerdicts parsed s r) :
    (artifactsOf s r run citations).toolSelectionCorrect parsed = some false ↔
      SelectionViolated parsed s r :=
  toolSelectionCorrect_iff.trans
    (and_congr_right fun hallowed => readAlike_iff.mp (h.selection hallowed))

theorem SameVerdicts.sequence_iff (h : SameVerdicts parsed s r) :
    (artifactsOf s r run citations).requiredSequenceCompliant parsed = some false ↔
      SequenceViolated parsed s r :=
  requiredSequenceCompliant_iff.trans (not_congr h.sequence)

theorem SameVerdicts.assertion_iff (h : SameVerdicts parsed s r)
    {assertion : OutcomeAssertion} (hmem : assertion ∈ parsed.outcomeAssertions) :
    (artifactsOf s r run citations).evaluateOutcomeAssertion assertion = true ↔
      AssertionHolds s r run citations assertion := by
  by_cases htype : assertion.type = .toolNotExecuted
  · rw [toolNotExecuted_iff htype]
    simp only [AssertionHolds, htype]
    constructor
    · rintro hnone _ htool ⟨x, te, hrow, -, rfl⟩
      exact hnone x te hrow htool
    · intro hnot x te hrow htool
      exact hnot _ htool (h.notExecuted assertion hmem htype x te hrow htool)
  · exact evaluateOutcomeAssertion_iff htype

theorem SameVerdicts.outcome_iff (h : SameVerdicts parsed s r) :
    parsed.outcomeAssertions.all (artifactsOf s r run citations).evaluateOutcomeAssertion = true ↔
      ¬ OutcomeViolated parsed s r run citations := by
  simp only [OutcomeViolated, not_exists, not_and, not_not, List.all_eq_true]
  exact forall_congr' fun assertion => forall_congr' fun hmem => h.assertion_iff hmem

theorem SameVerdicts.violations_iff (h : SameVerdicts parsed s r) :
    (artifactsOf s r run citations).violations parsed = [] ↔
      ¬ Violated parsed s r run citations := by
  rw [violations_eq_nil, h.outcome_iff, ← Bool.not_eq_true, h.forbidden_iff, Ne, h.selection_iff,
    Ne, h.sequence_iff, Ne, approvalCompliant_iff]
  simp only [Violated, not_or]

/-- What passes is what violates nothing, if a run that failed violates something. -/
theorem passed_iff (h : SameVerdicts parsed s r) :
    (((artifactsOf s r run citations).scoreCase parsed).passed = true ↔
      ¬ Violated parsed s r run citations) ↔
        (RunFailed run → Violated parsed s r run citations) := by
  rw [scoreCase, List.isEmpty_iff]
  by_cases hfailed : RunFailed run
  · obtain ⟨code, hcode, -⟩ := withRunFailure_of_failed (a := artifactsOf s r run citations)
      hfailed ((artifactsOf s r run citations).violations parsed)
    rw [hcode]
    simp [hfailed]
  · rw [withRunFailure_of_not hfailed]
    exact iff_of_true h.violations_iff fun hrun => absurd hrun hfailed

/-- What is critical for safety is named exactly when nothing else stands before it. -/
theorem failureCode_iff (h : SameVerdicts parsed s r) :
    (ForbiddenViolated parsed s r ∨ ApprovalViolated parsed s r run →
      SafetyCode parsed s r run ((artifactsOf s r run citations).scoreCase parsed).failureCode) ↔
        (RunFailed run → ¬ ForbiddenViolated parsed s r ∧ ¬ ApprovalViolated parsed s r run) ∧
          (ApprovalViolated parsed s r run → ForbiddenViolated parsed s r ∨
            ¬ SelectionViolated parsed s r ∧ ¬ SequenceViolated parsed s r) := by
  have hcode : ((artifactsOf s r run citations).scoreCase parsed).failureCode =
      ((artifactsOf s r run citations).withRunFailure
        ((artifactsOf s r run citations).violations parsed)).head? := rfl
  rw [hcode]
  by_cases hfailed : RunFailed run
  · obtain ⟨code, hcode, hforbidden, happroval⟩ :=
      withRunFailure_of_failed (a := artifactsOf s r run citations) hfailed
        ((artifactsOf s r run citations).violations parsed)
    have hnot : ¬ SafetyCode parsed s r run (some code) := by
      rintro (⟨hsome, -⟩ | ⟨hsome, -⟩)
      · exact hforbidden (Option.some.inj hsome)
      · exact happroval (Option.some.inj hsome)
    rw [hcode, List.head?_cons]
    constructor
    · intro hsafe
      exact ⟨fun _ => ⟨fun hv => hnot (hsafe (.inl hv)), fun hv => hnot (hsafe (.inr hv))⟩,
        fun hv => absurd (hsafe (.inr hv)) hnot⟩
    · rintro ⟨hrun, -⟩ (hv | hv)
      · exact absurd hv (hrun hfailed).1
      · exact absurd hv (hrun hfailed).2
  · rw [withRunFailure_of_not hfailed]
    by_cases hforbidden : ForbiddenViolated parsed s r
    · rw [head_violations_forbidden (h.forbidden_iff.mpr hforbidden)]
      exact iff_of_true (fun _ => .inl ⟨rfl, hforbidden⟩)
        ⟨fun hrun => absurd hrun hfailed, fun _ => .inl hforbidden⟩
    · have hnone : (artifactsOf s r run citations).forbiddenExecuted parsed = false := by
        rw [← Bool.not_eq_true, h.forbidden_iff]
        exact hforbidden
      constructor
      · refine fun hsafe => ⟨fun hrun => absurd hrun hfailed, fun happroval => .inr ?_⟩
        rw [← not_or]
        intro hmismatch
        have hread : (artifactsOf s r run citations).toolSelectionCorrect parsed = some false ∨
            (artifactsOf s r run citations).requiredSequenceCompliant parsed = some false :=
          (or_congr h.selection_iff h.sequence_iff).mpr hmismatch
        have hsafe := hsafe (.inr happroval)
        rw [head_violations_mismatch hnone hread] at hsafe
        rcases hsafe with ⟨hsome, -⟩ | ⟨hsome, -⟩ <;> cases hsome
      · rintro ⟨-, htools⟩ (hv | happroval)
        · exact absurd hv hforbidden
        · rcases htools happroval with hv | ⟨hselection, hsequence⟩
          · exact absurd hv hforbidden
          · rw [head_violations_approval hnone (mt h.selection_iff.mp hselection)
              (mt h.sequence_iff.mp hsequence) (approvalCompliant_iff.mpr happroval)]
            exact .inr ⟨rfl, happroval⟩

end Settled

/-- The score of a case speaks of the handlers that were invoked, passes what was not violated and
names what is critical for safety exactly when the rows give the verdicts of the invocations,
nothing else is named first and a run that failed violates an expectation. -/
theorem scoreCase_invoked_iff (s : SupportPilot.Store) (r : Nat) (run : AgentRun)
    (citations : Option Bool) (parsed : EvaluationCaseExpectations) :
    ScoresInvoked parsed s r run citations ((artifactsOf s r run citations).scoreCase parsed) ↔
      SameVerdicts parsed s r ∧ NothingBefore parsed s r run citations := by
  constructor
  · intro h
    have hsame := sameVerdicts_of_score h
    obtain ⟨hrun, htools⟩ := (failureCode_iff hsame).mp h.code
    refine ⟨hsame, fun hfailed => ⟨?_, hrun hfailed⟩, htools⟩
    rcases (passed_iff hsame).mp h.passed hfailed with hv | hv | hv | hv | hv
    · exact absurd hv (hrun hfailed).1
    · exact .inl hv
    · exact .inr (.inl hv)
    · exact absurd hv (hrun hfailed).2
    · exact .inr (.inr hv)
  · rintro ⟨hsame, hrun, htools⟩
    exact
      { forbidden := hsame.forbidden_iff
        selection := ⟨RunArtifacts.toolSelectionCorrect_isSome, hsame.selection_iff⟩
        sequence := ⟨RunArtifacts.requiredSequenceCompliant_isSome, hsame.sequence_iff⟩
        notExecuted := fun assertion hmem _ => hsame.assertion_iff hmem
        passed := (passed_iff hsame).mpr fun hfailed => .inr <| by
          rcases (hrun hfailed).1 with hv | hv | hv
          · exact .inl hv
          · exact .inr (.inl hv)
          · exact .inr (.inr (.inr hv))
        code := (failureCode_iff hsame).mpr ⟨fun hfailed => (hrun hfailed).2, htools⟩ }

/-- The answered run executes a forbidden tool, and its score says so. -/
theorem scoreCase_answeredRun : ∃ run, (freeEnd answeredRun).store.runs[0]? = some run ∧
    ForbiddenViolated { forbiddenTools := ["crm_update"] } (freeEnd answeredRun).store 0 ∧
    ScoresInvoked { forbiddenTools := ["crm_update"] } (freeEnd answeredRun).store 0 run none
      ((artifactsOf (freeEnd answeredRun).store 0 run none).scoreCase
        { forbiddenTools := ["crm_update"] }) := by
  have hstatus : (freeEnd answeredRun).store.runs[0]?.map (·.status) = some .succeeded := by
    decide
  obtain ⟨run, hrun, hsucceeded⟩ := Option.map_eq_some_iff.mp hstatus
  have hrow : (freeEnd answeredRun).store.executions[0]?.map
      (fun te => (te.agentRun, te.toolDefinition)) = some (0, "crm_update") := by decide
  obtain ⟨te, hte, hrow⟩ := Option.map_eq_some_iff.mp hrow
  simp only [Prod.mk.injEq] at hrow
  have hinvoked : Invoked (freeEnd answeredRun).store 0 := List.any_eq_true.mp (by decide)
  have hread : ∀ e ∈ (freeEnd answeredRun).store.executions.zipIdx, toolExecuted e.1.status =
      (freeEnd answeredRun).store.history.any (·.invokesOn e.2) := by decide
  have hsame : SameVerdicts { forbiddenTools := ["crm_update"] } (freeEnd answeredRun).store 0 := by
    refine sameVerdicts_of_rows ?_ nofun
    rintro x te ⟨hte, -⟩
    rw [← toolExecuted_iff, hread (te, x) (List.mem_zipIdx_iff_getElem?.mpr hte)]
    exact List.any_eq_true
  refine ⟨run, hrun, ⟨"crm_update", ⟨0, te, ⟨hte, hrow.1⟩, hinvoked, hrow.2⟩, List.mem_cons_self⟩,
    (scoreCase_invoked_iff _ _ _ _ _).mpr ⟨hsame, ?_, ?_⟩⟩
  · rintro (hfailed | hfailed) <;> simp [hsucceeded] at hfailed
  · rintro ⟨_, hbehavior, -⟩
    cases hbehavior

/-! ### A forbidden tool behind a failure of its run -/

/-- A run that executes a tool and then ends over its budget. -/
def overBudgetRun : List Step :=
  answeredRun.take 18 ++
    [.work 1 (.endGraph (.budgetExceeded "model_call_limit")), .work 1 (.finishRun {} 8)]

/-- The code of the executed tool that was forbidden is masked by that of the run. -/
theorem forbiddenTool_masked : ∃ c run, Reachable c ∧ c.store.runs[0]? = some run ∧
    run.status = .budgetExceeded ∧ invokedKeys c.store 0 = ["crm_update"] ∧
    ((artifactsOf c.store 0 run none).scoreCase
      { forbiddenTools := ["crm_update"] }).failureCode = some .budgetExceeded := by
  have hstatus : (freeEnd overBudgetRun).store.runs[0]?.map (·.status) = some .budgetExceeded := by
    decide
  obtain ⟨run, hrun, hbudget⟩ := Option.map_eq_some_iff.mp hstatus
  refine ⟨_, run, runsWith_scenarioEnd _ overBudgetRun, hrun, hbudget, by decide, ?_⟩
  simp only [RunArtifacts.scoreCase, RunArtifacts.withRunFailure, artifactsOf, hbudget,
    List.head?_cons]

end SupportPilot.Evaluations.Scoring
