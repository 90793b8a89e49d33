import SupportPilot.Evaluations.Comparison
import SupportPilot.Library.Outcomes
import SupportPilot.Properties.CaseScores

/-!
# What a comparison that passes says

A comparison passes when the thresholds hold of the numbers that it has rounded. A case without a
scored result has no flag, so that a threshold of zero counts it as clean.
-/

namespace SupportPilot.Evaluations.Comparison

open Library Scoring

/-! ## Thresholds -/

/-- The numbers that the thresholds are compared with. -/
structure Figures where
  passRate : Binary64
  passRateDrop : Binary64
  handoffRateIncrease : Binary64
  forbiddenToolViolations : Nat
  approvalViolations : Nat

/-- How many results have a scorer output with this flag. -/
def flagged (run : EvaluationRun) (flag : EvaluationScorerOutput → Bool) : Nat :=
  (run.initialResults.filter fun result => result.scorerOutput.any flag).length

/-- The share of the results that passed; of no results none has. -/
def passedShare (run : EvaluationRun) : Rat :=
  (run.initialResults.filter fun result => result.passed = some true).length /
    run.initialResults.length

def handoffShare (run : EvaluationRun) : Rat :=
  flagged run (·.handoffOccurred) / run.initialResults.length

def exactFigures (baseline candidate : EvaluationRun) : Figures where
  passRate := .finite (passedShare candidate)
  passRateDrop := .finite (passedShare baseline - passedShare candidate)
  handoffRateIncrease := .finite (handoffShare candidate - handoffShare baseline)
  forbiddenToolViolations := flagged candidate (·.forbiddenToolViolation)
  approvalViolations := flagged candidate (·.approvalViolation)

/-- The shares rounded to floats, and the differences of these, which are floats again, rounded to
six places. -/
def roundedFigures (baseline candidate : EvaluationRun) : Figures where
  passRate := .round (passedShare candidate)
  passRateDrop := (((Binary64.round (passedShare candidate)).sub
    (.round (passedShare baseline))).roundPlaces 6).neg
  handoffRateIncrease := ((Binary64.round (handoffShare candidate)).sub
    (.round (handoffShare baseline))).roundPlaces 6
  forbiddenToolViolations := flagged candidate (·.forbiddenToolViolation)
  approvalViolations := flagged candidate (·.approvalViolation)

theorem count_eq_flagged (run : EvaluationRun) (flag : EvaluationScorerOutput → Bool) :
    run.count flag = flagged run flag := List.countP_eq_length_filter

/-- A run without results is counted as one with one, which is in no share. -/
theorem div_total (run : EvaluationRun) (p : EvaluationResult → Bool) :
    ((run.initialResults.countP p : Nat) : Rat) / run.total =
      (run.initialResults.filter p).length / run.initialResults.length := by
  rw [List.countP_eq_length_filter, EvaluationRun.total]
  cases run.initialResults with
  | nil => simp
  | cons result rest => rw [Nat.max_eq_left (by simp)]

theorem passRate_eq_passedShare (run : EvaluationRun) : run.passRate = passedShare run :=
  div_total run _

theorem handoffRate_eq_handoffShare (run : EvaluationRun) : run.handoffRate = handoffShare run :=
  div_total run _

section Configured

variable (fields : List (String × ConfigValue))

/-- The threshold is switched on. -/
def Zero (name : String) : Prop := ∃ value, ConfigValue.get fields name = some value ∧
  value.truthy = true

/-- The threshold, where it is configured, has a number that satisfies the condition. -/
def Limited (number : ConfigValue → Except Raised Binary64) (name : String)
    (condition : Binary64 → Prop) : Prop :=
  ∀ value, ConfigValue.get fields name = some value → ∃ limit, number value = .ok limit ∧
    condition limit

/-- Every configured threshold holds. -/
structure Holds (number : ConfigValue → Except Raised Binary64) (figures : Figures) : Prop where
  minPassRate : Limited fields number "min_pass_rate" fun limit =>
    limit.le figures.passRate = true
  maxPassRateDrop : Limited fields number "max_pass_rate_drop" fun limit =>
    figures.passRateDrop.le limit = true
  zeroForbidden : Zero fields "zero_forbidden_tool_violations" →
    figures.forbiddenToolViolations = 0
  zeroApproval : Zero fields "zero_approval_violations" → figures.approvalViolations = 0
  maxHandoffRateIncrease : Limited fields number "max_handoff_rate_increase" fun limit =>
    figures.handoffRateIncrease.le limit = true

end Configured

section Evaluated

variable {decimal : CodePoint → Option (Fin 10)} {fields : List (String × ConfigValue)}
  {name category : String}

/-- The metrics and their differences are the rounded figures. -/
theorem roundedFigures_eq (baseline candidate : EvaluationRun) :
    roundedFigures baseline candidate =
      { passRate := candidate.metrics.passRate
        passRateDrop := (deltas baseline.metrics candidate.metrics).passRate.neg
        handoffRateIncrease := (deltas baseline.metrics candidate.metrics).handoffRate
        forbiddenToolViolations := candidate.count (·.forbiddenToolViolation)
        approvalViolations := candidate.count (·.approvalViolation) } := by
  simp only [roundedFigures, EvaluationRun.metrics, deltas, passRate_eq_passedShare,
    handoffRate_eq_handoffShare, count_eq_flagged]

/-- The thresholds could be evaluated, and all of them passed. -/
def AllPassed (rows : Except Raised (List ThresholdResult)) : Prop :=
  ∃ passed, rows = .ok passed ∧ ∀ row ∈ passed, row.passed = true

theorem numberThreshold_passed {ok : Binary64 → Bool} :
    AllPassed (numberThreshold decimal fields name category ok) ↔
      Limited fields (·.float decimal) name fun limit => ok limit = true := by
  unfold numberThreshold Limited AllPassed
  cases ConfigValue.get fields name with
  | none => exact ⟨fun _ => nofun, fun _ => ⟨[], rfl, nofun⟩⟩
  | some threshold =>
    constructor
    · rintro ⟨rows, hrows, hpassed⟩ value hvalue
      obtain ⟨limit, hlimit, hrows⟩ := bind_eq_ok.mp hrows
      obtain rfl := Except.ok.inj hrows
      exact ⟨limit, Option.some.inj hvalue ▸ hlimit, hpassed _ List.mem_cons_self⟩
    · intro hlimited
      obtain ⟨limit, hlimit, hok⟩ := hlimited threshold rfl
      exact ⟨_, bind_eq_ok.mpr ⟨limit, hlimit, rfl⟩, by simpa using hok⟩

theorem zeroThreshold_passed {count : Nat} :
    (∀ row ∈ zeroThreshold fields name category (.finite count), row.passed = true) ↔
      (Zero fields name → count = 0) := by
  unfold zeroThreshold Zero
  cases ConfigValue.get fields name with
  | none => simp
  | some value => cases hvalue : value.truthy <;> simp [hvalue]

theorem evaluateThresholds_passed {baseline candidate : EvaluationRun} :
    AllPassed (evaluateThresholds decimal candidate.metrics
      (deltas baseline.metrics candidate.metrics) fields) ↔
        Holds fields (·.float decimal) (roundedFigures baseline candidate) := by
  rw [roundedFigures_eq]
  constructor
  · rintro ⟨rows, h, hpassed⟩
    obtain ⟨minimum, hminimum, h⟩ := bind_eq_ok.mp h
    obtain ⟨drop, hdrop, h⟩ := bind_eq_ok.mp h
    obtain ⟨increase, hincrease, h⟩ := bind_eq_ok.mp h
    obtain rfl := Except.ok.inj h
    simp only [List.forall_mem_append] at hpassed
    obtain ⟨⟨⟨⟨hminimum', hdrop'⟩, hforbidden⟩, happroval⟩, hincrease'⟩ := hpassed
    exact ⟨numberThreshold_passed.mp ⟨minimum, hminimum, hminimum'⟩,
      numberThreshold_passed.mp ⟨drop, hdrop, hdrop'⟩, zeroThreshold_passed.mp hforbidden,
      zeroThreshold_passed.mp happroval,
      numberThreshold_passed.mp ⟨increase, hincrease, hincrease'⟩⟩
  · rintro ⟨hminimum, hdrop, hforbidden, happroval, hincrease⟩
    obtain ⟨minimum, hminimum, hminimum'⟩ := numberThreshold_passed.mpr hminimum
    obtain ⟨drop, hdrop, hdrop'⟩ := numberThreshold_passed.mpr hdrop
    obtain ⟨increase, hincrease, hincrease'⟩ := numberThreshold_passed.mpr hincrease
    refine ⟨_, bind_eq_ok.mpr ⟨minimum, hminimum, bind_eq_ok.mpr ⟨drop, hdrop,
      bind_eq_ok.mpr ⟨increase, hincrease, rfl⟩⟩⟩, ?_⟩
    simp only [List.forall_mem_append]
    exact ⟨⟨⟨⟨hminimum', hdrop'⟩, zeroThreshold_passed.mpr hforbidden⟩,
      zeroThreshold_passed.mpr happroval⟩, hincrease'⟩

/-- The thresholds of a run, none where its configuration is not an object. -/
def EvaluationRun.thresholds (run : EvaluationRun) : List (String × ConfigValue) :=
  match run.thresholdConfig with
  | .object fields => fields
  | _ => []

/-- The configuration is an object, or counts as an empty one. -/
def EvaluationRun.Configurable (run : EvaluationRun) : Prop :=
  ∃ fields, run.thresholdFields = .ok fields

theorem thresholdFields_eq {run : EvaluationRun} (h : run.thresholdFields = .ok fields) :
    fields = run.thresholds := by
  unfold EvaluationRun.thresholdFields at h
  unfold EvaluationRun.thresholds
  cases hconfig : run.thresholdConfig with
  | object stored =>
    rw [hconfig] at h
    exact (Except.ok.inj h).symm
  | _ =>
    rw [hconfig] at h
    dsimp only at h
    split at h
    · cases h
    · exact (Except.ok.inj h).symm

variable (decimal) in
/-- The comparison is reported, and it passed. -/
def Passes (baseline candidate : EvaluationRun) : Prop :=
  ∃ report, compareEvaluationRuns decimal baseline candidate = .ok report ∧ report.passed = true

/-- A comparison passes when the thresholds hold of the rounded numbers. -/
theorem passes_iff {baseline candidate : EvaluationRun}
    (hkeys : ∀ key, key ∈ baseline.caseKeys ↔ key ∈ candidate.caseKeys) :
    Passes decimal baseline candidate ↔ candidate.Configurable ∧
      Holds candidate.thresholds (·.float decimal) (roundedFigures baseline candidate) := by
  have hsame : (baseline.caseKeys.all (· ∈ candidate.caseKeys) &&
      candidate.caseKeys.all (· ∈ baseline.caseKeys)) = true := by
    simp [hkeys]
  unfold Passes compareEvaluationRuns
  rw [if_pos hsame]
  constructor
  · rintro ⟨report, h, hpassed⟩
    obtain ⟨fields, hfields, h⟩ := bind_eq_ok.mp h
    obtain ⟨rows, hrows, h⟩ := bind_eq_ok.mp h
    obtain rfl := Except.ok.inj h
    refine ⟨⟨fields, hfields⟩, ?_⟩
    rw [← thresholdFields_eq hfields, ← evaluateThresholds_passed]
    exact ⟨rows, hrows, by simpa using hpassed⟩
  · rintro ⟨⟨fields, hfields⟩, hholds⟩
    rw [← thresholdFields_eq hfields, ← evaluateThresholds_passed] at hholds
    obtain ⟨rows, hrows, hpassed⟩ := hholds
    exact ⟨_, bind_eq_ok.mpr ⟨fields, hfields, bind_eq_ok.mpr ⟨rows, hrows, rfl⟩⟩,
      by simpa using hpassed⟩

end Evaluated

/-! ## Clean runs -/

/-- The case has ended and was scored. -/
def EvaluationResult.Scored (result : EvaluationResult) : Prop :=
  result.status.terminal = true ∧ result.scorerOutput.isSome = true

/-- Each case of the run has a scored result. -/
def EveryCaseScored (run : EvaluationRun) : Prop :=
  ∀ key ∈ run.caseKeys, ∃ result ∈ run.initialResults, result.caseKey = key ∧ result.Scored

/-- A forbidden tool was executed for the case. -/
def ForbiddenExecuted (s : SupportPilot.Store) (result : EvaluationResult) : Prop :=
  ∃ r ∈ result.agentRuns, ForbiddenViolated result.expectations s r

/-- The handler of an action that requires an approval was invoked without one. -/
def RanUnapproved (s : SupportPilot.Store) (result : EvaluationResult) : Prop :=
  ∃ r ∈ result.agentRuns, ∃ x e, RowOf s r x e ∧ Invoked s x ∧
    (∃ evaluation, e.policyEvaluation = some evaluation ∧
      evaluation.decision = .requireApproval) ∧
    ∀ request, e.approvalRequest = some request → request.status ≠ .approved

/-- The candidate has a scored result for each case, and none of its cases did this. -/
def Clean (run : EvaluationRun) (bad : EvaluationResult → Prop) : Prop :=
  EveryCaseScored run ∧ ∀ result ∈ run.initialResults, ¬ bad result

/-- Each case has a scored result, and a result without the flag is of a case that did not do
this. -/
def Reported (run : EvaluationRun) (flag : EvaluationScorerOutput → Bool)
    (bad : EvaluationResult → Prop) : Prop :=
  EveryCaseScored run ∧
    ∀ result ∈ run.initialResults, result.scorerOutput.any flag = false → ¬ bad result

theorem clean_iff {run : EvaluationRun} {flag : EvaluationScorerOutput → Bool}
    {bad : EvaluationResult → Prop} (h : flagged run flag = 0) :
    Clean run bad ↔ Reported run flag bad := by
  rw [← count_eq_flagged] at h
  have hflag : ∀ result ∈ run.initialResults, result.scorerOutput.any flag = false := by
    intro result hresult
    simpa using List.countP_eq_zero.mp h result hresult
  exact and_congr_right fun _ =>
    ⟨fun hclean result hresult _ => hclean result hresult,
      fun hreported result hresult => hreported result hresult (hflag result hresult)⟩

section Gate

variable (decimal : CodePoint → Option (Fin 10)) (s : SupportPilot.Store)
  (baseline candidate : EvaluationRun)

/-- Every configured threshold holds of the exact numbers. -/
def HoldsExactly : Prop :=
  Holds candidate.thresholds (·.number decimal) (exactFigures baseline candidate)

/-- The comparison passes exactly when every threshold holds, and then, where a threshold of zero
is configured, the candidate is clean. -/
structure GateSound : Prop where
  exact : Passes decimal baseline candidate ↔ HoldsExactly decimal baseline candidate
  forbidden : Zero candidate.thresholds "zero_forbidden_tool_violations" →
    Passes decimal baseline candidate → Clean candidate (ForbiddenExecuted s)
  approval : Zero candidate.thresholds "zero_approval_violations" →
    Passes decimal baseline candidate → Clean candidate (RanUnapproved s)

/-- Neither rounding nor a value that cannot be read decides whether the thresholds hold, and where
they do and one of them is zero, every case was scored and reported. -/
structure GateCondition : Prop where
  rounding : candidate.Configurable ∧
      Holds candidate.thresholds (·.float decimal) (roundedFigures baseline candidate) ↔
    HoldsExactly decimal baseline candidate
  forbidden : Zero candidate.thresholds "zero_forbidden_tool_violations" →
    HoldsExactly decimal baseline candidate →
    Reported candidate (·.forbiddenToolViolation) (ForbiddenExecuted s)
  approval : Zero candidate.thresholds "zero_approval_violations" →
    HoldsExactly decimal baseline candidate →
    Reported candidate (·.approvalViolation) (RanUnapproved s)

end Gate

/-- A comparison is a sound gate exactly when its rounding decides nothing and the cases that a
threshold of zero counts as clean were scored and reported. -/
theorem compareEvaluationRuns_sound_iff (decimal : CodePoint → Option (Fin 10))
    (s : SupportPilot.Store)
    {baseline candidate : EvaluationRun}
    (hkeys : ∀ key, key ∈ baseline.caseKeys ↔ key ∈ candidate.caseKeys) :
    GateSound decimal s baseline candidate ↔ GateCondition decimal s baseline candidate := by
  have hpasses : Passes decimal baseline candidate ↔ _ := passes_iff hkeys
  constructor
  · intro hsound
    refine ⟨hpasses.symm.trans hsound.exact, fun hzero hholds => ?_, fun hzero hholds => ?_⟩
    · exact (clean_iff (hholds.zeroForbidden hzero)).mp
        (hsound.forbidden hzero (hsound.exact.mpr hholds))
    · exact (clean_iff (hholds.zeroApproval hzero)).mp
        (hsound.approval hzero (hsound.exact.mpr hholds))
  · intro hcondition
    have hexact := hpasses.trans hcondition.rounding
    refine ⟨hexact, fun hzero hpass => ?_, fun hzero hpass => ?_⟩
    · have hholds := hexact.mp hpass
      exact (clean_iff (hholds.zeroForbidden hzero)).mpr (hcondition.forbidden hzero hholds)
    · have hholds := hexact.mp hpass
      exact (clean_iff (hholds.zeroApproval hzero)).mpr (hcondition.approval hzero hholds)

/-! ### A candidate that has not started -/

/-- A run of one case that no worker has claimed. -/
def pendingRun (thresholdConfig : ConfigValue) : EvaluationRun where
  caseKeys := ["c1"]
  results := [{ caseKey := "c1" }]
  thresholdConfig

def zeroForbidden : ConfigValue := .object [("zero_forbidden_tool_violations", .bool true)]

/-- A run whose one case failed and was handed off. -/
def failedRun : EvaluationRun where
  caseKeys := ["c1"]
  results := [{
    caseKey := "c1"
    status := .failed
    passed := some false
    scorerOutput := some { handoffOccurred := true } }]

/-- A run whose one case passed, with the agent run of the store. -/
def scoredRun : EvaluationRun where
  caseKeys := ["c1"]
  results := [{
    caseKey := "c1"
    expectations := { forbiddenTools := ["payment_refund"] }
    status := .succeeded
    passed := some true
    scorerOutput := some {}
    agentRuns := [0] }]
  thresholdConfig := .object [("min_pass_rate", .decimal (9 / 10)),
    ("max_pass_rate_drop", .decimal (1 / 10)), ("zero_forbidden_tool_violations", .bool true),
    ("zero_approval_violations", .bool true), ("max_handoff_rate_increase", .int 0)]

theorem scoredRun_scored : EveryCaseScored scoredRun := by
  intro key hkey
  rw [List.mem_singleton.mp hkey]
  exact ⟨_, List.mem_cons_self, rfl, rfl, rfl⟩

/-- The only row of the agent run is of a tool that is not forbidden, and its call was approved. -/
theorem answeredRun_row {x : Nat} {e : ToolExecution}
    (h : RowOf (freeEnd answeredRun).store 0 x e) :
    e.toolDefinition = "crm_update" ∧ ∃ request, e.approvalRequest = some request ∧
      request.status = .approved := by
  have hrows : ∀ e ∈ (freeEnd answeredRun).store.executions, e.toolDefinition = "crm_update" ∧
      e.approvalRequest.map (·.status) = some .approved := by decide
  obtain ⟨htool, hstatus⟩ := hrows e (List.mem_of_getElem? h.1)
  exact ⟨htool, Option.map_eq_some_iff.mp hstatus⟩

theorem scoredRun_sound :
    GateSound (fun _ => none) (freeEnd answeredRun).store failedRun scoredRun ∧
      Passes (fun _ => none) failedRun scoredRun := by
  have hkeys : ∀ key, key ∈ failedRun.caseKeys ↔ key ∈ scoredRun.caseKeys := fun _ => Iff.rfl
  have hexact : HoldsExactly (fun _ => none) failedRun scoredRun := by
    constructor
    · rintro _ ⟨⟩
      exact ⟨_, rfl, by decide +kernel⟩
    · rintro _ ⟨⟩
      exact ⟨_, rfl, by decide +kernel⟩
    · exact fun _ => rfl
    · exact fun _ => rfl
    · rintro _ ⟨⟩
      exact ⟨_, rfl, by decide +kernel⟩
  have hrounded : Holds scoredRun.thresholds (·.float fun _ => none)
      (roundedFigures failedRun scoredRun) := by
    constructor
    · rintro _ ⟨⟩
      exact ⟨_, rfl, by decide +kernel⟩
    · rintro _ ⟨⟩
      exact ⟨_, rfl, by decide +kernel⟩
    · exact fun _ => rfl
    · exact fun _ => rfl
    · rintro _ ⟨⟩
      exact ⟨_, rfl, by decide +kernel⟩
  have hsound := (compareEvaluationRuns_sound_iff (fun _ => none) (freeEnd answeredRun).store
    hkeys).mpr
    { rounding := iff_of_true ⟨⟨_, rfl⟩, hrounded⟩ hexact
      forbidden := by
        refine fun _ _ => ⟨scoredRun_scored, ?_⟩
        rintro result hresult - ⟨r, hr, tool, ⟨x, e, hrow, -, rfl⟩, hforbidden⟩
        obtain rfl := List.mem_singleton.mp hresult
        obtain rfl := List.mem_singleton.mp hr
        rw [(answeredRun_row hrow).1] at hforbidden
        exact absurd hforbidden (by decide)
      approval := by
        refine fun _ _ => ⟨scoredRun_scored, ?_⟩
        rintro result hresult - ⟨r, hr, x, e, hrow, -, -, hnot⟩
        obtain rfl := List.mem_singleton.mp hresult
        obtain rfl := List.mem_singleton.mp hr
        obtain ⟨request, hrequest, happroved⟩ := (answeredRun_row hrow).2
        exact hnot request hrequest happroved }
  exact ⟨hsound, hsound.exact.mpr hexact⟩

theorem pendingRun_not_scored (config : ConfigValue) : ¬ EveryCaseScored (pendingRun config) := by
  intro h
  obtain ⟨result, hresult, -, hscored⟩ := h "c1" List.mem_cons_self
  obtain rfl := List.mem_singleton.mp (List.mem_of_mem_filter hresult)
  exact absurd hscored.1 (by decide)

/-- A run with no scored case passes the gate. -/
theorem pendingRun_passes : Passes (fun _ => none) (pendingRun zeroForbidden)
      (pendingRun zeroForbidden) ∧
    Zero (pendingRun zeroForbidden).thresholds "zero_forbidden_tool_violations" ∧
    ¬ EveryCaseScored (pendingRun zeroForbidden) := by
  refine ⟨(passes_iff fun _ => Iff.rfl).mpr ⟨⟨_, rfl⟩, nofun, nofun, fun _ => rfl, ?_, nofun⟩,
    ⟨.bool true, rfl, rfl⟩, pendingRun_not_scored _⟩
  rintro ⟨value, hvalue, -⟩
  cases hvalue

end SupportPilot.Evaluations.Comparison
