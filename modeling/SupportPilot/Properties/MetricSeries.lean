import Mathlib.Data.List.Dedup
import Mathlib.Data.List.Sections
import Mathlib.Data.List.Perm.Subperm
import SupportPilot.Observability.Metrics

/-!
# The series of the metrics

A series is a metric with the values of its labels; the buckets of a histogram are not counted.
Whatever the recorders are called with, the values come from fixed sets, or they are routes, tasks,
tools and sweeps of the application; so there is a bound on the number of series that does not
depend on what was recorded.
-/

namespace SupportPilot.Observability

/-- The names of the application that the recorders take as label values as they are; `domains`
are those of its sweeps. -/
structure Names where
  routes : List String
  tasks : List String
  tools : List String
  domains : List String

/-- What one call of a recorder gives to the library. -/
inductive Recorded (N : Names) : List MetricCall → Prop
  | http (upper : String → String) (method : String) {route : String} (statusCode : Int)
      (hroute : route ∈ N.routes) : Recorded N (observeHttpRequest upper method route statusCode)
  | celeryTask {taskName : String} (outcome : String) (htask : taskName ∈ N.tasks) :
      Recorded N (observeCeleryTask taskName outcome)
  | agentRun (trigger outcome : String) (timed : Bool) :
      Recorded N (observeAgentRunTerminal trigger outcome timed)
  | llmRequest (provider outcome : String) (inputTokens outputTokens : Option Int) :
      Recorded N (observeLlmRequest provider outcome inputTokens outputTokens)
  | toolExecution {toolName : String} (outcome : String) (timed : Bool)
      (htool : toolName = "" ∨ toolName ∈ N.tools) :
      Recorded N (observeToolExecution toolName outcome timed)
  | policyDecision (decision : String) : Recorded N (observePolicyDecision decision)
  | approvalRequest : Recorded N observeApprovalRequestCreated
  | approvalDecision (outcome : String) : Recorded N (observeApprovalDecision outcome)
  | handoffCreated (reasonCode : String) : Recorded N (observeHandoffCreated reasonCode)
  | handoffTerminal (timed : Bool) : Recorded N (observeHandoffTerminal timed)
  | evaluationRun (outcome : String) : Recorded N (observeEvaluationRunTerminal outcome)
  | evaluationCase (outcome : String) (timed : Bool) :
      Recorded N (observeEvaluationCaseTerminal outcome timed)
  | evaluationRegression (category : String) : Recorded N (observeEvaluationRegression category)
  | deliveryCreated (channel : String) : Recorded N (observeDeliveryCreated channel)
  | deliveryAttempt (channel : String) : Recorded N (observeDeliveryAttemptClaimed channel)
  | deliveryRetry (channel : String) : Recorded N (observeDeliveryRetryScheduled channel)
  | deliveryRecovery (channel : String) : Recorded N (observeDeliveryClaimRecovery channel)
  | deliveryRedrive (channel : String) : Recorded N (observeDeliveryRedrive channel)
  | deliveryOutcome (channel outcome : String) (timed : Bool) (safeErrorCode : String) :
      Recorded N (observeDeliveryAttemptOutcome channel outcome timed safeErrorCode)
  | deliveryTerminal (channel outcome : String) (timed : Bool) :
      Recorded N (observeDeliveryTerminal channel outcome timed)
  | publicationFailure (channel source : String) :
      Recorded N (observeDeliveryBrokerPublicationFailure channel source)
  | recovery {domain : String} (count : Int) (hdomain : domain ∈ N.domains) :
      Recorded N (observeStuckRunRecovery domain count)
  | webhookResponse (statusCode : Int) : Recorded N (observeWebhookResponse statusCode)
  | webhookRejection (reason : String) : Recorded N (observeWebhookDestinationRejection reason)
  | backlog (backlog : String → Backlog) : Recorded N (refreshDeliveryBacklogGauges backlog)
  | channelReceived (channel : String) : Recorded N (observeChannelIngressReceived channel)
  | channelDuplicate (channel : String) : Recorded N (observeChannelIngressDuplicate channel)
  | signatureFailure (channel : String) : Recorded N (observeChannelSignatureFailure channel)
  | channelTerminal (channel outcome : String) (timed : Bool) :
      Recorded N (observeChannelIngressTerminal channel outcome timed)

/-! ## The values of the labels -/

def statusClasses : List String := ["2xx", "3xx", "4xx", "5xx", "other"]

/-- The values that each label of a metric may have. -/
def labelValues (N : Names) : Metric → List (List String)
  | .httpRequestsTotal => [httpMethods ++ ["OTHER"], N.routes, statusClasses]
  | .httpRequestDurationSeconds => [httpMethods ++ ["OTHER"], N.routes]
  | .celeryTasksTotal => [N.tasks, celeryOutcomes]
  | .celeryTaskDurationSeconds => [N.tasks]
  | .agentRunsTotal => [agentRunTriggers, agentRunOutcomes]
  | .agentRunDurationSeconds => [agentRunTriggers]
  | .llmRequestsTotal => [llmProviders ++ ["other"], llmOutcomes]
  | .llmRequestDurationSeconds => [llmProviders ++ ["other"]]
  | .llmTokensTotal => [llmProviders ++ ["other"], ["input", "output"]]
  | .toolExecutionsTotal => ["unknown" :: N.tools, toolExecutionOutcomes]
  | .toolExecutionDurationSeconds => ["unknown" :: N.tools]
  | .policyDecisionsTotal => [policyDecisions]
  | .approvalRequestsTotal | .handoffDurationSeconds => []
  | .approvalDecisionsTotal | .approvalWaitDurationSeconds => [approvalOutcomes]
  | .handoffsTotal => [handoffReasonCodes]
  | .evaluationRunsTotal => [evaluationRunOutcomes]
  | .evaluationCasesTotal | .evaluationCaseDurationSeconds => [evaluationCaseOutcomes]
  | .evaluationRegressionsTotal => [evaluationRegressionCategories]
  | .deliveriesCreatedTotal | .deliveryAttemptsTotal | .deliveryRetriesTotal
  | .deliveryClaimRecoveriesTotal | .deliveryRedrivesTotal | .deliveryEndToEndDurationSeconds
  | .deliveryDueCount | .deliveryExpiredClaimCount | .deliveryOldestDueAgeSeconds =>
    [deliveryChannels]
  | .deliveryAttemptDurationSeconds => [deliveryChannels, deliveryAttemptOutcomes]
  | .deliveryAttemptFailuresTotal => [deliveryChannels, deliveryErrorCategories]
  | .deliveryTerminalTotal => [deliveryChannels, deliveryTerminalOutcomes]
  | .deliveryBrokerPublicationFailuresTotal => [deliveryChannels, deliveryPublicationSources]
  | .stuckRunRecoveriesTotal => [N.domains]
  | .webhookResponsesTotal => [webhookStatusClasses]
  | .webhookDestinationRejectionsTotal => [webhookDestinationRejectionReasons]
  | .channelIngressTotal | .channelIngressDuplicatesTotal | .channelSignatureFailuresTotal =>
    [channelTypes]
  | .channelIngressProcessingSeconds => [channelTypes, channelIngressOutcomes]

variable {N : Names}

/-- Every label has one of the values of the metric. -/
def InRange (N : Names) (call : MetricCall) : Prop :=
  List.Forall₂ (· ∈ ·) call.labels (labelValues N call.metric)

theorem collapse_mem {allowed : List String} {fallback : String} (h : fallback ∈ allowed)
    (value : String) : collapse allowed fallback value ∈ allowed := by
  unfold collapse
  split
  · assumption
  · exact h

theorem collapse_mem_concat (allowed : List String) (fallback value : String) :
    collapse allowed fallback value ∈ allowed ++ [fallback] := by
  unfold collapse
  split
  · exact List.mem_append_left _ ‹_›
  · exact List.mem_append_right _ List.mem_cons_self

theorem statusClass_mem (statusCode : Int) : statusClass statusCode ∈ statusClasses := by
  unfold statusClass
  split_ifs
  · exact .head _
  · exact .tail _ (.head _)
  · exact .tail _ (.tail _ (.head _))
  · exact .tail _ (.tail _ (.tail _ (.head _)))
  · exact .tail _ (.tail _ (.tail _ (.tail _ (.head _))))

/-! ## One lemma for each shape of labels -/

section Shapes

variable {metric : Metric} {a b c : String} {as bs cs : List String} {sample : Sample}

theorem inRange_nil (h : labelValues N metric = []) : InRange N ⟨metric, [], sample⟩ := by
  rw [InRange, h]
  exact .nil

theorem inRange_one (h : labelValues N metric = [as]) (ha : a ∈ as) :
    InRange N ⟨metric, [a], sample⟩ := by
  rw [InRange, h]
  exact .cons ha .nil

theorem inRange_two (h : labelValues N metric = [as, bs]) (ha : a ∈ as) (hb : b ∈ bs) :
    InRange N ⟨metric, [a, b], sample⟩ := by
  rw [InRange, h]
  exact .cons ha (.cons hb .nil)

theorem inRange_three (h : labelValues N metric = [as, bs, cs]) (ha : a ∈ as) (hb : b ∈ bs)
    (hc : c ∈ cs) : InRange N ⟨metric, [a, b, c], sample⟩ := by
  rw [InRange, h]
  exact .cons ha (.cons hb (.cons hc .nil))

theorem inRange_observeIf {timed : Bool} {labels : List String}
    (h : InRange N ⟨metric, labels, .observe⟩) :
    ∀ call ∈ observeIf timed metric labels, InRange N call := by
  unfold observeIf
  split
  · exact List.forall_mem_singleton.mpr h
  · exact fun _ hcall => absurd hcall List.not_mem_nil

end Shapes

/-- The calls of every recorder are in range. -/
theorem Recorded.inRange {calls : List MetricCall} (h : Recorded N calls) :
    ∀ call ∈ calls, InRange N call := by
  have hprovider : ∀ provider, collapse llmProviders "other" provider ∈ llmProviders ++ ["other"] :=
    collapse_mem_concat _ _
  have htokens : ∀ provider tokenType n, tokenType ∈ ["input", "output"] →
      ∀ call ∈ observeTokens (collapse llmProviders "other" provider) tokenType n,
        InRange N call := by
    intro provider tokenType n htype
    cases n with
    | none => exact fun _ hcall => absurd hcall List.not_mem_nil
    | some n => exact List.forall_mem_singleton.mpr (inRange_two rfl (hprovider provider) htype)
  have hdelivery : ∀ channel, deliveryChannelLabel channel ∈ deliveryChannels :=
    collapse_mem (.head _)
  have hchannel : ∀ channel, channelLabel channel ∈ channelTypes :=
    collapse_mem (List.mem_of_getElem? (i := 2) rfl)
  cases h with
  | http upper method statusCode hroute =>
    have hmethod := collapse_mem_concat httpMethods "OTHER" (upper method)
    exact List.forall_mem_cons.mpr ⟨inRange_three rfl hmethod hroute (statusClass_mem statusCode),
      List.forall_mem_singleton.mpr (inRange_two rfl hmethod hroute)⟩
  | celeryTask outcome htask =>
    exact List.forall_mem_cons.mpr
      ⟨inRange_two rfl htask (collapse_mem (.tail _ (.head _)) outcome),
        List.forall_mem_singleton.mpr (inRange_one rfl htask)⟩
  | agentRun trigger outcome timed =>
    have htrigger : collapse agentRunTriggers "manual" trigger ∈ agentRunTriggers :=
      collapse_mem (.head _) trigger
    exact List.forall_mem_cons.mpr
      ⟨inRange_two rfl htrigger (collapse_mem (.tail _ (.head _)) outcome),
        inRange_observeIf (inRange_one rfl htrigger)⟩
  | llmRequest provider outcome inputTokens outputTokens =>
    have houtcome := collapse_mem (List.mem_of_getElem? (l := llmOutcomes) (i := 9) rfl) outcome
    exact List.forall_mem_append.mpr ⟨List.forall_mem_append.mpr ⟨List.forall_mem_cons.mpr
      ⟨inRange_two rfl (hprovider provider) houtcome,
        List.forall_mem_singleton.mpr (inRange_one rfl (hprovider provider))⟩,
      htokens _ _ _ (.head _)⟩, htokens _ _ _ (.tail _ (.head _))⟩
  | @toolExecution toolName outcome timed htool =>
    have hlabel : (if toolName = "" then "unknown" else toolName) ∈ "unknown" :: N.tools := by
      split
      · exact .head _
      · exact .tail _ (htool.resolve_left ‹_›)
    exact List.forall_mem_cons.mpr
      ⟨inRange_two rfl hlabel (collapse_mem (.tail _ (.head _)) outcome),
        inRange_observeIf (inRange_one rfl hlabel)⟩
  | policyDecision decision =>
    exact List.forall_mem_singleton.mpr
      (inRange_one rfl (collapse_mem (.tail _ (.head _)) decision))
  | approvalRequest => exact List.forall_mem_singleton.mpr (inRange_nil rfl)
  | approvalDecision outcome =>
    have houtcome :=
      collapse_mem (List.mem_of_getElem? (l := approvalOutcomes) (i := 2) rfl) outcome
    exact List.forall_mem_cons.mpr ⟨inRange_one rfl houtcome,
      List.forall_mem_singleton.mpr (inRange_one rfl houtcome)⟩
  | handoffCreated reasonCode =>
    exact List.forall_mem_singleton.mpr (inRange_one rfl (collapse_mem
      (List.mem_of_getElem? (l := handoffReasonCodes) (i := 4) rfl) reasonCode))
  | handoffTerminal timed => exact inRange_observeIf (inRange_nil rfl)
  | evaluationRun outcome =>
    exact List.forall_mem_singleton.mpr (inRange_one rfl (collapse_mem
      (List.mem_of_getElem? (l := evaluationRunOutcomes) (i := 2) rfl) outcome))
  | evaluationCase outcome timed =>
    have houtcome :=
      collapse_mem (List.mem_of_getElem? (l := evaluationCaseOutcomes) (i := 2) rfl) outcome
    exact List.forall_mem_cons.mpr ⟨inRange_one rfl houtcome,
      inRange_observeIf (inRange_one rfl houtcome)⟩
  | evaluationRegression category =>
    exact List.forall_mem_singleton.mpr (inRange_one rfl (collapse_mem (.head _) category))
  | deliveryCreated channel =>
    exact List.forall_mem_singleton.mpr (inRange_one rfl (hdelivery channel))
  | deliveryAttempt channel =>
    exact List.forall_mem_singleton.mpr (inRange_one rfl (hdelivery channel))
  | deliveryRetry channel =>
    exact List.forall_mem_singleton.mpr (inRange_one rfl (hdelivery channel))
  | deliveryRecovery channel =>
    exact List.forall_mem_singleton.mpr (inRange_one rfl (hdelivery channel))
  | deliveryRedrive channel =>
    exact List.forall_mem_singleton.mpr (inRange_one rfl (hdelivery channel))
  | deliveryOutcome channel outcome timed safeErrorCode =>
    have houtcome := collapse_mem
      (List.mem_of_getElem? (l := deliveryAttemptOutcomes) (i := 2) rfl) outcome
    refine List.forall_mem_append.mpr
      ⟨inRange_observeIf (inRange_two rfl (hdelivery channel) houtcome), ?_⟩
    split
    · exact fun _ hcall => absurd hcall List.not_mem_nil
    · exact List.forall_mem_singleton.mpr (inRange_two rfl (hdelivery channel) (collapse_mem
        (List.mem_of_getElem? (l := deliveryErrorCategories) (i := 13) rfl) _))
  | deliveryTerminal channel outcome timed =>
    exact List.forall_mem_cons.mpr ⟨inRange_two rfl (hdelivery channel)
        (collapse_mem (.tail _ (.head _)) outcome),
      inRange_observeIf (inRange_one rfl (hdelivery channel))⟩
  | publicationFailure channel source =>
    exact List.forall_mem_singleton.mpr
      (inRange_two rfl (hdelivery channel) (collapse_mem (.head _) source))
  | recovery count hdomain =>
    unfold observeStuckRunRecovery
    split
    · exact fun _ hcall => absurd hcall List.not_mem_nil
    · exact List.forall_mem_singleton.mpr (inRange_one rfl hdomain)
  | webhookResponse statusCode =>
    simp only [observeWebhookResponse]
    split
    · exact List.forall_mem_singleton.mpr (inRange_one rfl ‹_›)
    · exact fun _ hcall => absurd hcall List.not_mem_nil
  | webhookRejection reason =>
    exact List.forall_mem_singleton.mpr
      (inRange_one rfl (collapse_mem (.tail _ (.head _)) reason))
  | backlog backlog =>
    intro call hcall
    obtain ⟨channel, hmem, hcall⟩ := List.mem_flatMap.mp hcall
    refine List.forall_mem_cons.mpr ⟨inRange_one rfl hmem, List.forall_mem_cons.mpr
      ⟨inRange_one rfl hmem, List.forall_mem_singleton.mpr (inRange_one rfl hmem)⟩⟩ call hcall
  | channelReceived channel =>
    exact List.forall_mem_singleton.mpr (inRange_one rfl (hchannel channel))
  | channelDuplicate channel =>
    exact List.forall_mem_singleton.mpr (inRange_one rfl (hchannel channel))
  | signatureFailure channel =>
    exact List.forall_mem_singleton.mpr (inRange_one rfl (hchannel channel))
  | channelTerminal channel outcome timed =>
    exact inRange_observeIf
      (inRange_two rfl (hchannel channel) (collapse_mem (.tail _ (.head _)) outcome))

/-! ## The bound -/

theorem length_sections {α : Type} (ls : List (List α)) :
    ls.sections.length = ls.foldr (fun l n => l.length * n) 1 := by
  induction ls with
  | nil => rfl
  | cons l ls ih =>
    rw [List.foldr_cons, ← ih, List.sections, List.length_flatMap]
    simp [Nat.mul_comm]

namespace Metric

def all : List Metric :=
  [httpRequestsTotal, httpRequestDurationSeconds, celeryTasksTotal, celeryTaskDurationSeconds,
    agentRunsTotal, agentRunDurationSeconds, llmRequestsTotal, llmRequestDurationSeconds,
    llmTokensTotal, toolExecutionsTotal, toolExecutionDurationSeconds, policyDecisionsTotal,
    approvalRequestsTotal, approvalDecisionsTotal, approvalWaitDurationSeconds, handoffsTotal,
    handoffDurationSeconds, evaluationRunsTotal, evaluationCasesTotal,
    evaluationCaseDurationSeconds, evaluationRegressionsTotal, deliveriesCreatedTotal,
    deliveryAttemptsTotal, deliveryAttemptDurationSeconds, deliveryAttemptFailuresTotal,
    deliveryRetriesTotal, deliveryTerminalTotal, deliveryEndToEndDurationSeconds,
    deliveryClaimRecoveriesTotal, deliveryBrokerPublicationFailuresTotal,
    stuckRunRecoveriesTotal, deliveryRedrivesTotal, webhookResponsesTotal,
    webhookDestinationRejectionsTotal, deliveryDueCount, deliveryExpiredClaimCount,
    deliveryOldestDueAgeSeconds, channelIngressTotal, channelIngressProcessingSeconds,
    channelIngressDuplicatesTotal, channelSignatureFailuresTotal]

theorem mem_all (m : Metric) : m ∈ all := by
  cases m <;> decide

end Metric

/-- Every series that a call in range may belong to. -/
def possibleSeries (N : Names) : List (Metric × List String) :=
  Metric.all.flatMap fun m => (labelValues N m).sections.map (m, ·)

/-- How many series a metric may have. -/
def seriesCount (N : Names) : Metric → Nat
  | .httpRequestsTotal => 8 * (N.routes.length * 5)
  | .httpRequestDurationSeconds => 8 * N.routes.length
  | .celeryTasksTotal => N.tasks.length * 3
  | .celeryTaskDurationSeconds => N.tasks.length
  | .agentRunsTotal => 25
  | .llmRequestsTotal => 30
  | .llmTokensTotal => 6
  | .toolExecutionsTotal => (N.tools.length + 1) * 6
  | .toolExecutionDurationSeconds => N.tools.length + 1
  | .approvalRequestsTotal | .handoffDurationSeconds => 1
  | .approvalDecisionsTotal | .approvalWaitDurationSeconds | .evaluationRunsTotal
  | .evaluationCasesTotal | .evaluationCaseDurationSeconds | .webhookResponsesTotal => 4
  | .agentRunDurationSeconds | .handoffsTotal | .evaluationRegressionsTotal => 5
  | .deliveryAttemptDurationSeconds => 12
  | .deliveryAttemptFailuresTotal => 42
  | .deliveryTerminalTotal => 9
  | .deliveryBrokerPublicationFailuresTotal | .channelIngressProcessingSeconds => 6
  | .stuckRunRecoveriesTotal => N.domains.length
  | _ => 3

theorem length_possibleSeries : (possibleSeries N).length =
    48 * N.routes.length + 4 * N.tasks.length + 7 * N.tools.length + N.domains.length + 229 := by
  have hvalues : ∀ m, (labelValues N m).foldr (fun l n => l.length * n) 1 = seriesCount N m := by
    intro m
    cases m <;> simp only [labelValues, seriesCount, List.foldr_cons, List.foldr_nil,
      List.length_append, List.length_cons, Nat.mul_one] <;> rfl
  simp only [possibleSeries, List.length_flatMap, List.length_map, length_sections, hvalues]
  simp only [Metric.all, List.map_cons, List.map_nil, List.sum_cons, List.sum_nil, seriesCount]
  omega

def MetricCall.series (call : MetricCall) : Metric × List String := (call.metric, call.labels)

/-- The number of series that the recorders ever make. -/
theorem series_bounded {recorded : List (List MetricCall)}
    (h : ∀ calls ∈ recorded, Recorded N calls) :
    (recorded.flatten.map MetricCall.series).dedup.length ≤
      48 * N.routes.length + 4 * N.tasks.length + 7 * N.tools.length + N.domains.length + 229 := by
  rw [← length_possibleSeries]
  refine ((List.nodup_dedup _).subperm fun series hseries => ?_).length_le
  obtain ⟨call, hcall, rfl⟩ := List.mem_map.mp (List.mem_dedup.mp hseries)
  obtain ⟨calls, hcalls, hcall⟩ := List.mem_flatten.mp hcall
  exact List.mem_flatMap.mpr ⟨call.metric, call.metric.mem_all,
    List.mem_map.mpr ⟨call.labels,
      List.mem_sections.mpr ((h calls hcalls).inRange call hcall), rfl⟩⟩

/-- An application with one route, one task, one tool and two sweeps, and what two requests and a
run of the task have recorded. -/
def smallNames : Names :=
  ⟨["tickets:list"], ["sweep"], ["orders.lookup"], ["agent", "evaluation"]⟩

def smallRecord : List (List MetricCall) :=
  [observeHttpRequest id "GET" "tickets:list" 200, observeHttpRequest id "BREW" "tickets:list" 418,
    observeStuckRunRecovery "evaluation" 2, observeCeleryTask "sweep" "success"]

theorem smallRecord_bounded :
    (smallRecord.flatten.map MetricCall.series).dedup.length ≤ 48 * 1 + 4 * 1 + 7 * 1 + 2 + 229 :=
  series_bounded (N := smallNames) (List.forall_mem_cons.mpr ⟨.http id "GET" 200 (.head _),
    List.forall_mem_cons.mpr ⟨.http id "BREW" 418 (.head _),
      List.forall_mem_cons.mpr ⟨.recovery 2 (.tail _ (.head _)),
        List.forall_mem_singleton.mpr (.celeryTask "success" (.head _))⟩⟩⟩)

end SupportPilot.Observability
