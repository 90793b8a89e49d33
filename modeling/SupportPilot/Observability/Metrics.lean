/-!
# Recorded metrics

What each recorder of the application gives to the metrics library. Durations are left out: a
histogram counts its observations, and `timed` says whether a duration is given at all.
-/

namespace SupportPilot.Observability

inductive Metric
  | httpRequestsTotal
  | httpRequestDurationSeconds
  | celeryTasksTotal
  | celeryTaskDurationSeconds
  | agentRunsTotal
  | agentRunDurationSeconds
  | llmRequestsTotal
  | llmRequestDurationSeconds
  | llmTokensTotal
  | toolExecutionsTotal
  | toolExecutionDurationSeconds
  | policyDecisionsTotal
  | approvalRequestsTotal
  | approvalDecisionsTotal
  | approvalWaitDurationSeconds
  | handoffsTotal
  | handoffDurationSeconds
  | evaluationRunsTotal
  | evaluationCasesTotal
  | evaluationCaseDurationSeconds
  | evaluationRegressionsTotal
  | deliveriesCreatedTotal
  | deliveryAttemptsTotal
  | deliveryAttemptDurationSeconds
  | deliveryAttemptFailuresTotal
  | deliveryRetriesTotal
  | deliveryTerminalTotal
  | deliveryEndToEndDurationSeconds
  | deliveryClaimRecoveriesTotal
  | deliveryBrokerPublicationFailuresTotal
  | stuckRunRecoveriesTotal
  | deliveryRedrivesTotal
  | webhookResponsesTotal
  | webhookDestinationRejectionsTotal
  | deliveryDueCount
  | deliveryExpiredClaimCount
  | deliveryOldestDueAgeSeconds
  | channelIngressTotal
  | channelIngressProcessingSeconds
  | channelIngressDuplicatesTotal
  | channelSignatureFailuresTotal
  deriving DecidableEq, Repr

/-- `inc`, `observe` and `set` -/
inductive Sample
  | inc (amount : Int)
  | observe
  | set (value : Int)
  deriving DecidableEq, Repr

/-- A sample of the series with these values of the metric's labels. -/
structure MetricCall where
  metric : Metric
  labels : List String
  sample : Sample := .inc 1
  deriving DecidableEq, Repr

/-- A value outside of a fixed set is replaced. -/
def collapse (allowed : List String) (fallback value : String) : String :=
  if value ∈ allowed then value else fallback

/-- An observation that is only made where there is a duration. -/
def observeIf (timed : Bool) (metric : Metric) (labels : List String) : List MetricCall :=
  if timed then [⟨metric, labels, .observe⟩] else []

/-! ## HTTP and Celery -/

def httpMethods : List String := ["GET", "POST", "PUT", "PATCH", "DELETE", "HEAD", "OPTIONS"]

/-- `upper` is `str.upper`. -/
def httpMethod (upper : String → String) (method : String) : String :=
  collapse httpMethods "OTHER" (upper method)

def statusClass (statusCode : Int) : String :=
  if statusCode / 100 = 2 then "2xx"
  else if statusCode / 100 = 3 then "3xx"
  else if statusCode / 100 = 4 then "4xx"
  else if statusCode / 100 = 5 then "5xx"
  else "other"

def observeHttpRequest (upper : String → String) (method route : String) (statusCode : Int) :
    List MetricCall :=
  let methodLabel := httpMethod upper method
  [⟨.httpRequestsTotal, [methodLabel, route, statusClass statusCode], .inc 1⟩,
    ⟨.httpRequestDurationSeconds, [methodLabel, route], .observe⟩]

def celeryOutcomes : List String := ["success", "failure", "retry"]

def observeCeleryTask (taskName outcome : String) : List MetricCall :=
  [⟨.celeryTasksTotal, [taskName, collapse celeryOutcomes "failure" outcome], .inc 1⟩,
    ⟨.celeryTaskDurationSeconds, [taskName], .observe⟩]

/-! ## Agents, tools, policies, approvals and handoffs -/

def agentRunTriggers : List String := ["manual", "conversation", "ticket", "api", "evaluation"]

def agentRunOutcomes : List String :=
  ["succeeded", "failed", "cancelled", "budget_exceeded", "handed_off"]

def observeAgentRunTerminal (trigger outcome : String) (timed : Bool) : List MetricCall :=
  let triggerLabel := collapse agentRunTriggers "manual" trigger
  ⟨.agentRunsTotal, [triggerLabel, collapse agentRunOutcomes "failed" outcome], .inc 1⟩ ::
    observeIf timed .agentRunDurationSeconds [triggerLabel]

def llmProviders : List String := ["fake", "openai"]

def llmOutcomes : List String :=
  ["success", "provider_authentication_failed", "provider_rate_limited", "provider_timeout",
    "provider_temporarily_unavailable", "provider_invalid_request",
    "provider_malformed_response", "provider_content_rejected", "provider_configuration_error",
    "provider_unknown_error"]

def observeTokens (providerLabel tokenType : String) : Option Int → List MetricCall
  | none => []
  | some n => [⟨.llmTokensTotal, [providerLabel, tokenType], .inc n⟩]

def observeLlmRequest (provider outcome : String) (inputTokens outputTokens : Option Int) :
    List MetricCall :=
  let providerLabel := collapse llmProviders "other" provider
  [⟨.llmRequestsTotal, [providerLabel, collapse llmOutcomes "provider_unknown_error" outcome],
      .inc 1⟩,
    ⟨.llmRequestDurationSeconds, [providerLabel], .observe⟩] ++
    observeTokens providerLabel "input" inputTokens ++
    observeTokens providerLabel "output" outputTokens

def toolExecutionOutcomes : List String :=
  ["succeeded", "failed", "timed_out", "cancelled", "blocked_by_policy", "approval_terminated"]

def observeToolExecution (toolName outcome : String) (timed : Bool) : List MetricCall :=
  let toolLabel := if toolName = "" then "unknown" else toolName
  ⟨.toolExecutionsTotal, [toolLabel, collapse toolExecutionOutcomes "failed" outcome], .inc 1⟩ ::
    observeIf timed .toolExecutionDurationSeconds [toolLabel]

def policyDecisions : List String := ["allow", "deny", "require_approval"]

def observePolicyDecision (decision : String) : List MetricCall :=
  [⟨.policyDecisionsTotal, [collapse policyDecisions "deny" decision], .inc 1⟩]

def observeApprovalRequestCreated : List MetricCall := [⟨.approvalRequestsTotal, [], .inc 1⟩]

def approvalOutcomes : List String := ["approved", "rejected", "expired", "cancelled"]

def observeApprovalDecision (outcome : String) : List MetricCall :=
  let label := collapse approvalOutcomes "expired" outcome
  [⟨.approvalDecisionsTotal, [label], .inc 1⟩, ⟨.approvalWaitDurationSeconds, [label], .observe⟩]

def handoffReasonCodes : List String :=
  ["customer_requested", "unsupported_action", "runtime_failure", "low_confidence",
    "policy_escalation"]

def observeHandoffCreated (reasonCode : String) : List MetricCall :=
  [⟨.handoffsTotal, [collapse handoffReasonCodes "policy_escalation" reasonCode], .inc 1⟩]

def observeHandoffTerminal (timed : Bool) : List MetricCall :=
  observeIf timed .handoffDurationSeconds []

/-! ## Evaluations -/

def evaluationRunOutcomes : List String := ["succeeded", "partial", "failed", "cancelled"]

def evaluationCaseOutcomes : List String := ["passed", "failed", "execution_failed", "cancelled"]

def evaluationRegressionCategories : List String :=
  ["pass_rate", "forbidden_tool", "approval_compliance", "policy_compliance", "handoff_rate"]

def observeEvaluationRunTerminal (outcome : String) : List MetricCall :=
  [⟨.evaluationRunsTotal, [collapse evaluationRunOutcomes "failed" outcome], .inc 1⟩]

def observeEvaluationCaseTerminal (outcome : String) (timed : Bool) : List MetricCall :=
  let label := collapse evaluationCaseOutcomes "execution_failed" outcome
  ⟨.evaluationCasesTotal, [label], .inc 1⟩ ::
    observeIf timed .evaluationCaseDurationSeconds [label]

def observeEvaluationRegression (category : String) : List MetricCall :=
  [⟨.evaluationRegressionsTotal,
    [collapse evaluationRegressionCategories "pass_rate" category], .inc 1⟩]

/-! ## Deliveries -/

def deliveryChannels : List String := ["notification", "webhook", "channel_response"]

def deliveryChannelLabel (channel : String) : String :=
  collapse deliveryChannels "notification" channel

/-- A counter of the deliveries of a channel. -/
def countDelivery (metric : Metric) (channel : String) : List MetricCall :=
  [⟨metric, [deliveryChannelLabel channel], .inc 1⟩]

def observeDeliveryCreated : String → List MetricCall := countDelivery .deliveriesCreatedTotal

def observeDeliveryAttemptClaimed : String → List MetricCall :=
  countDelivery .deliveryAttemptsTotal

def observeDeliveryRetryScheduled : String → List MetricCall :=
  countDelivery .deliveryRetriesTotal

def observeDeliveryClaimRecovery : String → List MetricCall :=
  countDelivery .deliveryClaimRecoveriesTotal

def observeDeliveryRedrive : String → List MetricCall := countDelivery .deliveryRedrivesTotal

def deliveryAttemptOutcomes : List String :=
  ["succeeded", "retryable_failure", "terminal_failure", "abandoned"]

def deliveryErrorCategories : List String :=
  ["timeout", "rate_limit", "connection", "dns", "tls", "blocked_destination", "remote_4xx",
    "remote_5xx", "auth", "configuration", "invalid_request", "redirect", "internal", "other"]

def errorCodeToCategory : List (String × String) :=
  [("webhook_invalid_url", "configuration"),
    ("webhook_destination_blocked", "blocked_destination"),
    ("webhook_dns_resolution_failed", "dns"), ("webhook_endpoint_disabled", "configuration"),
    ("webhook_signing_not_configured", "configuration"),
    ("webhook_redirect_rejected", "redirect"), ("webhook_timeout", "timeout"),
    ("webhook_connection_failed", "connection"), ("webhook_tls_error", "tls"),
    ("webhook_invalid_event_type", "configuration"),
    ("webhook_unexpected_transport_error", "internal"),
    ("webhook_delivery_unexpected_error", "internal"), ("webhook_delivery_missing", "internal"),
    ("webhook_not_found", "internal"), ("notification_delivery_unexpected_error", "internal"),
    ("notification_delivery_missing", "internal"),
    ("integration_not_configured", "configuration"), ("integration_disabled", "configuration"),
    ("integration_authentication_failed", "auth"), ("integration_permission_denied", "auth"),
    ("integration_rate_limited", "rate_limit"), ("integration_timeout", "timeout"),
    ("integration_temporarily_unavailable", "other"),
    ("integration_invalid_request", "invalid_request"),
    ("integration_not_found", "invalid_request"), ("integration_conflict", "invalid_request"),
    ("integration_malformed_response", "internal"),
    ("integration_configuration_error", "configuration"),
    ("integration_provider_not_supported", "configuration"),
    ("customer_not_found", "invalid_request"), ("order_not_found", "invalid_request"),
    ("shipment_not_found", "invalid_request"), ("ticket_not_found", "invalid_request"),
    ("payment_not_found", "invalid_request"),
    ("refund_not_allowed_by_provider", "invalid_request"),
    ("refund_already_exists", "invalid_request"),
    ("calendar_slot_unavailable", "invalid_request"),
    ("booking_already_exists", "invalid_request"), ("integration_unknown_error", "other")]

def deliveryErrorCategory (safeErrorCode : String) : String :=
  let chars := safeErrorCode.toList
  let marker := "webhook_http_".toList
  if marker <+: chars then
    match (chars.drop marker.length).head? with
    | some '4' => "remote_4xx"
    | some '5' => "remote_5xx"
    | _ => "other"
  else (errorCodeToCategory.lookup safeErrorCode).getD "other"

def observeDeliveryAttemptOutcome (channel outcome : String) (timed : Bool)
    (safeErrorCode : String) : List MetricCall :=
  let channelLabel := deliveryChannelLabel channel
  let outcomeLabel := collapse deliveryAttemptOutcomes "terminal_failure" outcome
  observeIf timed .deliveryAttemptDurationSeconds [channelLabel, outcomeLabel] ++
    if outcomeLabel = "succeeded" then []
    else [⟨.deliveryAttemptFailuresTotal, [channelLabel,
      collapse deliveryErrorCategories "other" (deliveryErrorCategory safeErrorCode)], .inc 1⟩]

def deliveryTerminalOutcomes : List String := ["delivered", "failed", "dead"]

def observeDeliveryTerminal (channel outcome : String) (timed : Bool) : List MetricCall :=
  let channelLabel := deliveryChannelLabel channel
  let outcomeLabel := collapse deliveryTerminalOutcomes "failed" outcome
  ⟨.deliveryTerminalTotal, [channelLabel, outcomeLabel], .inc 1⟩ ::
    observeIf (outcomeLabel = "delivered" && timed) .deliveryEndToEndDurationSeconds
      [channelLabel]

def deliveryPublicationSources : List String := ["initial", "sweeper"]

def observeDeliveryBrokerPublicationFailure (channel source : String) : List MetricCall :=
  [⟨.deliveryBrokerPublicationFailuresTotal,
    [deliveryChannelLabel channel, collapse deliveryPublicationSources "initial" source], .inc 1⟩]

def observeStuckRunRecovery (domain : String) (count : Int) : List MetricCall :=
  if count ≤ 0 then [] else [⟨.stuckRunRecoveriesTotal, [domain], .inc count⟩]

def webhookStatusClasses : List String := ["2xx", "3xx", "4xx", "5xx"]

def observeWebhookResponse (statusCode : Int) : List MetricCall :=
  let label := statusClass statusCode
  if label ∈ webhookStatusClasses then [⟨.webhookResponsesTotal, [label], .inc 1⟩] else []

def webhookDestinationRejectionReasons : List String :=
  ["invalid_url", "destination_blocked", "dns_error"]

def observeWebhookDestinationRejection (reason : String) : List MetricCall :=
  [⟨.webhookDestinationRejectionsTotal,
    [collapse webhookDestinationRejectionReasons "destination_blocked" reason], .inc 1⟩]

/-- The rows of a channel: how many are due and by how many seconds the oldest is overdue, and the
expired claims. -/
structure Backlog where
  due : Nat
  oldestDueAge : Nat
  expired : Nat

def refreshDeliveryBacklogGauges (backlog : String → Backlog) : List MetricCall :=
  deliveryChannels.flatMap fun channel =>
    [⟨.deliveryDueCount, [channel], .set (backlog channel).due⟩,
      ⟨.deliveryOldestDueAgeSeconds, [channel], .set (backlog channel).oldestDueAge⟩,
      ⟨.deliveryExpiredClaimCount, [channel], .set (backlog channel).expired⟩]

/-! ## Channels -/

def channelTypes : List String := ["web_chat", "email", "generic_webhook"]

def channelLabel (channel : String) : String := collapse channelTypes "generic_webhook" channel

/-- A counter of the events of a channel. -/
def countChannel (metric : Metric) (channel : String) : List MetricCall :=
  [⟨metric, [channelLabel channel], .inc 1⟩]

def observeChannelIngressReceived : String → List MetricCall := countChannel .channelIngressTotal

def observeChannelIngressDuplicate : String → List MetricCall :=
  countChannel .channelIngressDuplicatesTotal

def observeChannelSignatureFailure : String → List MetricCall :=
  countChannel .channelSignatureFailuresTotal

def channelIngressOutcomes : List String := ["processed", "failed"]

def observeChannelIngressTerminal (channel outcome : String) (timed : Bool) : List MetricCall :=
  observeIf timed .channelIngressProcessingSeconds
    [channelLabel channel, collapse channelIngressOutcomes "failed" outcome]

end SupportPilot.Observability
