import SupportPilot.ChannelIngress.Processing
import SupportPilot.Library.Binary64
import SupportPilot.Library.Json
import SupportPilot.Library.Processes
import SupportPilot.Library.Table
import SupportPilot.Properties.AmbiguousOutcome
import SupportPilot.Properties.ApprovalArguments
import SupportPilot.Properties.ApprovalLifecycle
import SupportPilot.Properties.AuthOutcomes
import SupportPilot.Properties.CaseScores
import SupportPilot.Properties.ChatPolls
import SupportPilot.Properties.Chunks
import SupportPilot.Properties.ConnectionControls
import SupportPilot.Properties.ConversationContext
import SupportPilot.Properties.ConversationHistory
import SupportPilot.Properties.CorrelationIds
import SupportPilot.Properties.DeliveryAttempts
import SupportPilot.Properties.DeliverySnapshots
import SupportPilot.Properties.EvaluationResults
import SupportPilot.Properties.Finalizers
import SupportPilot.Properties.GraphOutcomes
import SupportPilot.Properties.HandlerSection
import SupportPilot.Properties.HandlerStarts
import SupportPilot.Properties.IdempotencyKeys
import SupportPilot.Properties.InboundEvents
import SupportPilot.Properties.Ingestion
import SupportPilot.Properties.KeyedCalls
import SupportPilot.Properties.LostEvents
import SupportPilot.Properties.MetricSeries
import SupportPilot.Properties.ModelCalls
import SupportPilot.Properties.MultiprocessDirs
import SupportPilot.Properties.Normalization
import SupportPilot.Properties.OpenApprovals
import SupportPilot.Properties.OutboundDestinations
import SupportPilot.Properties.OutboxEvents
import SupportPilot.Properties.PersistableDecisions
import SupportPilot.Properties.PolicyDecisions
import SupportPilot.Properties.PolicyGate
import SupportPilot.Properties.PolicySnapshots
import SupportPilot.Properties.ProviderIsolation
import SupportPilot.Properties.RedactedValues
import SupportPilot.Properties.ReferenceFraming
import SupportPilot.Properties.RefreshCoordination
import SupportPilot.Properties.RequiredRoles
import SupportPilot.Properties.ResumeMessages
import SupportPilot.Properties.ResumedArguments
import SupportPilot.Properties.ResumedRuns
import SupportPilot.Properties.RetrievedReferences
import SupportPilot.Properties.RunComparisons
import SupportPilot.Properties.RunHandoffs
import SupportPilot.Properties.RunLifecycle
import SupportPilot.Properties.SignedBoundary
import SupportPilot.Properties.SignedOut
import SupportPilot.Properties.SignedRequests
import SupportPilot.Properties.StoredSecrets
import SupportPilot.Properties.KnowledgeSearch
import SupportPilot.Properties.StrandedDeliveries
import SupportPilot.Properties.TenantIsolation
import SupportPilot.Properties.ThreadIdentity
import SupportPilot.Properties.TicketUpdates
import SupportPilot.Properties.ToolBindings
import SupportPilot.Properties.ToolBudget
import SupportPilot.Properties.ToolOffers
import SupportPilot.Properties.ToolResultFrames
import SupportPilot.Properties.TurnRetries
import SupportPilot.Properties.WaitingRuns
import SupportPilot.Properties.WorkspaceOwners
import SupportPilot.Runtime.Clearance
import SupportPilot.Runtime.Ownership
import SupportPilot.Runtime.Sections
import SupportPilot.Library.CanonicalJson
import SupportPilot.Properties.Fingerprints
import SupportPilot.Properties.ToolSteps
import SupportPilot.Frontend.UrlParams
