import SentinelAI.Billing.Accounting
import SentinelAI.Billing.BestEffort
import SentinelAI.Billing.Completeness
import SentinelAI.Billing.ModelCallQuota
import SentinelAI.Billing.SearchQuota
import SentinelAI.Cases.Chronology
import SentinelAI.Cases.Evidence
import SentinelAI.Cases.Notes
import SentinelAI.Cases.Saving
import SentinelAI.Cases.SlaFlags
import SentinelAI.Console.Session
import SentinelAI.Core.OpenCircuit
import SentinelAI.Db.Deployment
import SentinelAI.Detection.CircuitBreaking
import SentinelAI.Detection.Components
import SentinelAI.Detection.ConcurrentRuns
import SentinelAI.Detection.DegradedModel
import SentinelAI.Detection.EnabledRules
import SentinelAI.Detection.IncidentCover
import SentinelAI.Detection.IncidentRollup
import SentinelAI.Detection.MoreEvidence
import SentinelAI.Detection.Routing
import SentinelAI.Detection.RuleRun
import SentinelAI.Detection.TriageSafety
import SentinelAI.Records.Accountability
import SentinelAI.Records.Bill
import SentinelAI.Records.Explained
import SentinelAI.Records.History
import SentinelAI.Records.OfflineRuns
import SentinelAI.Records.References
import SentinelAI.Records.Requests
import SentinelAI.Records.Statements
import SentinelAI.Records.Traffic
import SentinelAI.Records.Trail
import SentinelAI.Security.AccountAuthority
import SentinelAI.Security.ApiIsolation
import SentinelAI.Security.ApprovalGate
import SentinelAI.Security.AuditConcurrency
import SentinelAI.Security.AuditPreimage
import SentinelAI.Security.Containment
import SentinelAI.Security.Execution
import SentinelAI.Security.ExternalEffects
import SentinelAI.Security.IdentityLinks
import SentinelAI.Security.LostUpdate
import SentinelAI.Security.NaturalKeys
import SentinelAI.Security.PlannedTargets
import SentinelAI.Security.ProviderIsolation
import SentinelAI.Security.RateLimiting
import SentinelAI.Security.Refusals
import SentinelAI.Security.TenantIsolation
import SentinelAI.Security.TokenAdmission
import SentinelAI.Splunk.Interchange
import SentinelAI.Tenancy.LastWriter
import SentinelAI.Tenancy.ProviderLockout
import SentinelAI.Tenancy.Restart
import SentinelAI.Tenancy.SecretPrivacy
import SentinelAI.Tenancy.UsableCredentials
