import AcadID.Lib.Run
import AcadID.Gateway.Publication
import AcadID.Gateway.AssignedScopes
import AcadID.Gateway.Disclosure
import AcadID.Gateway.IssuedCredentials
import AcadID.Gateway.Visibility
import AcadID.Platform.Executions
import AcadID.Platform.Queue
import AcadID.Requests.Agreement
import AcadID.Requests.References
import AcadID.Requests.Settlement
import AcadID.Requests.Ledger
import AcadID.Requests.Escrow
import AcadID.Payments.Redelivery
import AcadID.Gateway.FailedHandlers
import AcadID.Requests.Lifecycle
import AcadID.Gateway.Separation
import AcadID.Gateway.PublicationOrder
import AcadID.Gateway.Duplicates
import AcadID.Gateway.Accounting
import AcadID.Gateway.Isolation
import AcadID.Gateway.TransferStatus
import AcadID.Gateway.Progression
import AcadID.Gateway.Onboarding
import AcadID.Gateway.InstitutionRefs
import AcadID.Gateway.StructureTree
import AcadID.Gateway.CurrentSession
import AcadID.Gateway.SealedSessions
import AcadID.Gateway.DisputedTransfers
import AcadID.Auth.RecoveryCodes
import AcadID.Auth.Accounts
import AcadID.Auth.Guard
import AcadID.Jobs.ResultValidation
import AcadID.Platform.CacheFreshness
import AcadID.Platform.EmergencyCap
import AcadID.Gateway.AinAllocation
import AcadID.Jobs.ValidationRetries
import AcadID.Jobs.WebhookDeliveries
import AcadID.Jobs.NotificationJobs
import AcadID.Gateway.Revocation
import AcadID.Jobs.BulkUploadParser
import AcadID.Platform.PolicyUpdates
import AcadID.Gateway.Attribution
import AcadID.Gateway.RolloverEffect
import AcadID.Auth.Applications
import AcadID.Gateway.RuleInForce
import AcadID.Gateway.RuleSetUpdates
import AcadID.Gateway.SetupDates
import AcadID.Gateway.GradePoints
import AcadID.Gateway.ScopeOptions
import AcadID.Jobs.RegisterWorkbooks
import AcadID.Auth.SecretText
import AcadID.Platform.Fingerprints
import AcadID.Platform.Redaction
import AcadID.Gateway.ScopeWalk
import AcadID.Gateway.ReopenRequests
import AcadID.Gateway.RequestRuns
import AcadID.Gateway.VerificationRuns
import AcadID.Gateway.LeadRuns
import AcadID.Auth.RecoveryCodeText
import AcadID.Lib.FloatingPoint
import AcadID.Platform.PolicyObjects
import AcadID.Platform.RetryPolicy
import AcadID.Platform.CacheFleet
import AcadID.Lib.Journal
import AcadID.Gateway.ShareLinks
import AcadID.Jobs.Drain
import AcadID.Jobs.WebhookEndpoints
import AcadID.Auth.StaffManagement
import AcadID.Platform.Retention
import AcadID.Auth.FounderMfa
import AcadID.Gateway.RolloverPreview
