import GovernedRuntime.Activation.Crash
import GovernedRuntime.Activation.Resume
import GovernedRuntime.Artifacts.Lockout
import GovernedRuntime.ProofGraph.OrderIndependence
import GovernedRuntime.Persistence.WriteLock
import GovernedRuntime.Audit.Append
import GovernedRuntime.Redaction.Noninterference
import GovernedRuntime.Tools.PlanRevisions
import GovernedRuntime.Review.ChallengeHistory
import GovernedRuntime.Tools.RejectedRevisions
import GovernedRuntime.Verification.SubjectExactness
import GovernedRuntime.Mutation.HostDispatch
import GovernedRuntime.Tools.ArtifactIdentity
import GovernedRuntime.Observation.Binding
import GovernedRuntime.Risk.PathSpelling
import GovernedRuntime.Archive.Staging
import GovernedRuntime.Mutation.Reconcile
import GovernedRuntime.Rails.DecisionFrame
import GovernedRuntime.Verification.LatestAttempt
import GovernedRuntime.Review.ObligationLifecycle
import GovernedRuntime.Review.ReleaseQuarantine
import GovernedRuntime.Adapters.Ipv6Grammar
import GovernedRuntime.Review.CapacityRecovery
import GovernedRuntime.Providers.ReportFidelity
import GovernedRuntime.Audit.CarriedOperations
import GovernedRuntime.Tools.CeremonyAgreement
import GovernedRuntime.Tools.RunCheck
import GovernedRuntime.Providers.JUnitFidelity
import GovernedRuntime.Adapters.GitChanges
import GovernedRuntime.Adapters.LockRetry
import GovernedRuntime.Audit.ControlReports
import GovernedRuntime.Config.PolicySnapshot
import GovernedRuntime.Discovery.DriftDigest
import GovernedRuntime.Risk.DeclarationLines
import GovernedRuntime.Shared.MarkdownSections
import GovernedRuntime.State.PathNormalForm
import GovernedRuntime.Persistence.ApprovalBoundary
import GovernedRuntime.Adapters.RepositoryChange
