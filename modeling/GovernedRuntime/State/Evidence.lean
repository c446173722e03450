/-
The evidence records of a session (`src/state/evidence-*.ts`, `risk-declaration.ts`,
`review-cycles.ts`).  A part of a record that no function below reads is kept as
its canonical JSON text, so that digests over the whole record still cover it.
-/
import Mathlib.Data.List.Basic

namespace GovernedRuntime.State

/-- Canonical JSON of a value whose content no modelled function inspects. -/
abbrev CanonicalText := String

/-- ISO-8601 text of an instant, compared as text unless it is parsed. -/
abbrev Timestamp := String

/-! ### Risk vocabulary -/

inductive TaskClass
  | trivial
  | standard
  | highRisk
deriving DecidableEq, Repr

/-- `TASK_CLASS_ORDER`. -/
def TaskClass.order : TaskClass → Nat
  | .trivial => 0
  | .standard => 1
  | .highRisk => 2

def maxTaskClass (a b : TaskClass) : TaskClass :=
  if b.order ≤ a.order then a else b

theorem order_maxTaskClass (a b : TaskClass) :
    (maxTaskClass a b).order = max a.order b.order := by
  cases a <;> cases b <;> decide

theorem TaskClass.order_injective {a b : TaskClass} (heq : a.order = b.order) : a = b := by
  cases a <;> cases b <;> first | rfl | exact absurd heq (by decide)

inductive SpecificRiskTrigger
  | stateIntegrity
  | auditAuthority
  | identityBoundary
  | approvalAuthority
  | policyAuthority
  | migration
  | distributionIntegrity
  | commandContract
deriving DecidableEq, Repr

def SpecificRiskTrigger.name : SpecificRiskTrigger → String
  | .stateIntegrity => "state_integrity"
  | .auditAuthority => "audit_authority"
  | .identityBoundary => "identity_boundary"
  | .approvalAuthority => "approval_authority"
  | .policyAuthority => "policy_authority"
  | .migration => "migration"
  | .distributionIntegrity => "distribution_integrity"
  | .commandContract => "command_contract"

/-- Every specific trigger, and the marker that never requires a claim. -/
inductive RiskTrigger
  | specific (trigger : SpecificRiskTrigger)
  | ceremonyOnly
deriving DecidableEq, Repr

structure RiskTriggerRule where
  trigger : SpecificRiskTrigger
  pattern : String
deriving DecidableEq, Repr

inductive TicketRiskDeclaration
  | absent
  | declared (taskClass : TaskClass)
  | conflict (first : TaskClass) (others : List TaskClass)
  | invalid (raw : String)
deriving DecidableEq, Repr

inductive DeclarationKind
  | absent
  | declared
  | conflict
  | invalid
deriving DecidableEq, Repr

def TicketRiskDeclaration.kind : TicketRiskDeclaration → DeclarationKind
  | .absent => .absent
  | .declared _ => .declared
  | .conflict _ _ => .conflict
  | .invalid _ => .invalid

/-- The floor a declaration puts under the effective class. -/
def ticketRiskDeclarationFloor : TicketRiskDeclaration → Option TaskClass
  | .declared taskClass => some taskClass
  | .conflict first others => some (others.foldl maxTaskClass first)
  | .absent => none
  | .invalid _ => none

def resolveEffectiveTaskClass (computed : TaskClass)
    (declaration : TicketRiskDeclaration) (escalated : Option TaskClass) :
    TaskClass :=
  let floored :=
    match ticketRiskDeclarationFloor declaration with
    | some floor => maxTaskClass computed floor
    | none => computed
  match escalated with
  | some raised => maxTaskClass floored raised
  | none => floored

structure TicketEvidence where
  text : String
  digest : String
  createdAt : Timestamp
  riskDeclaration : TicketRiskDeclaration
  /-- `source`, `inputOrigin`, `references`. -/
  other : CanonicalText
deriving DecidableEq, Repr

/-! ### Reviews and decisions -/

inductive LoopVerdict
  | accept
  | changesRequested
  | unableToReview
deriving DecidableEq, Repr

inductive RevisionDelta
  | none
  | minor
  | major
deriving DecidableEq, Repr

inductive ReviewCompletion
  | pending
  | reviewerAccepted
  | reviewExhausted
deriving DecidableEq, Repr

def ReviewCompletion.name : ReviewCompletion → String
  | .pending => "pending"
  | .reviewerAccepted => "reviewer_accepted"
  | .reviewExhausted => "review_exhausted"

inductive ReviewVerdict
  | approve
  | approveWithGovernanceOverride
  | changesRequested
  | reject
deriving DecidableEq, Repr

def isApprovalVerdict : ReviewVerdict → Bool
  | .approve | .approveWithGovernanceOverride => true
  | .changesRequested | .reject => false

/-- The three assurance tiers, weakest first. -/
inductive ActorAssurance
  | bestEffort
  | claimValidated
  | idpVerified
deriving DecidableEq, Repr

def ActorAssurance.ordinal : ActorAssurance → Nat
  | .bestEffort => 0
  | .claimValidated => 1
  | .idpVerified => 2

def ActorAssurance.name : ActorAssurance → String
  | .bestEffort => "best_effort"
  | .claimValidated => "claim_validated"
  | .idpVerified => "idp_verified"

def isAssuranceAtLeast (actual required : ActorAssurance) : Bool :=
  required.ordinal ≤ actual.ordinal

inductive ActorSource
  | env
  | git
  | claim
  | oidc
  | unknown
deriving DecidableEq, Repr

structure DecisionIdentity where
  actorId : String
  actorEmail : Option String
  actorDisplayName : Option String
  actorSource : ActorSource
  actorAssurance : ActorAssurance
deriving DecidableEq, Repr

structure ReviewDecision where
  verdict : ReviewVerdict
  rationale : String
  decidedAt : Timestamp
  decisionIdentity : DecisionIdentity
deriving DecidableEq, Repr

structure SelfReviewLoop where
  iteration : Nat
  reviewCycle : Nat
  maxIterations : Nat
  prevDigest : Option String
  currDigest : String
  revisionDelta : RevisionDelta
  verdict : LoopVerdict
deriving DecidableEq, Repr

structure ReviewCycles where
  plan : Nat
  architecture : Nat
  implementation : Nat
deriving DecidableEq, Repr

structure ImplEvidence where
  implementationId : String
  changedFiles : List String
  domainFiles : List String
  digest : String
  diffDigest : Option String
  executedAt : Timestamp
deriving DecidableEq, Repr

structure ImplReviewResult where
  iteration : Nat
  reviewCycle : Nat
  maxIterations : Nat
  prevDigest : Option String
  currDigest : String
  revisionDelta : RevisionDelta
  verdict : LoopVerdict
  executedAt : Timestamp
deriving DecidableEq, Repr

structure ImplementationRework where
  rejectedDigest : String
  exhausted : Bool
deriving DecidableEq, Repr

inductive ReviewObligationType
  | plan
  | implement
  | architecture
  | review
deriving DecidableEq, Repr

inductive ReviewObligationStatus
  | pending
  | fulfilled
  | consumed
  | blocked
deriving DecidableEq, Repr

structure ReviewObligation where
  obligationId : String
  obligationType : ReviewObligationType
  iteration : Nat
  planVersion : Nat
  createdAt : Timestamp
  status : ReviewObligationStatus
  invocationId : Option String
  blockedCode : Option String
  consumedAt : Option Timestamp
  subjectDigest : String
  claimDeclarationsDigest : Option String
  other : CanonicalText
deriving DecidableEq, Repr

structure ReviewInvocation where
  invocationId : String
  obligationId : String
  obligationType : ReviewObligationType
  transportVersion : Option Nat
  invocationMode : Option String
  nativeProvenance : Option CanonicalText
  findingsHash : String
  capturedVerdict : Option String
  other : CanonicalText
deriving DecidableEq, Repr

structure ReviewAssuranceState where
  obligations : List ReviewObligation
  invocations : List ReviewInvocation
  /-- `attempts`, `dispatches`, `reviewCapacityLock` and the schema version. -/
  other : CanonicalText
deriving DecidableEq, Repr

/-! ### Validation -/

inductive VerificationCandidateKind
  | build
  | test
  | lint
  | typecheck
  | format
  | security
  | coverage
deriving DecidableEq, Repr

inductive ValidationOutcome
  | supported
  | inconclusive
  | blocked
deriving DecidableEq, Repr

structure AssertionIdentity where
  providerId : String
  localId : String
deriving DecidableEq, Repr

structure StructuredAssertionEvidence where
  assertion : AssertionIdentity
  providerId : String
  /-- `status`, names, source file, duration and failure details. -/
  other : CanonicalText
deriving DecidableEq, Repr

inductive AssertionExtractionReasonCode
  | reportMissing
  | reportEmpty
  | reportAmbiguous
  | reportTooLarge
  | pathRejected
  | parseFailed
  | providerFormatMismatch
  | bindingFormatUnsupported
  | identityCodecMissing
  | invalidLocalId
  | assertionIdentityAmbiguous
  | assertionProviderMismatch
deriving DecidableEq, Repr

inductive AssertionBindingCapability
  | assertion
  | aggregate
  | checkOnly
deriving DecidableEq, Repr

inductive AssertionExtractionResult
  | notConfigured
  | blocked (attemptId : String) (reasonCode : AssertionExtractionReasonCode)
      (reason : String)
  | inconclusive (attemptId : String) (reasonCode : AssertionExtractionReasonCode)
      (reason : String)
  | extracted (attemptId providerId : String)
      (bindingCapability : AssertionBindingCapability)
      (assertions : List StructuredAssertionEvidence) (other : CanonicalText)
deriving DecidableEq, Repr

structure ValidationResult where
  checkId : String
  passed : Bool
  executedAt : Timestamp
  kind : VerificationCandidateKind
  candidateId : Option String
  command : String
  exitCode : Int
  outputDigest : String
  timedOut : Bool
  outcome : ValidationOutcome
  assertionExtraction : Option AssertionExtractionResult
  other : CanonicalText
deriving DecidableEq, Repr

inductive ValidationScope
  | baseline (planDigest : String)
  | implementation (implementationId implementationDigest : String)
deriving DecidableEq, Repr

structure ValidationAttempt where
  attemptId : String
  scope : ValidationScope
  executionObservation : CanonicalText
  result : ValidationResult
deriving DecidableEq, Repr

/-- A command that was not found or timed out never produced a verdict. -/
def isExecutionError (result : ValidationResult) : Bool :=
  result.timedOut || result.exitCode == 124 || result.exitCode == 127

inductive ValidationDisposition
  | supported
  | artifactFailure
  | technicalBlock
deriving DecidableEq, Repr

def AssertionExtractionResult.isInconclusive : AssertionExtractionResult → Bool
  | .inconclusive _ _ _ => true
  | _ => false

def classifyValidationDisposition (result : ValidationResult) :
    ValidationDisposition :=
  if result.passed && result.outcome == .supported then .supported
  else if result.outcome == .blocked then .technicalBlock
  else if isExecutionError result then .technicalBlock
  else if result.assertionExtraction.any (·.isInconclusive) then .technicalBlock
  else .artifactFailure

def isTechnicalValidationBlock (result : ValidationResult) : Bool :=
  classifyValidationDisposition result == .technicalBlock

inductive AssertionCapability
  | unsupported
  /-- The output argument of a report collected for one run, if it is. -/
  | structured (outputArgumentTemplate : Option String)
deriving DecidableEq, Repr

structure VerificationCandidate where
  candidateId : String
  kind : VerificationCandidateKind
  command : String
  assertionCapability : AssertionCapability
  other : CanonicalText
deriving DecidableEq, Repr

/-! ### Host mutations -/

inductive MutationEpisodeStatus
  | dispatchAuthorized
  | completed
deriving DecidableEq, Repr

inductive MutationOutcome
  | success
  | failure
  | unknown
deriving DecidableEq, Repr

inductive MutationEvidenceStatus
  | ineligible
  | eligible
  | stale
deriving DecidableEq, Repr

structure MutationEpisode where
  episodeId : String
  hostCallId : String
  toolName : String
  runtimeInstanceId : String
  leaseGeneration : Nat
  authorizedAt : Timestamp
  status : MutationEpisodeStatus
  completedAt : Option Timestamp
  outcome : Option MutationOutcome
  implementationDigest : Option String
  evidenceStatus : MutationEvidenceStatus
deriving DecidableEq, Repr

structure MutationEpisodeResolution where
  resolutionId : String
  hostCallId : String
  resolvedAt : Timestamp
  resolvingRuntimeInstanceId : String
  resolvingLeaseGeneration : Nat
deriving DecidableEq, Repr

def isResolved (resolutions : List MutationEpisodeResolution)
    (episode : MutationEpisode) : Bool :=
  resolutions.any (·.hostCallId == episode.hostCallId)

/-- Open dispatches without an append-only resolution. -/
def unresolvedMutationEpisodes (episodes : List MutationEpisode)
    (resolutions : List MutationEpisodeResolution) : List MutationEpisode :=
  episodes.filter fun episode =>
    episode.status == .dispatchAuthorized && !isResolved resolutions episode

/-- Episodes that can make the reviewed subject stale: not completed and not
resolved, or completed without being bound to an implementation. -/
def countUnboundMutationEpisodes (episodes : List MutationEpisode)
    (resolutions : List MutationEpisodeResolution) : Nat :=
  (episodes.filter fun episode =>
    (episode.status == .dispatchAuthorized && !isResolved resolutions episode) ||
      (episode.status == .completed && episode.implementationDigest == none &&
        !isResolved resolutions episode)).length

/-- The latest resolution time, as text. -/
def latestUnknownOutcomeResolvedAt
    (resolutions : List MutationEpisodeResolution) : Option Timestamp :=
  resolutions.foldl
    (fun latest resolution =>
      match latest with
      | none => some resolution.resolvedAt
      | some time =>
          if time < resolution.resolvedAt then some resolution.resolvedAt
          else some time)
    none

/-! ### Reduced ceremony and risk -/

structure VerificationAttemptRef where
  checkId : String
  attemptId : String
  executedAt : Timestamp
deriving DecidableEq, Repr

structure ReducedCeremonyDecision where
  reason : String
  effectiveTaskClass : TaskClass
  computedMinimumTaskClass : TaskClass
  declaredTaskClass : Option TaskClass
  declarationKind : DeclarationKind
  ticketDigest : Option String
  escalatedTaskClass : Option TaskClass
  touchedSurfaces : List String
  implementationId : String
  implementationDigest : String
  policyDigest : String
  checkIds : List String
  attempts : List VerificationAttemptRef
  decidedAt : Timestamp
deriving DecidableEq, Repr

structure ImplementationRiskAssessment where
  computedMinimumTaskClass : TaskClass
  effectiveTaskClass : TaskClass
  declaredTaskClass : Option TaskClass
  declarationKind : DeclarationKind
  ticketDigest : Option String
  escalatedTaskClass : Option TaskClass
  touchedSurfaces : List String
  riskTriggers : List RiskTrigger
  assessedFileCount : Nat
  implementationDigest : String
deriving DecidableEq, Repr

/-- A persisted gate: open, or closed with the reason shown to the user. -/
inductive RiskGate
  | clear
  | blocked (code message : String)
deriving DecidableEq, Repr

inductive DiscoveryDriftAssessment
  | clean
  | drifted
  | missingDiscovery
  | unavailable
  | timeout
  | notChecked
deriving DecidableEq, Repr

inductive DiscoveryHealthGate
  | clear (lastDriftAssessment : Option DiscoveryDriftAssessment)
  | blocked (code message : String)
      (lastDriftAssessment : Option DiscoveryDriftAssessment)
deriving DecidableEq, Repr

structure ErrorInfo where
  code : String
  message : String
  recoveryHint : String
  occurredAt : Timestamp
deriving DecidableEq, Repr

structure SystemWorkOperation where
  requestedAt : Timestamp
  attempt : Nat
  retryAfter : Option Timestamp
deriving DecidableEq, Repr

end GovernedRuntime.State
