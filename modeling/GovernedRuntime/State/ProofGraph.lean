/-
Claims, approval certificates, contracts and evaluated projections
(`src/state/proofgraph*.ts`).
-/
import GovernedRuntime.State.Evidence
import Mathlib.Data.List.Dedup

namespace GovernedRuntime.State

/-! ### References -/

/-- The human approval a materialised declaration is bound to. -/
structure AuthorityApproval where
  certificateId : String
  claimDeclarationsDigest : String
  decisionAttestationDigest : String
  declarationId : String
deriving DecidableEq, Repr

/-- A source that may govern a claim. -/
inductive ClaimAuthorityRef
  | approvedTicket (ticketDigest : String)
  | planAdrSection (other : CanonicalText)
  | canonicalAuthority (authorityId digest : String)
      (approval : Option AuthorityApproval)
deriving DecidableEq, Repr

/-- Evidence about a claim; it never governs one. -/
inductive ClaimEvidenceRef
  | validationAttempt (attemptId : String)
  | implementation (implementationDigest : String) (diffDigest : Option String)
  | content (digest : String)
  | structuralSurface (surfaceId : String)
  | mutationProfile (profileId : String)
  | mutationAttempt (attemptId profileId : String)
deriving DecidableEq, Repr

/-! ### Claims -/

inductive SignalClass
  | fact
  | derivedSignal
  | hypothesis
deriving DecidableEq, Repr

inductive ClaimScope
  | specificBehavior
  | suite
deriving DecidableEq, Repr

inductive ClaimVerificationState
  | proven
  | unproven
  | contradicted
  | stale
  | blocked
  | notVerified
deriving DecidableEq, Repr

inductive ProofProviderKind
  | executedTest
  | structuralAssertion
  | schemaCompare
  | faultInjection
deriving DecidableEq, Repr

/-- Required evidence classes; the only adversarial one is `counterexample`, so
its list is kept by length. -/
structure RequiredEvidence where
  positive : List ProofProviderKind
  adversarial : Nat
deriving DecidableEq, Repr

inductive CounterexampleRequirement
  | assertion (checkId : String) (assertion : AssertionIdentity)
  | aggregateCheck (checkId : String) (candidateId : Option String)
deriving DecidableEq, Repr

/-- The certified plan origin of a materialised claim. -/
structure CertifiedPlan where
  authoritySectionId : String
  expectedCheckId : String
  expectedAssertion : Option AssertionIdentity
  structuralSurface : Option String
  mutationProfile : Option String
  digest : String
deriving DecidableEq, Repr

/-- A claim declaration, the input of the evaluator. -/
structure DeclaredClaim where
  claimId : String
  statement : String
  signalClass : SignalClass
  critical : Bool
  claimScope : Option ClaimScope
  provenance : Option ClaimAuthorityRef
  evidenceRefs : List ClaimEvidenceRef
  counterexampleRefs : List ClaimEvidenceRef
  requiredEvidence : Option RequiredEvidence
  counterexampleRequirement : Option CounterexampleRequirement
  coversRiskTriggers : Option (List SpecificRiskTrigger)
  certifiedPlan : Option CertifiedPlan
  confidence : Option CanonicalText
deriving DecidableEq, Repr

structure Freshness where
  boundDigest : String
  evaluatedAt : Timestamp
  stale : Bool
deriving DecidableEq, Repr

/-- An evaluated claim. -/
structure ProofClaim extends DeclaredClaim where
  verificationState : ClaimVerificationState
  freshness : Option Freshness
deriving DecidableEq, Repr

/-- Per-claim diagnostics of the evidence binding. -/
inductive AssertionBindingReasonCode
  | checkMismatch
  | evidenceMissing
  | checkOnlyEvidence
  | providerMismatch
  | assertionMismatch
  | assertionIdentityAmbiguous
  | evidenceRoleCollision
  | counterexampleConflict
  | aggregateCheckMismatch
  | aggregateCandidateMismatch
  | aggregateScopeUnattested
  | aggregateExtractionMissing
  | aggregateCapabilityMissing
deriving DecidableEq, Repr

/-- The persisted projection of the evaluator. -/
structure ProofGraphProjection where
  claims : List ProofClaim
  evaluatedAt : Timestamp
  claimDiagnostics : List (String × AssertionBindingReasonCode)
deriving DecidableEq, Repr

structure ProofContract where
  claims : List DeclaredClaim
deriving DecidableEq, Repr

/-! ### Declarations and certificates -/

structure PlanClaimDeclaration where
  claimId : String
  statement : String
  critical : Bool
  authoritySectionId : String
  claimScope : ClaimScope
  expectedCheckId : String
  expectedAssertion : Option AssertionIdentity
  counterexampleRequirement : Option CounterexampleRequirement
  structuralSurface : Option String
  mutationProfile : Option String
  coversRiskTriggers : Option (List SpecificRiskTrigger)
deriving DecidableEq, Repr

/-- Declarations of the plan flow; `[]` is `emptyClaimDeclarations('plan')`. -/
abbrev PlanClaimDeclarations := List PlanClaimDeclaration

/-- Provenance edge of an approval certificate. -/
inductive ReviewBinding
  | currentReview (reviewObligationId reviewEvidenceDigest
      reviewedSubjectDigest : String)
  | reviewExhaustedOverride (lastReviewObligationId lastReviewEvidenceDigest
      reviewedSubjectDigest approvedSubjectDigest : String)
deriving DecidableEq, Repr

/-- The session and the frozen policy a plan approval is bound to. -/
structure ApprovalOrigin where
  flowguardSessionId : String
  bindingDigest : String
  policyHash : String
  policyHashVersion : String
deriving DecidableEq, Repr

inductive PlanApprovalAttestation
  | explicitDecision (decision : ReviewDecision) (origin : ApprovalOrigin)
  | policyAuto (decidedAt : Timestamp) (origin : ApprovalOrigin)
deriving DecidableEq, Repr

def PlanApprovalAttestation.origin : PlanApprovalAttestation → ApprovalOrigin
  | .explicitDecision _ origin => origin
  | .policyAuto _ origin => origin

/-- The content `planApprovalCertificateIdentity` digests. -/
structure CertifiedPlanContent where
  authorityDigest : String
  claimDeclarationsDigest : String
  decisionAttestationDigest : String
  planVersion : Nat
  planRecordDigest : String
  reviewBinding : ReviewBinding
  approvedAt : Timestamp
deriving DecidableEq, Repr

structure PlanApprovalCertificate extends CertifiedPlanContent where
  certificateId : String
  approvalAttestation : PlanApprovalAttestation
deriving DecidableEq, Repr

/-- The content the identity of an architecture certificate digests. -/
structure CertifiedArchitectureContent where
  authorityDigest : String
  claimDeclarationsDigest : String
  decisionAttestationDigest : String
  reviewBinding : ReviewBinding
  approvedAt : Timestamp
  approvedBy : String
deriving DecidableEq, Repr

structure ArchitectureApprovalCertificate extends CertifiedArchitectureContent where
  certificateId : String
deriving DecidableEq, Repr

/-! ### Plan and architecture records -/

structure PlanEvidence where
  body : String
  digest : String
  sections : List String
  createdAt : Timestamp
  revisionId : String
  recordDigest : String
  planVersion : Nat
  supersedesRecordDigest : Option String
  originatingReviewObligationId : Option String
  revisionReason : Option String
deriving DecidableEq, Repr

/-- A claim submission the host did not take over. -/
structure RejectedClaim where
  claimRef : String
  statement : String
  critical : Bool
  /-- `rejected_blocking` rather than `rejected_non_blocking`. -/
  blocking : Bool
  code : String
  reason : String
  recovery : List String
deriving DecidableEq, Repr

structure ClaimSubmissionDiagnostics where
  submittedClaimDeclarationsDigest : String
  acceptedClaimDeclarationsDigest : String
  rejectedClaims : List RejectedClaim
deriving DecidableEq, Repr

structure PlanRecord where
  current : PlanEvidence
  history : List PlanEvidence
  reviewFindings : CanonicalText
  claimDeclarations : Option PlanClaimDeclarations
  claimSubmissionDiagnostics : Option ClaimSubmissionDiagnostics
  claimSubmissionHistory : Option CanonicalText
  approvalCertificate : Option PlanApprovalCertificate
  reviewCompletion : ReviewCompletion
deriving DecidableEq, Repr

inductive AdrStatus
  | proposed
  | accepted
  | deprecated
deriving DecidableEq, Repr

structure ArchitectureDecision where
  id : String
  title : String
  adrText : String
  status : AdrStatus
  reviewCompletion : ReviewCompletion
  createdAt : Timestamp
  digest : String
  reviewFindings : CanonicalText
  /-- Canonical text of the declarations, when some were submitted. -/
  claimDeclarations : Option CanonicalText
  approvalCertificate : Option ArchitectureApprovalCertificate
deriving DecidableEq, Repr

/-! ### Claim sets -/

/-- How often a claim id occurs in the whole collection. -/
def claimOccurrences (ids : List String) (id : String) : Nat :=
  ids.count id

/-- `uniqueClaimIds(claims) !== null`. -/
def hasUniqueClaimIds (ids : List String) : Bool :=
  ids.dedup.length == ids.length

end GovernedRuntime.State
