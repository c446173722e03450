/-
Review evidence bound to an approval: its resolution from the review-assurance
chain, the plan and architecture evidence gates, and the approval certificates
(`src/rails/review-evidence-resolution.ts`, `src/rails/plan-review-evidence.ts`,
`src/rails/review-decision-gates.ts`).
-/
import GovernedRuntime.ProofGraph.Gate

namespace GovernedRuntime.Rails

open GovernedRuntime.Library (truthy)
open GovernedRuntime.State
open GovernedRuntime.Machine
open GovernedRuntime.ProofGraph

/-- A blocked rail; its registry text is determined by code and parameters. -/
abbrev RailBlocked := EvidenceApprovalBlock

/-! ### Resolution -/

/-- Evidence of one completed review. -/
structure ResolvedBoundReviewEvidence where
  obligationId : String
  invocationId : String
  findingsHash : String
  subjectDigest : String
  claimDeclarationsDigest : Option String
  reviewerVerdict : Option String
deriving DecidableEq, Repr

/-- Only the current transport generation is bindable. -/
def isBindableReviewTransport (invocation : ReviewInvocation) : Bool :=
  invocation.transportVersion == some 6 &&
    invocation.invocationMode == some "native_subagent_message_json" &&
    invocation.nativeProvenance.isSome

/-- The linkage of both records; back-references that do not match bind
nothing. -/
def isLinkedInvocation (obligation : ReviewObligation)
    (invocation : ReviewInvocation) : Bool :=
  some invocation.invocationId == obligation.invocationId &&
    invocation.obligationId == obligation.obligationId &&
    invocation.obligationType == obligation.obligationType &&
    isBindableReviewTransport invocation && invocation.findingsHash != ""

def resolveEvidenceForObligation (s : SessionState) (obligation : ReviewObligation) :
    Option ResolvedBoundReviewEvidence :=
  match s.reviewAssurance, truthy obligation.invocationId with
  | some assurance, some _ =>
      (assurance.invocations.find? (isLinkedInvocation obligation)).map
        fun invocation =>
          { obligationId := obligation.obligationId
            invocationId := invocation.invocationId
            findingsHash := invocation.findingsHash
            subjectDigest := obligation.subjectDigest
            claimDeclarationsDigest := truthy obligation.claimDeclarationsDigest
            reviewerVerdict := truthy invocation.capturedVerdict }
  | _, _ => none

/-- `latestBoundFirst`: the later iteration first, then the later creation. -/
def latestBoundFirst (a b : ReviewObligation) : Prop :=
  b.iteration < a.iteration ∨
    (a.iteration = b.iteration ∧ b.createdAt ≤ a.createdAt)

instance : DecidableRel latestBoundFirst := fun a b =>
  inferInstanceAs (Decidable (b.iteration < a.iteration ∨
    (a.iteration = b.iteration ∧ b.createdAt ≤ a.createdAt)))

def isSettledObligation (obligationType : ReviewObligationType)
    (obligation : ReviewObligation) : Bool :=
  obligation.obligationType == obligationType &&
    (obligation.status == .fulfilled || obligation.status == .consumed)

/-- The evidence of the latest settled obligation of a type that has some, among
those that match. -/
def resolveLatestMatching (s : SessionState) (obligationType : ReviewObligationType)
    (matchesSubject : ReviewObligation → Bool) : Option ResolvedBoundReviewEvidence :=
  match s.reviewAssurance with
  | none => none
  | some assurance =>
      ((assurance.obligations.filter fun obligation =>
          isSettledObligation obligationType obligation && matchesSubject obligation)
        |>.insertionSort latestBoundFirst).findSome? (resolveEvidenceForObligation s)

def resolveBoundReviewEvidenceForSubject (s : SessionState)
    (obligationType : ReviewObligationType) (subjectDigest : String) :
    Option ResolvedBoundReviewEvidence :=
  resolveLatestMatching s obligationType (·.subjectDigest == subjectDigest)

def resolveLatestBoundReviewEvidence (s : SessionState)
    (obligationType : ReviewObligationType) : Option ResolvedBoundReviewEvidence :=
  resolveLatestMatching s obligationType fun _ => true

/-- The plan revision under approval. -/
structure PlanReviewSubjectAuthority where
  subjectDigest : String
  planVersion : Nat
  claimDeclarationsDigest : String
deriving DecidableEq, Repr

def matchesPlanVersion (authority : PlanReviewSubjectAuthority)
    (obligation : ReviewObligation) : Bool :=
  obligation.planVersion == authority.planVersion &&
    obligation.claimDeclarationsDigest == some authority.claimDeclarationsDigest

def resolvePlanReviewEvidence (s : SessionState)
    (authority : PlanReviewSubjectAuthority) : Option ResolvedBoundReviewEvidence :=
  resolveLatestMatching s .plan fun obligation =>
    obligation.subjectDigest == authority.subjectDigest &&
      matchesPlanVersion authority obligation

/-- The subject is not filtered here: the gate compares it. -/
def resolveLatestPlanReviewEvidence (s : SessionState)
    (authority : PlanReviewSubjectAuthority) : Option ResolvedBoundReviewEvidence :=
  resolveLatestMatching s .plan (matchesPlanVersion authority)

/-! ### Architecture evidence -/

inductive ArchitectureReviewEvidenceResolution
  | bound (binding : ReviewBinding)
  | unavailable
  | verdictMissing
  | completionContradiction (capturedVerdict : String)
      (reviewCompletion : ReviewCompletion)
deriving DecidableEq, Repr

/-- An accepted review binds the exact subject, an exhausted one the latest
review; the captured verdict must not contradict the completion. -/
def resolveArchitectureReviewEvidence (s : SessionState)
    (architecture : ArchitectureDecision) : ArchitectureReviewEvidenceResolution :=
  match architecture.reviewCompletion with
  | .reviewerAccepted =>
      match resolveBoundReviewEvidenceForSubject s .architecture architecture.digest with
      | none => .unavailable
      | some exact =>
          match exact.reviewerVerdict with
          | none => .verdictMissing
          | some verdict =>
              if verdict != "accept" then
                .completionContradiction verdict .reviewerAccepted
              else
                .bound (.currentReview exact.obligationId exact.findingsHash
                  exact.subjectDigest)
  | .reviewExhausted =>
      match resolveLatestBoundReviewEvidence s .architecture with
      | none => .unavailable
      | some latest =>
          match latest.reviewerVerdict with
          | none => .verdictMissing
          | some verdict =>
              if verdict == "accept" then
                .completionContradiction verdict .reviewExhausted
              else
                .bound (.reviewExhaustedOverride latest.obligationId
                  latest.findingsHash latest.subjectDigest architecture.digest)
  | .pending => .unavailable

/-- Without an architecture record the completion reads `missing`. -/
def architectureCompletionName (s : SessionState) : String :=
  s.architecture.elim "missing" (·.reviewCompletion.name)

def enforceArchitectureReviewEvidence (s : SessionState)
    (resolution : Option ArchitectureReviewEvidenceResolution) :
    Option RailBlocked :=
  if s.phase != .archReview then none
  else
    let evidenceRequired (capturedVerdict : String) :=
      EvidenceApprovalBlock.plain "ARCHITECTURE_REVIEW_EVIDENCE_REQUIRED"
        [("reviewCompletion", architectureCompletionName s),
          ("capturedVerdict", capturedVerdict)]
    match resolution with
    | some (.bound (.reviewExhaustedOverride _ _ reviewed approved)) =>
        if reviewed != approved then
          some (.plain "ARCHITECTURE_REVIEW_OVERRIDE_SUBJECT_MISMATCH"
            [("reviewedSubjectDigest", reviewed), ("approvedSubjectDigest", approved)])
        else none
    | some (.bound (.currentReview _ _ _)) => none
    | some (.completionContradiction capturedVerdict _) =>
        some (.plain "ARCHITECTURE_REVIEW_EVIDENCE_CONTRADICTS_COMPLETION"
          [("reviewCompletion", architectureCompletionName s),
            ("capturedVerdict", capturedVerdict)])
    | some .verdictMissing => some (evidenceRequired "missing")
    | some .unavailable => some (evidenceRequired "unavailable")
    | none => some (evidenceRequired "unavailable")

/-! ### Plan evidence -/

def blockedPlanEvidenceRequired (reviewCompletion : ReviewCompletion)
    (reviewEvidence capturedVerdict : String) : RailBlocked :=
  .plain "PLAN_REVIEW_EVIDENCE_REQUIRED"
    [("reviewCompletion", reviewCompletion.name), ("reviewEvidence", reviewEvidence),
      ("capturedVerdict", capturedVerdict)]

def enforceAcceptedPlanVerdict (capturedVerdict : String) : Option RailBlocked :=
  if capturedVerdict != "accept" then
    some (.plain "PLAN_REVIEW_EVIDENCE_CONTRADICTS_COMPLETION"
      [("reviewCompletion", "reviewer_accepted"), ("capturedVerdict", capturedVerdict)])
  else none

/-- An override releases open findings, never an unreviewed revision. -/
def enforceExhaustedPlanVerdict (plan : PlanRecord) (capturedVerdict : String)
    (resolution : ResolvedBoundReviewEvidence) : Option RailBlocked :=
  if capturedVerdict != "changes_requested" then
    some (.plain "PLAN_REVIEW_EVIDENCE_CONTRADICTS_COMPLETION"
      [("reviewCompletion", "review_exhausted"), ("capturedVerdict", capturedVerdict)])
  else if resolution.subjectDigest != plan.current.digest then
    some (.plain "PLAN_REVIEW_OVERRIDE_SUBJECT_MISMATCH"
      [("reviewedSubjectDigest", resolution.subjectDigest),
        ("approvedSubjectDigest", plan.current.digest)])
  else none

section Hashing

variable (hashing : Hashing)

def planReviewSubjectAuthority (plan : PlanRecord) : PlanReviewSubjectAuthority :=
  { subjectDigest := plan.current.digest
    planVersion := plan.current.planVersion
    claimDeclarationsDigest := planClaimDeclarationsDigest hashing plan }

def enforcePlanReviewEvidence (s : SessionState)
    (resolution : Option ResolvedBoundReviewEvidence) : Option RailBlocked :=
  if s.phase != .planReview then none
  else
    match s.plan with
    | none => some (blockedPlanEvidenceRequired .pending "missing" "unavailable")
    | some plan =>
        let completion := plan.reviewCompletion
        if completion == .pending then
          some (blockedPlanEvidenceRequired completion "missing" "unavailable")
        else
          match resolution with
          | none => some (blockedPlanEvidenceRequired completion "missing" "unavailable")
          | some evidence =>
              match evidence.reviewerVerdict, evidence.claimDeclarationsDigest with
              | none, _ =>
                  some (blockedPlanEvidenceRequired completion "resolved" "missing")
              | _, none =>
                  some (blockedPlanEvidenceRequired completion "resolved"
                    "claim_declarations_missing")
              | some verdict, some digest =>
                  if digest != planClaimDeclarationsDigest hashing plan then
                    some (blockedPlanEvidenceRequired completion "resolved"
                      "claim_declarations_mismatch")
                  else if completion == .reviewerAccepted then
                    enforceAcceptedPlanVerdict verdict
                  else enforceExhaustedPlanVerdict plan verdict evidence

/-! ### Certificates -/

/-- A projection of the gate-resolved evidence, never a second resolution. -/
def buildPlanReviewBinding (completion : ReviewCompletion)
    (resolution : ResolvedBoundReviewEvidence) (approvedSubjectDigest : String) :
    Option ReviewBinding :=
  match completion with
  | .reviewerAccepted =>
      some (.currentReview resolution.obligationId resolution.findingsHash
        resolution.subjectDigest)
  | .reviewExhausted =>
      some (.reviewExhaustedOverride resolution.obligationId resolution.findingsHash
        resolution.subjectDigest approvedSubjectDigest)
  | .pending => none

/-- The certificate of a plan for an attestation: both mints differ only in it. -/
def planApprovalCertificate (plan : PlanRecord)
    (approvalAttestation : PlanApprovalAttestation) (reviewBinding : ReviewBinding)
    (approvedAt : Timestamp) : PlanApprovalCertificate :=
  let content : CertifiedPlanContent :=
    { authorityDigest := plan.current.digest
      claimDeclarationsDigest := planClaimDeclarationsDigest hashing plan
      decisionAttestationDigest :=
        hashing.hashText (hashing.attestation approvalAttestation)
      planVersion := plan.current.planVersion
      planRecordDigest := plan.current.recordDigest
      reviewBinding := reviewBinding
      approvedAt := approvedAt }
  { content with
    certificateId := planApprovalCertificateIdentity hashing content
    approvalAttestation := approvalAttestation }

def createPlanApprovalCertificate (s : SessionState) (plan : PlanRecord)
    (decision : ReviewDecision) (reviewBinding : ReviewBinding) :
    PlanApprovalCertificate :=
  planApprovalCertificate hashing plan
    (.explicitDecision decision (planApprovalContextOf hashing s).origin)
    reviewBinding decision.decidedAt

/-- Minted only under a policy that permits automatic gates, and only for an
accepted review. -/
def createAutomaticPlanApprovalCertificate (s : SessionState) (plan : PlanRecord)
    (approvedAt : Timestamp) (reviewBinding : ReviewBinding) :
    Option PlanApprovalCertificate :=
  if plan.reviewCompletion != .reviewerAccepted then none
  else if s.policySnapshot.requireHumanGates then none
  else some (planApprovalCertificate hashing plan
    (.policyAuto approvedAt (planApprovalContextOf hashing s).origin) reviewBinding
    approvedAt)

/-- The plan of the state with the certificate of a first approval at its gate. -/
def planCertificatePatch (s : SessionState) (decision : ReviewDecision)
    (planReviewEvidence : Option ResolvedBoundReviewEvidence) : Option PlanRecord :=
  match s.plan with
  | none => none
  | some plan =>
      if s.phase != .planReview || plan.approvalCertificate.isSome then some plan
      else
        match planReviewEvidence.bind fun evidence =>
            buildPlanReviewBinding plan.reviewCompletion evidence
              plan.current.digest with
        | none => some plan
        | some binding => some
            { plan with
              approvalCertificate := some
                (createPlanApprovalCertificate hashing s plan decision binding) }

/-- `emptyClaimDeclarations('architecture')` as canonical text. -/
def emptyArchitectureDeclarations : CanonicalText :=
  "\x7b\"claims\":[],\"flow\":\"architecture\"\x7d"

/-- The certificate of an architecture record; `digest` is the injected helper. -/
def createArchitectureApprovalCertificate (digest : String → String)
    (architecture : ArchitectureDecision) (decision : ReviewDecision)
    (reviewBinding : ReviewBinding) : ArchitectureApprovalCertificate :=
  let content : CertifiedArchitectureContent :=
    { authorityDigest := architecture.digest
      claimDeclarationsDigest := digest
        (architecture.claimDeclarations.getD emptyArchitectureDeclarations)
      decisionAttestationDigest := digest (hashing.decision decision)
      reviewBinding := reviewBinding
      approvedAt := decision.decidedAt
      approvedBy := decision.decisionIdentity.actorId }
  { content with
    certificateId := digestToId (digest (hashing.architectureCertificate content)) '4' }

def architectureCertificatePatch (digest : String → String) (s : SessionState)
    (decision : ReviewDecision) (reviewBinding : Option ReviewBinding) :
    Option ArchitectureDecision :=
  match s.architecture, reviewBinding with
  | some architecture, some binding =>
      if s.phase != .archReview || architecture.approvalCertificate.isSome then
        some architecture
      else some
        { architecture with
          approvalCertificate := some (createArchitectureApprovalCertificate hashing
            digest architecture decision binding) }
  | architecture, _ => architecture

end Hashing

end GovernedRuntime.Rails
