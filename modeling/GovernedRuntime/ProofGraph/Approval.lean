/-
The plan approval authority: when a certificate is current for a session, and
which critical claims it authorises (`src/state/proofgraph-approval.ts`,
`proofgraph-plan-certificate.ts`, `proofgraph-claim-certification.ts`,
`proofgraph-approval-context.ts`).
-/
import GovernedRuntime.State.Session
import Mathlib.Data.List.Sort

namespace GovernedRuntime.ProofGraph

open GovernedRuntime.State

/-! ### Certified claim semantics -/

/-- `requiredEvidenceForDeclaration`. -/
def requiredEvidenceForDeclaration (declaration : PlanClaimDeclaration) :
    RequiredEvidence :=
  let isGiven (text : Option String) := text.any (· != "")
  let structural :=
    if isGiven declaration.structuralSurface then
      [if declaration.structuralSurface == some "config-defaults" then
        ProofProviderKind.schemaCompare else .structuralAssertion]
    else []
  let mutation :=
    if isGiven declaration.mutationProfile then [ProofProviderKind.faultInjection]
    else []
  { positive := .executedTest :: structural ++ mutation
    adversarial :=
      if declaration.critical || declaration.counterexampleRequirement.isSome then 1
      else 0 }

/-- The order of the sorted evidence kinds. -/
def providerKindOrder : ProofProviderKind → Nat
  | .executedTest => 0
  | .faultInjection => 1
  | .schemaCompare => 2
  | .structuralAssertion => 3

/-- Lists whose order carries no meaning are sorted before they are hashed. -/
def ClaimSemantics.sorted (claim : ClaimSemantics) : ClaimSemantics :=
  { claim with
    coversRiskTriggers :=
      claim.coversRiskTriggers.insertionSort (fun a b => a.name ≤ b.name)
    requiredEvidence := claim.requiredEvidence.map fun required =>
      { required with
        positive := required.positive.insertionSort
          (fun a b => providerKindOrder a ≤ providerKindOrder b) } }

def declaredSemantics (declaration : PlanClaimDeclaration) : ClaimSemantics :=
  { claimId := declaration.claimId
    statement := declaration.statement
    critical := declaration.critical
    claimScope := some declaration.claimScope
    authoritySectionId := declaration.authoritySectionId
    expectedCheckId := declaration.expectedCheckId
    expectedAssertion := declaration.expectedAssertion
    structuralSurface := declaration.structuralSurface
    mutationProfile := declaration.mutationProfile
    counterexampleRequirement := declaration.counterexampleRequirement
    coversRiskTriggers := declaration.coversRiskTriggers.getD []
    requiredEvidence := some (requiredEvidenceForDeclaration declaration) }

def materializedSemantics (claim : DeclaredClaim) (origin : CertifiedPlan) :
    ClaimSemantics :=
  { claimId := claim.claimId
    statement := claim.statement
    critical := claim.critical
    claimScope := claim.claimScope
    authoritySectionId := origin.authoritySectionId
    expectedCheckId := origin.expectedCheckId
    expectedAssertion := origin.expectedAssertion
    structuralSurface := origin.structuralSurface
    mutationProfile := origin.mutationProfile
    counterexampleRequirement := claim.counterexampleRequirement
    coversRiskTriggers := claim.coversRiskTriggers.getD []
    requiredEvidence := claim.requiredEvidence }

section Hashing

variable (hashing : Hashing)

def semanticDigest (claim : ClaimSemantics) : String :=
  hashing.hashText (hashing.claimSemantics (ClaimSemantics.sorted claim))

def certifiedClaimDigest (declaration : PlanClaimDeclaration) : String :=
  semanticDigest hashing (declaredSemantics declaration)

/-- Recomputed from the contract; a copied digest alone is never authority. -/
def materializedClaimDigest (claim : DeclaredClaim) : Option String :=
  match claim.certifiedPlan, claim.signalClass with
  | some origin, .fact =>
      some (semanticDigest hashing (materializedSemantics claim origin))
  | _, _ => none

/-! ### Certificates -/

/-- The session and policy a certificate must be bound to. -/
structure PlanApprovalContext where
  origin : ApprovalOrigin
  requireHumanGates : Bool
deriving DecidableEq, Repr

def evidenceApprovalBindingDigest (s : SessionState) : String :=
  hashing.hashText s.binding

def planApprovalContextOf (s : SessionState) : PlanApprovalContext :=
  { origin :=
      { flowguardSessionId := s.flowguardSessionId
        bindingDigest := evidenceApprovalBindingDigest hashing s
        policyHash := s.policySnapshot.hash
        policyHashVersion := s.policySnapshot.hashVersion }
    requireHumanGates := s.policySnapshot.requireHumanGates }

/-- Canonical digest of the declarations bound to a plan. -/
def planClaimDeclarationsDigest (plan : PlanRecord) : String :=
  hashing.hashText (hashing.claimDeclarations (plan.claimDeclarations.getD []))

def planApprovalCertificateIdentity (content : CertifiedPlanContent) : String :=
  digestToId (hashing.hashText (hashing.planCertificate content)) '4'

def isCanonicalPlanCertificateIdentity (certificate : PlanApprovalCertificate) :
    Bool :=
  certificate.certificateId ==
    planApprovalCertificateIdentity hashing certificate.toCertifiedPlanContent

/-- An automatic attestation is valid only under an automatic policy. -/
def approvalAttestationMatchesContext (attestation : PlanApprovalAttestation)
    (context : PlanApprovalContext) : Bool :=
  attestation.origin == context.origin &&
    (match attestation with
      | .policyAuto _ _ => !context.requireHumanGates
      | .explicitDecision _ _ => true)

def reviewBindingMatchesPlan (binding : ReviewBinding) (plan : PlanRecord) : Bool :=
  match binding with
  | .currentReview _ _ reviewed => reviewed == plan.current.digest
  | .reviewExhaustedOverride _ _ reviewed approved =>
      approved == plan.current.digest && reviewed == approved

/-- Whether a certificate binds this revision of the plan, its declarations and
this session. -/
def certifiesPlan (certificate : PlanApprovalCertificate) (plan : PlanRecord)
    (context : PlanApprovalContext) : Bool :=
  hasUniqueClaimIds ((plan.claimDeclarations.getD []).map (·.claimId)) &&
    certificate.authorityDigest == plan.current.digest &&
    certificate.planVersion == plan.current.planVersion &&
    certificate.planRecordDigest == plan.current.recordDigest &&
    isCanonicalPlanCertificateIdentity hashing certificate &&
    approvalAttestationMatchesContext certificate.approvalAttestation context &&
    reviewBindingMatchesPlan certificate.reviewBinding plan &&
    certificate.claimDeclarationsDigest == planClaimDeclarationsDigest hashing plan

def hasCurrentPlanApprovalCertificate (plan : Option PlanRecord)
    (context : PlanApprovalContext) : Bool :=
  plan.any fun record =>
    record.approvalCertificate.any (certifiesPlan hashing · record context)

def hasCurrentPlanApprovalCertificateForState (s : SessionState) : Bool :=
  hasCurrentPlanApprovalCertificate hashing s.plan (planApprovalContextOf hashing s)

/-! ### Authorised claims -/

/-- The approval a materialised claim must carry. -/
structure AuthorizedClaimBinding where
  authorityId : String
  authorityDigest : String
  certificateId : String
  claimDeclarationsDigest : String
  decisionAttestationDigest : String
  declarationId : String
  certifiedClaimDigest : String
deriving DecidableEq, Repr

structure AuthorizedClaims where
  claimIds : List String
  coverage : List (String × List SpecificRiskTrigger)
  bindings : List (String × AuthorizedClaimBinding)
deriving DecidableEq, Repr

def AuthorizedClaims.empty : AuthorizedClaims := ⟨[], [], []⟩

inductive AuthorizedCriticalPlanClaimIds
  | authorized (claims : AuthorizedClaims)
  | certificateMissing
  | certificateInvalid
deriving DecidableEq, Repr

def criticalDeclarations (plan : PlanRecord) : List PlanClaimDeclaration :=
  (plan.claimDeclarations.getD []).filter (·.critical)

def authorizedBinding (certificate : PlanApprovalCertificate)
    (claim : PlanClaimDeclaration) : AuthorizedClaimBinding :=
  { authorityId := "plan"
    authorityDigest := certificate.authorityDigest
    certificateId := certificate.certificateId
    claimDeclarationsDigest := certificate.claimDeclarationsDigest
    decisionAttestationDigest := certificate.decisionAttestationDigest
    declarationId := claim.claimId
    certifiedClaimDigest := certifiedClaimDigest hashing claim }

/-- The critical claims the current certificate authorises.  A plan without a
certificate authorises an empty set unless it declares a critical claim. -/
def authorizedCriticalPlanClaimIds (s : SessionState) :
    AuthorizedCriticalPlanClaimIds :=
  match s.plan with
  | none => .authorized .empty
  | some plan =>
      match plan.approvalCertificate with
      | none =>
          if (criticalDeclarations plan).isEmpty then .authorized .empty
          else .certificateMissing
      | some certificate =>
          if !certifiesPlan hashing certificate plan
              (planApprovalContextOf hashing s) then
            .certificateInvalid
          else
            let critical := criticalDeclarations plan
            .authorized
              { claimIds := critical.map (·.claimId)
                coverage := critical.map fun claim =>
                  (claim.claimId, claim.coversRiskTriggers.getD [])
                bindings := critical.map fun claim =>
                  (claim.claimId, authorizedBinding hashing certificate claim) }

/-- Nothing is authorised, or a certificate of the current plan authorises its
critical declarations. -/
theorem authorized_cases {s : SessionState} {claims : AuthorizedClaims}
    (hauthorized : authorizedCriticalPlanClaimIds hashing s = .authorized claims) :
    (claims = .empty ∧ s.plan.elim [] criticalDeclarations = []) ∨
      ∃ plan certificate, s.plan = some plan ∧
        certifiesPlan hashing certificate plan (planApprovalContextOf hashing s) = true ∧
        claims =
          { claimIds := (criticalDeclarations plan).map (·.claimId)
            coverage := (criticalDeclarations plan).map fun claim =>
              (claim.claimId, claim.coversRiskTriggers.getD [])
            bindings := (criticalDeclarations plan).map fun claim =>
              (claim.claimId, authorizedBinding hashing certificate claim) } := by
  rw [authorizedCriticalPlanClaimIds] at hauthorized
  cases hplan : s.plan with
  | none =>
      simp only [hplan, AuthorizedCriticalPlanClaimIds.authorized.injEq] at hauthorized
      exact .inl ⟨hauthorized.symm, rfl⟩
  | some plan =>
      cases hcertificate : plan.approvalCertificate with
      | none =>
          simp only [hplan, hcertificate] at hauthorized
          split_ifs at hauthorized with hnone
          simp only [AuthorizedCriticalPlanClaimIds.authorized.injEq] at hauthorized
          exact .inl ⟨hauthorized.symm, List.isEmpty_iff.1 hnone⟩
      | some certificate =>
          simp only [hplan, hcertificate] at hauthorized
          split_ifs at hauthorized with hcertified
          simp only [AuthorizedCriticalPlanClaimIds.authorized.injEq] at hauthorized
          exact .inr ⟨plan, certificate, rfl, by simpa using hcertified,
            hauthorized.symm⟩

/-- Only an authorised claim covers a trigger. -/
theorem authorized_of_coverage {s : SessionState} {claims : AuthorizedClaims}
    (hauthorized : authorizedCriticalPlanClaimIds hashing s = .authorized claims)
    {entry : String × List SpecificRiskTrigger} (hentry : entry ∈ claims.coverage) :
    entry.1 ∈ claims.claimIds := by
  rcases authorized_cases hashing hauthorized with
    ⟨rfl, _⟩ | ⟨plan, certificate, _, _, rfl⟩
  · exact absurd hentry List.not_mem_nil
  · obtain ⟨claim, hclaim, rfl⟩ := List.mem_map.1 hentry
    exact List.mem_map_of_mem hclaim

end Hashing

end GovernedRuntime.ProofGraph
