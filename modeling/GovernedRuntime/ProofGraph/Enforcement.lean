/-
The governance projection over evaluated claims: which claims block an evidence
approval, and why (`src/audit/proofgraph/enforcement-projection.ts`,
`reason-code-mapping.ts`).
-/
import GovernedRuntime.ProofGraph.Approval

namespace GovernedRuntime.ProofGraph

open GovernedRuntime.State

/-! ### Reason codes -/

inductive EnforcementReasonCode
  | binding (code : AssertionBindingReasonCode)
  | proven
  | counterexampleObserved
  | evidenceStale
  | evidenceUnproven
  | providerExecutionError
  | provenanceMissing
  | evaluationUnavailable
  | riskAssessmentStale
  | certificateInvalid
  | certifiedClaimMismatch
  | criticalFactRequired
  | riskTriggerUncovered
deriving DecidableEq, Repr

/-- The code for missing evidence is one of the binding codes. -/
def EnforcementReasonCode.evidenceMissing : EnforcementReasonCode :=
  .binding .evidenceMissing

def mapBindingReasonToRegistryCode : AssertionBindingReasonCode → String
  | .evidenceMissing => "PROOFGRAPH_ASSERTION_EVIDENCE_MISSING"
  | .aggregateCheckMismatch => "PROOFGRAPH_AGGREGATE_CHECK_MISMATCH"
  | .aggregateCandidateMismatch => "PROOFGRAPH_AGGREGATE_CHECK_MISMATCH"
  | .aggregateScopeUnattested => "PROOFGRAPH_AGGREGATE_SCOPE_UNATTESTED"
  | .aggregateExtractionMissing => "PROOFGRAPH_AGGREGATE_EXTRACTION_MISSING"
  | .aggregateCapabilityMissing => "PROOFGRAPH_AGGREGATE_CAPABILITY_MISSING"
  | .providerMismatch => "PROOFGRAPH_ASSERTION_PROVIDER_MISMATCH"
  | .assertionMismatch => "PROOFGRAPH_ASSERTION_IDENTITY_MISMATCH"
  | .assertionIdentityAmbiguous => "PROOFGRAPH_ASSERTION_IDENTITY_AMBIGUOUS"
  | .checkMismatch => "PROOFGRAPH_ASSERTION_EVIDENCE_MISSING"
  | .checkOnlyEvidence => "PROOFGRAPH_ASSERTION_BINDING_UNAVAILABLE"
  | .evidenceRoleCollision => "PROOFGRAPH_EVIDENCE_ROLE_COLLISION"
  | .counterexampleConflict => "PROOFGRAPH_COUNTEREXAMPLE_CONFLICT"

/-- `ENFORCEMENT_REGISTRY_MAP`. -/
def mapEnforcementReasonToRegistryCode : EnforcementReasonCode → String
  | .binding code => mapBindingReasonToRegistryCode code
  | .proven => "PROOFGRAPH_EVIDENCE_PROVEN"
  | .counterexampleObserved => "PROOFGRAPH_COUNTEREXAMPLE_OBSERVED"
  | .evidenceStale => "PROOFGRAPH_EVIDENCE_STALE"
  | .evidenceUnproven => "PROOFGRAPH_CRITICAL_FACTS_UNPROVEN"
  | .providerExecutionError => "PROOFGRAPH_PROVIDER_EXECUTION_ERROR"
  | .provenanceMissing => "PROOFGRAPH_ASSERTION_EVIDENCE_MISSING"
  | .evaluationUnavailable => "PROOFGRAPH_EVALUATION_UNAVAILABLE"
  | .riskAssessmentStale => "PROOFGRAPH_RISK_ASSESSMENT_STALE"
  | .certificateInvalid => "PROOFGRAPH_CERTIFICATE_INVALID"
  | .certifiedClaimMismatch => "PROOFGRAPH_CERTIFIED_CLAIM_MISMATCH"
  | .criticalFactRequired => "PROOFGRAPH_CRITICAL_FACT_REQUIRED"
  | .riskTriggerUncovered => "PROOFGRAPH_RISK_TRIGGER_UNCOVERED"

inductive EnforcementDecisionKind
  | clear
  | evaluationUnavailable
  | riskAssessmentStale
  | certificateInvalid
  | certifiedClaimMismatch
  | criticalFactRequired
  | riskTriggerUncovered
  | factsUnproven
deriving DecidableEq, Repr

/-! ### Inputs and outputs -/

structure ClaimEnforcementState where
  claimId : String
  statement : String
  critical : Bool
  signalClass : SignalClass
  verificationState : ClaimVerificationState
  reasonCodes : List EnforcementReasonCode
  registryCode : String
deriving DecidableEq, Repr

structure BlockingClaim where
  claimId : String
  state : ClaimVerificationState
  reasonCode : EnforcementReasonCode
  registryCode : String
deriving DecidableEq, Repr

structure ProofGraphEnforcement where
  claims : List ClaimEnforcementState
  blockingClaims : List BlockingClaim
  satisfied : Bool
  decisionKind : EnforcementDecisionKind
  reasonCode : EnforcementReasonCode
  reason : String
  uncoveredTriggers : List SpecificRiskTrigger
deriving DecidableEq, Repr

structure ComputeEnforcementInput where
  contract : Option ProofContract
  projection : ProofGraphProjection
  authorization : AuthorizedClaims
  certificateValid : Bool
  riskAssessmentStale : Bool
  riskTriggers : List SpecificRiskTrigger
  claimDiagnostics : String → Option AssertionBindingReasonCode

def ComputeEnforcementInput.contractClaims (input : ComputeEnforcementInput) :
    List DeclaredClaim :=
  input.contract.elim [] (·.claims)

/-- A critical fact that carries the approval of a canonical authority. -/
def isGateEligible (claim : DeclaredClaim) : Bool :=
  claim.critical && claim.signalClass == .fact &&
    (match claim.provenance with
      | some (.canonicalAuthority _ _ (some _)) => true
      | _ => false)

def eligibleClaims (input : ComputeEnforcementInput) : List ProofClaim :=
  input.projection.claims.filter (isGateEligible ·.toDeclaredClaim)

def claimReasonCodes (claim : ProofClaim)
    (diagnostics : String → Option AssertionBindingReasonCode) :
    List EnforcementReasonCode :=
  (if claim.provenance.isNone then [EnforcementReasonCode.provenanceMissing] else []) ++
    [match claim.verificationState with
      | .proven => .proven
      | .contradicted => .counterexampleObserved
      | .notVerified => .binding ((diagnostics claim.claimId).getD .evidenceMissing)
      | .stale => .evidenceStale
      | .blocked => .providerExecutionError
      | .unproven => .evidenceUnproven]

def primaryReason (reasons : List EnforcementReasonCode) : EnforcementReasonCode :=
  reasons.headD .evidenceMissing

def primaryRegistryCode (reasons : List EnforcementReasonCode)
    (diagnostic : Option AssertionBindingReasonCode) : String :=
  match diagnostic with
  | some code => mapBindingReasonToRegistryCode code
  | none => mapEnforcementReasonToRegistryCode (primaryReason reasons)

section Hashing

variable (hashing : Hashing)

/-- Whether the provenance of a claim is exactly the expected certificate. -/
def matchesAuthorizedBinding (claim : DeclaredClaim)
    (expected : AuthorizedClaimBinding) : Bool :=
  match claim.provenance with
  | some (.canonicalAuthority authorityId digest (some approval)) =>
      authorityId == expected.authorityId && digest == expected.authorityDigest &&
        approval.certificateId == expected.certificateId &&
        approval.claimDeclarationsDigest == expected.claimDeclarationsDigest &&
        approval.decisionAttestationDigest == expected.decisionAttestationDigest &&
        approval.declarationId == expected.declarationId &&
        claim.certifiedPlan.map (·.digest) == some expected.certifiedClaimDigest &&
        materializedClaimDigest hashing claim == some expected.certifiedClaimDigest
  | _ => false

def uncoveredRiskTriggers (input : ComputeEnforcementInput) :
    List SpecificRiskTrigger :=
  let eligibleIds := (eligibleClaims input).map (·.claimId)
  let covered := (input.authorization.coverage.filter fun entry =>
    eligibleIds.contains entry.1).flatMap (·.2)
  input.riskTriggers.filter fun trigger => !covered.contains trigger

/-- Whether an authorised id has one evaluation and one source, both eligible and
both bound to the certificate.  The last claim of an id is the one compared. -/
def isBoundClaim (input : ComputeEnforcementInput) (id : String) : Bool :=
  let evaluated := (eligibleClaims input).reverse.find? (·.claimId == id)
  let source := input.contractClaims.reverse.find? (·.claimId == id)
  match evaluated, source, input.authorization.bindings.lookup id with
  | some claim, some declared, some expected =>
      claimOccurrences (input.projection.claims.map (·.claimId)) id == 1 &&
        matchesAuthorizedBinding hashing claim.toDeclaredClaim expected &&
        claimOccurrences (input.contractClaims.map (·.claimId)) id == 1 &&
        isGateEligible declared && matchesAuthorizedBinding hashing declared expected
  | _, _, _ => false

def missingAuthorizedClaimIds (input : ComputeEnforcementInput) : List String :=
  input.authorization.claimIds.filter (!isBoundClaim hashing input ·)

/-- An eligible claim with a certified origin that it no longer recomputes to. -/
def isCertifiedMismatch (input : ComputeEnforcementInput) (id : String) : Bool :=
  ((eligibleClaims input).any (·.claimId == id)) &&
    (match input.authorization.bindings.lookup id with
      | none => false
      | some expected =>
          (input.contractClaims ++
            input.projection.claims.map (·.toDeclaredClaim)).any fun claim =>
              claim.claimId == id && isGateEligible claim &&
                claim.certifiedPlan.isSome &&
                materializedClaimDigest hashing claim !=
                  some expected.certifiedClaimDigest)

def refusal (kind : EnforcementDecisionKind) (code : EnforcementReasonCode)
    (reason : String) (blockingIds : List String)
    (uncovered : List SpecificRiskTrigger) : ProofGraphEnforcement :=
  { claims := []
    blockingClaims := blockingIds.map fun id =>
      ⟨id, .notVerified, code, mapEnforcementReasonToRegistryCode code⟩
    satisfied := false
    decisionKind := kind
    reasonCode := code
    reason := reason
    uncoveredTriggers := uncovered }

/-- The preconditions in the order they are asked; `none` when all hold. -/
def evaluatePreconditions (input : ComputeEnforcementInput) :
    Option ProofGraphEnforcement :=
  let mismatches :=
    input.authorization.claimIds.filter (isCertifiedMismatch hashing input)
  let missing := missingAuthorizedClaimIds hashing input
  let uncovered := uncoveredRiskTriggers input
  if !input.certificateValid then
    some (refusal .certificateInvalid .certificateInvalid
      ("The plan approval certificate is missing, stale, or does not bind the " ++
        "current plan.") [] [])
  else if !mismatches.isEmpty then
    some (refusal .certifiedClaimMismatch .certifiedClaimMismatch
      "Materialized claim semantics differ from their certified declaration."
      mismatches [])
  else if !missing.isEmpty then
    some (refusal .evaluationUnavailable .evaluationUnavailable
      ("Certificate-authorized critical plan claim(s) have no unique, correctly " ++
        "bound source and ProofGraph evaluation.") missing [])
  else if input.riskAssessmentStale then
    some (refusal .riskAssessmentStale .riskAssessmentStale
      ("The implementation risk assessment is missing, stale, or predates trigger " ++
        "classification.") [] [])
  else if (eligibleClaims input).isEmpty && !input.riskTriggers.isEmpty then
    some (refusal .criticalFactRequired .criticalFactRequired
      ("A critical, certificate-authorized fact claim is required for the current " ++
        "risk triggers.") [] [])
  else if !uncovered.isEmpty then
    some (refusal .riskTriggerUncovered .riskTriggerUncovered
      ("Risk trigger(s) have no certificate-authorized critical claim coverage: " ++
        ", ".intercalate (uncovered.map (·.name)) ++ ".") [] uncovered)
  else none

/-- The decision over the eligible claims, once the preconditions hold. -/
def enforceClaims (input : ComputeEnforcementInput) : ProofGraphEnforcement :=
  let codes (claim : ProofClaim) := claimReasonCodes claim input.claimDiagnostics
  let registry (claim : ProofClaim) :=
    primaryRegistryCode (codes claim) (input.claimDiagnostics claim.claimId)
  let eligible := eligibleClaims input
  let blocking := (eligible.filter (·.verificationState != .proven)).map fun claim =>
    ⟨claim.claimId, claim.verificationState, primaryReason (codes claim),
      registry claim⟩
  let satisfied := eligible.all (·.verificationState == .proven)
  { claims := eligible.map fun claim =>
      ⟨claim.claimId, claim.statement, claim.critical, claim.signalClass,
        claim.verificationState, codes claim, registry claim⟩
    blockingClaims := blocking
    satisfied := satisfied
    decisionKind := if satisfied then .clear else .factsUnproven
    reasonCode := if satisfied then .proven else .evidenceUnproven
    reason :=
      if satisfied then "All critical fact claims are PROVEN."
      else toString blocking.length ++ " critical fact claim(s) are not PROVEN."
    uncoveredTriggers := [] }

def computeProofGraphEnforcement (input : ComputeEnforcementInput) :
    ProofGraphEnforcement :=
  (evaluatePreconditions hashing input).getD (enforceClaims input)

/-- A refused precondition is never a satisfied decision. -/
theorem evaluatePreconditions_satisfied {input : ComputeEnforcementInput}
    {enforcement : ProofGraphEnforcement}
    (hrefused : evaluatePreconditions hashing input = some enforcement) :
    enforcement.satisfied = false ∧ enforcement.decisionKind ≠ .clear := by
  simp only [evaluatePreconditions] at hrefused
  split_ifs at hrefused <;> cases hrefused <;> simp [refusal]

end Hashing

end GovernedRuntime.ProofGraph
