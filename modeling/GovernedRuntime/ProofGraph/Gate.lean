/-
The proof graph gate over the persisted state and the evidence-approval preflight
(`src/audit/proofgraph/gate.ts`, `evidence-integrity.ts`,
`evidence-approval-preflight.ts`, `src/state/assertion-evidence-integrity.ts`).
-/
import GovernedRuntime.ProofGraph.Enforcement

namespace GovernedRuntime.ProofGraph

open GovernedRuntime.State

/-! ### Integrity of the referenced assertion evidence -/

inductive AssertionEvidenceIntegrity
  | valid
  | invalid (code : AssertionBindingReasonCode) (detail : String)
deriving DecidableEq, Repr

def extractionStatusFailure (reasonCode : AssertionExtractionReasonCode)
    (reason : String) : AssertionEvidenceIntegrity :=
  match reasonCode with
  | .assertionIdentityAmbiguous => .invalid .assertionIdentityAmbiguous reason
  | .assertionProviderMismatch => .invalid .providerMismatch reason
  | _ => .valid

/-- An assertion of another provider, or two assertions of one identity. -/
def assertionFailure (providerId : String)
    (assertions : List StructuredAssertionEvidence) : AssertionEvidenceIntegrity :=
  match assertions.find? fun evidence =>
      evidence.providerId != providerId ||
        evidence.assertion.providerId != providerId with
  | some envelope =>
      .invalid .providerMismatch
        ("assertion '" ++ envelope.assertion.localId ++ "' belongs to provider '" ++
          envelope.assertion.providerId ++ "' but extraction provider is '" ++
          providerId ++ "'")
  | none =>
      if decide (assertions.map (·.assertion)).Nodup then .valid
      else .invalid .assertionIdentityAmbiguous
        ("structured assertion extraction contains duplicate provider-scoped " ++
          "identities; no result may be selected by order")

def assessAssertionEvidenceIntegrity :
    Option AssertionExtractionResult → AssertionEvidenceIntegrity
  | none => .valid
  | some .notConfigured => .valid
  | some (.blocked _ reasonCode reason) => extractionStatusFailure reasonCode reason
  | some (.inconclusive _ reasonCode reason) =>
      extractionStatusFailure reasonCode reason
  | some (.extracted _ providerId .assertion assertions _) =>
      assertionFailure providerId assertions
  | some (.extracted _ _ _ _ _) => .valid

abbrev ClaimDiagnostics := List (String × AssertionBindingReasonCode)

/-- A provider mismatch is never replaced by another failure. -/
def setFailure (failures : ClaimDiagnostics) (claimId : String)
    (code : AssertionBindingReasonCode) : ClaimDiagnostics :=
  if failures.lookup claimId == some .providerMismatch then failures
  else (claimId, code) :: failures.filter (·.1 != claimId)

/-- The validation attempts a claim refers to. -/
def referencedAttempts (claim : DeclaredClaim) : List String :=
  (claim.evidenceRefs ++ claim.counterexampleRefs).filterMap fun
    | .validationAttempt attemptId => some attemptId
    | _ => none

def isImplementationAttempt (implementationDigest : Option String)
    (attempt : ValidationAttempt) : Bool :=
  match attempt.scope with
  | .implementation _ digest => some digest == implementationDigest
  | .baseline _ => false

def integrityFailures (s : SessionState) : ClaimDiagnostics :=
  let claims := s.proofContract.elim [] (·.claims) ++
    s.proofGraph.claims.map (·.toDeclaredClaim)
  let implementationDigest := s.implementation.map (·.digest)
  claims.foldl (fun failures claim =>
    (s.validationAttempts.filter fun attempt =>
      isImplementationAttempt implementationDigest attempt &&
        (referencedAttempts claim).contains attempt.attemptId).foldl
      (fun failures attempt =>
        match assessAssertionEvidenceIntegrity attempt.result.assertionExtraction with
        | .invalid code _ => setFailure failures claim.claimId code
        | .valid => failures)
      failures) []

section Environment

variable (env : Environment)

/-- The projection with every claim of refused evidence evaluated again, and the
failures found. -/
def assessProofGraphEvidence (s : SessionState) :
    ProofGraphProjection × ClaimDiagnostics :=
  let failures := integrityFailures s
  if failures.isEmpty then (s.proofGraph, failures)
  else
    ({ s.proofGraph with
        claims := s.proofGraph.claims.flatMap fun claim =>
          if failures.any (·.1 == claim.claimId) then
            env.reevaluateClaim s.proofContract s.validationAttempts
              (s.implementation.map (·.digest)) s.proofGraph.evaluatedAt
              claim.toDeclaredClaim
          else [claim]
        claimDiagnostics := failures ++ s.proofGraph.claimDiagnostics }, failures)

/-! ### The gate -/

structure ProofGraphGateDecision where
  gated : Bool
  blockingClaims : List BlockingClaim
  reasonCode : EnforcementReasonCode
  reason : String
  kind : EnforcementDecisionKind
  relevantTriggers : List SpecificRiskTrigger
  uncoveredTriggers : List SpecificRiskTrigger
deriving DecidableEq, Repr

/-- The triggers that require coverage; the ceremony marker never does. -/
def relevantTriggers (assessment : Option ImplementationRiskAssessment) :
    List SpecificRiskTrigger :=
  (assessment.elim [] (·.riskTriggers)).filterMap fun
    | .specific trigger => some trigger
    | .ceremonyOnly => none

/-- Stale: an implementation exists and the assessment is not bound to it. -/
def isRiskAssessmentStale (s : SessionState) : Bool :=
  s.implementation.any fun implementation =>
    !s.implementationRiskAssessment.any
      (·.implementationDigest == implementation.digest)

def enforcementInput (s : SessionState) : ComputeEnforcementInput :=
  let (projection, failures) := assessProofGraphEvidence env s
  { contract := s.proofContract
    projection := projection
    authorization :=
      match authorizedCriticalPlanClaimIds env.hashing s with
      | .authorized claims => claims
      | _ => .empty
    certificateValid :=
      match authorizedCriticalPlanClaimIds env.hashing s with
      | .authorized _ => true
      | _ => false
    riskAssessmentStale := isRiskAssessmentStale s
    riskTriggers := relevantTriggers s.implementationRiskAssessment
    claimDiagnostics := fun claimId =>
      failures.lookup claimId <|> s.proofGraph.claimDiagnostics.lookup claimId }

def evaluateProofGraphGateFromState (s : SessionState) : ProofGraphGateDecision :=
  let enforcement := computeProofGraphEnforcement env.hashing (enforcementInput env s)
  { gated := !enforcement.satisfied
    blockingClaims := enforcement.blockingClaims
    reasonCode := enforcement.reasonCode
    reason := enforcement.reason
    kind := enforcement.decisionKind
    relevantTriggers := relevantTriggers s.implementationRiskAssessment
    uncoveredTriggers := enforcement.uncoveredTriggers }

/-! ### The preflight -/

/-- A denial with the data of its registry text. -/
structure EvidenceApprovalBlock where
  code : String
  params : List (String × String)
  reason : Option String
  recovery : Option (List String)
deriving DecidableEq, Repr

def EvidenceApprovalBlock.plain (code : String) (params : List (String × String)) :
    EvidenceApprovalBlock :=
  ⟨code, params, none, none⟩

inductive EvidenceApprovalPreflightResult
  | clear
  | blocked (block : EvidenceApprovalBlock)
deriving DecidableEq, Repr

/-- A persisted blocking rejection of a plan claim, with its own reason. -/
def rejectedCriticalClaimBlock (s : SessionState) : Option EvidenceApprovalBlock :=
  let rejected := (s.plan.bind (·.claimSubmissionDiagnostics)).elim []
    (·.rejectedClaims)
  (rejected.find? (·.blocking)).map fun claim =>
    { code := "PROOFGRAPH_CLAIM_NOT_DECLARED"
      params := []
      reason := some claim.reason
      recovery := some
        (claim.recovery ++ env.recoverySteps "PROOFGRAPH_CLAIM_NOT_DECLARED").eraseDups }

/-- The registry code and parameters of a gate decision that is not clear. -/
def gateBlock (decision : ProofGraphGateDecision) : EvidenceApprovalBlock :=
  let triggers (list : List SpecificRiskTrigger) :=
    [("triggers", ", ".intercalate (list.map (·.name)))]
  let claimIds := ("claimIds", ", ".intercalate
    (decision.blockingClaims.map (·.claimId)))
  match decision.kind with
  | .criticalFactRequired =>
      .plain "PROOFGRAPH_CRITICAL_FACT_REQUIRED" (triggers decision.relevantTriggers)
  | .riskTriggerUncovered =>
      .plain "PROOFGRAPH_RISK_TRIGGER_UNCOVERED" (triggers decision.uncoveredTriggers)
  | .factsUnproven =>
      .plain "PROOFGRAPH_CRITICAL_FACTS_UNPROVEN"
        [("claimDetails", ", ".intercalate (decision.blockingClaims.map fun claim =>
          claim.claimId ++ " (" ++ claim.registryCode ++ ")")), claimIds]
  | .evaluationUnavailable =>
      .plain (mapEnforcementReasonToRegistryCode decision.reasonCode) [claimIds]
  | _ => .plain (mapEnforcementReasonToRegistryCode decision.reasonCode) []

/-- The substantive prerequisite of an evidence approval. -/
def evaluateEvidenceApprovalPreflight (s : SessionState) :
    EvidenceApprovalPreflightResult :=
  match rejectedCriticalClaimBlock env s with
  | some block => .blocked block
  | none =>
      if s.phase != .evidenceReview then .clear
      else
        let decision := evaluateProofGraphGateFromState env s
        if !decision.gated then .clear else .blocked (gateBlock decision)

end Environment

end GovernedRuntime.ProofGraph
