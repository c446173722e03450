/-
The session state and the frozen policy (`src/state/schema.ts`,
`src/state/session-state-*-shape.ts`, `src/state/evidence-policy.ts`).
-/
import GovernedRuntime.Library.Texts
import GovernedRuntime.Machine.Topology
import GovernedRuntime.State.ProofGraph

namespace GovernedRuntime.State

open GovernedRuntime.Library (isLowerHex)
open GovernedRuntime.Machine

inductive Enforcement
  | off
  | advisory
  | required
deriving DecidableEq, Repr

/-- The frozen policy: what the modelled functions read, and the rest. -/
structure PolicySnapshot where
  hash : String
  hashVersion : String
  requireHumanGates : Bool
  allowReducedCeremony : Bool
  riskTriggerPaths : List RiskTriggerRule
  /-- `discoveryHealth.enforcement`. -/
  discoveryHealth : Enforcement
  /-- `validationEvidence.enforcement`. -/
  validationEvidence : Enforcement
  /-- `validationEvidence.allowNoCommands`. -/
  allowNoCommands : Bool
  other : CanonicalText
deriving DecidableEq, Repr

/-- The last transition, as persisted and as recorded for the audit trail. -/
structure Transition where
  fromPhase : Phase
  toPhase : Phase
  event : Event
  atTime : Timestamp
deriving DecidableEq, Repr

structure DiscoverySummary where
  primaryLanguages : List String
  frameworks : List String
  other : CanonicalText
deriving DecidableEq, Repr

/-- The session state.  Slots that only enter the approval basis are canonical
texts; slots that no modelled function reads are left out. -/
structure SessionState where
  id : String
  flowguardSessionId : String
  phase : Phase
  claimedTaskClass : Option TaskClass
  riskGate : Option RiskGate
  implementationRiskAssessment : Option ImplementationRiskAssessment
  implementationRework : Option ImplementationRework
  discoveryHealthGate : Option DiscoveryHealthGate
  binding : CanonicalText
  ticket : Option TicketEvidence
  architecture : Option ArchitectureDecision
  plan : Option PlanRecord
  selfReview : Option SelfReviewLoop
  validation : List ValidationResult
  validationAttempts : List ValidationAttempt
  mutationEpisodes : List MutationEpisode
  mutationEpisodeResolutions : List MutationEpisodeResolution
  challengeResolutions : CanonicalText
  implValidation : List ValidationResult
  implementation : Option ImplEvidence
  implementationBaseAuthority : Option CanonicalText
  reducedCeremony : Option ReducedCeremonyDecision
  implReview : Option ImplReviewResult
  reviewCycles : ReviewCycles
  implReviewFindings : CanonicalText
  reviewAssurance : Option ReviewAssuranceState
  reviewDecision : Option ReviewDecision
  reviewReportPath : Option String
  proofContract : Option ProofContract
  proofContractCoverage : Option CanonicalText
  proofGraph : ProofGraphProjection
  activeChecks : List String
  policySnapshot : PolicySnapshot
  initiatedBy : String
  initiatedByIdentity : Option DecisionIdentity
  actorInfo : Option CanonicalText
  discoveryDigest : Option String
  discoverySummary : Option DiscoverySummary
  /-- `detectedStack.items`, when a stack was detected. -/
  detectedStack : Option (List CanonicalText)
  verificationCandidates : Option (List VerificationCandidate)
  executionSubjectInputsByCandidateId : Option CanonicalText
  transition : Option Transition
  error : Option ErrorInfo
  pendingSystemWork : Option SystemWorkOperation
deriving DecidableEq, Repr

/-- What a new session is hydrated from. -/
structure HydrateInput where
  sessionId : String
  binding : CanonicalText
  now : Timestamp
  policySnapshot : PolicySnapshot
  activeChecks : List String
  claimedTaskClass : Option TaskClass
  initiatedBy : String
  initiatedByIdentity : Option DecisionIdentity
  actorInfo : Option CanonicalText
  discoveryDigest : Option String
  discoverySummary : Option DiscoverySummary
  detectedStack : Option (List CanonicalText)
  verificationCandidates : List VerificationCandidate
  executionSubjectInputsByCandidateId : CanonicalText
deriving DecidableEq, Repr

/-- `buildNewHydrateState` (`src/rails/hydrate.ts`): a session before any
evidence. -/
def buildNewHydrateState (input : HydrateInput) : SessionState :=
  { id := input.sessionId
    flowguardSessionId := input.sessionId
    phase := .ready
    claimedTaskClass := input.claimedTaskClass
    riskGate := none
    implementationRiskAssessment := none
    implementationRework := none
    discoveryHealthGate := none
    binding := input.binding
    ticket := none
    architecture := none
    plan := none
    selfReview := none
    validation := []
    validationAttempts := []
    mutationEpisodes := []
    mutationEpisodeResolutions := []
    challengeResolutions := "[]"
    implValidation := []
    implementation := none
    implementationBaseAuthority := none
    reducedCeremony := none
    implReview := none
    reviewCycles := ⟨1, 1, 1⟩
    implReviewFindings := "[]"
    reviewAssurance := none
    reviewDecision := none
    reviewReportPath := none
    proofContract := none
    proofContractCoverage := none
    proofGraph := ⟨[], input.now, []⟩
    activeChecks := input.activeChecks
    policySnapshot := input.policySnapshot
    initiatedBy := input.initiatedBy
    initiatedByIdentity := input.initiatedByIdentity
    actorInfo := input.actorInfo
    discoveryDigest := input.discoveryDigest
    discoverySummary := input.discoverySummary
    detectedStack := input.detectedStack
    verificationCandidates := some input.verificationCandidates
    executionSubjectInputsByCandidateId :=
      some input.executionSubjectInputsByCandidateId
    transition := none
    error := none
    pendingSystemWork := none }

/-! ### Hashing -/

/-- What the certified semantics of a claim consist of. -/
structure ClaimSemantics where
  claimId : String
  statement : String
  critical : Bool
  claimScope : Option ClaimScope
  authoritySectionId : String
  expectedCheckId : String
  expectedAssertion : Option AssertionIdentity
  structuralSurface : Option String
  mutationProfile : Option String
  counterexampleRequirement : Option CounterexampleRequirement
  coversRiskTriggers : List SpecificRiskTrigger
  requiredEvidence : Option RequiredEvidence
deriving DecidableEq, Repr

/-- `evidenceApprovalBasisProjection`.  The decision is present only in the basis
of the approved state, and the projection has no evaluation times. -/
structure EvidenceApprovalBasis where
  flowguardSessionId : String
  bindingDigest : String
  policySnapshot : PolicySnapshot
  ticket : Option TicketEvidence
  architecture : Option ArchitectureDecision
  actorInfo : Option CanonicalText
  initiatedBy : String
  initiatedByIdentity : Option DecisionIdentity
  reducedCeremony : Option ReducedCeremonyDecision
  implementationRework : Option ImplementationRework
  reviewDecision : Option (Option ReviewDecision)
  plan : Option PlanRecord
  implReview : Option ImplReviewResult
  implReviewFindings : CanonicalText
  reviewAssurance : Option ReviewAssuranceState
  validationAttempts : List ValidationAttempt
  implValidation : List ValidationResult
  mutationEpisodes : List MutationEpisode
  mutationEpisodeResolutions : List MutationEpisodeResolution
  implementation : Option ImplEvidence
  implementationBaseAuthority : Option CanonicalText
  verificationCandidates : Option (List VerificationCandidate)
  executionSubjectInputsByCandidateId : Option CanonicalText
  challengeResolutions : CanonicalText
  implementationRiskAssessment : Option ImplementationRiskAssessment
  proofContract : Option ProofContract
  proofContractCoverage : Option CanonicalText
  proofGraphClaims : List (DeclaredClaim × ClaimVerificationState ×
    Option (String × Bool))
  proofGraphDiagnostics : List (String × AssertionBindingReasonCode)
deriving DecidableEq, Repr

/-- `hashText`, and `canonicalJsonStringify` at each type the code applies it
to. -/
structure Hashing where
  hashText : String → String
  claimDeclarations : PlanClaimDeclarations → CanonicalText
  claimSemantics : ClaimSemantics → CanonicalText
  attestation : PlanApprovalAttestation → CanonicalText
  planCertificate : CertifiedPlanContent → CanonicalText
  architectureCertificate : CertifiedArchitectureContent → CanonicalText
  decision : ReviewDecision → CanonicalText
  candidate : VerificationCandidate → CanonicalText
  transition : Option Transition → CanonicalText
  approvalBasis : EvidenceApprovalBasis → CanonicalText

/-- What `assessMinimumTaskClass` answers for a list of changed files. -/
structure RecomputedRisk where
  minimumTaskClass : TaskClass
  touchedSurfaces : List String
  riskTriggers : List RiskTrigger
deriving DecidableEq, Repr

/-- The functions the governance code calls and this development does not
unfold: hashing, Unicode folding, the classification of paths and ticket texts,
the evaluation of a single claim, and the reason registry. -/
structure Environment where
  hashing : Hashing
  /-- `normalize('NFC').toLowerCase()`. -/
  foldCase : String → String
  assessMinimumTaskClass : List String → List RiskTriggerRule → RecomputedRisk
  reducedCeremonyEligible : List String → Bool
  parseTicketRiskDeclaration : String → TicketRiskDeclaration
  /-- `evaluateProofGraph` on one claim whose referenced assertion evidence was
  refused, with the counterexamples `bindCounterexamples` finds. -/
  reevaluateClaim : Option ProofContract → List ValidationAttempt →
    Option String → Timestamp → DeclaredClaim → List ProofClaim
  /-- `defaultReasonRegistry.get(code)?.recoverySteps ?? []`. -/
  recoverySteps : String → List String

/-- Hashing that keeps the whole text: no two values share a digest. -/
def Hashing.transparent : Hashing :=
  { hashText := id
    claimDeclarations := reprStr
    claimSemantics := reprStr
    attestation := reprStr
    planCertificate := reprStr
    architectureCertificate := reprStr
    decision := reprStr
    candidate := reprStr
    transition := reprStr
    approvalBasis := reprStr }

/-- An environment whose paths are all of the standard class and whose tickets
declare no risk. -/
def Environment.plain : Environment :=
  { hashing := .transparent
    foldCase := id
    assessMinimumTaskClass := fun paths _ => ⟨.standard, paths, []⟩
    reducedCeremonyEligible := fun _ => false
    parseTicketRiskDeclaration := fun _ => .absent
    reevaluateClaim := fun _ _ _ _ _ => []
    recoverySteps := fun _ => [] }

/-- A digest folded into the shape of a versioned UUID. -/
def digestToId (digest : String) (version : Char) : String :=
  let hex := (digest.toLower.toList.filter isLowerHex).rightpad 32 '0'
  let part (start stop : Nat) := (hex.take stop).drop start
  String.ofList (part 0 8 ++ ['-'] ++ part 8 12 ++ ['-', version] ++ part 13 16 ++
    ['-', '8'] ++ part 17 20 ++ ['-'] ++ part 20 32)

end GovernedRuntime.State
