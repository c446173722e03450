/-
Plan revisions as the plan tool writes them: the claims it admits, the evidence of a
revision, and the state a submission leaves (`src/integration/tools/plan/`).
-/
import GovernedRuntime.Rails.AutoAdvance
import GovernedRuntime.State.PlanChain
import GovernedRuntime.Tools.Assurance

namespace GovernedRuntime.Tools

open GovernedRuntime.Library (truthy)
open GovernedRuntime.State
open GovernedRuntime.Machine
open GovernedRuntime.Rails

/-! ### Arguments and scope -/

/-- A claim as it is submitted: without the identity the host mints. -/
structure PlanClaimDeclarationInput where
  statement : String
  critical : Bool
  authoritySectionId : String
  claimScope : ClaimScope
  expectedCheckId : String
  expectedAssertion : Option AssertionIdentity
  counterexampleRequirement : Option CounterexampleRequirement
  structuralSurface : Option String
  mutationProfile : Option String
  coversRiskTriggers : Option (List SpecificRiskTrigger)
deriving DecidableEq, Repr

structure PlanArgs where
  planText : Option String
  claims : Option (List PlanClaimDeclarationInput)
  reviewVerdict : Option LoopVerdict
  reviewerUnavailable : Bool
deriving DecidableEq, Repr

/-- What the claim contract says of a submitted batch. -/
structure ClaimContractBatch where
  /-- The refusal of the first violation of the whole set. -/
  setViolation : Option String
  /-- The indexes of the admitted claims. -/
  accepted : List Nat
  rejected : List RejectedClaim

/-- Findings of a reviewer: the verdict, and the rest as canonical text. -/
structure ReviewFindings where
  overallVerdict : LoopVerdict
  other : CanonicalText
deriving DecidableEq, Repr

/-- What one captured invocation is worth for an obligation. -/
inductive StructuredEvaluation
  | skip
  | resolved (findings : ReviewFindings)
  | rejected (code : String)
  | deferred
deriving DecidableEq, Repr

/-- The functions the plan tool calls and this development does not unfold. -/
structure PlanServices where
  env : Environment
  projectMarkdownHeadings : String → List String
  mintProofGraphClaimId : (statement authoritySectionId : String) → String
  classifyProofClaimContract : SessionState → PlanClaimDeclarations → ClaimContractBatch
  /-- The reviewer findings of a record with one entry more. -/
  appendReviewFindings : CanonicalText → ReviewFindings → CanonicalText
  appendClaimSubmission : CanonicalText → Nat → ClaimSubmissionDiagnostics → CanonicalText
  /-- The frozen context of a plan obligation, or why there is none. -/
  freezeReviewContext : SessionState → PlanEvidence → PlanClaimDeclarations →
    Except String CanonicalText
  /-- The remaining assurance slots with the first attempt of an obligation. -/
  appendInitialAttempt : CanonicalText → ReviewObligation → CanonicalText
  evaluateStructuredInvocation : SessionState → ReviewObligation → ReviewInvocation →
    StructuredEvaluation
  /-- `capturedRawFindings` is present. -/
  hasCapturedFindings : ReviewInvocation → Bool
  /-- The remaining slots of an invocation with its consumer set. -/
  markConsumed : String → CanonicalText → CanonicalText

/-- The review budget of a policy, a positive number of iterations. -/
structure ReviewBudget where
  iterations : Nat
  positive : 0 < iterations

/-- The scope of one call.  The identities are what `randomUUID` answers, and
`readings` are the times the tool itself asks for. -/
structure PlanExecutionScope where
  state : SessionState
  args : PlanArgs
  policy : FlowGuardPolicy
  budget : ReviewBudget
  now : Nat → Timestamp
  readings : Nat → Timestamp
  claimSubmissionDiagnostics : Option ClaimSubmissionDiagnostics
  revisionId : String
  obligationId : String

def PlanExecutionScope.maxPlanReviewIterations (scope : PlanExecutionScope) : Nat :=
  scope.budget.iterations

section Services

variable (services : PlanServices)

/-- `scope.ctx`. -/
def PlanExecutionScope.ctx (scope : PlanExecutionScope) : RailContext :=
  { now := scope.now
    digest := services.env.hashing.hashText
    policy := some scope.policy }

/-! ### Claims -/

def normalizePlanClaims (claims : List PlanClaimDeclarationInput) : PlanClaimDeclarations :=
  claims.map fun claim =>
    { claimId := services.mintProofGraphClaimId claim.statement claim.authoritySectionId
      statement := claim.statement
      critical := claim.critical
      authoritySectionId := claim.authoritySectionId
      claimScope := claim.claimScope
      expectedCheckId := claim.expectedCheckId
      expectedAssertion := claim.expectedAssertion
      counterexampleRequirement := claim.counterexampleRequirement
      structuralSurface := claim.structuralSurface
      mutationProfile := claim.mutationProfile
      coversRiskTriggers := claim.coversRiskTriggers }

def claimDeclarationsDigest (declarations : PlanClaimDeclarations) : String :=
  services.env.hashing.hashText (services.env.hashing.claimDeclarations declarations)

/-- The entries at the accepted indexes. -/
def acceptedAt {α : Type} (accepted : List Nat) (items : List α) : List α :=
  (items.zipIdx.filter fun entry => accepted.contains entry.2).map Prod.fst

/-- Blocking declarations are never left behind. -/
def blockRejectedDeclarations (diagnostics : Option ClaimSubmissionDiagnostics) :
    Option String :=
  if diagnostics.any (·.rejectedClaims.any (·.blocking)) then
    some "PROOFGRAPH_CLAIM_NOT_DECLARED"
  else none

/-- The claims a call is admitted with, and the record of the others. -/
def classifyPlanClaimSubmission (args : PlanArgs) (state : SessionState) :
    Except String (PlanArgs × Option ClaimSubmissionDiagnostics) :=
  match args.claims with
  | none =>
      match blockRejectedDeclarations (state.plan.bind (·.claimSubmissionDiagnostics)) with
      | some code => .error code
      | none => .ok (args, none)
  | some [] => .ok (args, none)
  | some claims =>
      let normalized := normalizePlanClaims services claims
      let batch := services.classifyProofClaimContract state normalized
      match batch.setViolation with
      | some code => .error code
      | none =>
          if batch.rejected.isEmpty then .ok (args, none)
          else
            let diagnostics : ClaimSubmissionDiagnostics :=
              { submittedClaimDeclarationsDigest := claimDeclarationsDigest services normalized
                acceptedClaimDeclarationsDigest :=
                  claimDeclarationsDigest services (acceptedAt batch.accepted normalized)
                rejectedClaims := batch.rejected }
            match blockRejectedDeclarations (some diagnostics) with
            | some code => .error code
            | none => .ok
                ({ args with claims := some (acceptedAt batch.accepted claims) },
                  some diagnostics)

def admitPlanRevision (scope : PlanExecutionScope) : Except String PlanExecutionScope :=
  match classifyPlanClaimSubmission services scope.args scope.state with
  | .error code => .error code
  | .ok (args, diagnostics) => .ok
      { scope with
        args := args
        claimSubmissionDiagnostics := diagnostics.or scope.claimSubmissionDiagnostics }

/-- Admission only narrows the claims. -/
theorem admitPlanRevision_ok {scope admitted : PlanExecutionScope}
    (hadmitted : admitPlanRevision services scope = .ok admitted) :
    ∃ claims diagnostics, admitted =
      { scope with
        args := { scope.args with claims := claims }
        claimSubmissionDiagnostics := diagnostics } := by
  rw [admitPlanRevision] at hadmitted
  split at hadmitted
  · cases hadmitted
  · rename_i args diagnostics hclassify
    cases hadmitted
    suffices hargs : ∃ claims, args = { scope.args with claims := claims } by
      obtain ⟨claims, rfl⟩ := hargs
      exact ⟨claims, _, rfl⟩
    rw [classifyPlanClaimSubmission] at hclassify
    split at hclassify
    · split at hclassify <;> cases hclassify
      exact ⟨_, rfl⟩
    · cases hclassify
      exact ⟨_, rfl⟩
    · dsimp only at hclassify
      split at hclassify
      · cases hclassify
      · split_ifs at hclassify
        · cases hclassify
          exact ⟨_, rfl⟩
        · split at hclassify <;> cases hclassify
          exact ⟨_, rfl⟩

/-! ### Evidence of a revision -/

def normalizeReviewArtifactText (text : String) : String := Activation.trim text

/-- Where a revision stands in the lineage; the defaults are those of a first one. -/
structure RevisionLineage where
  planVersion : Nat := 1
  supersedesRecordDigest : Option String := none
  originatingReviewObligationId : Option String := none
  revisionReason : Option String := none

def buildPlanEvidence (planBody : String) (scope : PlanExecutionScope)
    (lineage : RevisionLineage) : PlanEvidence :=
  let normalizedBody := normalizeReviewArtifactText planBody
  let contentDigest := (scope.ctx services).digest normalizedBody
  { body := normalizedBody
    digest := contentDigest
    sections := services.projectMarkdownHeadings normalizedBody
    createdAt := scope.readings 0
    revisionId := scope.revisionId
    recordDigest := computeRecordDigest services.env.hashing.hashText planLineageText
      { contentDigest := contentDigest
        planVersion := lineage.planVersion
        supersedesRecordDigest := lineage.supersedesRecordDigest
        originatingReviewObligationId := lineage.originatingReviewObligationId
        revisionReason := lineage.revisionReason
        revisionId := scope.revisionId }
    planVersion := lineage.planVersion
    supersedesRecordDigest := lineage.supersedesRecordDigest
    originatingReviewObligationId := lineage.originatingReviewObligationId
    revisionReason := lineage.revisionReason }

/-- The digests of a built revision are those of its content. -/
theorem buildPlanEvidence_digests (planBody : String) (scope : PlanExecutionScope)
    (lineage : RevisionLineage) :
    let evidence := buildPlanEvidence services planBody scope lineage
    evidence.digest = services.env.hashing.hashText evidence.body ∧
      evidence.recordDigest =
        computeRecordDigest services.env.hashing.hashText planLineageText evidence.lineage :=
  ⟨rfl, rfl⟩

/-! ### The submitted state -/

def currentClaimSubmissionDiagnostics (scope : PlanExecutionScope) :
    Option ClaimSubmissionDiagnostics :=
  if scope.args.claims.isSome then scope.claimSubmissionDiagnostics
  else scope.state.plan.bind (·.claimSubmissionDiagnostics)

/-- Fresh normalized claims, or the set carried over. -/
def submittedPlanClaimDeclarations (scope : PlanExecutionScope) :
    Option PlanClaimDeclarations :=
  match scope.args.claims with
  | some claims => some (normalizePlanClaims services claims)
  | none => scope.state.plan.bind (·.claimDeclarations)

def noSubmissions : CanonicalText := "[]"

def appendClaimSubmissionHistory (scope : PlanExecutionScope) (planVersion : Nat) :
    CanonicalText :=
  let history := (scope.state.plan.bind (·.claimSubmissionHistory)).getD noSubmissions
  match scope.args.claims, scope.claimSubmissionDiagnostics with
  | some _, some diagnostics => services.appendClaimSubmission history planVersion diagnostics
  | _, _ => history

/-- The review obligation whose verdict triggered this revision. -/
def originatingPlanReviewObligationId (scope : PlanExecutionScope) : Option String :=
  ((ensureReviewAssurance scope.state.reviewAssurance).obligations.reverse.find?
    fun obligation => obligation.obligationType == .plan &&
      (obligation.status == .fulfilled || obligation.status == .consumed)).map
    (·.obligationId)

/-- The evidence `handlePlanSubmission` builds, and its version. -/
def submittedPlanEvidence (scope : PlanExecutionScope) : PlanEvidence :=
  let planVersion := (scope.state.plan.map (·.current.planVersion + 1)).getD 1
  buildPlanEvidence services (normalizeReviewArtifactText (scope.args.planText.getD "")) scope
    { planVersion := planVersion
      supersedesRecordDigest := scope.state.plan.map (·.current.recordDigest)
      originatingReviewObligationId := originatingPlanReviewObligationId scope
      revisionReason := scope.state.plan.map fun _ => "Revision after changes requested" }

/-! ### Obligations -/

/-- The declarations a plan obligation is bound to. -/
def obligationDeclarations (declarations : Option PlanClaimDeclarations) :
    PlanClaimDeclarations :=
  declarations.getD []

/-- `createReviewObligation` for a plan. -/
def createPlanObligation (scope : PlanExecutionScope) (state : SessionState)
    (planEvidence : PlanEvidence) (iteration planVersion : Nat)
    (declarations : PlanClaimDeclarations) : Except String ReviewObligation :=
  if planEvidence.digest == "" then .error "REVIEW_SUBJECT_DIGEST_MISSING"
  else
    (services.freezeReviewContext state planEvidence declarations).map fun other =>
      { obligationId := scope.obligationId
        obligationType := .plan
        iteration := iteration
        planVersion := planVersion
        createdAt := scope.readings 1
        status := .pending
        invocationId := none
        blockedCode := none
        consumedAt := none
        subjectDigest := planEvidence.digest
        claimDeclarationsDigest :=
          truthy (some (claimDeclarationsDigest services declarations))
        other := other }

/-- `createObligationAndAttempt`. -/
def appendObligationAndInitialAttempt (assurance : Option ReviewAssuranceState)
    (obligation : ReviewObligation) : ReviewAssuranceState :=
  let appended := appendReviewObligation assurance (some obligation)
  { appended with other := services.appendInitialAttempt appended.other obligation }

/-- `createPlanReviewAttempt`. -/
def createPlanReviewAttempt (scope : PlanExecutionScope) (planEvidence : PlanEvidence)
    (planVersion : Nat) : Except String ReviewAssuranceState :=
  (createPlanObligation services scope scope.state planEvidence 0 planVersion
    (obligationDeclarations (submittedPlanClaimDeclarations services scope))).map
    (appendObligationAndInitialAttempt services scope.state.reviewAssurance)

/-! ### The submitted state -/

def noFindings : CanonicalText := "[]"

def carriedPlanReviewFindings (plan : Option PlanRecord) : CanonicalText :=
  (plan.map (·.reviewFindings)).getD noFindings

def buildPlanSubmissionState (scope : PlanExecutionScope) (planEvidence : PlanEvidence)
    (planVersion : Nat) (assurance : ReviewAssuranceState) : SessionState :=
  let history := (scope.state.plan.map fun plan => plan.current :: plan.history).getD []
  { scope.state with
    plan := some
      { current := planEvidence
        history := history
        reviewFindings := carriedPlanReviewFindings scope.state.plan
        claimDeclarations := submittedPlanClaimDeclarations services scope
        claimSubmissionDiagnostics := currentClaimSubmissionDiagnostics scope
        claimSubmissionHistory :=
          some (appendClaimSubmissionHistory services scope planVersion)
        approvalCertificate := none
        reviewCompletion := .pending }
    -- failed checks of the plan before would lead straight back to the plan
    validation := []
    selfReview := some
      { iteration := 0
        reviewCycle := scope.state.reviewCycles.plan
        maxIterations := scope.maxPlanReviewIterations
        prevDigest := none
        currDigest := planEvidence.digest
        revisionDelta := .major
        verdict := .changesRequested }
    reviewAssurance := some assurance
    error := none }

end Services

end GovernedRuntime.Tools
