/-
The architecture tool (`src/integration/tools/architecture/`, `src/rails/architecture.ts`):
submission of an ADR, the restart after a blocked review, and the reviewer's verdict.
-/
import GovernedRuntime.Tools.ArtifactRoutes

namespace GovernedRuntime.Tools

open GovernedRuntime.Library (truthy)
open GovernedRuntime.State
open GovernedRuntime.Machine
open GovernedRuntime.Rails

/-! ### Arguments and scope -/

structure ArchitectureArgs where
  title : Option String
  adrText : Option String
  /-- The submitted claims, as canonical text. -/
  claims : Option CanonicalText
  reviewVerdict : Option LoopVerdict
  reviewerUnavailable : Bool
deriving DecidableEq, Repr

/-- The session a call works on.  `adrId` is the next free ADR id, `obligationId` what
`randomUUID` answers, and `readings` are the times the tool itself asks for. -/
structure ArchitectureSession where
  state : SessionState
  args : ArchitectureArgs
  policy : FlowGuardPolicy
  /-- `policy.reviewBudget.architecture`. -/
  budget : ReviewBudget
  now : Nat → Timestamp
  readings : Nat → Timestamp
  adrId : String
  obligationId : String

/-- Whether a text contains another one. -/
def includesText (text part : String) : Bool :=
  text.toList.tails.any (part.toList.isPrefixOf ·)

def requiredAdrSections : List String := ["## Context", "## Decision", "## Consequences"]

/-- The required headings a text does not contain. -/
def validateAdrSections (adrText : String) : List String :=
  requiredAdrSections.filter fun heading => !includesText adrText heading

section Services

variable (services : ArtifactServices)

def ArchitectureSession.ctx (session : ArchitectureSession) : RailContext :=
  { now := session.now
    digest := services.env.hashing.hashText
    policy := some session.policy }

def parseArchitectureClaimsInput (claims : Option CanonicalText) :
    Except String (Option CanonicalText) :=
  match claims with
  | none => .ok none
  | some claims => (services.parseArchitectureClaims claims).map some

/-! ### Shape of a call -/

def detectInvalidArchitectureShape (args : ArchitectureArgs) : Option String :=
  if hasText args.adrText && args.reviewVerdict.any (· != .changesRequested) then
    some "ADR_APPROVE_WITH_TEXT"
  else if args.reviewerUnavailable && args.reviewVerdict.isNone then
    some "INVALID_ARCHITECTURE_TOOL_SEQUENCE"
  else none

def validateArchitectureCallShape (args : ArchitectureArgs) : Option String :=
  if hasText args.title && args.reviewVerdict.isSome then some "ADR_SUBMISSION_MIXED_INPUTS"
  else detectInvalidArchitectureShape args

def blockedArchitectureReviews (state : SessionState) : Nat :=
  ((obligationsOfType .architecture (obligationsOf state)).filter (·.status == .blocked)).length

/-- A review under way refuses a submission; a blocked one admits it three times. -/
def validateInitialSubmissionGate (args : ArchitectureArgs) (state : SessionState) :
    Option String :=
  if args.reviewVerdict.isSome || (!hasText args.title && !hasText args.adrText) ||
      state.phase != .architecture || state.selfReview.isNone then none
  else if (lastObligation .architecture (obligationsOf state)).map (·.status) !=
      some .blocked then some "ADR_REVIEW_IN_PROGRESS"
  else if 3 ≤ blockedArchitectureReviews state then some "ORCHESTRATION_PERMANENTLY_FAILED"
  else none

/-! ### Obligations -/

/-- `createReviewObligation` for an ADR. -/
def createArchitectureObligation (session : ArchitectureSession) (state : SessionState)
    (architecture : ArchitectureDecision) (iteration planVersion : Nat) :
    Except String ReviewObligation :=
  if architecture.digest == "" then .error "REVIEW_SUBJECT_DIGEST_MISSING"
  else
    (services.freezeArchitectureContext state architecture).map fun other =>
      { obligationId := session.obligationId
        obligationType := .architecture
        iteration := iteration
        planVersion := planVersion
        createdAt := session.readings 1
        status := .pending
        invocationId := none
        blockedCode := none
        consumedAt := none
        subjectDigest := architecture.digest
        claimDeclarationsDigest := none
        other := other }

/-- The assurance with a fresh obligation and its first attempt. -/
def mintArchitectureObligation (session : ArchitectureSession) (state : SessionState)
    (architecture : ArchitectureDecision) (iteration planVersion : Nat) :
    Except String ReviewAssuranceState :=
  (createArchitectureObligation services session state architecture iteration planVersion).map
    (appendObligationAndInitialAttempt services.toPlanServices state.reviewAssurance)

/-! ### Submission -/

def advanceArchitectureState (session : ArchitectureSession) (next : SessionState) :
    Except String PlanWrite :=
  match autoAdvance services.env next
      (createPolicyEvalFn services.env (session.ctx services)) (session.ctx services) with
  | .error error => .error error.message
  | .ok (.overflow _) => .error "AUTO_ADVANCE_OVERFLOW"
  | .ok (.blocked result) => .error result.block.code
  | .ok (.advanced result) => .ok ⟨result.state, result.transitions, none⟩

/-- The ADR of a submission. -/
def submittedAdr (session : ArchitectureSession) (title : String)
    (claims : Option CanonicalText) : ArchitectureDecision :=
  let adrText := normalizeReviewArtifactText (session.args.adrText.getD "")
  { id := session.adrId
    title := title
    adrText := adrText
    status := .proposed
    reviewCompletion := .pending
    createdAt := session.readings 0
    digest := (session.ctx services).digest adrText
    reviewFindings := noFindings
    claimDeclarations := claims
    approvalCertificate := none }

/-- The flow is selected by the first ADR. -/
def selectArchitectureFlow (session : ArchitectureSession) : SessionState :=
  if session.state.phase == .ready then
    { session.state with
      phase := .architecture
      transition := some ⟨.ready, .architecture, .architectureSelected, session.readings 2⟩ }
  else session.state

/-- The state with a fresh ADR and the loop that reviews it. -/
def submittedArchitectureState (session : ArchitectureSession) (adr : ArchitectureDecision) :
    SessionState :=
  { selectArchitectureFlow session with
    architecture := some adr
    selfReview := some
      { iteration := 0
        reviewCycle := session.state.reviewCycles.architecture
        maxIterations := session.budget.iterations
        prevDigest := none
        currDigest := adr.digest
        revisionDelta := .major
        verdict := .changesRequested }
    error := none }

/-- `executeArchitecture`, the rail that creates an ADR. -/
def executeArchitecture (session : ArchitectureSession) (title : String)
    (claims : Option CanonicalText) : Except String PlanWrite :=
  let adrText := normalizeReviewArtifactText (session.args.adrText.getD "")
  if !isCommandAllowed session.state.phase .architecture then .error "COMMAND_NOT_ALLOWED"
  else if normalizeReviewArtifactText title == "" then .error "EMPTY_ADR_TITLE"
  else if adrText == "" then .error "EMPTY_ADR_TEXT"
  else if validateAdrSections adrText != [] then .error "MISSING_ADR_SECTIONS"
  else
    (advanceArchitectureState services session
      (submittedArchitectureState session (submittedAdr services session title claims))).map
      fun write =>
        if session.state.phase == .ready then
          { write with
            transitions := ⟨.ready, .architecture, .architectureSelected, session.readings 2⟩ ::
              write.transitions }
        else write

/-- A written submission carries the obligation of its review. -/
def handleAdrSubmission (session : ArchitectureSession) : Except String PlanWrite :=
  match truthy session.args.title, truthy session.args.adrText with
  | none, _ => .error "EMPTY_ADR_TITLE"
  | _, none => .error "EMPTY_ADR_TEXT"
  | some title, some _ =>
      match parseArchitectureClaimsInput services session.args.claims with
      | .error code => .error code
      | .ok claims =>
          match executeArchitecture services session title claims with
          | .error code => .error code
          | .ok write =>
              match write.state.architecture with
              | none => .error "NO_ARCHITECTURE"
              | some architecture =>
                  (mintArchitectureObligation services session write.state architecture 0 1).map
                    fun assurance =>
                      { write with
                        state := { write.state with reviewAssurance := some assurance } }

/-! ### Restart -/

/-- The ADR a restart reviews: the current one, or its revision. -/
def resolveRestartRevision (session : ArchitectureSession) (architecture : ArchitectureDecision)
    (submittedDigest : String) (sameRevision : Bool) :
    Except String (ArchitectureDecision × RevisionDelta) :=
  match parseArchitectureClaimsInput services session.args.claims with
  | .error code => .error code
  | .ok claims =>
      let declared :=
        { architecture with claimDeclarations := claims.or architecture.claimDeclarations }
      if sameRevision then .ok (declared, .none)
      else
        let adrText := session.args.adrText.getD ""
        if validateAdrSections adrText != [] then .error "MISSING_ADR_SECTIONS"
        else .ok
          ({ declared with
              adrText := adrText
              digest := submittedDigest
              approvalCertificate := none }, .minor)

/-- The ADR keeps its identity: a blocked obligation opens a new review, not a new ADR. -/
def buildRestartedState (state : SessionState) (architecture : ArchitectureDecision)
    (selfReview : SelfReviewLoop) (nextAdr : ArchitectureDecision) (sameRevision : Bool)
    (revisionDelta : RevisionDelta) (assurance : ReviewAssuranceState) : SessionState :=
  { state with
    architecture := some nextAdr
    selfReview := some
      { selfReview with
        prevDigest := if sameRevision then selfReview.prevDigest else some architecture.digest
        currDigest := nextAdr.digest
        revisionDelta := if sameRevision then selfReview.revisionDelta else revisionDelta
        verdict := .changesRequested }
    reviewAssurance := some assurance }

/-- The digest a restart compares: that of the text as it was submitted. -/
def restartDigest (session : ArchitectureSession) : String :=
  (session.ctx services).digest (session.args.adrText.getD "")

def restartArchitectureReview (session : ArchitectureSession) (predecessor : ReviewObligation) :
    Option ArtifactAnswer :=
  let state := session.state
  match state.architecture, state.selfReview with
  | some architecture, some selfReview =>
      if !hasText session.args.adrText then none
      else if predecessor.iteration != selfReview.iteration then
        some (.refused "RESTART_CYCLE_ITERATION_MISMATCH")
      else if 3 ≤ blockedArchitectureReviews state then
        some (.refused "ORCHESTRATION_PERMANENTLY_FAILED")
      else
        let submittedDigest := restartDigest services session
        let sameRevision := submittedDigest == architecture.digest
        match resolveRestartRevision services session architecture submittedDigest
            sameRevision with
        | .error code => some (.refused code)
        | .ok (nextAdr, revisionDelta) =>
            match mintArchitectureObligation services session state nextAdr selfReview.iteration
                predecessor.planVersion with
            | .error code => some (.refused code)
            | .ok assurance => some (.restarted
                (buildRestartedState state architecture selfReview nextAdr sameRevision
                  revisionDelta assurance) sameRevision)
  | _, _ => none

def routeArchitectureInitialSubmission (session : ArchitectureSession) :
    Option ArtifactAnswer :=
  let state := session.state
  if state.phase != .architecture || state.architecture.isNone || state.selfReview.isNone then
    none
  else
    match resolveReviewContinuation services state.reviewAssurance .architecture with
    | .pending obligation continuation => some
        (routePendingObligation services state session.args.adrText (session.readings 3)
          obligation continuation)
    | .blocked obligation => restartArchitectureReview services session obligation
    | .awaitingVerdict _ | .none => none

/-! ### Verdict -/

/-- Whether the verdict uses up the last iteration. -/
def adrReviewExhaustsBudget (session : ArchitectureSession) : Bool :=
  match session.state.selfReview with
  | none => false
  | some selfReview =>
      reviewExhaustsBudget session.args.reviewVerdict selfReview.iteration
        session.budget.iterations

structure AdrRevision where
  currentAdr : ArchitectureDecision
  prevDigest : String
  revisionDelta : RevisionDelta
  /-- The submitted revision was not adopted. -/
  discardedDraft : Bool

def keptAdr (architecture : ArchitectureDecision) (discardedDraft : Bool) : AdrRevision :=
  ⟨architecture, architecture.digest, .none, discardedDraft⟩

/-- The revision supersedes the ADR and its approval. -/
def supersedingAdr (architecture : ArchitectureDecision) (revisedText : String)
    (claims : Option CanonicalText) : AdrRevision :=
  let revisedDigest := services.env.hashing.hashText revisedText
  { currentAdr :=
      { architecture with
        adrText := revisedText
        digest := revisedDigest
        claimDeclarations := claims.or architecture.claimDeclarations
        approvalCertificate := none }
    prevDigest := architecture.digest
    revisionDelta := if revisedDigest == architecture.digest then .none else .minor
    discardedDraft := false }

def applyAdrRevision (session : ArchitectureSession) (architecture : ArchitectureDecision)
    (verdict : LoopVerdict) : Except String AdrRevision :=
  if verdict != .changesRequested then .ok (keptAdr architecture false)
  else
    let revisedText := normalizeReviewArtifactText (session.args.adrText.getD "")
    if revisedText == "" then .error "EMPTY_ADR_TEXT"
    else if validateAdrSections revisedText != [] then .error "MISSING_ADR_SECTIONS"
    else if adrReviewExhaustsBudget session then .ok (keptAdr architecture true)
    else
      (parseArchitectureClaimsInput services session.args.claims).map
        (supersedingAdr services architecture revisedText)

def resolveArchitectureReviewCompletion (iteration maxIterations : Nat)
    (revisionDelta : RevisionDelta) (verdict : LoopVerdict) : ReviewCompletion :=
  if revisionDelta == .none && verdict == .accept then .reviewerAccepted
  else if maxIterations ≤ iteration then .reviewExhausted
  else .pending

def adrReviewCompletion (session : ArchitectureSession) (revision : AdrRevision)
    (iteration : Nat) (verdict : LoopVerdict) : ReviewCompletion :=
  if revision.discardedDraft then .reviewExhausted
  else resolveArchitectureReviewCompletion iteration session.budget.iterations
    revision.revisionDelta verdict

/-- The reviewed state, its obligation consumed. -/
def buildReviewedAdrState (session : ArchitectureSession) (selfReview : SelfReviewLoop)
    (revision : AdrRevision) (findings : ReviewFindings) (verdict : LoopVerdict)
    (consumedAssurance : ReviewAssuranceState) : SessionState :=
  let iteration := selfReview.iteration + 1
  { session.state with
    architecture := some
      { revision.currentAdr with
        reviewCompletion := adrReviewCompletion session revision iteration verdict
        reviewFindings := services.appendReviewFindings revision.currentAdr.reviewFindings
          findings }
    selfReview := some
      { iteration := iteration
        reviewCycle := session.state.reviewCycles.architecture
        maxIterations := session.budget.iterations
        prevDigest := some revision.prevDigest
        currDigest := revision.currentAdr.digest
        revisionDelta := revision.revisionDelta
        verdict := verdict }
    reviewAssurance := some consumedAssurance
    error := none }

/-- A settled review is written as it is, another one with its next obligation. -/
def persistAdrReview (session : ArchitectureSession) (iteration planVersion : Nat)
    (write : PlanWrite) : Except String PlanWrite :=
  match write.state.architecture with
  | none => .error "NO_ARCHITECTURE"
  | some architecture =>
      match architecture.reviewCompletion with
      | .reviewerAccepted | .reviewExhausted => .ok write
      | .pending =>
          (mintArchitectureObligation services session write.state architecture iteration
            planVersion).map fun assurance =>
              { write with state := { write.state with reviewAssurance := some assurance } }

/-- `resolveStructuredEffectiveFindings`; an unavailable reviewer never accepts. -/
def resolveArchitectureReview (session : ArchitectureSession)
    (pendingObligation : Option ReviewObligation) : Except String (ReviewFindings × String) :=
  if session.args.reviewerUnavailable then .error "REVIEWER_UNAVAILABLE_STRICT"
  else resolveStructuredFindings services.toPlanServices session.state pendingObligation

def validateResolvedFindings (findings : ReviewFindings) (submittedVerdict : LoopVerdict) :
    Option String :=
  if findings.overallVerdict == .unableToReview then some "SUBAGENT_UNABLE_TO_REVIEW"
  else if findings.overallVerdict != submittedVerdict then
    some "SUBAGENT_FINDINGS_VERDICT_MISMATCH"
  else none

def consumeArchitectureObligation (session : ArchitectureSession)
    (assurance : ReviewAssuranceState) (expectedIteration expectedPlanVersion : Nat)
    (evidenceInvocationId : String) : ReviewAssuranceState :=
  consumeReviewObligation services.markConsumed assurance
    (findLatestObligation .architecture assurance.obligations expectedIteration
      expectedPlanVersion)
    (session.readings 4) (some evidenceInvocationId)

/-- The reviewed state is advanced before it is written. -/
def handleAdrReview (session : ArchitectureSession) (verdict : LoopVerdict) :
    Except String PlanWrite :=
  if session.state.phase != .architecture then .error "COMMAND_NOT_ALLOWED"
  else
    match session.state.architecture, session.state.selfReview with
    | none, _ => .error "NO_ARCHITECTURE"
    | _, none => .error "ARCHITECTURE_REVIEW_LOOP_REQUIRED"
    | some architecture, some selfReview =>
        let assurance := ensureReviewAssurance session.state.reviewAssurance
        let pending := lastOpenObligation .architecture assurance.obligations
        match resolveArchitectureReview services session pending with
        | .error code => .error code
        | .ok (findings, evidenceInvocationId) =>
            match validateResolvedFindings findings verdict with
            | some code => .error code
            | none =>
                match applyAdrRevision services session architecture verdict with
                | .error code => .error code
                | .ok revision =>
                    let planVersion := (pending.map (·.planVersion)).getD 1
                    let consumed := consumeArchitectureObligation services session assurance
                      ((pending.map (·.iteration)).getD selfReview.iteration) planVersion
                      evidenceInvocationId
                    match advanceArchitectureState services session
                        (buildReviewedAdrState services session selfReview revision findings
                          verdict consumed) with
                    | .error code => .error code
                    | .ok write =>
                        persistAdrReview services session (selfReview.iteration + 1)
                          planVersion write

/-! ### A call -/

/-- A call of the tool without a transport recovery. -/
def architectureCall (session : ArchitectureSession) : ArtifactAnswer :=
  match validateArchitectureCallShape session.args with
  | some code => .refused code
  | none =>
      match session.args.reviewVerdict with
      | some verdict => .ofWrite (handleAdrReview services session verdict)
      | none =>
          match routeArchitectureInitialSubmission services session with
          | some answer => answer
          | none =>
              match validateInitialSubmissionGate session.args session.state with
              | some code => .refused code
              | none => .ofWrite (handleAdrSubmission services session)

end Services

end GovernedRuntime.Tools
