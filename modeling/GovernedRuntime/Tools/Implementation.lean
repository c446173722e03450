/-
The implementation loop as its tools write it: recording an implementation, the results
of its checks with the ceremony decision, and the reviewer's verdict
(`src/integration/tools/implementation/`, `src/integration/tools/validation/`).
-/
import GovernedRuntime.Mutation.Ledger
import GovernedRuntime.Rails.ReviewDecision
import GovernedRuntime.Tools.PlanSubmission

namespace GovernedRuntime.Tools

open GovernedRuntime.State
open GovernedRuntime.Machine
open GovernedRuntime.Mutation (reconcileMutationEpisodes)
open GovernedRuntime.Rails

/-- The functions the implementation tools call and this development does not unfold. -/
structure ImplementServices where
  env : Environment
  /-- `collectHistoricallyRejectedImplementationDigests`. -/
  historicallyRejected : SessionState → List String
  /-- The contract and the coverage of `materializePostValidationContract`. -/
  materializedContract : SessionState → ProofContract × CanonicalText
  /-- `buildImplementationReviewObligation` for an iteration, with its frozen context. -/
  buildReviewObligation : SessionState → Nat → Except String ReviewObligation
  /-- The remaining assurance slots with the first attempt of an obligation. -/
  appendInitialAttempt : CanonicalText → ReviewObligation → CanonicalText
  /-- The findings a verdict rests on and the invocation they were captured in. -/
  resolveFindings : SessionState → Option ReviewObligation → LoopVerdict →
    Except String (ReviewFindings × String)
  appendReviewFindings : CanonicalText → ReviewFindings → CanonicalText
  /-- The latest iteration among the recorded findings. -/
  latestFindingsIteration : CanonicalText → Nat
  /-- The remaining slots of an invocation with its consumer set. -/
  markConsumed : String → CanonicalText → CanonicalText

/-- What a call writes, and the refusal it answers with although it wrote. -/
structure ImplementWrite where
  state : SessionState
  transitions : List TransitionRecord
  refusal : Option String

section Services

variable (services : ImplementServices)

/-! ### Review obligations -/

def nextImplementationReviewIteration (state : SessionState) : Nat :=
  max ((state.implReview.map (·.iteration)).getD 0)
    (services.latestFindingsIteration state.implReviewFindings) + 1

def appendObligationWithAttempt (assurance : Option ReviewAssuranceState)
    (obligation : ReviewObligation) : ReviewAssuranceState :=
  let appended := appendReviewObligation assurance (some obligation)
  { appended with other := services.appendInitialAttempt appended.other obligation }

/-- An obligation is minted only in `IMPL_REVIEW`. -/
def activateImplementationReviewObligation (state : SessionState) (iteration : Nat) :
    Except String SessionState :=
  if state.phase != .implReview || state.reducedCeremony.isSome then .ok state
  else
    (services.buildReviewObligation state iteration).map fun obligation =>
      { state with
        reviewAssurance :=
          some (appendObligationWithAttempt services state.reviewAssurance obligation) }

/-- The approved claims become the contract at the entry of a review. -/
def materializePostValidationContract (state : SessionState) (entryPhase : Phase) :
    SessionState :=
  let entersReducedReview :=
    entryPhase == .evidenceReview && reducedCeremonyReady services.env state
  if entryPhase != .implReview && !entersReducedReview then state
  else
    let (contract, coverage) := services.materializedContract state
    if state.proofContract == some contract &&
        state.proofContractCoverage.getD "[]" == coverage then state
    else { state with proofContract := some contract, proofContractCoverage := some coverage }

/-- Advance to where the machine settles, or refuse. -/
def advanceImplementation (ctx : RailContext) (next : SessionState) :
    Except String AutoAdvanceAdvanced :=
  match autoAdvance services.env next (createPolicyEvalFn services.env ctx) ctx with
  | .error error => .error error.message
  | .ok (.overflow _) => .error "AUTO_ADVANCE_OVERFLOW"
  | .ok (.blocked result) => .error result.block.code
  | .ok (.advanced result) => .ok result

/-! ### Recording -/

/-- A recovery re-records an implementation whose review was blocked, three times. -/
def blockedImplRecovery (state : SessionState) : Option String :=
  let obligations := (ensureReviewAssurance state.reviewAssurance).obligations
  if state.phase != .implReview then some "COMMAND_NOT_ALLOWED"
  else if (lastObligation .implement obligations).map (·.status) != some .blocked then
    some "COMMAND_NOT_ALLOWED"
  else if 3 ≤ ((obligationsOfType .implement obligations).filter
      (·.status == .blocked)).length then some "ORCHESTRATION_PERMANENTLY_FAILED"
  else none

def validateImplRecordPrerequisites (state : SessionState) : Option String :=
  let admitted :=
    if isCommandAllowed state.phase .implement then none else blockedImplRecovery state
  admitted.or
    (if state.ticket.isNone then some "TICKET_REQUIRED"
    else if state.plan.isNone then some "PLAN_REQUIRED"
    else if !(unresolvedMutationEpisodes state.mutationEpisodes
        state.mutationEpisodeResolutions).isEmpty then some "MUTATION_EPISODE_UNRESOLVED"
    else none)

/-- A revision that a reviewer has rejected does not come back. -/
def reworkBlock (state : SessionState) (digest : String) : Option String :=
  if (services.historicallyRejected state).contains digest ||
      state.implementationRework.map (·.rejectedDigest) == some digest then
    some "IMPLEMENTATION_REWORK_REQUIRED"
  else none

def ticketDeclarationGate (env : Environment) (state : SessionState) : Option String :=
  match state.ticket with
  | none => none
  | some ticket =>
      if !verifyTicketRiskDeclarationIntegrity env ticket then
        some "TICKET_RISK_DECLARATION_INCONSISTENT"
      else
        match ticket.riskDeclaration with
        | .invalid _ => some "TICKET_RISK_DECLARATION_INVALID"
        | _ => none

def ticketRiskDeclarationOf (state : SessionState) : TicketRiskDeclaration :=
  (state.ticket.map (·.riskDeclaration)).getD .absent

def buildImplementationRiskAssessment (env : Environment) (state : SessionState)
    (evidence : ImplEvidence) : ImplementationRiskAssessment :=
  let assessment := env.assessMinimumTaskClass evidence.changedFiles
    state.policySnapshot.riskTriggerPaths
  let declaration := ticketRiskDeclarationOf state
  { computedMinimumTaskClass := assessment.minimumTaskClass
    effectiveTaskClass := resolveEffectiveTaskClass assessment.minimumTaskClass declaration
      state.claimedTaskClass
    declaredTaskClass := ticketRiskDeclarationFloor declaration
    declarationKind := declaration.kind
    ticketDigest := state.ticket.map (·.digest)
    escalatedTaskClass := state.claimedTaskClass
    touchedSurfaces := assessment.touchedSurfaces
    riskTriggers := assessment.riskTriggers
    assessedFileCount := evidence.changedFiles.length
    implementationDigest := evidence.digest }

/-- The state with a fresh implementation; the rework marker is kept. -/
def recordedState (state : SessionState) (evidence : ImplEvidence) : SessionState :=
  { state with
    mutationEpisodes := reconcileMutationEpisodes state.mutationEpisodes
      state.mutationEpisodeResolutions evidence.digest
    implementation := some evidence
    implementationRework := state.implementationRework
    implementationRiskAssessment :=
      some (buildImplementationRiskAssessment services.env state evidence)
    -- a fresh implementation invalidates the checks and the ceremony decision
    implValidation := []
    reducedCeremony := none
    implReview := none
    error := none }

/-- `/implement` on the evidence that the worktree yields. -/
def handleImplRecord (state : SessionState) (ctx : RailContext) (evidence : ImplEvidence) :
    Except String ImplementWrite :=
  match validateImplRecordPrerequisites state with
  | some code => .error code
  | none =>
      if evidence.changedFiles.isEmpty then .error "IMPLEMENTATION_EVIDENCE_EMPTY"
      else
        match (reworkBlock services state evidence.digest).or
            (ticketDeclarationGate services.env state) with
        | some code => .error code
        | none =>
            let nextState := recordedState services state evidence
            match advanceImplementation services ctx nextState with
            | .error code => .error code
            | .ok advanced =>
                let finalState :=
                  materializePostValidationContract services advanced.state advanced.state.phase
                match activateImplementationReviewObligation services finalState
                    (nextImplementationReviewIteration services state) with
                | .error code =>
                    -- the recorded evidence is kept on the first record only
                    if state.phase == .implementation then .ok ⟨nextState, [], some code⟩
                    else .error code
                | .ok activated => .ok ⟨activated, advanced.transitions, none⟩

/-! ### The ceremony decision -/

/-- Why a change can not have the reduced ceremony, whatever its checks say. -/
def staticCeremonyIneligibilityReason (env : Environment) (state : SessionState)
    (changedFiles : List String) : Option String :=
  let declaration := ticketRiskDeclarationOf state
  let effective := resolveEffectiveTaskClass
    (env.assessMinimumTaskClass changedFiles
      state.policySnapshot.riskTriggerPaths).minimumTaskClass
    declaration state.claimedTaskClass
  if !state.policySnapshot.allowReducedCeremony then some "POLICY_REDUCED_CEREMONY_DISABLED"
  else if !state.policySnapshot.requireHumanGates then
    some "POLICY_HUMAN_GATE_REQUIRED_FOR_REDUCED_CEREMONY"
  else
    match ticketDeclarationGate env state with
    | some code => some code
    | none =>
        if declaration.kind == .conflict then some "TICKET_RISK_DECLARATION_CONFLICT"
        else if state.riskGate.any fun
            | .blocked _ _ => true
            | _ => false then some "RISK_GATE_BLOCKED"
        else if changedFiles.isEmpty then some "RISK_EVIDENCE_MISSING"
        else if effective != .trivial then some "RESOLVED_RISK_NOT_TRIVIAL"
        else if !env.reducedCeremonyEligible changedFiles then
          some "REDUCED_CEREMONY_SURFACE_EXCLUDED"
        else none

/-- The reduced profile, or the reason for the full one. -/
def resolveCeremonyProfile (env : Environment) (state : SessionState)
    (implementation : ImplEvidence) (now : Timestamp) :
    Except String ReducedCeremonyDecision :=
  let assessment := env.assessMinimumTaskClass implementation.changedFiles
    state.policySnapshot.riskTriggerPaths
  let declaration := ticketRiskDeclarationOf state
  let evidence := evaluateImplValidationEvidence env state
  match staticCeremonyIneligibilityReason env state implementation.changedFiles with
  | some reason => .error reason
  | none =>
      if hasUnresolvedIntegrityIncident state.reviewAssurance then
        .error "REVIEW_INTEGRITY_INCIDENT"
      else if hasOutstandingReviewObligation state.reviewAssurance then
        .error "REVIEW_OBLIGATION_REQUIRED"
      else if !evidence.satisfied then .error "VERIFICATION_EVIDENCE_INCOMPLETE"
      else .ok
        { reason := "POST_IMPL_VERIFIED_TRIVIAL"
          effectiveTaskClass := resolveEffectiveTaskClass assessment.minimumTaskClass
            declaration state.claimedTaskClass
          computedMinimumTaskClass := assessment.minimumTaskClass
          declaredTaskClass := ticketRiskDeclarationFloor declaration
          declarationKind := declaration.kind
          ticketDigest := state.ticket.map (·.digest)
          escalatedTaskClass := state.claimedTaskClass
          touchedSurfaces := assessment.touchedSurfaces
          implementationId := implementation.implementationId
          implementationDigest := implementation.digest
          policyDigest := state.policySnapshot.hash
          checkIds := evidence.activeChecks
          attempts := evidence.basis
          decidedAt := now }

def latestResultFor (state : SessionState) (checkId : String) : Option ValidationResult :=
  latestBy ValidationResult.executedAt (state.implValidation.filter (·.checkId == checkId))

/-- The state with its ceremony decision; `none` when the worktree no longer holds the
subject of a change that could be reduced. -/
def decidePostCheckCeremony (env : Environment) (state : SessionState)
    (subjectUnchanged : Bool) (now : Timestamp) : Option SessionState :=
  if state.phase != .implValidation then some state
  else
    match state.implementation with
    | none => some { state with reducedCeremony := none }
    | some implementation =>
        let latest := state.activeChecks.map (latestResultFor state)
        let decisive := latest.reduceOption
        if state.activeChecks.isEmpty then some { state with reducedCeremony := none }
        else if latest.any (·.isNone) then some state
        else if decisive.any isTechnicalValidationBlock || !decisive.all (·.passed) then
          some { state with reducedCeremony := none }
        else if !(evaluateImplValidationEvidence env state).satisfied then some state
        else if (staticCeremonyIneligibilityReason env state
            implementation.changedFiles).isNone && !subjectUnchanged then none
        else some
          { state with
            reducedCeremony :=
              (resolveCeremonyProfile env state implementation now).toOption }

/-! ### Check results -/

/-- The result of one check, for the subject it was frozen on. -/
structure CheckRun where
  subject : ValidationScope
  attemptId : String
  executionObservation : CanonicalText
  result : ValidationResult
  /-- The re-attestation of the worktree. -/
  subjectUnchanged : Bool
  decidedAt : Timestamp

def validateRunCheckRequest (state : SessionState) (result : ValidationResult) :
    Option String :=
  if !isCommandAllowed state.phase .validate then some "COMMAND_NOT_ALLOWED"
  else if state.phase == .validation && state.plan.isNone then some "PLAN_REQUIRED"
  else if state.phase == .implValidation && state.implementation.isNone then
    some "IMPLEMENTATION_EVIDENCE_REQUIRED"
  else if state.activeChecks.isEmpty then some "NO_ACTIVE_CHECKS"
  else if !(state.verificationCandidates.getD []).any (fun candidate =>
      some candidate.candidateId == result.candidateId && candidate.kind == result.kind) then
    some "CHECK_KIND_NOT_AVAILABLE"
  else if !state.activeChecks.contains result.checkId then some "CHECK_NOT_ACTIVE"
  else none

def validationSubjectMatches (state : SessionState) : ValidationScope → Bool
  | .baseline planDigest => state.phase == .validation &&
      state.plan.map (·.current.digest) == some planDigest
  | .implementation implementationId implementationDigest => state.phase == .implValidation &&
      state.implementation.map (·.implementationId) == some implementationId &&
      state.implementation.map (·.digest) == some implementationDigest

def mergeValidationResult (state : SessionState) (result : ValidationResult) :
    List ValidationResult :=
  let slot :=
    if state.phase == .implValidation then state.implValidation else state.validation
  slot.filter (·.checkId != result.checkId) ++ [result]

/-- Only a proven failure takes evidence back. -/
def buildNextValidationState (state : SessionState) (validation : List ValidationResult)
    (attempt : ValidationAttempt) : SessionState :=
  let failed := validation.any (!·.passed) && !validation.any isTechnicalValidationBlock
  if state.phase == .implValidation then
    { state with
      implValidation := validation
      validationAttempts := state.validationAttempts ++ [attempt]
      error := none
      implementation := if failed then none else state.implementation }
  else
    { state with
      validation := validation
      validationAttempts := state.validationAttempts ++ [attempt]
      error := none
      selfReview := if failed then none else state.selfReview
      reviewDecision := if failed then none else state.reviewDecision }

/-- The state with a check result and its ceremony decision, before it advances. -/
def postCheckState (state : SessionState) (check : CheckRun) : Option SessionState :=
  let attempt : ValidationAttempt :=
    ⟨check.attemptId, check.subject, check.executionObservation, check.result⟩
  decidePostCheckCeremony services.env
    (buildNextValidationState state (mergeValidationResult state check.result) attempt)
    check.subjectUnchanged check.decidedAt

/-- The contract is materialized before an advance that enters a review. -/
def stateForAdvance (ctx : RailContext) (state : SessionState) : SessionState :=
  match createPolicyEvalFn services.env ctx state with
  | .transition _ .implReview => materializePostValidationContract services state .implReview
  | .transition _ .evidenceReview =>
      materializePostValidationContract services state .evidenceReview
  | _ => state

/-- The locked half of `flowguard_run_check`. -/
def runCheck (state : SessionState) (ctx : RailContext) (check : CheckRun) :
    Except String ImplementWrite :=
  match validateRunCheckRequest state check.result with
  | some code => .error code
  | none =>
      if !validationSubjectMatches state check.subject then .error "VALIDATION_SUBJECT_CHANGED"
      else
        match postCheckState services state check with
        | none => .error "VALIDATION_SUBJECT_CHANGED"
        | some nextState =>
            match advanceImplementation services ctx
                (stateForAdvance services ctx nextState) with
            | .error code => .error code
            | .ok advanced =>
                match activateImplementationReviewObligation services advanced.state
                    (nextImplementationReviewIteration services advanced.state) with
                | .error code => .ok ⟨nextState, [], some code⟩
                | .ok activated => .ok ⟨activated, advanced.transitions, none⟩

/-! ### Reviewer verdicts -/

/-- A submitted verdict, and what the call finds out about the worktree. -/
structure ImplVerdict where
  verdict : LoopVerdict
  maxIterations : Nat
  /-- The reviewed bytes are still in the worktree. -/
  subjectAttested : Bool
  readings : Nat → Timestamp

def unknownOutcomeRevalidationBlock (state : SessionState)
    (implementationExecutedAt : Timestamp) : Option String :=
  (latestUnknownOutcomeResolvedAt state.mutationEpisodeResolutions).bind fun resolvedAt =>
    if implementationExecutedAt ≤ resolvedAt then
      some "MUTATION_OUTCOME_UNKNOWN_REVALIDATION_REQUIRED"
    else none

def findOpenImplObligation (state : SessionState) : Option ReviewObligation :=
  lastOpenObligation .implement (ensureReviewAssurance state.reviewAssurance).obligations

/-- The state with the findings of a verdict, its obligation consumed. -/
def appendImplReviewState (state : SessionState) (implementation : ImplEvidence)
    (submitted : ImplVerdict) (findings : ReviewFindings) (evidenceInvocationId : String) :
    SessionState :=
  let assurance := ensureReviewAssurance state.reviewAssurance
  let iteration := nextImplementationReviewIteration services state
  let planVersion := ((state.plan.map (·.history.length)).getD 0) + 1
  let obligation := (findOpenImplObligation state).or
    (findLatestObligation .implement assurance.obligations iteration planVersion)
  { state with
    implReview := some
      { iteration := iteration
        reviewCycle := state.reviewCycles.implementation
        maxIterations := submitted.maxIterations
        prevDigest := some implementation.digest
        currDigest := implementation.digest
        revisionDelta := .none
        verdict := submitted.verdict
        executedAt := submitted.readings 1 }
    implReviewFindings := services.appendReviewFindings state.implReviewFindings findings
    reviewAssurance := some (consumeReviewObligation services.markConsumed assurance obligation
      (submitted.readings 0) (some evidenceInvocationId))
    error := none }

/-- A rejected revision goes back to `IMPLEMENTATION`, or, out of budget, to the gate. -/
def handleChangesRequestedReview (state reviewedState : SessionState)
    (implementation : ImplEvidence) (submitted : ImplVerdict) (iteration : Nat) :
    Except String ImplementWrite :=
  let exhausted : Bool := submitted.maxIterations ≤ iteration
  let event : Event := if exhausted then .reviewExhausted else .changesRequested
  match evaluateWithEvent state.phase event with
  | none => .error "INVALID_TRANSITION"
  | some target =>
      let atTime := submitted.readings 2
      let rework : ImplementationRework := ⟨implementation.digest, exhausted⟩
      let candidate : SessionState :=
        if exhausted then { reviewedState with implementationRework := some rework }
        else
          { reviewedState with
            implementation := none
            implementationRework := some rework
            implValidation := []
            implReview := none
            reducedCeremony := none }
      match applyTransition candidate state.phase target event atTime with
      | .error error => .error error.message
      | .ok finalState => .ok ⟨finalState, [⟨state.phase, target, event, atTime⟩], none⟩

/-- An accepted revision reaches the gate, and passes it where the policy approves. -/
def handleApprovedReview (reviewedState : SessionState) (ctx : RailContext)
    (submitted : ImplVerdict) : Except String ImplementWrite :=
  let atTime := submitted.readings 2
  let gate : Except ProtectedTransitionError (SessionState × List TransitionRecord) :=
    if reviewedState.phase == .evidenceReview then .ok (reviewedState, [])
    else
      (applyTransition reviewedState reviewedState.phase .evidenceReview .reviewMet atTime).map
        (·, [⟨reviewedState.phase, .evidenceReview, .reviewMet, atTime⟩])
  match gate with
  | .error error => .error error.message
  | .ok (gateState, transitions) =>
      -- the gate state is durable before the approval is tried
      if 0 < unboundMutationEpisodeCount gateState then
        .ok ⟨gateState, transitions, some "MUTATION_EPISODE_BINDING_REQUIRED"⟩
      else if !submitted.subjectAttested then
        .ok ⟨gateState, transitions, some "IMPLEMENTATION_REVIEW_SUBJECT_MISMATCH"⟩
      else if ctx.policy.map (·.requireHumanGates) != some false ||
          requiresGovernanceOverride gateState then
        .ok ⟨gateState, transitions, none⟩
      else
        match applyEvidenceApprovalTransition services.env gateState (submitted.readings 3) with
        | .error error => .error error.message
        | .ok (.blocked block) => .ok ⟨gateState, transitions, some block.code⟩
        | .ok (.applied approved _) => .ok
            ⟨approved,
              transitions ++ [⟨.evidenceReview, .exportReady, .approve, submitted.readings 3⟩],
              none⟩

/-- An unreviewable revision is asked about again, under a fresh obligation. -/
def handleUnableToReviewSubmission (state reviewedState : SessionState)
    (submitted : ImplVerdict) : Except String ImplementWrite :=
  if submitted.verdict != .unableToReview then .error "SUBAGENT_FINDINGS_VERDICT_MISMATCH"
  else if (findOpenImplObligation state).isNone then .error "SUBAGENT_REVIEW_NOT_INVOKED"
  else if state.reducedCeremony.isSome then .error "REVIEWER_CONTEXT_UNAVAILABLE"
  else
    match services.buildReviewObligation state
        (nextImplementationReviewIteration services state + 1) with
    | .error _ => .error "REVIEWER_CONTEXT_UNAVAILABLE"
    | .ok retry => .ok
        ⟨{ reviewedState with
            reviewAssurance := some
              (appendObligationWithAttempt services reviewedState.reviewAssurance retry) },
          [], some "SUBAGENT_UNABLE_TO_REVIEW"⟩

def implValidationEvidenceGate (state : SessionState) : Option String :=
  if implValidationPassed services.env state then none
  else some "IMPL_VALIDATION_EVIDENCE_REQUIRED"

/-- `flowguard_review_implementation` with a verdict. -/
def handleImplReview (state : SessionState) (ctx : RailContext) (submitted : ImplVerdict) :
    Except String ImplementWrite :=
  match state.implementation with
  | none => .error "IMPLEMENTATION_EVIDENCE_REQUIRED"
  | some implementation =>
      if state.phase != .implReview then .error "IMPLEMENT_REVIEW_LOOP_REQUIRED"
      else
        match unknownOutcomeRevalidationBlock state implementation.executedAt with
        | some code => .error code
        | none =>
            match services.resolveFindings state (findOpenImplObligation state)
                submitted.verdict with
            | .error code => .error code
            | .ok (findings, evidenceInvocationId) =>
                let reviewedState := appendImplReviewState services state implementation
                  submitted findings evidenceInvocationId
                if findings.overallVerdict == .unableToReview then
                  handleUnableToReviewSubmission services state reviewedState submitted
                else if findings.overallVerdict != submitted.verdict then
                  .error "SUBAGENT_FINDINGS_VERDICT_MISMATCH"
                else if submitted.verdict == .changesRequested then
                  handleChangesRequestedReview state reviewedState implementation submitted
                    (nextImplementationReviewIteration services state)
                else
                  match implValidationEvidenceGate services state with
                  | some code => .error code
                  | none => handleApprovedReview services reviewedState ctx submitted

end Services

end GovernedRuntime.Tools
