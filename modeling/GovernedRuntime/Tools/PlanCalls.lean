/-
The calls of the plan tool (`src/integration/tools/plan/plan.ts`, `plan-response.ts`,
`plan-auto-approval.ts`): what is refused, and what is written.
-/
import GovernedRuntime.Tools.PlanReview

namespace GovernedRuntime.Tools

open GovernedRuntime.State
open GovernedRuntime.Machine
open GovernedRuntime.Rails

/-- What a call writes: the state, the transitions on the way to it, and the refusal
it answers with although it wrote. -/
structure PlanWrite where
  state : SessionState
  transitions : List TransitionRecord
  refusal : Option RailBlocked

section Services

variable (services : PlanServices)

/-! ### Shape of a call -/

def hasText (text : Option String) : Bool :=
  text.any (normalizeReviewArtifactText · != "")

/-- A submission on an untouched ticket drops everything but the plan. -/
def normalizeInitialPlanSubmissionArgs (args : PlanArgs) (state : SessionState) : PlanArgs :=
  if !hasText args.planText || state.plan.isSome || state.phase != .ticket then args
  else { args with reviewVerdict := none, reviewerUnavailable := false }

/-- The invalid shapes of a call. -/
def detectInvalidShape (args : PlanArgs) : Option String :=
  if hasText args.planText && args.reviewVerdict.any (· != .changesRequested) then
    some "PLAN_APPROVE_WITH_TEXT"
  else if args.reviewerUnavailable && args.reviewVerdict.isNone && hasText args.planText then
    some "INVALID_PLAN_TOOL_SEQUENCE"
  else none

def validateReviewInputShape (args : PlanArgs) (state : SessionState) : Option String :=
  if args.reviewVerdict.isNone then none
  else if state.plan.isNone then some "PLAN_SUBMISSION_REQUIRED"
  else if state.selfReview.isNone then some "PLAN_REVIEW_LOOP_REQUIRED"
  else none

def validatePlanCallShape (scope : PlanExecutionScope) : Option String :=
  if !isCommandAllowed scope.state.phase .plan then some "COMMAND_NOT_ALLOWED"
  else if scope.state.ticket.isNone then some "TICKET_REQUIRED"
  else (detectInvalidShape scope.args).or (validateReviewInputShape scope.args scope.state)

def obligationsOf (state : SessionState) : List ReviewObligation :=
  (ensureReviewAssurance state.reviewAssurance).obligations

def invocationsOf (state : SessionState) : List ReviewInvocation :=
  (ensureReviewAssurance state.reviewAssurance).invocations

/-- A pending review refuses a submission; a blocked one admits it three times. -/
def blockedPlanReviewInProgress (state : SessionState) : Option String :=
  if (lastObligation .plan (obligationsOf state)).map (·.status) != some .blocked then
    some "PLAN_REVIEW_IN_PROGRESS"
  else if 3 ≤ ((obligationsOfType .plan (obligationsOf state)).filter
      (·.status == .blocked)).length then
    some "ORCHESTRATION_PERMANENTLY_FAILED"
  else none

/-! ### Submission -/

/-- Advance a state and write what the machine settles at. -/
def advancePlanState (scope : PlanExecutionScope) (next : SessionState) :
    Except String PlanWrite :=
  match autoAdvance services.env next
      (createPolicyEvalFn services.env (scope.ctx services)) (scope.ctx services) with
  | .error error => .error error.message
  | .ok (.overflow _) => .error "AUTO_ADVANCE_OVERFLOW"
  | .ok (.blocked result) => .error result.block.code
  | .ok (.advanced result) => .ok ⟨result.state, result.transitions, none⟩

def handlePlanSubmission (scope : PlanExecutionScope) : Except String PlanWrite :=
  if normalizeReviewArtifactText (scope.args.planText.getD "") == "" then .error "EMPTY_PLAN"
  else
    match admitPlanRevision services scope with
    | .error code => .error code
    | .ok scope =>
        let planEvidence := submittedPlanEvidence services scope
        match createPlanReviewAttempt services scope planEvidence planEvidence.planVersion with
        | .error code => .error code
        | .ok assurance =>
            advancePlanState services scope
              (buildPlanSubmissionState services scope planEvidence planEvidence.planVersion
                assurance)

/-! ### Findings -/

/-- Why no captured invocation of an obligation may carry a verdict. -/
def getReviewFindingsAcceptanceRejection (obligation : ReviewObligation) : Option String :=
  if obligation.status == .blocked then some "STRICT_REVIEW_ORCHESTRATION_FAILED"
  else if obligation.status == .consumed || obligation.consumedAt.isSome then
    some "SUBAGENT_EVIDENCE_REUSED"
  else none

/-- The first capture with something final to say, in capture order. -/
def resolveFromStructuredInvocations (state : SessionState) (obligation : ReviewObligation) :
    List ReviewInvocation → Except String (ReviewFindings × String)
  | [] => .error "SUBAGENT_EVIDENCE_MISSING"
  | invocation :: rest =>
      match services.evaluateStructuredInvocation state obligation invocation with
      | .resolved findings => .ok (findings, invocation.invocationId)
      | .rejected code => .error code
      | .skip | .deferred => resolveFromStructuredInvocations state obligation rest

def resolveStructuredFindings (state : SessionState) (obligation : Option ReviewObligation) :
    Except String (ReviewFindings × String) :=
  match obligation, state.reviewAssurance with
  | some obligation, some assurance =>
      match getReviewFindingsAcceptanceRejection obligation with
      | some code => .error code
      | none =>
          resolveFromStructuredInvocations services state obligation
            (assurance.invocations.filter fun invocation =>
              invocation.obligationId == obligation.obligationId &&
                isBindableReviewTransport invocation &&
                services.hasCapturedFindings invocation)
  | _, _ => .error "SUBAGENT_EVIDENCE_MISSING"

/-- `resolveStructuredEffectiveFindings`: an unavailable reviewer never approves. -/
def resolveEffectivePlanFindings (scope : PlanExecutionScope)
    (pendingObligation : Option ReviewObligation) : Except String (ReviewFindings × String) :=
  if scope.args.reviewerUnavailable then .error "REVIEWER_UNAVAILABLE_STRICT"
  else resolveStructuredFindings services scope.state pendingObligation

def blockedInvalidPlanFindings (args : PlanArgs) (findings : ReviewFindings) : Option String :=
  if findings.overallVerdict == .unableToReview then some "SUBAGENT_UNABLE_TO_REVIEW"
  else if some findings.overallVerdict != args.reviewVerdict then
    some "SUBAGENT_FINDINGS_VERDICT_MISMATCH"
  else none

/-! ### Automatic approval -/

/-- The state with the certificate of an automatic approval, or why there is none. -/
def prepareAutomaticPlanApproval (state : SessionState) (scope : PlanExecutionScope) :
    Except RailBlocked SessionState :=
  let hashing := services.env.hashing
  if scope.policy.requireHumanGates then .ok state
  else if requiresGovernanceOverride state then .ok state
  else
    match state.plan with
    | none => .ok state
    | some plan =>
        if plan.approvalCertificate.isSome || plan.reviewCompletion != .reviewerAccepted then
          .ok state
        else
          let resolution :=
            resolvePlanReviewEvidence state (planReviewSubjectAuthority hashing plan)
          let unavailable (reviewEvidence capturedVerdict : String) :=
            blockedPlanEvidenceRequired plan.reviewCompletion reviewEvidence capturedVerdict
          match enforcePlanReviewEvidence hashing { state with phase := .planReview }
              resolution with
          | some block => .error block
          | none =>
              match resolution with
              | none => .error (unavailable "missing" "unavailable")
              | some evidence =>
                  match buildPlanReviewBinding .reviewerAccepted evidence
                      plan.current.digest with
                  | none => .error (unavailable "resolved"
                      (evidence.reviewerVerdict.getD "missing"))
                  | some binding =>
                      match createAutomaticPlanApprovalCertificate hashing state plan
                          (scope.readings 3) binding with
                      | none => .error (unavailable "resolved" "unavailable")
                      | some certificate => .ok
                          { state with
                            plan := some { plan with approvalCertificate := some certificate } }

/-- The reviewer's acceptance is kept at the gate; no approval is applied. -/
def persistBlockedAutomaticPlanApproval (state : SessionState) (scope : PlanExecutionScope)
    (block : RailBlocked) : PlanWrite :=
  if state.phase == .planReview then ⟨state, [], some block⟩
  else
    ⟨applyTransitionUnchecked state state.phase .planReview .selfReviewMet (scope.readings 4),
      [⟨state.phase, .planReview, .selfReviewMet, scope.readings 4⟩], some block⟩

/-! ### Review -/

/-- `mintPlanRevisionAttempt`. -/
def mintPlanRevisionAttempt (scope : PlanExecutionScope) (finalState : SessionState)
    (revision : PlanRevisionResult) (iteration : Nat) : Except String ReviewAssuranceState :=
  (createPlanObligation services scope finalState revision.currentPlan iteration
    (revision.history.length + 1)
    (obligationDeclarations (finalState.plan.bind (·.claimDeclarations)))).map
    (appendObligationAndInitialAttempt services finalState.reviewAssurance)

/-- A review that goes on is written with the obligation of its next iteration. -/
def persistNonConvergedPlanReview (scope : PlanExecutionScope) (write : PlanWrite)
    (revision : PlanRevisionResult) (iteration : Nat) : Except String PlanWrite :=
  (mintPlanRevisionAttempt services scope write.state revision iteration).map fun assurance =>
    { write with state := { write.state with reviewAssurance := some assurance } }

def persistPlanReview (scope : PlanExecutionScope) (revision : PlanRevisionResult)
    (selfReview : SelfReviewLoop) (reviewedState : SessionState) : Except String PlanWrite :=
  match prepareAutomaticPlanApproval services reviewedState scope with
  | .error block => .ok (persistBlockedAutomaticPlanApproval reviewedState scope block)
  | .ok nextState =>
      match advancePlanState services scope nextState with
      | .error code => .error code
      | .ok write =>
          let iteration := selfReview.iteration + 1
          let approvedConverged := revision.revisionDelta == .none && revision.verdict == .accept
          let maxReached : Bool := scope.maxPlanReviewIterations ≤ iteration
          -- out of budget the review converges as well: the gate decides
          if approvedConverged || maxReached then .ok write
          else persistNonConvergedPlanReview services scope write revision iteration

def shouldAdmitRevision (scope : PlanExecutionScope) : Bool :=
  !planReviewExhaustsBudget scope &&
    scope.args.reviewVerdict == some .changesRequested && scope.args.claims.isSome

/-- A revision that will be adopted is admitted first; the draft of an exhausting
verdict is not looked at. -/
def admitReviewedRevision (scope : PlanExecutionScope) : Except String PlanExecutionScope :=
  if shouldAdmitRevision scope then admitPlanRevision services scope else .ok scope

def consumePlanObligation (scope : PlanExecutionScope) (assurance : ReviewAssuranceState)
    (expectedIteration expectedPlanVersion : Nat) (evidenceInvocationId : String) :
    ReviewAssuranceState :=
  consumeReviewObligation services.markConsumed assurance
    (findLatestObligation .plan assurance.obligations expectedIteration expectedPlanVersion)
    (scope.readings 2) (some evidenceInvocationId)

def handlePlanReview (scope : PlanExecutionScope) : Except String PlanWrite :=
  match scope.state.selfReview, scope.state.plan with
  | none, _ => .error "NO_SELF_REVIEW"
  | _, none => .error "NO_PLAN"
  | some selfReview, some plan =>
      let assurance := ensureReviewAssurance scope.state.reviewAssurance
      let pending := lastOpenObligation .plan assurance.obligations
      match resolveEffectivePlanFindings services scope pending with
      | .error code => .error code
      | .ok (findings, evidenceInvocationId) =>
          match blockedInvalidPlanFindings scope.args findings with
          | some code => .error code
          | none =>
              match admitReviewedRevision services scope with
              | .error code => .error code
              | .ok scope =>
                  -- the submitted verdict is the one the reviewer gave
                  match applyPlanRevision services scope plan findings.overallVerdict
                      (pending.map (·.obligationId)) with
                  | .error code => .error code
                  | .ok revision =>
                      persistPlanReview services scope revision selfReview
                        (buildReviewedPlanState services scope plan selfReview revision findings
                          (consumePlanObligation services scope assurance
                            ((pending.map (·.iteration)).getD selfReview.iteration)
                            ((pending.map (·.planVersion)).getD (plan.history.length + 1))
                            evidenceInvocationId))

/-! ### A call -/

/-- A submission against the review loop of the plan. -/
def submitPlan (scope : PlanExecutionScope) : Except String PlanWrite :=
  if hasText scope.args.planText && scope.state.phase == .plan &&
      scope.state.selfReview.isSome then
    match blockedPlanReviewInProgress scope.state with
    | some code => .error code
    | none => handlePlanSubmission services scope
  else handlePlanSubmission services scope

/-- A call of the tool that no continuation of a pending review answers. -/
def planCall (scope : PlanExecutionScope) : Except String PlanWrite :=
  let scope :=
    { scope with args := normalizeInitialPlanSubmissionArgs scope.args scope.state }
  match validatePlanCallShape scope with
  | some code => .error code
  | none =>
      if scope.args.reviewVerdict.isNone then submitPlan services scope
      else handlePlanReview services scope

end Services

end GovernedRuntime.Tools
