/-
Re-invocation of the plan and architecture tools against a review under way
(`src/state/review-continuation.ts`, `src/integration/tools/plan/plan-route.ts`,
`src/integration/tools/architecture/architecture-restart.ts`).
-/
import GovernedRuntime.Tools.PlanCalls

namespace GovernedRuntime.Tools

open GovernedRuntime.State
open GovernedRuntime.Machine
open GovernedRuntime.Rails

/-! ### Continuations -/

/-- What the attempts and dispatches of a pending obligation still admit. -/
inductive PendingContinuation
  | awaitingTask
  | interruptedDispatch
  | integrityBlocked (code : String)
  | missingAttempt
deriving DecidableEq, Repr

/-- The re-arm of a spent attempt: the attempts and dispatches after it. -/
inductive DispatchRearm
  | rearmed (other : CanonicalText)
  | budgetExhausted
  | refused

/-- The functions both artifact tools call and this development does not unfold. -/
structure ArtifactServices extends PlanServices where
  pendingContinuation : ReviewAssuranceState → ReviewObligation → PendingContinuation
  buildInterruptedDispatchRearm : ReviewAssuranceState → ReviewObligation → Timestamp →
    DispatchRearm
  /-- `resolveReviewDispatchAuthority` finds the attempt an instruction can be bound to. -/
  dispatchAuthorized : ReviewAssuranceState → String → Bool
  /-- The canonical declarations of submitted architecture claims. -/
  parseArchitectureClaims : CanonicalText → Except String CanonicalText
  /-- The frozen context of an architecture obligation, or why there is none. -/
  freezeArchitectureContext : SessionState → ArchitectureDecision → Except String CanonicalText

/-- The next legal step for the latest obligation of a type. -/
inductive ReviewContinuation
  | pending (obligation : ReviewObligation) (continuation : PendingContinuation)
  | awaitingVerdict (obligation : ReviewObligation)
  | blocked (obligation : ReviewObligation)
  | none

def resolveReviewContinuation (services : ArtifactServices)
    (reviewAssurance : Option ReviewAssuranceState) (obligationType : ReviewObligationType) :
    ReviewContinuation :=
  let assurance := ensureReviewAssurance reviewAssurance
  match lastObligation obligationType assurance.obligations with
  | none => .none
  | some obligation =>
      match obligation.status with
      | .blocked => .blocked obligation
      | .fulfilled => .awaitingVerdict obligation
      | .pending => .pending obligation (services.pendingContinuation assurance obligation)
      | .consumed => .none

/-! ### Answers -/

/-- What a call answers, with the state it wrote. -/
inductive ArtifactAnswer
  /-- Nothing is written. -/
  | refused (code : String)
  /-- The pending review is emitted again; nothing is written. -/
  | instructed
  /-- A fresh attempt of the same obligation. -/
  | rearmed (state : SessionState)
  /-- The obligation can never be reviewed and is closed. -/
  | closed (state : SessionState) (code : String)
  /-- A fresh obligation after a blocked one. -/
  | restarted (state : SessionState) (sameRevision : Bool)
  | written (write : PlanWrite)

/-- The state after a call. -/
def ArtifactAnswer.stateAfter (s : SessionState) : ArtifactAnswer → SessionState
  | .refused _ => s
  | .instructed => s
  | .rearmed state => state
  | .closed state _ => state
  | .restarted state _ => state
  | .written write => write.state

def blockedObligation (obligationId blockedCode : String) (obligation : ReviewObligation) :
    ReviewObligation :=
  if obligation.obligationId != obligationId then obligation
  else { obligation with status := .blocked, blockedCode := some blockedCode }

def blockObligation (state : SessionState) (obligationId blockedCode : String) : SessionState :=
  let assurance := ensureReviewAssurance state.reviewAssurance
  { state with
    reviewAssurance := some
      { assurance with
        obligations := assurance.obligations.map (blockedObligation obligationId blockedCode) } }

/-! ### Routes of a pending review -/

section Services

variable (services : ArtifactServices)

/-- A submitted text must be the frozen subject; a blank text submits nothing. -/
def changedSubject (text : Option String) (obligation : ReviewObligation) : Option String :=
  if !hasText text then none
  else if services.env.hashing.hashText (normalizeReviewArtifactText (text.getD "")) ==
      obligation.subjectDigest then none
  else some "REVIEW_SUBJECT_CHANGED_WHILE_PENDING"

def reviewAttemptUnavailable : String := "REVIEW_ATTEMPT_UNAVAILABLE"

def provenanceUnavailable : String := "REVIEW_TASK_EXECUTION_PROVENANCE_UNAVAILABLE"

def closeReviewObligation (state : SessionState) (obligation : ReviewObligation)
    (code : String) : ArtifactAnswer :=
  .closed (blockObligation state obligation.obligationId code) code

/-- The spent attempt gives way to a fresh one of the same obligation. -/
def rearmInterruptedDispatch (state : SessionState) (obligation : ReviewObligation)
    (now : Timestamp) : ArtifactAnswer :=
  let assurance := ensureReviewAssurance state.reviewAssurance
  match services.buildInterruptedDispatchRearm assurance obligation now with
  | .rearmed other =>
      .rearmed { state with reviewAssurance := some { assurance with other := other } }
  | .budgetExhausted => closeReviewObligation state obligation provenanceUnavailable
  | .refused => .refused provenanceUnavailable

/-- The answer for a pending obligation; none of its routes mints an obligation. -/
def routePendingObligation (state : SessionState) (text : Option String) (now : Timestamp)
    (obligation : ReviewObligation) : PendingContinuation → ArtifactAnswer
  | .awaitingTask =>
      match changedSubject services text obligation with
      | some code => .refused code
      | none =>
          if services.dispatchAuthorized (ensureReviewAssurance state.reviewAssurance)
              obligation.obligationId then .instructed
          else .refused reviewAttemptUnavailable
  | .interruptedDispatch =>
      match changedSubject services text obligation with
      | some code => .refused code
      | none => rearmInterruptedDispatch services state obligation now
  | .integrityBlocked code => .refused code
  | .missingAttempt => closeReviewObligation state obligation reviewAttemptUnavailable

/-- `routePlanInitialSubmission`; a blocked plan review is left to the submission. -/
def routePlanInitialSubmission (scope : PlanExecutionScope) : Option ArtifactAnswer :=
  let state := scope.state
  if state.phase != .plan || state.plan.isNone || state.selfReview.isNone then none
  else
    match resolveReviewContinuation services state.reviewAssurance .plan with
    | .pending obligation continuation => some
        (routePendingObligation services state scope.args.planText (scope.readings 5) obligation
          continuation)
    | .awaitingVerdict _ | .blocked _ | .none => none

def ArtifactAnswer.ofWrite : Except String PlanWrite → ArtifactAnswer
  | .ok write => .written write
  | .error code => .refused code

/-- A call of the plan tool without a transport recovery: what the review under way
answers, or the call itself. -/
def routedPlanCall (scope : PlanExecutionScope) : ArtifactAnswer :=
  let scope :=
    { scope with args := normalizeInitialPlanSubmissionArgs scope.args scope.state }
  match validatePlanCallShape scope with
  | some code => .refused code
  | none =>
      if scope.args.reviewVerdict.isSome then .ofWrite (planCall services.toPlanServices scope)
      else
        match routePlanInitialSubmission services scope with
        | some answer => answer
        | none => .ofWrite (planCall services.toPlanServices scope)

end Services

end GovernedRuntime.Tools
