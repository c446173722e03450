/-
The operations of the review-assurance ledger: release of a reviewer, binding of its
child, evidence, abandonment, re-arm, reopening and consumption
(`src/integration/review/dispatch/`, `src/integration/review/obligations/`,
`src/integration/review/evidence/reviewer-evidence-recorder.ts`,
`src/state/review-continuation.ts`).
-/
import GovernedRuntime.Review.Ledger

namespace GovernedRuntime.Review

open GovernedRuntime.State (CanonicalText ReviewObligationType Timestamp)

/-- What the ledger takes from the session's policy and from other components. -/
structure LedgerEnvironment where
  reviewMandateDigest : String
  maxIncoherentReviewerCaptureRetries : Nat
  verifyFrozenMaterialForObligation : ReviewObligation → Option (String × String)

structure EnforcementError where
  code : String
  reason : String
deriving DecidableEq, Repr

def denied {α : Type} (reason : String) : Except EnforcementError α :=
  .error ⟨"REVIEW_TASK_EXECUTION_PROVENANCE_UNAVAILABLE", reason⟩

def reviewCriteriaVersion : String := "p42-v7"

def isCurrentReviewGeneration (env : LedgerEnvironment) (obligation : ReviewObligation) : Bool :=
  obligation.criteriaVersion == reviewCriteriaVersion &&
    obligation.mandateDigest == env.reviewMandateDigest

/-! ### Continuation -/

section Continuation

variable (s : ReviewAssuranceState)

/-- A host task can still be bound to the attempt. -/
def ReviewAttempt.isBindable (attempt : ReviewAttempt) : Bool :=
  attempt.status == .created && !isPresent attempt.childSessionId

def findBindableAttempt (obligationId : String) : Option ReviewAttempt :=
  match (s.line obligationId).filter (·.isBindable) with
  | [candidate] => some candidate
  | _ => none

def hasUnknownOutcome (attemptId : String) : Bool :=
  s.dispatches.any fun record =>
    record.attemptId == attemptId && record.dispatchStatus == .outcomeUnknown

/-- The attempts of an obligation whose release was concluded without evidence. -/
def spentStaleAttempts (obligationId : String) : List ReviewAttempt :=
  (s.line obligationId).filter fun attempt =>
    attempt.status == .stale && hasUnknownOutcome s attempt.attemptId

def laterAttempt (latest attempt : ReviewAttempt) : ReviewAttempt :=
  if latest.ordinal < attempt.ordinal then attempt else latest

def findSpentStaleAttempt (obligationId : String) : Option ReviewAttempt :=
  match spentStaleAttempts s obligationId with
  | [] => none
  | first :: rest => some (rest.foldl laterAttempt first)

def findLatestReviewObligation (obligationType : ReviewObligationType) :
    Option ReviewObligation :=
  s.obligations.reverse.find? (·.obligationType == obligationType)

inductive ReviewContinuation
  | none
  | awaitingTask (obligation : ReviewObligation) (attemptId : String)
  | interruptedDispatch (obligation : ReviewObligation) (attemptId : String)
  | integrityBlocked (obligation : ReviewObligation) (code reason : String)
  | awaitingVerdict (obligation : ReviewObligation)
  | blocked (obligation : ReviewObligation)
  | missingAttempt (obligation : ReviewObligation)
deriving DecidableEq, Repr

/-- The continuation of a pending obligation: a bindable attempt wins over a spent one. -/
def pendingContinuation (env : LedgerEnvironment) (obligation : ReviewObligation) :
    ReviewContinuation :=
  match findBindableAttempt s obligation.obligationId with
  | some bindable =>
      if hasReleasedDispatch s bindable.attemptId then
        .interruptedDispatch obligation bindable.attemptId
      else .awaitingTask obligation bindable.attemptId
  | none =>
      match findSpentStaleAttempt s obligation.obligationId with
      | some spentStale => .interruptedDispatch obligation spentStale.attemptId
      | none =>
          match env.verifyFrozenMaterialForObligation obligation with
          | some (code, reason) => .integrityBlocked obligation code reason
          | none => .missingAttempt obligation

/-- The next legal step for the latest obligation of a type. -/
def resolveReviewContinuation (env : LedgerEnvironment) (obligationType : ReviewObligationType) :
    ReviewContinuation :=
  match findLatestReviewObligation s obligationType with
  | none => .none
  | some obligation =>
      match obligation.status with
      | .blocked => .blocked obligation
      | .fulfilled => .awaitingVerdict obligation
      | .pending => pendingContinuation s env obligation
      | .consumed => .none

end Continuation

/-! ### Creation -/

section Creation

variable (s : ReviewAssuranceState)

/-- What the caller has frozen for a new obligation. -/
structure ObligationInput where
  obligationId : String
  obligationType : ReviewObligationType
  subjectDigest : String
  maxReviewerAttempts : Nat
  repositoryAuthority : Option FrozenRepositoryAuthority
  discoverySnapshot : CanonicalText
  attempt : FreshAttempt
deriving DecidableEq, Repr

def createReviewObligation (env : LedgerEnvironment) (input : ObligationInput)
    (now : Timestamp) : ReviewObligation :=
  { obligationId := input.obligationId
    obligationType := input.obligationType
    subjectDigest := input.subjectDigest
    criteriaVersion := reviewCriteriaVersion
    mandateDigest := env.reviewMandateDigest
    createdAt := now
    status := .pending
    invocationId := none
    blockedCode := none
    fulfilledAt := none
    consumedAt := none
    maxReviewerAttempts := input.maxReviewerAttempts
    repositoryAuthority := input.repositoryAuthority
    repositoryRevisionProvenance :=
      some (deriveRepositoryRevisionProvenance input.repositoryAuthority) }

/-- The discovery context callers resolve: repository-governed exactly when the obligation
has frozen an authority. -/
def resolvedDiscovery (input : ObligationInput) : ReviewAttemptDiscoveryContext :=
  if input.repositoryAuthority.isSome then .repository input.discoverySnapshot
  else .notApplicable

def appendObligationAndInitialAttempt (fresh : FreshAttempt) (obligation : ReviewObligation)
    (now : Timestamp) (repositoryDiscovery : ReviewAttemptDiscoveryContext) :
    ReviewAssuranceState :=
  let attempt := mintedAttempt s fresh obligation now .initial repositoryDiscovery
  staleObligationAttempts
    (appendReviewAttempt { s with obligations := s.obligations ++ [obligation] } attempt)
    obligation.obligationId fresh.attemptId now

def createObligationAndAttempt (env : LedgerEnvironment) (input : ObligationInput)
    (now : Timestamp) : ReviewAssuranceState :=
  appendObligationAndInitialAttempt s input.attempt (createReviewObligation env input now) now
    (resolvedDiscovery input)

end Creation

/-! ### Release -/

section Release

variable (s : ReviewAssuranceState)

def assertReleaseAvailable (attemptId : String) : Except EnforcementError Unit :=
  if s.dispatches.any fun item =>
      item.dispatchStatus == .authorized ||
        (item.dispatchStatus == .outcomeUnknown && !s.superseded item.attemptId) then
    denied "An earlier reviewer release remains quarantined; recovery is not verified."
  else if s.capacityLock.isSome || hasReleasedDispatch s attemptId then
    denied "This review attempt cannot be released again or through a capacity lock."
  else .ok ()

/-- A review operation of the enforcement state that waits for its reviewer. -/
structure PendingReview where
  obligationId : Option String
  attemptId : Option String
deriving DecidableEq, Repr

def pendingAttempt (env : LedgerEnvironment) (pendingReviews : List PendingReview) :
    Except EnforcementError (ReviewObligation × ReviewAttempt) :=
  match pendingReviews.filter fun item => item.obligationId.isSome && item.attemptId.isSome with
  | [entry] =>
      match entry.obligationId.bind s.obligation? with
      | none =>
          denied "The pending operation is not the exact current unbound review attempt."
      | some obligation =>
          match findBindableAttempt s obligation.obligationId with
          | none =>
              denied "The pending operation is not the exact current unbound review attempt."
          | some attempt =>
              if obligation.status = .pending ∧ isCurrentReviewGeneration env obligation = true ∧
                  entry.attemptId = some attempt.attemptId then do
                assertReleaseAvailable s attempt.attemptId
                .ok (obligation, attempt)
              else
                denied "The pending operation is not the exact current unbound review attempt."
  | _ => denied "A unique pending review operation is required."

/-- The release one host call asks for.  `stateInScope` and `promptUnchanged` are what the
caller compares with the state it read before. -/
structure AuthorizedReviewDispatchInput where
  stateInScope : Bool
  pendingReviews : List PendingReview
  promptUnchanged : Bool
  obligationId : String
  attemptId : String
  hostCallId : String
  canonicalPromptDigest : String
  authorizedAt : Timestamp
  dispatchId : String
deriving DecidableEq, Repr

inductive DispatchDisposition
  | append
  | retry
  | conflict
deriving DecidableEq, Repr

def resolveExistingDispatchForCall (existingForCall : List ReviewDispatchRecord)
    (input : AuthorizedReviewDispatchInput) : DispatchDisposition :=
  match existingForCall with
  | [] => .append
  | [existing] =>
      if existing.attemptId = input.attemptId ∧ existing.obligationId = input.obligationId ∧
          existing.canonicalPromptDigest = input.canonicalPromptDigest ∧
          existing.dispatchStatus = .authorized then .retry
      else .conflict
  | _ => .conflict

def persistenceFailed {α : Type} (reason : String) : Except EnforcementError α :=
  .error ⟨"REVIEW_DISPATCH_PERSISTENCE_FAILED", reason⟩

/-- No lock, a pending obligation and an unbound created attempt of it. -/
def dispatchAuthorizable (input : AuthorizedReviewDispatchInput) : Bool :=
  s.capacityLock.isNone &&
    (s.obligation? input.obligationId).any (fun obligation =>
      obligation.status == .pending &&
        (s.attempt? input.attemptId).any fun attempt =>
          attempt.obligationId == obligation.obligationId && attempt.status == .created &&
            attempt.childSessionId.isNone)

def authorizedRecord (input : AuthorizedReviewDispatchInput) : ReviewDispatchRecord :=
  { dispatchId := input.dispatchId
    attemptId := input.attemptId
    obligationId := input.obligationId
    hostCallId := input.hostCallId
    canonicalPromptDigest := input.canonicalPromptDigest
    dispatchAuthorizedAt := input.authorizedAt
    dispatchStatus := .authorized
    completedAt := none }

def persistAuthorizedReviewDispatch (input : AuthorizedReviewDispatchInput) :
    Except EnforcementError ReviewAssuranceState :=
  if !dispatchAuthorizable s input then
    persistenceFailed
      "the reviewer dispatch requires a pending obligation with a created, unbound attempt"
  else
    match resolveExistingDispatchForCall
        (s.dispatches.filter (·.hostCallId == input.hostCallId)) input with
    | .conflict =>
        persistenceFailed
          "the host call ID is already bound to a different dispatch authorization"
    | .retry => .ok s
    | .append =>
        if s.dispatches.any fun record =>
            record.attemptId == input.attemptId && record.dispatchStatus == .authorized then
          persistenceFailed "the reviewer attempt already has an authorized dispatch release"
        else .ok (appendReviewDispatch s (authorizedRecord input))

def outOfScope {α : Type} : Except EnforcementError α :=
  denied "Review state no longer matches its exact ACTIVE parent/worktree/policy."

def authorizeNativeReviewDispatch (env : LedgerEnvironment)
    (input : AuthorizedReviewDispatchInput) : Except EnforcementError ReviewAssuranceState :=
  if !input.stateInScope then outOfScope
  else do
    let (obligation, attempt) ← pendingAttempt s env input.pendingReviews
    if obligation.obligationId = input.obligationId ∧ attempt.attemptId = input.attemptId ∧
        input.promptUnchanged = true then
      persistAuthorizedReviewDispatch s input
    else denied "Review authority or frozen prompt changed before durable authorization."

end Release

/-! ### Child -/

section Child

variable (s : ReviewAssuranceState)

def only {α : Type} : List α → Except EnforcementError α
  | [value] => .ok value
  | _ => denied "Review lineage is missing or ambiguous."

structure DispatchLineage where
  dispatch : ReviewDispatchRecord
  attempt : ReviewAttempt
  obligation : ReviewObligation
deriving DecidableEq, Repr

/-- The exact lineage of a live release, never the latest attempt. -/
def nativeReviewDispatchLineage (env : LedgerEnvironment) (stateInScope : Bool)
    (hostCallId : String) (childSessionId : Option String) :
    Except EnforcementError DispatchLineage :=
  if !stateInScope then outOfScope
  else do
    let dispatch ← only (s.dispatches.filter (·.hostCallId == hostCallId))
    let attempt ← only (s.attempts.filter (·.attemptId == dispatch.attemptId))
    let obligation ← only (s.obligations.filter (·.obligationId == dispatch.obligationId))
    if dispatch.dispatchStatus = .authorized ∧ attempt.status = .created ∧
        obligation.status = .pending ∧ attempt.obligationId = obligation.obligationId ∧
        isCurrentReviewGeneration env obligation = true ∧ s.capacityLock = none ∧
        (childSessionId.isSome → attempt.childSessionId = childSessionId) then
      .ok ⟨dispatch, attempt, obligation⟩
    else
      denied "No exact current authorized dispatch/attempt/obligation/child lineage exists."

structure ChildBinding where
  stateInScope : Bool
  parentSessionId : String
  hostCallId : String
  childSessionId : String
deriving DecidableEq, Repr

def bindNativeReviewChild (env : LedgerEnvironment) (input : ChildBinding) (now : Timestamp) :
    Except EnforcementError ReviewAssuranceState := do
  let lineage ← nativeReviewDispatchLineage s env input.stateInScope input.hostCallId none
  if input.childSessionId = input.parentSessionId ∨
      (lineage.attempt.childSessionId.isSome ∧
        lineage.attempt.childSessionId ≠ some input.childSessionId) ∨
      (s.attempts.any fun item =>
        item.attemptId != lineage.attempt.attemptId &&
          item.childSessionId == some input.childSessionId) then
    denied "A reviewer child cannot be shared, replaced or equal its parent."
  else
    .ok (updateAttemptStatus s lineage.attempt.attemptId .created now
      (some input.childSessionId) none)

/-- A tool-contaminated capture: its attempt is rejected and the obligation blocked. -/
def rejectNativeReviewCapture (env : LedgerEnvironment) (stateInScope : Bool)
    (hostCallId childSessionId code : String) (now : Timestamp) :
    Except EnforcementError ReviewAssuranceState := do
  let lineage ← nativeReviewDispatchLineage s env stateInScope hostCallId (some childSessionId)
  .ok (updateAttemptStatus
    (abandonReviewDispatch (blockObligation s lineage.obligation.obligationId code) hostCallId)
    lineage.attempt.attemptId .rejected now none none)

end Child

/-! ### Evidence -/

section Evidence

variable (s : ReviewAssuranceState)

/-- What a capture brings.  `captureValid` stands for the checks of the capture against the
findings and the host's provenance, `preBindValid` for those of the findings. -/
structure EvidenceParams where
  obligationId : String
  obligationType : ReviewObligationType
  attemptId : String
  childSessionId : String
  hostCallId : String
  promptHash : String
  findingsHash : String
  unableToReview : Bool
  capture : CaptureLineage
  nativeCallId : String
  captureValid : Bool
  executionExpired : Bool
  preBindValid : Bool
  fulfilledAt : Timestamp
  invocationId : String
deriving DecidableEq, Repr

def hasCaptureLineage (capture : CaptureLineage)
    (childSessionId obligationId attemptId : String) : Bool :=
  capture.childSessionId == childSessionId && capture.obligationId == obligationId &&
    capture.attemptId == attemptId

def validCapture (params : EvidenceParams) : Bool :=
  hasCaptureLineage params.capture params.childSessionId params.obligationId params.attemptId &&
    params.captureValid && params.nativeCallId == params.hostCallId

def buildInvocationEvidence (params : EvidenceParams) : ReviewInvocationEvidence :=
  { invocationId := params.invocationId
    obligationId := params.obligationId
    obligationType := params.obligationType
    childSessionId := params.childSessionId
    attemptId := params.attemptId
    transport := .nativeSubagent params.nativeCallId
    capture := params.capture
    promptHash := params.promptHash
    findingsHash := params.findingsHash
    consumedByObligationId := none }

/-- The created attempt of the obligation that the child was bound to and whose release is
still unresolved. -/
def resolveEvidenceLineage (obligation : ReviewObligation) (params : EvidenceParams) :
    Option ReviewAttempt :=
  match s.attempt? params.attemptId with
  | none => none
  | some attempt =>
      if attempt.obligationId = obligation.obligationId ∧
          attempt.obligationType = obligation.obligationType ∧
          attempt.subjectDigest = obligation.subjectDigest ∧ attempt.status = .created ∧
          attempt.childSessionId = some params.childSessionId ∧
          hasAuthorizedDispatch s params.hostCallId attempt.attemptId = true then some attempt
      else none

/-- How bound evidence settles its obligation. -/
def settleBoundEvidence (params : EvidenceParams) (now : Timestamp) :
    Except String ReviewAssuranceState :=
  if !params.unableToReview then
    fulfillObligation s params.obligationId params.invocationId now
  else
    match params.obligationType with
    | .review => do
        -- one pass only: evidence without a verdict is consumed in the same transition
        let fulfilled ← fulfillObligation s params.obligationId params.invocationId now
        .ok (consumeReviewObligation fulfilled params.obligationId (some params.invocationId) now)
    | .implement => fulfillObligation s params.obligationId params.invocationId now
    | _ =>
        blockObligationWithInvocation s params.obligationId params.invocationId
          "SUBAGENT_UNABLE_TO_REVIEW" now

/-- The attempt is bound, the evidence recorded and the release completed, in one write. -/
def bindEvidence (params : EvidenceParams) : ReviewAssuranceState :=
  completeReviewDispatch
    (appendInvocationEvidence
      (updateAttemptStatus s params.attemptId .bound params.fulfilledAt
        (some params.childSessionId) none)
      (buildInvocationEvidence params))
    params.hostCallId params.fulfilledAt

inductive EvidenceRecordResult
  | fulfilled (next : ReviewAssuranceState)
  | reused (next : ReviewAssuranceState)
  | missing
  | lineageUnavailable
  | executionExpired
  | preBindFailure
  | failed (code : String)
deriving DecidableEq, Repr

def reuseBlocked (obligationId : String) : ReviewAssuranceState :=
  blockObligation s obligationId "SUBAGENT_EVIDENCE_REUSED"

def applyEvidenceMutation (params : EvidenceParams) (now : Timestamp) : EvidenceRecordResult :=
  if !validCapture params then .lineageUnavailable
  else
    match s.obligation? params.obligationId with
    | none => .missing
    | some obligation =>
        if params.executionExpired then .executionExpired
        else if hasEvidenceReuse s params.childSessionId params.findingsHash then
          .reused (reuseBlocked s params.obligationId)
        else
          match resolveEvidenceLineage s obligation params with
          | none => .lineageUnavailable
          | some _ =>
              if !params.preBindValid then .preBindFailure
              else
                match settleBoundEvidence (bindEvidence s params) params now with
                | .ok next => .fulfilled next
                | .error code => .failed code

/-- The native capture records its evidence under the prompt its release was authorized
with and the type of the obligation it was released for. -/
def bindNativeSubagentFindings (params : EvidenceParams) (now : Timestamp) :
    EvidenceRecordResult :=
  match s.dispatches.find? (·.hostCallId == params.hostCallId),
      s.obligation? params.obligationId with
  | some dispatch, some obligation =>
      applyEvidenceMutation s
        { params with
          promptHash := dispatch.canonicalPromptDigest
          obligationType := obligation.obligationType } now
  | _, _ => .lineageUnavailable

end Evidence

/-! ### Abandonment -/

section Abandonment

variable (s : ReviewAssuranceState)

/-- The one live release of a host call, with the created attempt it was made for. -/
def authorizedCall (hostCallId : String) : Option (ReviewDispatchRecord × ReviewAttempt) :=
  match s.dispatches.filter fun record =>
      record.hostCallId == hostCallId && record.dispatchStatus == .authorized with
  | [record] =>
      match s.attempt? record.attemptId with
      | some attempt => if attempt.status = .created then some (record, attempt) else none
      | none => none
  | _ => none

def abandonReviewDispatchByHostCall (hostCallId : String) (now : Timestamp) :
    ReviewAssuranceState :=
  match authorizedCall s hostCallId with
  | none => s
  | some (_, attempt) =>
      updateAttemptStatus (abandonReviewDispatch s hostCallId) attempt.attemptId .stale now none
        none

/-- The failing child is kept on the attempt its host call stales. -/
def bindStaleChildSession (attemptId : String) (childSessionId : Option String) :
    ReviewAssuranceState :=
  match childSessionId with
  | none => s
  | some childSessionId =>
      { s with
        attempts := s.attempts.map fun candidate =>
          if candidate.attemptId = attemptId ∧ candidate.childSessionId = none then
            { candidate with childSessionId := some childSessionId }
          else candidate }

/-- The release of a host call is concluded without evidence and its attempt staled. -/
def concludeRelease (hostCallId attemptId : String) (childSessionId : Option String)
    (now : Timestamp) : ReviewAssuranceState :=
  bindStaleChildSession
    (updateAttemptStatus (abandonReviewDispatch s hostCallId) attemptId .stale now none none)
    attemptId childSessionId

structure ExecutionClosureIdentity where
  childSessionId : Option String
  dispatchId : Option String
  attemptId : Option String
  obligationId : Option String
deriving DecidableEq, Repr

/-- An identity that the caller has not recorded matches every record. -/
def identityMatches (recorded : Option String) (actual : String) : Bool :=
  recorded.all (· == actual)

def resolveExecutionDispatch (hostCallId : String) (identity : ExecutionClosureIdentity) :
    Option ReviewDispatchRecord :=
  match s.dispatches.filter fun record =>
      identityMatches identity.dispatchId record.dispatchId &&
        identityMatches identity.attemptId record.attemptId &&
        identityMatches identity.obligationId record.obligationId &&
        (identity.dispatchId.isSome || record.hostCallId == hostCallId ||
          identity.childSessionId == some record.hostCallId) with
  | [record] => some record
  | _ => none

def executionDispatchIsTerminal (record : ReviewDispatchRecord)
    (childSessionId : Option String) : Bool :=
  (s.attempt? record.attemptId).any fun attempt =>
    attempt.obligationId == record.obligationId &&
      !(childSessionId.isSome && attempt.childSessionId.isSome &&
        attempt.childSessionId != childSessionId) &&
      match record.dispatchStatus with
      | .outcomeUnknown => attempt.status == .stale
      | .completed =>
          attempt.status == .bound &&
            s.invocations.any fun item =>
              item.attemptId == attempt.attemptId && item.obligationId == record.obligationId &&
                some item.childSessionId == attempt.childSessionId
      | .authorized => false

def canCloseExecution (attempt : ReviewAttempt) (obligation : ReviewObligation)
    (child : Option String) : Bool :=
  (obligation.status == .pending || obligation.status == .blocked) &&
    (attempt.status == .created || attempt.status == .stale) &&
    (!isPresent child || !isPresent attempt.childSessionId || attempt.childSessionId == child)

def hasTerminalBlock (record : ReviewDispatchRecord) (obligation : ReviewObligation)
    (attempt : ReviewAttempt) : Bool :=
  obligation.status == .blocked && record.dispatchStatus == .outcomeUnknown &&
    attempt.status == .stale && s.capacityLock.isSome

def blockedExecutionState (record : ReviewDispatchRecord) (childSessionId : Option String)
    (code : String) (now : Timestamp) : ReviewAssuranceState :=
  { blockObligation (concludeRelease s record.hostCallId record.attemptId childSessionId now)
      record.obligationId code with
    capacityLock := some (s.capacityLock.getD ⟨code, record.obligationId, now⟩) }

inductive AbandonAndBlockOutcome
  | blocked (next : ReviewAssuranceState) (obligationId code : String)
  | terminal (obligationId : String) (completed : Bool)
  | unresolved
deriving DecidableEq, Repr

/-- The terminal closure: the release is concluded, its obligation blocked and a lock set. -/
def abandonAndBlockByHostCall (hostCallId code : String) (identity : ExecutionClosureIdentity)
    (now : Timestamp) : AbandonAndBlockOutcome :=
  match resolveExecutionDispatch s hostCallId identity with
  | none => .unresolved
  | some record =>
      match s.attempt? record.attemptId, s.obligation? record.obligationId with
      | some attempt, some obligation =>
          if attempt.obligationId ≠ obligation.obligationId then .unresolved
          else if record.dispatchStatus = .completed then
            if executionDispatchIsTerminal s record identity.childSessionId then
              .terminal obligation.obligationId true
            else .unresolved
          else if !canCloseExecution attempt obligation identity.childSessionId then .unresolved
          else if hasTerminalBlock s record obligation attempt then
            .terminal obligation.obligationId false
          else
            let blockedCode := obligation.blockedCode.getD code
            .blocked (blockedExecutionState s record identity.childSessionId blockedCode now)
              attempt.obligationId blockedCode
      | _, _ => .unresolved

/-- A live release of a blocked obligation is concluded, with the attempt it holds. -/
def concludeLiveRelease (dispatch : ReviewDispatchRecord) (now : Timestamp) :
    ReviewAssuranceState :=
  let abandoned := abandonReviewDispatch s dispatch.hostCallId
  if (abandoned.attempt? dispatch.attemptId).any fun attempt =>
      attempt.status == .created || attempt.status == .bound then
    updateAttemptStatus abandoned dispatch.attemptId .stale now none none
  else abandoned

/-- The outcome of a completed capture is blocked: every live release of the obligation is
concluded with it. -/
def blockReviewOutcome (obligationId code : String) (now : Timestamp) : ReviewAssuranceState :=
  let blocked := blockObligation s obligationId code
  (blocked.dispatches.filter fun item =>
      item.obligationId == obligationId && item.dispatchStatus == .authorized).foldl
    (concludeLiveRelease · · now) blocked

end Abandonment

/-! ### Re-arm -/

section Rearm

variable (s : ReviewAssuranceState)

inductive DispatchRearmBlockCause
  | obligationNotFound
  | obligationSettled
  | budgetExhausted
  | noReleasedDispatch
deriving DecidableEq, Repr

structure RearmRefusal where
  reason : String
  cause : DispatchRearmBlockCause
deriving DecidableEq, Repr

/-- Why a released attempt may be followed by another one. -/
def dispatchRearmTrigger (spent : ReviewAttempt) : Option RearmTrigger :=
  let dispatches := s.dispatches.filter (·.attemptId == spent.attemptId)
  if spent.status ≠ .created ∧ spent.status ≠ .stale then none
  else if spent.status = .created ∧
      dispatches.any (·.dispatchStatus == .authorized) = true then some .interrupted
  else if dispatches.any (·.dispatchStatus == .outcomeUnknown) then some .spent
  else none

def isSettled (obligation : ReviewObligation) : Bool :=
  obligation.status == .fulfilled || obligation.status == .consumed ||
    obligation.status == .blocked

/-- The obligation must be open, its budget not spent and the attempt released. -/
def authorizeDispatchRearm (spent : ReviewAttempt) :
    Except RearmRefusal (ReviewObligation × RearmTrigger) :=
  match s.obligation? spent.obligationId with
  | none => .error ⟨"rearm_obligation_not_found", .obligationNotFound⟩
  | some obligation =>
      if isSettled obligation then .error ⟨"rearm_obligation_settled", .obligationSettled⟩
      else
        let rearms := countReviewAttempts s obligation.obligationId
        if obligation.maxReviewerAttempts ≤ rearms then
          .error ⟨s!"reviewer re-arm budget exhausted ({rearms}/{obligation.maxReviewerAttempts})",
            .budgetExhausted⟩
        else
          match dispatchRearmTrigger s spent with
          | none =>
              .error ⟨"reviewer attempt " ++ spent.attemptId ++
                " has no released dispatch to recover from", .noReleasedDispatch⟩
          | some trigger => .ok (obligation, trigger)

/-- The successor of a released attempt, numbered after every attempt of its obligation. -/
def buildInterruptedDispatchRearm (fresh : FreshAttempt) (spent : ReviewAttempt)
    (now : Timestamp) : Except RearmRefusal ReviewAssuranceState := do
  let (obligation, trigger) ← authorizeDispatchRearm s spent
  .ok (markDispatchOutcomeUnknown
    (createAttemptForExistingObligation s fresh obligation now
      (.dispatchRearm spent.attemptId trigger) spent.repositoryDiscovery)
    spent.attemptId)

/-- The code a budget-exhausted obligation is closed with. -/
def exhaustedCode : String := "REVIEW_TASK_EXECUTION_PROVENANCE_UNAVAILABLE"

/-- A re-arm that its budget refuses closes the obligation; any other refusal leaves the
state as it is. -/
def rearmOrClose (obligationId : String) (fresh : FreshAttempt) (spent : ReviewAttempt)
    (now : Timestamp) : ReviewAssuranceState :=
  match buildInterruptedDispatchRearm s fresh spent now with
  | .ok next => next
  | .error refusal =>
      if refusal.cause = .budgetExhausted then blockObligation s obligationId exhaustedCode
      else s

/-- A retryable capture failure: the release is concluded and another attempt minted. -/
def abandonAndRearmByHostCall (hostCallId : String) (childSessionId : Option String)
    (fresh : FreshAttempt) (now : Timestamp) : ReviewAssuranceState :=
  match authorizedCall s hostCallId with
  | none => s
  | some (_, attempt) =>
      let staled := concludeRelease s hostCallId attempt.attemptId childSessionId now
      match staled.attempt? attempt.attemptId with
      | none => s
      | some spent => rearmOrClose staled attempt.obligationId fresh spent now

/-- The host's transport retry: an interrupted attempt of the latest obligation of a type is
re-armed.  The originating commands close an obligation that has no attempt left; the
retry itself refuses it. -/
def handleReviewTransportRecovery (env : LedgerEnvironment)
    (obligationType : ReviewObligationType) (closesMissing : Bool) (fresh : FreshAttempt)
    (now : Timestamp) : ReviewAssuranceState :=
  match resolveReviewContinuation s env obligationType with
  | .interruptedDispatch obligation attemptId =>
      match s.attempt? attemptId with
      | none => s
      | some spent => rearmOrClose s obligation.obligationId fresh spent now
  | .missingAttempt obligation =>
      if closesMissing then blockObligation s obligation.obligationId "REVIEW_ATTEMPT_UNAVAILABLE"
      else s
  | _ => s

end Rearm

/-! ### Incoherent captures -/

section IncoherentCapture

variable (s : ReviewAssuranceState)

structure RearmTarget where
  obligation : ReviewObligation
  invocation : ReviewInvocationEvidence
  attempt : ReviewAttempt
deriving DecidableEq, Repr

/-- The proof that a completed capture was incoherent. -/
structure IncoherentCapture where
  obligationId : String
  incoherentInvocationId : String
  incoherentAttemptId : String
deriving DecidableEq, Repr

/-- The exact bound attempt an incoherent capture was completed by. -/
def resolveRearmTarget (input : IncoherentCapture) : Except String RearmTarget :=
  match s.obligation? input.obligationId with
  | none => .error "incoherent_rearm_obligation_not_found"
  | some obligation =>
      if obligation.status ≠ .fulfilled then .error "incoherent_rearm_obligation_not_fulfilled"
      else if obligation.invocationId = none then .error "incoherent_rearm_invocation_missing"
      else if obligation.invocationId ≠ some input.incoherentInvocationId then
        .error "incoherent_rearm_proof_mismatch"
      else
        match s.invocations.find? fun item => some item.invocationId == obligation.invocationId with
        | none => .error "incoherent_rearm_invocation_missing"
        | some invocation =>
            if !invocation.transport.isBindable then .error "incoherent_rearm_invocation_missing"
            else if invocation.attemptId ≠ input.incoherentAttemptId then
              .error "incoherent_rearm_proof_mismatch"
            else
              match s.attempt? invocation.attemptId with
              | none => .error "incoherent_rearm_attempt_missing"
              | some attempt =>
                  if attempt.status ≠ .bound then .error "incoherent_rearm_attempt_not_bound"
                  else if attempt.childSessionId ≠ some invocation.childSessionId then
                    .error "incoherent_rearm_binding_mismatch"
                  else .ok ⟨obligation, invocation, attempt⟩

def ReviewAttempt.incoherentCapture (attempt : ReviewAttempt) : Bool :=
  attempt.status == .rejected && attempt.rejectionReason == some .consistencyInvalid

def priorF12Failures (obligationId : String) : Nat :=
  (s.line obligationId).countP (·.incoherentCapture)

def authorizeResolvedTarget (env : LedgerEnvironment) (target : RearmTarget) :
    Except String Unit :=
  let failures := priorF12Failures s target.obligation.obligationId
  let rearms := countReviewAttempts s target.obligation.obligationId
  if failures < env.maxIncoherentReviewerCaptureRetries ∧
      rearms < target.obligation.maxReviewerAttempts then .ok ()
  else if env.maxIncoherentReviewerCaptureRetries ≤ failures then
    .error (s!"incoherent reviewer capture retry budget exhausted ({failures}/" ++
      s!"{env.maxIncoherentReviewerCaptureRetries})")
  else
    .error s!"reviewer re-arm budget exhausted ({rearms}/{target.obligation.maxReviewerAttempts})"

def resetObligation (obligation : ReviewObligation) : ReviewObligation :=
  { obligation with
    status := .pending
    invocationId := none
    fulfilledAt := none
    consumedAt := none
    blockedCode := none }

/-- The incoherent attempt is rejected, its obligation pending again and a successor
minted; the release stays completed and the evidence in place. -/
def buildIncoherentCaptureRearm (env : LedgerEnvironment) (input : IncoherentCapture)
    (fresh : FreshAttempt) (now : Timestamp) : Except String ReviewAssuranceState := do
  let target ← resolveRearmTarget s input
  authorizeResolvedTarget s env target
  let rejected := updateAttemptStatus s target.attempt.attemptId .rejected now none
    (some .consistencyInvalid)
  let reset := updateObligation rejected target.obligation.obligationId fun _ =>
    resetObligation target.obligation
  .ok (createAttemptForExistingObligation reset fresh (resetObligation target.obligation) now
    (.dispatchRearm target.attempt.attemptId .spent) target.attempt.repositoryDiscovery)

end IncoherentCapture

/-! ### Reopening -/

section Reopening

variable (s : ReviewAssuranceState)

def unknownOutcomeCode : String := "REVIEWER_EXECUTION_OUTCOME_UNKNOWN"

def priorChallengeCode : String := "SUBAGENT_PRIOR_CHALLENGE_UNRESOLVED"

/-- Stale attempts of the obligation without evidence that no re-arm has superseded. -/
def unsupersededStaleAttempts (obligationId : String) : List ReviewAttempt :=
  (s.line obligationId).filter fun attempt =>
    attempt.status == .stale &&
      !s.invocations.any (·.attemptId == attempt.attemptId) && !s.superseded attempt.attemptId

/-- The obligation blocked by an unknown-outcome lock. -/
def lockedObligation (obligationType : ReviewObligationType) : Option ReviewObligation :=
  match s.capacityLock with
  | none => none
  | some lock =>
      if lock.code ≠ unknownOutcomeCode then none
      else (s.obligation? lock.obligationId).filter fun obligation =>
        obligation.obligationType == obligationType && obligation.status == .blocked &&
          obligation.blockedCode == some unknownOutcomeCode

structure UnknownOutcomeTarget where
  obligation : ReviewObligation
  attempt : ReviewAttempt
  dispatch : ReviewDispatchRecord
deriving DecidableEq, Repr

/-- The exact recoverable lineage behind an unknown-outcome lock. -/
def unknownOutcomeTarget (obligationType : ReviewObligationType) :
    Option UnknownOutcomeTarget :=
  match lockedObligation s obligationType with
  | none => none
  | some obligation =>
      let dispatches := s.dispatches.filter (·.obligationId == obligation.obligationId)
      if dispatches.any (·.dispatchStatus == .authorized) then none
      else
        match unsupersededStaleAttempts s obligation.obligationId with
        | [attempt] =>
            if attempt.childSessionId.isNone then none
            else
              match dispatches.filter (·.attemptId == attempt.attemptId) with
              | [dispatch] =>
                  if dispatch.dispatchStatus = .outcomeUnknown then
                    some ⟨obligation, attempt, dispatch⟩
                  else none
              | _ => none
        | _ => none

def reopenedObligation (obligationId : String) : ReviewAssuranceState :=
  updateObligation s obligationId fun item =>
    { item with status := .pending, blockedCode := none }

def clearLock : ReviewAssuranceState := { s with capacityLock := none }

/-- The lineage the host has proven settled, by its identities. -/
structure SettledLineage where
  obligationType : ReviewObligationType
  obligationId : String
  attemptId : String
  hostCallId : String
deriving DecidableEq, Repr

def reopenUnknownOutcome (expected : SettledLineage) :
    Except EnforcementError ReviewAssuranceState :=
  match unknownOutcomeTarget s expected.obligationType with
  | none =>
      .error ⟨unknownOutcomeCode,
        "The unknown-outcome lineage changed during settlement; nothing was reopened."⟩
  | some current =>
      if current.obligation.obligationId = expected.obligationId ∧
          current.attempt.attemptId = expected.attemptId ∧
          current.dispatch.hostCallId = expected.hostCallId then
        .ok (clearLock (reopenedObligation s expected.obligationId))
      else
        .error ⟨unknownOutcomeCode,
          "The unknown-outcome lineage changed during settlement; nothing was reopened."⟩

/-- Unsuperseded stale attempts whose only release has an unknown outcome. -/
def resolvableSpentAttempts (obligationId : String) : List ReviewAttempt :=
  (unsupersededStaleAttempts s obligationId).filter fun attempt =>
    match s.dispatches.filter fun dispatch =>
        dispatch.attemptId == attempt.attemptId && dispatch.obligationId == obligationId with
    | [dispatch] => dispatch.dispatchStatus == .outcomeUnknown
    | _ => false

/-- An implementation review that was blocked for missing author resolutions is reopened
and re-armed in one write once they are recorded. -/
def reopenReviewAfterAuthorResolution (unaddressedPriorFails : Bool) (fresh : FreshAttempt)
    (now : Timestamp) : ReviewAssuranceState :=
  match s.capacityLock with
  | none => s
  | some lock =>
      if lock.code ≠ priorChallengeCode then s
      else
        match s.obligation? lock.obligationId with
        | none => s
        | some obligation =>
            if obligation.obligationType ≠ .implement ∨ obligation.status ≠ .blocked then s
            else if unaddressedPriorFails then s
            else if s.dispatches.any fun dispatch =>
                dispatch.obligationId == obligation.obligationId &&
                  dispatch.dispatchStatus == .authorized then s
            else
              match resolvableSpentAttempts s obligation.obligationId with
              | [spent] =>
                  match buildInterruptedDispatchRearm
                      (reopenedObligation s obligation.obligationId) fresh spent now with
                  | .ok next => clearLock next
                  | .error _ => s
              | _ => s

def recoverableCapacityCodes : List String :=
  ["REVIEWER_STEP_BUDGET_EXHAUSTED", "REVIEWER_OUTPUT_TRUNCATED"]

structure RecoverableCapacityTarget where
  lock : ReviewCapacityLock
  obligation : ReviewObligation
  attempt : ReviewAttempt
deriving DecidableEq, Repr

/-- The lock, the obligation and the stale attempt behind a terminal capacity closure. -/
def recoverableCapacityTarget : Option RecoverableCapacityTarget :=
  match s.capacityLock with
  | none => none
  | some lock =>
      if !recoverableCapacityCodes.contains lock.code then none
      else
        match (s.obligation? lock.obligationId).filter fun obligation =>
            obligation.status == .blocked && obligation.blockedCode == some lock.code with
        | none => none
        | some obligation =>
            let dispatches := s.dispatches.filter (·.obligationId == obligation.obligationId)
            let attempts := s.line obligation.obligationId
            if dispatches.any (·.dispatchStatus == .authorized) ||
                attempts.any (·.status == .bound) then none
            else
              match attempts.filter (·.status == .stale) with
              | [attempt] =>
                  if attempt.childSessionId.isNone then none
                  else if attempts.any fun item =>
                      item.status == .created || item.status == .bound ||
                        item.origin.predecessor? == some attempt.attemptId then none
                  else
                    match dispatches.filter (·.attemptId == attempt.attemptId) with
                    | [dispatch] =>
                        if dispatch.dispatchStatus = .outcomeUnknown then
                          some ⟨lock, obligation, attempt⟩
                        else none
                    | _ => none
              | _ => none

/-- One proven lock is cleared; the obligation stays blocked. -/
def releaseTerminalCapacityLock (obligationId code attemptId : String) :
    Except EnforcementError ReviewAssuranceState :=
  match recoverableCapacityTarget s with
  | some target =>
      if target.lock.obligationId = obligationId ∧ target.lock.code = code ∧
          target.attempt.attemptId = attemptId then
        .ok (clearLock s)
      else
        .error ⟨"REVIEW_CAPACITY_RECOVERY_UNSAFE",
          "The capacity lock or its terminal lineage changed; nothing was released."⟩
  | none =>
      .error ⟨"REVIEW_CAPACITY_RECOVERY_UNSAFE",
        "The capacity lock or its terminal lineage changed; nothing was released."⟩

end Reopening

/-! ### Consumption -/

section Consumption

variable (s : ReviewAssuranceState)

/-- The evidence's attempt is bound to its child for exactly this obligation. -/
def hasExactBoundAttempt (obligation : ReviewObligation)
    (invocation : ReviewInvocationEvidence) : Bool :=
  invocation.obligationType == obligation.obligationType &&
    (s.attempt? invocation.attemptId).any fun attempt =>
      attempt.status == .bound && attempt.obligationId == obligation.obligationId &&
        attempt.obligationType == obligation.obligationType &&
        attempt.subjectDigest == obligation.subjectDigest &&
        attempt.childSessionId == some invocation.childSessionId

/-- The evidence a submitted verdict is resolved from: of an obligation that is neither
blocked nor consumed, not consumed itself and exactly bound. -/
def acceptedEvidence (obligation : ReviewObligation)
    (invocation : ReviewInvocationEvidence) : Bool :=
  obligation.status != .blocked && obligation.status != .consumed &&
    invocation.obligationId == obligation.obligationId &&
    invocation.transport.isBindable && invocation.consumedByObligationId.isNone &&
    hasExactBoundAttempt s obligation invocation

/-- The tools consume the obligation with the evidence its verdict was resolved from. -/
def consumeWithEvidence (obligationId invocationId : String) (now : Timestamp) :
    Option ReviewAssuranceState :=
  match s.obligation? obligationId,
      s.invocations.find? (·.invocationId == invocationId) with
  | some obligation, some invocation =>
      if acceptedEvidence s obligation invocation then
        some (consumeReviewObligation s obligation.obligationId (some invocationId) now)
      else none
  | _, _ => none

end Consumption

/-! ### Steps -/

/-- The operations of the ledger, with what each draws from the host, the clock and the
random source. -/
inductive LedgerOperation
  | create (input : ObligationInput)
  | authorize (input : AuthorizedReviewDispatchInput)
  | bindChild (input : ChildBinding)
  | recordEvidence (params : EvidenceParams)
  | abandon (hostCallId : String)
  | abandonAndBlock (hostCallId code : String) (identity : ExecutionClosureIdentity)
  | abandonAndRearm (hostCallId : String) (childSessionId : Option String)
      (fresh : FreshAttempt)
  | recoverTransport (obligationType : ReviewObligationType) (closesMissing : Bool)
      (fresh : FreshAttempt)
  | rearmIncoherentCapture (input : IncoherentCapture) (fresh : FreshAttempt)
  | reopenUnknownOutcome (expected : SettledLineage)
  | reopenAfterAuthorResolution (unaddressedPriorFails : Bool) (fresh : FreshAttempt)
  | releaseLock (obligationId code attemptId : String)
  | consume (obligationId invocationId : String)
deriving DecidableEq, Repr

/-- What an operation leaves: a written state, the incident of reused evidence, or
nothing. -/
inductive LedgerOutcome
  | written (next : ReviewAssuranceState)
  | reused (next : ReviewAssuranceState)
  | refused
deriving DecidableEq, Repr

def LedgerOutcome.ofExcept {ε : Type} : Except ε ReviewAssuranceState → LedgerOutcome
  | .ok next => .written next
  | .error _ => .refused

def LedgerOutcome.ofBlock : AbandonAndBlockOutcome → LedgerOutcome
  | .blocked next _ _ => .written next
  | .terminal _ _ => .refused
  | .unresolved => .refused

def LedgerOutcome.ofEvidence : EvidenceRecordResult → LedgerOutcome
  | .fulfilled next => .written next
  | .reused next => .reused next
  | _ => .refused

def performLedgerOperation (env : LedgerEnvironment) (now : Timestamp)
    (s : ReviewAssuranceState) : LedgerOperation → LedgerOutcome
  | .create input => .written (createObligationAndAttempt s env input now)
  | .authorize input => .ofExcept (authorizeNativeReviewDispatch s env input)
  | .bindChild input => .ofExcept (bindNativeReviewChild s env input now)
  | .recordEvidence params => .ofEvidence (bindNativeSubagentFindings s params now)
  | .abandon hostCallId => .written (abandonReviewDispatchByHostCall s hostCallId now)
  | .abandonAndBlock hostCallId code identity =>
      .ofBlock (abandonAndBlockByHostCall s hostCallId code identity now)
  | .abandonAndRearm hostCallId childSessionId fresh =>
      .written (abandonAndRearmByHostCall s hostCallId childSessionId fresh now)
  | .recoverTransport obligationType closesMissing fresh =>
      .written (handleReviewTransportRecovery s env obligationType closesMissing fresh now)
  | .rearmIncoherentCapture input fresh =>
      .ofExcept (buildIncoherentCaptureRearm s env input fresh now)
  | .reopenUnknownOutcome expected => .ofExcept (Review.reopenUnknownOutcome s expected)
  | .reopenAfterAuthorResolution unaddressedPriorFails fresh =>
      .written (reopenReviewAfterAuthorResolution s unaddressedPriorFails fresh now)
  | .releaseLock obligationId code attemptId =>
      .ofExcept (releaseTerminalCapacityLock s obligationId code attemptId)
  | .consume obligationId invocationId =>
      match consumeWithEvidence s obligationId invocationId now with
      | some next => .written next
      | none => .refused

end GovernedRuntime.Review
