/-
The review-assurance ledger: obligations, reviewer attempts, dispatches of the host and
captured evidence, with the helpers every writer goes through
(`src/state/evidence-review.ts`, `src/state/review-dispatch.ts`,
`src/integration/review/obligations/`).
-/
import GovernedRuntime.State.Evidence

namespace GovernedRuntime.Review

open GovernedRuntime.State (CanonicalText ReviewObligationStatus ReviewObligationType Timestamp)

/-! ### Records -/

/-- The revisions an obligation has frozen. -/
inductive FrozenRepositoryAuthority
  | candidatePair (baseSha headSha : String)
  | forkPair (baseSha headSha : String)
  | context (sha : String)
deriving DecidableEq, Repr

inductive ReviewRepositoryRevisionProvenance
  | available (headSha : String) (baseSha : Option String)
  | unavailable
deriving DecidableEq, Repr

def deriveRepositoryRevisionProvenance :
    Option FrozenRepositoryAuthority → ReviewRepositoryRevisionProvenance
  | some (.candidatePair baseSha headSha) => .available headSha (some baseSha)
  | some (.forkPair baseSha headSha) => .available headSha (some baseSha)
  | some (.context sha) => .available sha none
  | none => .unavailable

/-- A review obligation, as far as the ledger goes. -/
structure ReviewObligation where
  obligationId : String
  obligationType : ReviewObligationType
  subjectDigest : String
  criteriaVersion : String
  mandateDigest : String
  createdAt : Timestamp
  status : ReviewObligationStatus
  invocationId : Option String
  blockedCode : Option String
  fulfilledAt : Option Timestamp
  consumedAt : Option Timestamp
  maxReviewerAttempts : Nat
  repositoryAuthority : Option FrozenRepositoryAuthority
  repositoryRevisionProvenance : Option ReviewRepositoryRevisionProvenance
deriving DecidableEq, Repr

def ReviewObligation.hasFrozenRepositoryAuthority (obligation : ReviewObligation) : Bool :=
  obligation.repositoryAuthority.isSome

inductive ReviewAttemptStatus
  | created
  | rejected
  | bound
  | stale
deriving DecidableEq, Repr

inductive RearmTrigger
  | interrupted
  | spent
deriving DecidableEq, Repr

/-- How an attempt came into existence. -/
inductive ReviewAttemptOrigin
  | initial
  | dispatchRearm (predecessorAttemptId : String) (triggerReason : RearmTrigger)
deriving DecidableEq, Repr

def ReviewAttemptOrigin.isRearm : ReviewAttemptOrigin → Bool
  | .initial => false
  | .dispatchRearm _ _ => true

def ReviewAttemptOrigin.predecessor? : ReviewAttemptOrigin → Option String
  | .initial => none
  | .dispatchRearm predecessorAttemptId _ => some predecessorAttemptId

inductive ReviewAttemptRejectionReason
  | consistencyInvalid
deriving DecidableEq, Repr

inductive ReviewAttemptDiscoveryContext
  | repository (snapshot : CanonicalText)
  | notApplicable
deriving DecidableEq, Repr

def ReviewAttemptDiscoveryContext.isRepository : ReviewAttemptDiscoveryContext → Bool
  | .repository _ => true
  | .notApplicable => false

structure ReviewAttempt where
  attemptId : String
  obligationId : String
  obligationType : ReviewObligationType
  subjectDigest : String
  ordinal : Nat
  childSessionId : Option String
  status : ReviewAttemptStatus
  origin : ReviewAttemptOrigin
  rejectionReason : Option ReviewAttemptRejectionReason
  repositoryDiscovery : ReviewAttemptDiscoveryContext
  observationCapability : Option String
  createdAt : Timestamp
  completedAt : Option Timestamp
deriving DecidableEq, Repr

/-- The transport generations evidence may come from: the historical one is kept for
archives, only the native one binds. -/
inductive ReviewTransport
  | historicalTask
  | nativeSubagent (nativeCallId : String)
deriving DecidableEq, Repr

def ReviewTransport.isBindable : ReviewTransport → Bool
  | .historicalTask => false
  | .nativeSubagent _ => true

/-- The identities a message capture carries. -/
structure CaptureLineage where
  childSessionId : String
  obligationId : String
  attemptId : String
deriving DecidableEq, Repr

structure ReviewInvocationEvidence where
  invocationId : String
  obligationId : String
  obligationType : ReviewObligationType
  childSessionId : String
  attemptId : String
  transport : ReviewTransport
  capture : CaptureLineage
  promptHash : String
  findingsHash : String
  consumedByObligationId : Option String
deriving DecidableEq, Repr

inductive ReviewDispatchStatus
  | authorized
  | completed
  | outcomeUnknown
deriving DecidableEq, Repr

def ReviewDispatchStatus.name : ReviewDispatchStatus → String
  | .authorized => "authorized"
  | .completed => "completed"
  | .outcomeUnknown => "outcome_unknown"

structure ReviewDispatchRecord where
  dispatchId : String
  attemptId : String
  obligationId : String
  hostCallId : String
  canonicalPromptDigest : String
  dispatchAuthorizedAt : Timestamp
  dispatchStatus : ReviewDispatchStatus
  completedAt : Option Timestamp
deriving DecidableEq, Repr

structure ReviewCapacityLock where
  code : String
  obligationId : String
  createdAt : Timestamp
deriving DecidableEq, Repr

structure ReviewAssuranceState where
  obligations : List ReviewObligation
  invocations : List ReviewInvocationEvidence
  attempts : List ReviewAttempt
  dispatches : List ReviewDispatchRecord
  capacityLock : Option ReviewCapacityLock
deriving DecidableEq, Repr

def emptyReviewAssurance : ReviewAssuranceState := ⟨[], [], [], [], none⟩

namespace ReviewAssuranceState

variable (s : ReviewAssuranceState)

def obligation? (obligationId : String) : Option ReviewObligation :=
  s.obligations.find? (·.obligationId == obligationId)

def attempt? (attemptId : String) : Option ReviewAttempt :=
  s.attempts.find? (·.attemptId == attemptId)

/-- The attempts of one obligation, in the order they were minted. -/
def line (obligationId : String) : List ReviewAttempt :=
  s.attempts.filter (·.obligationId == obligationId)

/-- An attempt names the given one as its predecessor. -/
def superseded (attemptId : String) : Bool :=
  s.attempts.any (·.origin.predecessor? == some attemptId)

end ReviewAssuranceState

/-! ### Dispatches -/

section Dispatches

variable (s : ReviewAssuranceState)

def hasReleasedDispatch (attemptId : String) : Bool :=
  s.dispatches.any (·.attemptId == attemptId)

def hasAuthorizedDispatch (hostCallId attemptId : String) : Bool :=
  s.dispatches.any fun record =>
    record.hostCallId == hostCallId && record.attemptId == attemptId &&
      record.dispatchStatus == .authorized

def appendReviewDispatch (record : ReviewDispatchRecord) : ReviewAssuranceState :=
  { s with dispatches := s.dispatches ++ [record] }

def markDispatchOutcomeUnknown (attemptId : String) : ReviewAssuranceState :=
  { s with
    dispatches := s.dispatches.map fun record =>
      if record.attemptId = attemptId ∧ record.dispatchStatus ≠ .outcomeUnknown then
        { record with dispatchStatus := .outcomeUnknown }
      else record }

def completeReviewDispatch (hostCallId : String) (completedAt : Timestamp) :
    ReviewAssuranceState :=
  { s with
    dispatches := s.dispatches.map fun record =>
      if record.hostCallId = hostCallId ∧ record.dispatchStatus = .authorized then
        { record with dispatchStatus := .completed, completedAt := some completedAt }
      else record }

def abandonReviewDispatch (hostCallId : String) : ReviewAssuranceState :=
  { s with
    dispatches := s.dispatches.map fun record =>
      if record.hostCallId = hostCallId ∧ record.dispatchStatus = .authorized then
        { record with dispatchStatus := .outcomeUnknown }
      else record }

end Dispatches

/-! ### Attempts -/

section Attempts

variable (s : ReviewAssuranceState)

/-- A session id that is there and not empty. -/
def isPresent (id : Option String) : Bool := id.any (· != "")

/-- The new lifecycle fields of an attempt. -/
def ReviewAttempt.withStatus (attempt : ReviewAttempt) (status : ReviewAttemptStatus)
    (now : Timestamp) (childSessionId : Option String)
    (rejectionReason : Option ReviewAttemptRejectionReason) : ReviewAttempt :=
  { attempt with
    status := status
    completedAt := if status ≠ .created then some now else attempt.completedAt
    childSessionId :=
      if isPresent childSessionId && !isPresent attempt.childSessionId then childSessionId
      else attempt.childSessionId
    rejectionReason :=
      if status = .rejected ∧ rejectionReason.isSome then rejectionReason
      else attempt.rejectionReason }

def updateAttemptStatus (attemptId : String) (status : ReviewAttemptStatus) (now : Timestamp)
    (childSessionId : Option String)
    (rejectionReason : Option ReviewAttemptRejectionReason) : ReviewAssuranceState :=
  { s with
    attempts := s.attempts.map fun attempt =>
      if attempt.attemptId = attemptId then
        attempt.withStatus status now childSessionId rejectionReason
      else attempt }

/-- The attempts of an obligation that can still be bound give way to a newer one. -/
def staleObligationAttempts (obligationId exceptAttemptId : String) (now : Timestamp) :
    ReviewAssuranceState :=
  { s with
    attempts := s.attempts.map fun attempt =>
      if attempt.obligationId = obligationId ∧ attempt.attemptId ≠ exceptAttemptId ∧
          attempt.status = .created then
        { attempt with status := .stale, completedAt := some now }
      else attempt }

def appendReviewAttempt (attempt : ReviewAttempt) : ReviewAssuranceState :=
  { s with attempts := s.attempts ++ [attempt] }

/-- The identities a mint draws at random. -/
structure FreshAttempt where
  attemptId : String
  observationCapability : String
deriving DecidableEq, Repr

/-- An attempt of an obligation.  It carries an observation capability exactly when the
obligation backs a frozen revision. -/
def createReviewAttempt (fresh : FreshAttempt) (obligation : ReviewObligation) (ordinal : Nat)
    (origin : ReviewAttemptOrigin) (repositoryDiscovery : ReviewAttemptDiscoveryContext)
    (now : Timestamp) : ReviewAttempt :=
  { attemptId := fresh.attemptId
    obligationId := obligation.obligationId
    obligationType := obligation.obligationType
    subjectDigest := obligation.subjectDigest
    ordinal := ordinal
    childSessionId := none
    status := .created
    origin := origin
    rejectionReason := none
    repositoryDiscovery := repositoryDiscovery
    observationCapability :=
      if obligation.hasFrozenRepositoryAuthority then some fresh.observationCapability else none
    createdAt := now
    completedAt := none }

/-- The attempt minted for an obligation, numbered after those that are there. -/
def mintedAttempt (fresh : FreshAttempt) (obligation : ReviewObligation) (now : Timestamp)
    (origin : ReviewAttemptOrigin) (repositoryDiscovery : ReviewAttemptDiscoveryContext) :
    ReviewAttempt :=
  createReviewAttempt fresh obligation ((s.line obligation.obligationId).length + 1) origin
    repositoryDiscovery now

def createAttemptForExistingObligation (fresh : FreshAttempt) (obligation : ReviewObligation)
    (now : Timestamp) (origin : ReviewAttemptOrigin)
    (repositoryDiscovery : ReviewAttemptDiscoveryContext) : ReviewAssuranceState :=
  staleObligationAttempts
    (appendReviewAttempt s (mintedAttempt s fresh obligation now origin repositoryDiscovery))
    obligation.obligationId fresh.attemptId now

/-- The number of attempts of an obligation that a re-arm has minted. -/
def countReviewAttempts (obligationId : String) : Nat :=
  (s.line obligationId).countP (·.origin.isRearm)

end Attempts

/-! ### Obligations -/

section Obligations

variable (s : ReviewAssuranceState)

def updateObligation (obligationId : String)
    (transform : ReviewObligation → ReviewObligation) : ReviewAssuranceState :=
  { s with
    obligations := s.obligations.map fun item =>
      if item.obligationId = obligationId then transform item else item }

def blockObligation (obligationId blockedCode : String) : ReviewAssuranceState :=
  updateObligation s obligationId fun item =>
    { item with status := .blocked, blockedCode := some blockedCode }

def appendInvocationEvidence (invocation : ReviewInvocationEvidence) : ReviewAssuranceState :=
  { s with invocations := s.invocations ++ [invocation] }

def hasEvidenceReuse (childSessionId findingsHash : String) : Bool :=
  s.invocations.any fun item =>
    item.childSessionId == childSessionId || item.findingsHash == findingsHash

/-- A pending obligation is fulfilled by its evidence; fulfilling it again with the same
evidence changes nothing. -/
def fulfillObligation (obligationId invocationId : String) (now : Timestamp) :
    Except String ReviewAssuranceState :=
  match s.obligation? obligationId with
  | none => .error "REVIEW_OBLIGATION_NOT_FOUND"
  | some obligation =>
      if obligation.status ≠ .pending then
        if obligation.status = .fulfilled ∧ obligation.invocationId = some invocationId then .ok s
        else .error "REVIEW_OBLIGATION_STATUS_INVALID"
      else .ok (updateObligation s obligationId fun item =>
        { item with
          status := .fulfilled
          invocationId := some invocationId
          fulfilledAt := some now })

/-- A pending obligation is closed by evidence that carries no verdict. -/
def blockObligationWithInvocation (obligationId invocationId blockedCode : String)
    (now : Timestamp) : Except String ReviewAssuranceState :=
  match s.obligation? obligationId with
  | none => .error "REVIEW_OBLIGATION_NOT_FOUND"
  | some obligation =>
      if obligation.status ≠ .pending then
        if obligation.status = .blocked ∧ obligation.blockedCode = some blockedCode ∧
            obligation.invocationId = some invocationId then .ok s
        else .error "REVIEW_OBLIGATION_STATUS_INVALID"
      else .ok (updateObligation s obligationId fun item =>
        { item with
          status := .blocked
          blockedCode := some blockedCode
          invocationId := some invocationId
          fulfilledAt := some now })

/-- The obligation is consumed, whatever its status, and the accepted invocation with it. -/
def consumeReviewObligation (obligationId : String) (acceptedInvocationId : Option String)
    (now : Timestamp) : ReviewAssuranceState :=
  { s with
    obligations := s.obligations.map fun item =>
      if item.obligationId = obligationId then
        { item with status := .consumed, consumedAt := some now }
      else item
    invocations := s.invocations.map fun invocation =>
      if acceptedInvocationId = some invocation.invocationId then
        { invocation with consumedByObligationId := some obligationId }
      else invocation }

end Obligations

end GovernedRuntime.Review
