/-
Coherence of the review-assurance ledger across its four lists: what each record promises
about the others, and how records may be adjusted or appended without breaking it.
-/
import GovernedRuntime.Review.LedgerEffects
import Mathlib.Data.List.Nodup

namespace GovernedRuntime.Review

variable {s t : ReviewAssuranceState}

/-! ### Records -/

/-- The part of an attempt that no operation changes. -/
def ReviewAttempt.core (attempt : ReviewAttempt) : ReviewAttempt :=
  { attempt with
    status := .created
    childSessionId := none
    rejectionReason := none
    completedAt := none }

/-- The part of an obligation that no operation changes. -/
def ReviewObligation.core (obligation : ReviewObligation) : ReviewObligation :=
  { obligation with
    status := .pending
    invocationId := none
    blockedCode := none
    fulfilledAt := none
    consumedAt := none }

structure LifecycleCoherent (attempt : ReviewAttempt) : Prop where
  unfinished : attempt.status = .created → attempt.completedAt = none
  finished : attempt.status ≠ .created → attempt.completedAt.isSome = true
  unrejected : attempt.status ≠ .rejected → attempt.rejectionReason = none

/-- The host call an invocation was released by. -/
def ReviewInvocationEvidence.releaseCall (invocation : ReviewInvocationEvidence) : String :=
  match invocation.transport with
  | .nativeSubagent nativeCallId => nativeCallId
  | .historicalTask => invocation.childSessionId

def dispatchLinksInvocation (dispatch : ReviewDispatchRecord)
    (invocation : ReviewInvocationEvidence) : Bool :=
  dispatch.attemptId == invocation.attemptId && dispatch.obligationId == invocation.obligationId &&
    dispatch.hostCallId == invocation.releaseCall &&
    dispatch.canonicalPromptDigest == invocation.promptHash

/-- Persisted provenance is the one the frozen authority gives. -/
def ProvenanceCoherent (obligation : ReviewObligation) : Prop :=
  obligation.repositoryAuthority.isSome = true →
    ∀ persisted, obligation.repositoryRevisionProvenance = some persisted →
      persisted = deriveRepositoryRevisionProvenance obligation.repositoryAuthority

/-- The codes whose block may be lifted again. -/
def reopenableCodes : List String := [unknownOutcomeCode, priorChallengeCode]

/-- The obligation is past the evidence it may be given: no operation makes it pending
again while its attempt is bound. -/
def SettledStatus (obligation : ReviewObligation) : Prop :=
  obligation.status = .fulfilled ∨ obligation.status = .consumed ∨
    obligation.status = .blocked ∧
      ∃ code, obligation.blockedCode = some code ∧ code ∉ reopenableCodes

/-- A released attempt in the state its successor was minted after. -/
def TriggerCoherent (s : ReviewAssuranceState) (predecessor : ReviewAttempt)
    (trigger : RearmTrigger) : Prop :=
  predecessor.status = .stale ∧ hasUnknownOutcome s predecessor.attemptId = true ∨
    predecessor.incoherentCapture = true ∧ trigger = .spent ∧
      ∃ record ∈ s.dispatches, record.attemptId = predecessor.attemptId ∧
        record.dispatchStatus = .completed

/-! ### The invariant -/

structure IdentityCoherent (s : ReviewAssuranceState) : Prop where
  obligationIds : (s.obligations.map (·.obligationId)).Nodup
  invocationIds : (s.invocations.map (·.invocationId)).Nodup
  attemptIds : (s.attempts.map (·.attemptId)).Nodup
  dispatchIds : (s.dispatches.map (·.dispatchId)).Nodup
  hostCallIds : (s.dispatches.map (·.hostCallId)).Nodup

/-- An attempt is one of its obligation, with the discovery context that asks for. -/
structure OwnedBy (attempt : ReviewAttempt) (obligation : ReviewObligation) : Prop where
  id : obligation.obligationId = attempt.obligationId
  obligationType : attempt.obligationType = obligation.obligationType
  subject : attempt.subjectDigest = obligation.subjectDigest
  discovery : attempt.repositoryDiscovery.isRepository = obligation.hasFrozenRepositoryAuthority
  capability : attempt.observationCapability.isSome = obligation.hasFrozenRepositoryAuthority

structure AttemptCoherent (s : ReviewAssuranceState) : Prop where
  owned : ∀ attempt ∈ s.attempts, ∃ obligation ∈ s.obligations, OwnedBy attempt obligation
  ordinals : ∀ attempt ∈ s.attempts, ∀ other ∈ s.attempts,
    attempt.obligationId = other.obligationId → attempt.ordinal = other.ordinal → attempt = other
  bounded : ∀ attempt ∈ s.attempts, attempt.ordinal ≤ (s.line attempt.obligationId).length
  initialFirst : ∀ attempt ∈ s.attempts, ∀ other ∈ s.attempts,
    attempt.obligationId = other.obligationId → attempt.origin = .initial →
    attempt.ordinal ≤ other.ordinal
  lifecycle : ∀ attempt ∈ s.attempts, LifecycleCoherent attempt
  lineage : ∀ attempt ∈ s.attempts, ∀ predecessorAttemptId trigger,
    attempt.origin = .dispatchRearm predecessorAttemptId trigger →
    ∃ predecessor ∈ s.attempts, predecessor.attemptId = predecessorAttemptId ∧
      predecessor.obligationId = attempt.obligationId ∧ predecessor.ordinal < attempt.ordinal ∧
      TriggerCoherent s predecessor trigger

structure DispatchTimes (record : ReviewDispatchRecord) : Prop where
  authorized : record.dispatchStatus = .authorized → record.completedAt = none
  completed : record.dispatchStatus = .completed → record.completedAt.isSome = true

structure DispatchCoherent (s : ReviewAssuranceState) : Prop where
  released : ∀ record ∈ s.dispatches, ∃ attempt ∈ s.attempts,
    attempt.attemptId = record.attemptId ∧ attempt.obligationId = record.obligationId
  active : ∀ record ∈ s.dispatches, ∀ other ∈ s.dispatches,
    record.dispatchStatus ≠ .outcomeUnknown → other.dispatchStatus ≠ .outcomeUnknown →
    record.attemptId = other.attemptId → record = other
  times : ∀ record ∈ s.dispatches, DispatchTimes record

structure EvidenceCoherent (s : ReviewAssuranceState) : Prop where
  capture : ∀ invocation ∈ s.invocations,
    invocation.capture =
      ⟨invocation.childSessionId, invocation.obligationId, invocation.attemptId⟩
  bound : ∀ invocation ∈ s.invocations, ∃ attempt ∈ s.attempts,
    attempt.attemptId = invocation.attemptId ∧
      attempt.obligationId = invocation.obligationId ∧
      attempt.obligationType = invocation.obligationType ∧
      (attempt.status = .bound ∨ attempt.status = .rejected) ∧
      attempt.childSessionId = some invocation.childSessionId
  dispatched : ∀ invocation ∈ s.invocations, ∃ record ∈ s.dispatches,
    dispatchLinksInvocation record invocation = true ∧ record.dispatchStatus = .completed
  evidenced : ∀ record ∈ s.dispatches, record.dispatchStatus = .completed →
    ∃ invocation ∈ s.invocations, dispatchLinksInvocation record invocation = true
  single : (s.invocations.map (·.attemptId)).Nodup
  consumer : ∀ invocation ∈ s.invocations, ∀ obligationId,
    invocation.consumedByObligationId = some obligationId →
    obligationId = invocation.obligationId

structure ObligationCoherent (s : ReviewAssuranceState) : Prop where
  provenance : ∀ obligation ∈ s.obligations, ProvenanceCoherent obligation
  linked : ∀ obligation ∈ s.obligations, ∀ invocationId,
    obligation.invocationId = some invocationId →
    ∃ invocation ∈ s.invocations, invocation.invocationId = invocationId ∧
      invocation.obligationId = obligation.obligationId ∧
      invocation.obligationType = obligation.obligationType
  fulfilled : ∀ obligation ∈ s.obligations,
    obligation.status = .fulfilled ∨ obligation.status = .consumed →
    obligation.invocationId.isSome = true ∧ obligation.fulfilledAt.isSome = true
  consumed : ∀ obligation ∈ s.obligations, obligation.status = .consumed →
    obligation.consumedAt.isSome = true
  boundSettled : ∀ obligation ∈ s.obligations, ∀ attempt ∈ s.attempts,
    attempt.obligationId = obligation.obligationId → attempt.status = .bound →
    SettledStatus obligation
  boundOnce : ∀ attempt ∈ s.attempts, ∀ other ∈ s.attempts,
    attempt.obligationId = other.obligationId → attempt.status = .bound →
    other.status = .bound → attempt = other

/-- A lock stands before a blocked obligation, one that has no bound attempt when its block
may be lifted. -/
structure LockCoherent (s : ReviewAssuranceState) : Prop where
  blocked : ∀ lock, s.capacityLock = some lock → ∃ obligation ∈ s.obligations,
    obligation.obligationId = lock.obligationId ∧ obligation.status = .blocked
  unbound : ∀ lock, s.capacityLock = some lock → lock.code ∈ reopenableCodes →
    ∀ attempt ∈ s.attempts, attempt.obligationId = lock.obligationId → attempt.status ≠ .bound

structure Coherent (s : ReviewAssuranceState) : Prop where
  identity : IdentityCoherent s
  attempt : AttemptCoherent s
  dispatch : DispatchCoherent s
  evidence : EvidenceCoherent s
  obligation : ObligationCoherent s
  lock : LockCoherent s

theorem emptyReviewAssurance_coherent : Coherent emptyReviewAssurance where
  identity := by constructor <;> simp [emptyReviewAssurance]
  attempt := by constructor <;> simp [emptyReviewAssurance]
  dispatch := by constructor <;> simp [emptyReviewAssurance]
  evidence := by constructor <;> simp [emptyReviewAssurance]
  obligation := by constructor <;> simp [emptyReviewAssurance]
  lock := by constructor <;> simp [emptyReviewAssurance]

/-! ### What coherence gives -/

theorem eq_of_nodup_map {α β : Type} {key : α → β} {items : List α}
    (hnodup : (items.map key).Nodup) {item other : α} (hitem : item ∈ items)
    (hother : other ∈ items) (heq : key item = key other) : item = other :=
  List.inj_on_of_nodup_map hnodup hitem hother heq

namespace Coherent

theorem attempt_eq (hs : Coherent s) {attempt other : ReviewAttempt}
    (hattempt : attempt ∈ s.attempts) (hother : other ∈ s.attempts)
    (heq : attempt.attemptId = other.attemptId) : attempt = other :=
  eq_of_nodup_map hs.identity.attemptIds hattempt hother heq

theorem obligation_eq (hs : Coherent s) {obligation other : ReviewObligation}
    (hobligation : obligation ∈ s.obligations) (hother : other ∈ s.obligations)
    (heq : obligation.obligationId = other.obligationId) : obligation = other :=
  eq_of_nodup_map hs.identity.obligationIds hobligation hother heq

/-- An attempt that another one follows is stale or the rejected one of an incoherent
capture. -/
theorem followed (hs : Coherent s) {attempt : ReviewAttempt} (hattempt : attempt ∈ s.attempts)
    (hsuperseded : s.superseded attempt.attemptId = true) :
    attempt.status = .stale ∨ attempt.incoherentCapture = true := by
  obtain ⟨successor, hsuccessor, hpredecessor⟩ :=
    ReviewAssuranceState.superseded_iff.1 hsuperseded
  cases horigin : successor.origin with
  | initial =>
      rw [horigin] at hpredecessor
      cases hpredecessor
  | dispatchRearm predecessorAttemptId trigger =>
      rw [horigin] at hpredecessor
      obtain rfl := Option.some.inj hpredecessor
      obtain ⟨predecessor, hmem, hid, -, -, htrigger⟩ :=
        hs.attempt.lineage successor hsuccessor _ trigger horigin
      obtain rfl := hs.attempt_eq hmem hattempt hid
      exact htrigger.imp And.left And.left

theorem not_superseded (hs : Coherent s) {attempt : ReviewAttempt}
    (hattempt : attempt ∈ s.attempts)
    (hstatus : attempt.status = .created ∨ attempt.status = .bound) :
    s.superseded attempt.attemptId = false := by
  by_contra hsuperseded
  obtain hstale | hrejected := hs.followed hattempt (by simpa using hsuperseded)
  · rw [hstale] at hstatus
    obtain h | h := hstatus <;> cases h
  · simp only [ReviewAttempt.incoherentCapture, Bool.and_eq_true, beq_iff_eq] at hrejected
    rw [hrejected.1] at hstatus
    obtain h | h := hstatus <;> cases h

theorem wellIdentified (hs : Coherent s) : WellIdentified s where
  obligationIds := hs.identity.obligationIds
  attemptIds := hs.identity.attemptIds
  hostCallIds := hs.identity.hostCallIds
  createdLast _ hattempt hcreated := hs.not_superseded hattempt (.inl hcreated)

/-- Evidence of an attempt says that it was bound and never bound again. -/
theorem invocation_status (hs : Coherent s) {invocation : ReviewInvocationEvidence}
    (hinvocation : invocation ∈ s.invocations) {attempt : ReviewAttempt}
    (hattempt : attempt ∈ s.attempts) (hid : attempt.attemptId = invocation.attemptId) :
    (attempt.status = .bound ∨ attempt.status = .rejected) ∧
      attempt.childSessionId = some invocation.childSessionId := by
  obtain ⟨bound, hbound, hbid, -, -, hstatus, hchild⟩ := hs.evidence.bound invocation hinvocation
  obtain rfl := hs.attempt_eq hbound hattempt (hbid.trans hid.symm)
  exact ⟨hstatus, hchild⟩

theorem completed_status (hs : Coherent s) {record : ReviewDispatchRecord}
    (hrecord : record ∈ s.dispatches) (hcompleted : record.dispatchStatus = .completed)
    {attempt : ReviewAttempt} (hattempt : attempt ∈ s.attempts)
    (hid : attempt.attemptId = record.attemptId) :
    attempt.status = .bound ∨ attempt.status = .rejected := by
  obtain ⟨invocation, hinvocation, hlinks⟩ := hs.evidence.evidenced record hrecord hcompleted
  simp only [dispatchLinksInvocation, Bool.and_eq_true, beq_iff_eq] at hlinks
  exact (hs.invocation_status hinvocation hattempt (hid.trans hlinks.1.1.1)).1

/-- A live release has given no evidence. -/
theorem no_evidence_of_authorized (hs : Coherent s) {record : ReviewDispatchRecord}
    (hrecord : record ∈ s.dispatches) (hlive : record.dispatchStatus = .authorized)
    {invocation : ReviewInvocationEvidence} (hinvocation : invocation ∈ s.invocations) :
    invocation.attemptId ≠ record.attemptId := by
  intro hid
  obtain ⟨completed, hmem, hlinks, hcompleted⟩ := hs.evidence.dispatched invocation hinvocation
  simp only [dispatchLinksInvocation, Bool.and_eq_true, beq_iff_eq] at hlinks
  have heq := hs.dispatch.active record hrecord completed hmem (by rw [hlive]; decide)
    (by rw [hcompleted]; decide) (hid.symm.trans hlinks.1.1.1.symm)
  rw [heq, hcompleted] at hlive
  cases hlive

end Coherent

end GovernedRuntime.Review
