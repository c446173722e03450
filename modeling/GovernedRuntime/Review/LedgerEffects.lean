/-
The effects the operations of the review-assurance ledger are built from, each with the
facts its operation has checked.
-/
import GovernedRuntime.Review.LedgerOperations

namespace GovernedRuntime.Review

open GovernedRuntime.State (Timestamp)

variable {env : LedgerEnvironment} {now : Timestamp} {s t u : ReviewAssuranceState}

/-! ### Lookups -/

namespace ReviewAssuranceState

theorem mem_of_obligation? {id : String} {obligation : ReviewObligation}
    (h : s.obligation? id = some obligation) :
    obligation ∈ s.obligations ∧ obligation.obligationId = id :=
  ⟨List.mem_of_find?_eq_some h, by simpa using List.find?_some h⟩

theorem mem_of_attempt? {id : String} {attempt : ReviewAttempt}
    (h : s.attempt? id = some attempt) :
    attempt ∈ s.attempts ∧ attempt.attemptId = id :=
  ⟨List.mem_of_find?_eq_some h, by simpa using List.find?_some h⟩

theorem mem_line {obligationId : String} {attempt : ReviewAttempt} :
    attempt ∈ s.line obligationId ↔
      attempt ∈ s.attempts ∧ attempt.obligationId = obligationId := by
  simp [line]

theorem superseded_iff {attemptId : String} :
    s.superseded attemptId = true ↔
      ∃ successor ∈ s.attempts, successor.origin.predecessor? = some attemptId := by
  simp [superseded]

/-- Every identity a state mentions. -/
def identities (s : ReviewAssuranceState) : List String :=
  s.obligations.map (·.obligationId) ++ s.obligations.filterMap (·.invocationId) ++
    s.invocations.map (·.invocationId) ++ s.invocations.map (·.attemptId) ++
    s.attempts.map (·.attemptId) ++ s.attempts.map (·.obligationId) ++
    s.attempts.filterMap (·.origin.predecessor?) ++ s.dispatches.map (·.dispatchId) ++
    s.dispatches.map (·.attemptId)

end ReviewAssuranceState

/-- Distinct identities, and no created attempt that another one follows. -/
structure WellIdentified (s : ReviewAssuranceState) : Prop where
  obligationIds : (s.obligations.map (·.obligationId)).Nodup
  attemptIds : (s.attempts.map (·.attemptId)).Nodup
  hostCallIds : (s.dispatches.map (·.hostCallId)).Nodup
  createdLast : ∀ attempt ∈ s.attempts, attempt.status = .created →
    s.superseded attempt.attemptId = false

theorem find?_eq_some_of_nodup {α : Type} {key : α → String} {items : List α}
    (hnodup : (items.map key).Nodup) {item : α} (hmem : item ∈ items) :
    items.find? (key · == key item) = some item := by
  induction items with
  | nil => cases hmem
  | cons head rest ih =>
      rw [List.map_cons, List.nodup_cons] at hnodup
      obtain rfl | hrest := List.mem_cons.1 hmem
      · exact List.find?_cons_of_pos (by simp)
      · have hne : key head ≠ key item := fun heq =>
          hnodup.1 (heq ▸ List.mem_map_of_mem hrest)
        rw [List.find?_cons_of_neg (by simpa using hne)]
        exact ih hnodup.2 hrest

namespace WellIdentified

theorem attempt?_of_mem (hs : WellIdentified s) {attempt : ReviewAttempt}
    (hmem : attempt ∈ s.attempts) : s.attempt? attempt.attemptId = some attempt :=
  find?_eq_some_of_nodup hs.attemptIds hmem

theorem obligation?_of_mem (hs : WellIdentified s) {obligation : ReviewObligation}
    (hmem : obligation ∈ s.obligations) :
    s.obligation? obligation.obligationId = some obligation :=
  find?_eq_some_of_nodup hs.obligationIds hmem

end WellIdentified

theorem mem_unsupersededStaleAttempts {obligationId : String} {attempt : ReviewAttempt} :
    attempt ∈ unsupersededStaleAttempts s obligationId ↔
      attempt ∈ s.line obligationId ∧ attempt.status = .stale ∧
        (∀ item ∈ s.invocations, item.attemptId ≠ attempt.attemptId) ∧
        s.superseded attempt.attemptId = false := by
  simp [unsupersededStaleAttempts, and_assoc]

theorem hasUnknownOutcome_iff {attemptId : String} :
    hasUnknownOutcome s attemptId = true ↔
      ∃ record ∈ s.dispatches, record.attemptId = attemptId ∧
        record.dispatchStatus = .outcomeUnknown := by
  simp [hasUnknownOutcome]

theorem mem_spentStaleAttempts {obligationId : String} {attempt : ReviewAttempt} :
    attempt ∈ spentStaleAttempts s obligationId ↔
      attempt ∈ s.line obligationId ∧ attempt.status = .stale ∧
        hasUnknownOutcome s attempt.attemptId = true := by
  simp [spentStaleAttempts]

theorem findBindableAttempt_eq_some {obligationId : String} {attempt : ReviewAttempt}
    (h : findBindableAttempt s obligationId = some attempt) :
    attempt ∈ s.line obligationId ∧ attempt.status = .created ∧
      isPresent attempt.childSessionId = false := by
  unfold findBindableAttempt at h
  split at h
  · next candidate hcandidates =>
      obtain rfl := Option.some.inj h
      have hmem : candidate ∈ (s.line obligationId).filter (·.isBindable) := by
        rw [hcandidates]
        exact List.mem_singleton_self _
      simpa [ReviewAttempt.isBindable] using hmem
  · cases h

theorem findSpentStaleAttempt_mem {obligationId : String} {attempt : ReviewAttempt}
    (h : findSpentStaleAttempt s obligationId = some attempt) :
    attempt ∈ spentStaleAttempts s obligationId := by
  unfold findSpentStaleAttempt at h
  split at h
  · cases h
  · next first rest hspent =>
      obtain rfl := Option.some.inj h
      rw [hspent]
      clear hspent
      induction rest generalizing first with
      | nil => exact List.mem_singleton_self _
      | cons next rest ih =>
          replace ih := ih (laterAttempt first next) rfl
          rw [List.foldl_cons]
          have hlater : laterAttempt first next = first ∨ laterAttempt first next = next := by
            unfold laterAttempt
            split
            · exact .inr rfl
            · exact .inl rfl
          obtain hmem | hmem := List.mem_cons.1 ih
          · rw [hmem]
            obtain heq | heq := hlater <;> simp [heq]
          · exact List.mem_cons_of_mem _ (List.mem_cons_of_mem _ hmem)

/-! ### What an operation has checked -/

/-- A release that no earlier one quarantines. -/
structure Releasable (s : ReviewAssuranceState) (input : AuthorizedReviewDispatchInput) :
    Prop where
  quiet : ∀ record ∈ s.dispatches, record.dispatchStatus ≠ .authorized
  succeeded : ∀ record ∈ s.dispatches, record.dispatchStatus = .outcomeUnknown →
    s.superseded record.attemptId = true
  unlocked : s.capacityLock = none
  unreleased : ∀ record ∈ s.dispatches, record.attemptId ≠ input.attemptId
  newCall : ∀ record ∈ s.dispatches, record.hostCallId ≠ input.hostCallId
  pending : ∃ obligation ∈ s.obligations, obligation.obligationId = input.obligationId ∧
    obligation.status = .pending
  unbound : ∃ attempt ∈ s.attempts, attempt.attemptId = input.attemptId ∧
    attempt.obligationId = input.obligationId ∧ attempt.status = .created ∧
    attempt.childSessionId = none

/-- A release in flight: its record, its attempt and its obligation. -/
structure LiveRelease (s : ReviewAssuranceState) (lineage : DispatchLineage) : Prop where
  dispatch : lineage.dispatch ∈ s.dispatches
  attempt : lineage.attempt ∈ s.attempts
  obligation : lineage.obligation ∈ s.obligations
  sameAttempt : lineage.attempt.attemptId = lineage.dispatch.attemptId
  sameObligation : lineage.obligation.obligationId = lineage.dispatch.obligationId
  owned : lineage.attempt.obligationId = lineage.obligation.obligationId
  authorized : lineage.dispatch.dispatchStatus = .authorized
  created : lineage.attempt.status = .created
  pending : lineage.obligation.status = .pending
  unlocked : s.capacityLock = none

/-- Evidence that may be recorded: the child of a live release has not given any. -/
structure Recordable (s : ReviewAssuranceState) (params : EvidenceParams)
    (obligation : ReviewObligation) (attempt : ReviewAttempt) : Prop where
  foundObligation : s.obligation? params.obligationId = some obligation
  foundAttempt : s.attempt? params.attemptId = some attempt
  sameType : params.obligationType = obligation.obligationType
  owned : attempt.obligationId = params.obligationId
  created : attempt.status = .created
  child : attempt.childSessionId = some params.childSessionId
  released : ∃ record ∈ s.dispatches, record.hostCallId = params.hostCallId ∧
    record.attemptId = params.attemptId ∧ record.dispatchStatus = .authorized
  prompt : ∃ record, s.dispatches.find? (·.hostCallId == params.hostCallId) = some record ∧
    params.promptHash = record.canonicalPromptDigest
  capture : params.capture = ⟨params.childSessionId, params.obligationId, params.attemptId⟩
  nativeCall : params.nativeCallId = params.hostCallId
  unused : ∀ item ∈ s.invocations, item.childSessionId ≠ params.childSessionId ∧
    item.findingsHash ≠ params.findingsHash

/-- The attempt a re-arm follows: nothing else does, or the continuation has named it. -/
def RearmSelected (s : ReviewAssuranceState) (spent : ReviewAttempt) : Prop :=
  s.superseded spent.attemptId = false ∨ spent.status = .created ∨
    (∃ obligationType latest, findLatestReviewObligation s obligationType = some latest ∧
        latest.obligationId = spent.obligationId) ∧
      findBindableAttempt s spent.obligationId = none ∧
      findSpentStaleAttempt s spent.obligationId = some spent

/-- A released attempt that its open obligation still has the budget to replace. -/
structure Rearmable (s : ReviewAssuranceState) (spent : ReviewAttempt)
    (obligation : ReviewObligation) (trigger : RearmTrigger) : Prop where
  recorded : spent ∈ s.attempts
  found : s.obligation? spent.obligationId = some obligation
  pending : obligation.status = .pending
  budget : countReviewAttempts s obligation.obligationId < obligation.maxReviewerAttempts
  triggered : dispatchRearmTrigger s spent = some trigger
  selected : RearmSelected s spent

/-- The bound attempt of an incoherent capture, within both budgets. -/
structure IncoherentTarget (env : LedgerEnvironment) (s : ReviewAssuranceState)
    (target : RearmTarget) : Prop where
  obligation : s.obligation? target.obligation.obligationId = some target.obligation
  fulfilled : target.obligation.status = .fulfilled
  invocation : target.invocation ∈ s.invocations
  linked : target.obligation.invocationId = some target.invocation.invocationId
  attempt : s.attempt? target.invocation.attemptId = some target.attempt
  bound : target.attempt.status = .bound
  failures : priorF12Failures s target.obligation.obligationId <
    env.maxIncoherentReviewerCaptureRetries
  budget : countReviewAttempts s target.obligation.obligationId <
    target.obligation.maxReviewerAttempts

/-- The state after the re-arm of an incoherent capture. -/
def incoherentRearm (s : ReviewAssuranceState) (target : RearmTarget) (fresh : FreshAttempt)
    (now : Timestamp) : ReviewAssuranceState :=
  createAttemptForExistingObligation
    (updateObligation
      (updateAttemptStatus s target.attempt.attemptId .rejected now none
        (some .consistencyInvalid))
      target.obligation.obligationId fun _ => resetObligation target.obligation)
    fresh (resetObligation target.obligation) now
    (.dispatchRearm target.attempt.attemptId .spent) target.attempt.repositoryDiscovery

/-- A blocked obligation behind its lock, with a stale attempt nothing has followed. -/
structure Reopenable (s : ReviewAssuranceState) (obligation : ReviewObligation) : Prop where
  found : s.obligation? obligation.obligationId = some obligation
  blocked : obligation.status = .blocked
  lock : ∃ lock, s.capacityLock = some lock ∧ lock.obligationId = obligation.obligationId ∧
    (lock.code = unknownOutcomeCode ∨ lock.code = priorChallengeCode)
  stale : ∃ attempt, attempt ∈ unsupersededStaleAttempts s obligation.obligationId

/-- The codes that evidence closes an obligation with, whatever its status. -/
def incidentCodes : List String :=
  ["SUBAGENT_EVIDENCE_REUSED", "SUBAGENT_VERDICT_FINDINGS_INCOHERENT"]

/-! ### Effects -/

/-- What an operation can do to the ledger at a time.  `canBind` restricts the attempts a
child may be bound to. -/
inductive LedgerEffect (env : LedgerEnvironment)
    (canBind : ReviewAssuranceState → ReviewAttempt → Prop) (now : Timestamp)
    (s : ReviewAssuranceState) : ReviewAssuranceState → Prop where
  | opened (input : ObligationInput) (hobligation : input.obligationId ∉ s.identities)
      (hattempt : input.attempt.attemptId ∉ s.identities) :
      LedgerEffect env canBind now s (createObligationAndAttempt s env input now)
  | released (input : AuthorizedReviewDispatchInput) (hreleasable : Releasable s input)
      (hfresh : input.dispatchId ∉ s.identities) :
      LedgerEffect env canBind now s (appendReviewDispatch s (authorizedRecord input))
  | childBound (lineage : DispatchLineage) (childSessionId : String)
      (hlive : LiveRelease s lineage)
      (hown : ∀ bound, lineage.attempt.childSessionId = some bound → bound = childSessionId)
      (hcan : canBind s lineage.attempt) :
      LedgerEffect env canBind now s
        (updateAttemptStatus s lineage.attempt.attemptId .created now (some childSessionId) none)
  | evidenceBound (params : EvidenceParams) (obligation : ReviewObligation)
      (attempt : ReviewAttempt) (hrecordable : Recordable s params obligation attempt)
      (hfresh : params.invocationId ∉ s.identities)
      (next : ReviewAssuranceState)
      (hsettled : settleBoundEvidence (bindEvidence s params) params now = .ok next) :
      LedgerEffect env canBind now s next
  | concluded (record : ReviewDispatchRecord) (attempt : ReviewAttempt)
      (childSessionId : Option String) (hrecord : record ∈ s.dispatches)
      (hopen : record.dispatchStatus ≠ .completed)
      (hattempt : s.attempt? record.attemptId = some attempt)
      (hstatus : attempt.status = .created ∨ attempt.status = .stale) :
      LedgerEffect env canBind now s
        (concludeRelease s record.hostCallId record.attemptId childSessionId now)
  | closed (obligation : ReviewObligation) (code : String)
      (hobligation : s.obligation? obligation.obligationId = some obligation)
      (hstatus : obligation.status = .pending ∨
        obligation.status = .blocked ∧ obligation.blockedCode.getD code = code) :
      LedgerEffect env canBind now s (blockObligation s obligation.obligationId code)
  | locked (obligation : ReviewObligation) (code : String)
      (hobligation : s.obligation? obligation.obligationId = some obligation)
      (hblocked : obligation.status = .blocked) (hcode : obligation.blockedCode = some code)
      (hunlocked : s.capacityLock = none) :
      LedgerEffect env canBind now s
        { s with capacityLock := some ⟨code, obligation.obligationId, now⟩ }
  | rearmed (fresh : FreshAttempt) (spent : ReviewAttempt) (obligation : ReviewObligation)
      (trigger : RearmTrigger) (hrearmable : Rearmable s spent obligation trigger)
      (hfresh : fresh.attemptId ∉ s.identities) :
      LedgerEffect env canBind now s
        (markDispatchOutcomeUnknown
          (createAttemptForExistingObligation s fresh obligation now
            (.dispatchRearm spent.attemptId trigger) spent.repositoryDiscovery)
          spent.attemptId)
  | incoherent (fresh : FreshAttempt) (target : RearmTarget)
      (htarget : IncoherentTarget env s target) (hfresh : fresh.attemptId ∉ s.identities) :
      LedgerEffect env canBind now s (incoherentRearm s target fresh now)
  | reopened (obligation : ReviewObligation) (hreopenable : Reopenable s obligation) :
      LedgerEffect env canBind now s (clearLock (reopenedObligation s obligation.obligationId))
  | unlocked : LedgerEffect env canBind now s (clearLock s)
  | consumed (obligation : ReviewObligation) (invocation : ReviewInvocationEvidence)
      (hobligation : s.obligation? obligation.obligationId = some obligation)
      (hinvocation : invocation ∈ s.invocations)
      (haccepted : acceptedEvidence s obligation invocation = true) :
      LedgerEffect env canBind now s
        (consumeReviewObligation s obligation.obligationId (some invocation.invocationId) now)

/-- What the incidents of the ledger can do to it. -/
inductive LedgerIncident (now : Timestamp) (s : ReviewAssuranceState) :
    ReviewAssuranceState → Prop where
  | forced (obligationId code : String) (hcode : code ∈ incidentCodes) :
      LedgerIncident now s (blockObligation s obligationId code)
  | liveConcluded (record : ReviewDispatchRecord) (hrecord : record ∈ s.dispatches)
      (hlive : record.dispatchStatus = .authorized) :
      LedgerIncident now s (concludeLiveRelease s record now)
  | captureRejected (lineage : DispatchLineage) (code : String) (hlive : LiveRelease s lineage) :
      LedgerIncident now s
        (updateAttemptStatus
          (abandonReviewDispatch (blockObligation s lineage.obligation.obligationId code)
            lineage.dispatch.hostCallId)
          lineage.attempt.attemptId .rejected now none none)

end GovernedRuntime.Review
