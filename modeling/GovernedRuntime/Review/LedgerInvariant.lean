/-
Every move of the review-assurance ledger keeps it coherent: first what an update of
records in place may change, then the records that moves append.
-/
import GovernedRuntime.Review.LedgerCoherence
import GovernedRuntime.Review.LedgerSteps

namespace GovernedRuntime.Review

open GovernedRuntime.State (Timestamp)

variable {env : LedgerEnvironment} {now : Timestamp} {s t : ReviewAssuranceState}

/-! ### Updates in place -/

/-- An update of the records of a ledger, by what becomes of each. -/
structure RecordUpdate where
  obligation : ReviewObligation → ReviewObligation
  invocation : ReviewInvocationEvidence → ReviewInvocationEvidence
  attempt : ReviewAttempt → ReviewAttempt
  dispatch : ReviewDispatchRecord → ReviewDispatchRecord

def RecordUpdate.apply (update : RecordUpdate) (lock : Option ReviewCapacityLock)
    (s : ReviewAssuranceState) : ReviewAssuranceState :=
  { obligations := s.obligations.map update.obligation
    invocations := s.invocations.map update.invocation
    attempts := s.attempts.map update.attempt
    dispatches := s.dispatches.map update.dispatch
    capacityLock := lock }

/-- What no update of an attempt loses. -/
structure KeepsAttempt (x y : ReviewAttempt) : Prop where
  core : y.core = x.core
  lifecycle : LifecycleCoherent x → LifecycleCoherent y
  stale : x.status = .stale → y.status = .stale
  incoherent : x.incoherentCapture = true → y.incoherentCapture = true

/-- What no update of a release loses. -/
structure KeepsDispatch (x y : ReviewDispatchRecord) : Prop where
  core : { y with dispatchStatus := x.dispatchStatus, completedAt := x.completedAt } = x
  times : DispatchTimes x → DispatchTimes y
  completed : x.dispatchStatus = .completed → y.dispatchStatus = .completed
  unknown : x.dispatchStatus = .outcomeUnknown → y.dispatchStatus = .outcomeUnknown

structure Keeps (update : RecordUpdate) (s : ReviewAssuranceState) : Prop where
  obligation : ∀ x ∈ s.obligations, (update.obligation x).core = x.core
  invocation : ∀ x ∈ s.invocations, (update.invocation x).invocationId = x.invocationId
  attempt : ∀ x ∈ s.attempts, KeepsAttempt x (update.attempt x)
  dispatch : ∀ x ∈ s.dispatches, KeepsDispatch x (update.dispatch x)

/-- What an update without new evidence may make of an attempt. -/
structure AdjustsAttempt (s : ReviewAssuranceState) (x y : ReviewAttempt) : Prop
    extends KeepsAttempt x y where
  bound : y.status = .bound → x.status = .bound
  evidenced : (∃ invocation ∈ s.invocations, invocation.attemptId = x.attemptId) →
    (x.status = .bound ∨ x.status = .rejected) →
    (y.status = .bound ∨ y.status = .rejected) ∧ y.childSessionId = x.childSessionId

/-- A record is kept, or its release concluded without evidence. -/
def AdjustsDispatch (x y : ReviewDispatchRecord) : Prop :=
  y = x ∨ x.dispatchStatus = .authorized ∧ y = { x with dispatchStatus := .outcomeUnknown }

/-- Evidence is kept, or consumed by its obligation. -/
def AdjustsInvocation (x y : ReviewInvocationEvidence) : Prop :=
  y = x ∨ y = { x with consumedByObligationId := some x.obligationId }

/-- What an update may make of an obligation. -/
structure AdjustsObligation (x y : ReviewObligation) : Prop where
  core : y.core = x.core
  linked : y.invocationId = x.invocationId ∨ y.invocationId = none
  fulfilled : y.status = .fulfilled ∨ y.status = .consumed →
    y.invocationId.isSome = true ∧ y.fulfilledAt.isSome = true
  consumed : y.status = .consumed → y.consumedAt.isSome = true

structure Adjusts (update : RecordUpdate) (s : ReviewAssuranceState) : Prop where
  obligation : ∀ x ∈ s.obligations, AdjustsObligation x (update.obligation x)
  invocation : ∀ x ∈ s.invocations, AdjustsInvocation x (update.invocation x)
  attempt : ∀ x ∈ s.attempts, AdjustsAttempt s x (update.attempt x)
  dispatch : ∀ x ∈ s.dispatches, AdjustsDispatch x (update.dispatch x)
  settled : ∀ x ∈ s.obligations, ∀ attempt ∈ s.attempts,
    attempt.obligationId = x.obligationId → (update.attempt attempt).status = .bound →
    SettledStatus (update.obligation x)

/-! ### What is kept of a record -/

theorem KeepsAttempt.same {x y : ReviewAttempt} (h : KeepsAttempt x y) :
    y.attemptId = x.attemptId ∧ y.obligationId = x.obligationId ∧
      y.obligationType = x.obligationType ∧ y.subjectDigest = x.subjectDigest ∧
      y.ordinal = x.ordinal ∧ y.origin = x.origin ∧
      y.repositoryDiscovery = x.repositoryDiscovery ∧
      y.observationCapability = x.observationCapability := by
  have hcore := h.core
  simp only [ReviewAttempt.core, ReviewAttempt.mk.injEq] at hcore
  simp [hcore]

theorem ReviewObligation.same {x y : ReviewObligation} (hcore : y.core = x.core) :
    y.obligationId = x.obligationId ∧ y.obligationType = x.obligationType ∧
      y.subjectDigest = x.subjectDigest ∧ y.repositoryAuthority = x.repositoryAuthority ∧
      y.repositoryRevisionProvenance = x.repositoryRevisionProvenance ∧
      y.maxReviewerAttempts = x.maxReviewerAttempts := by
  simp only [ReviewObligation.core, ReviewObligation.mk.injEq] at hcore
  simp [hcore]

theorem KeepsDispatch.same {x y : ReviewDispatchRecord} (h : KeepsDispatch x y) :
    y.dispatchId = x.dispatchId ∧ y.attemptId = x.attemptId ∧
      y.obligationId = x.obligationId ∧ y.hostCallId = x.hostCallId ∧
      y.canonicalPromptDigest = x.canonicalPromptDigest := by
  have hcore := congrArg (fun record : ReviewDispatchRecord =>
    (record.dispatchId, record.attemptId, record.obligationId, record.hostCallId,
      record.canonicalPromptDigest)) h.core
  simpa using hcore

/-- No update in place completes a release. -/
theorem AdjustsDispatch.completed_iff {x y : ReviewDispatchRecord} (h : AdjustsDispatch x y) :
    y.dispatchStatus = .completed ↔ x.dispatchStatus = .completed := by
  obtain rfl | ⟨hlive, rfl⟩ := h
  · exact Iff.rfl
  · simp [hlive]

theorem AdjustsDispatch.keeps {x y : ReviewDispatchRecord} (h : AdjustsDispatch x y) :
    KeepsDispatch x y := by
  obtain rfl | ⟨hlive, rfl⟩ := h
  · exact ⟨rfl, id, id, id⟩
  · exact ⟨rfl, fun _ => ⟨nofun, nofun⟩, fun h => absurd (hlive.symm.trans h) nofun, fun _ => rfl⟩

theorem AdjustsInvocation.same {x y : ReviewInvocationEvidence} (h : AdjustsInvocation x y) :
    y.invocationId = x.invocationId ∧ y.obligationId = x.obligationId ∧
      y.obligationType = x.obligationType ∧ y.attemptId = x.attemptId ∧
      y.childSessionId = x.childSessionId ∧ y.capture = x.capture := by
  obtain rfl | rfl := h
  · exact ⟨rfl, rfl, rfl, rfl, rfl, rfl⟩
  · exact ⟨rfl, rfl, rfl, rfl, rfl, rfl⟩

theorem AdjustsInvocation.links {x y : ReviewInvocationEvidence} (h : AdjustsInvocation x y)
    (record : ReviewDispatchRecord) :
    dispatchLinksInvocation record y = dispatchLinksInvocation record x := by
  obtain rfl | rfl := h
  · rfl
  · rfl

theorem AdjustsDispatch.links {x y : ReviewDispatchRecord} (h : AdjustsDispatch x y)
    (invocation : ReviewInvocationEvidence) :
    dispatchLinksInvocation y invocation = dispatchLinksInvocation x invocation := by
  obtain rfl | ⟨-, rfl⟩ := h
  · rfl
  · rfl

theorem map_key_congr {α β : Type} {key : α → β} {f : α → α} {items : List α}
    (hsame : ∀ item ∈ items, key (f item) = key item) :
    (items.map f).map key = items.map key := by
  rw [List.map_map]
  exact List.map_congr_left hsame

/-- A map that keeps the obligation of each attempt keeps the length of every line. -/
theorem map_line_length {f : ReviewAttempt → ReviewAttempt} {attempts : List ReviewAttempt}
    (hsame : ∀ x ∈ attempts, (f x).obligationId = x.obligationId) (obligationId : String) :
    ((attempts.map f).filter (·.obligationId == obligationId)).length =
      (attempts.filter (·.obligationId == obligationId)).length := by
  rw [List.filter_map, List.length_map]
  congr 1
  apply List.filter_congr
  intro x hx
  simp [hsame x hx]

section Adjusted

variable {update : RecordUpdate} {lock : Option ReviewCapacityLock}

theorem Keeps.line_length (h : Keeps update s) (obligationId : String) :
    ((update.apply lock s).line obligationId).length = (s.line obligationId).length :=
  map_line_length (fun x hx => (h.attempt x hx).same.2.1) obligationId

theorem Keeps.unknown (h : Keeps update s) {attemptId : String}
    (hunknown : hasUnknownOutcome s attemptId = true) :
    hasUnknownOutcome (update.apply lock s) attemptId = true := by
  obtain ⟨record, hmem, hid, hstatus⟩ := hasUnknownOutcome_iff.1 hunknown
  have hkeeps := h.dispatch record hmem
  exact hasUnknownOutcome_iff.2 ⟨_, List.mem_map_of_mem hmem,
    hkeeps.same.2.1.trans hid, hkeeps.unknown hstatus⟩

theorem Keeps.trigger (h : Keeps update s) {predecessor : ReviewAttempt}
    (hmem : predecessor ∈ s.attempts) {trigger : RearmTrigger}
    (htrigger : TriggerCoherent s predecessor trigger) :
    TriggerCoherent (update.apply lock s) (update.attempt predecessor) trigger := by
  have hkeeps := h.attempt predecessor hmem
  obtain ⟨hstale, hunknown⟩ | ⟨hincoherent, hspent, record, hrecord, hid, hcompleted⟩ := htrigger
  · refine .inl ⟨hkeeps.stale hstale, ?_⟩
    rw [hkeeps.same.1]
    exact h.unknown hunknown
  · have hdispatch := h.dispatch record hrecord
    refine .inr ⟨hkeeps.incoherent hincoherent, hspent, _, List.mem_map_of_mem hrecord, ?_,
      hdispatch.completed hcompleted⟩
    rw [hdispatch.same.2.1, hkeeps.same.1, hid]

theorem Keeps.identity (h : Keeps update s) (hs : IdentityCoherent s) :
    IdentityCoherent (update.apply lock s) where
  obligationIds := by
    rw [RecordUpdate.apply, map_key_congr fun x hx => (ReviewObligation.same (h.obligation x hx)).1]
    exact hs.obligationIds
  invocationIds := by
    rw [RecordUpdate.apply, map_key_congr h.invocation]
    exact hs.invocationIds
  attemptIds := by
    rw [RecordUpdate.apply, map_key_congr fun x hx => (h.attempt x hx).same.1]
    exact hs.attemptIds
  dispatchIds := by
    rw [RecordUpdate.apply, map_key_congr fun x hx => (h.dispatch x hx).same.1]
    exact hs.dispatchIds
  hostCallIds := by
    rw [RecordUpdate.apply, map_key_congr fun x hx => (h.dispatch x hx).same.2.2.2.1]
    exact hs.hostCallIds

theorem Keeps.attemptCoherent (h : Keeps update s) (hs : Coherent s) :
    AttemptCoherent (update.apply lock s) where
  owned := by
    intro y hy
    obtain ⟨x, hx, rfl⟩ := List.mem_map.1 hy
    obtain ⟨obligation, hobligation, howned⟩ := hs.attempt.owned x hx
    obtain ⟨-, hobligationId, htype, hsubject, -, -, hdiscovery, hcapability⟩ :=
      (h.attempt x hx).same
    obtain ⟨hid, htype', hsubject', hauthority, -, -⟩ := ReviewObligation.same (h.obligation _ hobligation)
    refine ⟨_, List.mem_map_of_mem hobligation, ⟨?_, ?_, ?_, ?_, ?_⟩⟩
    · rw [hid, hobligationId]
      exact howned.id
    · rw [htype, htype']
      exact howned.obligationType
    · rw [hsubject, hsubject']
      exact howned.subject
    · rw [hdiscovery, ReviewObligation.hasFrozenRepositoryAuthority, hauthority]
      exact howned.discovery
    · rw [hcapability, ReviewObligation.hasFrozenRepositoryAuthority, hauthority]
      exact howned.capability
  ordinals := by
    intro y hy y' hy' hobligation hordinal
    obtain ⟨x, hx, rfl⟩ := List.mem_map.1 hy
    obtain ⟨x', hx', rfl⟩ := List.mem_map.1 hy'
    obtain ⟨-, hid, -, -, hnumber, -⟩ := (h.attempt x hx).same
    obtain ⟨-, hid', -, -, hnumber', -⟩ := (h.attempt x' hx').same
    rw [hid, hid'] at hobligation
    rw [hnumber, hnumber'] at hordinal
    rw [hs.attempt.ordinals x hx x' hx' hobligation hordinal]
  bounded := by
    intro y hy
    obtain ⟨x, hx, rfl⟩ := List.mem_map.1 hy
    obtain ⟨-, hid, -, -, hnumber, -⟩ := (h.attempt x hx).same
    rw [h.line_length, hid, hnumber]
    exact hs.attempt.bounded x hx
  initialFirst := by
    intro y hy y' hy' hobligation hinitial
    obtain ⟨x, hx, rfl⟩ := List.mem_map.1 hy
    obtain ⟨x', hx', rfl⟩ := List.mem_map.1 hy'
    obtain ⟨-, hid, -, -, hnumber, horigin, -⟩ := (h.attempt x hx).same
    obtain ⟨-, hid', -, -, hnumber', -⟩ := (h.attempt x' hx').same
    rw [hid, hid'] at hobligation
    rw [horigin] at hinitial
    rw [hnumber, hnumber']
    exact hs.attempt.initialFirst x hx x' hx' hobligation hinitial
  lifecycle := by
    intro y hy
    obtain ⟨x, hx, rfl⟩ := List.mem_map.1 hy
    exact (h.attempt x hx).lifecycle (hs.attempt.lifecycle x hx)
  lineage := by
    intro y hy predecessorAttemptId trigger horigin
    obtain ⟨x, hx, rfl⟩ := List.mem_map.1 hy
    obtain ⟨-, hid, -, -, hnumber, horigin', -⟩ := (h.attempt x hx).same
    rw [horigin'] at horigin
    obtain ⟨predecessor, hmem, hpredecessor, howned, hbefore, htrigger⟩ :=
      hs.attempt.lineage x hx _ trigger horigin
    obtain ⟨hpid, hpowner, -, -, hpnumber, -⟩ := (h.attempt predecessor hmem).same
    refine ⟨_, List.mem_map_of_mem hmem, hpid.trans hpredecessor, ?_, ?_, h.trigger hmem htrigger⟩
    · rw [hpowner, hid]
      exact howned
    · rw [hpnumber, hnumber]
      exact hbefore

theorem Keeps.dispatchCoherent (h : Keeps update s) (hs : DispatchCoherent s) :
    DispatchCoherent (update.apply lock s) where
  released := by
    intro y hy
    obtain ⟨x, hx, rfl⟩ := List.mem_map.1 hy
    obtain ⟨attempt, hattempt, hid, howned⟩ := hs.released x hx
    obtain ⟨-, hattemptId, hobligationId, -⟩ := (h.dispatch x hx).same
    obtain ⟨hsame, hsame', -⟩ := (h.attempt attempt hattempt).same
    refine ⟨_, List.mem_map_of_mem hattempt, ?_, ?_⟩
    · rw [hsame, hattemptId]
      exact hid
    · rw [hsame', hobligationId]
      exact howned
  active := by
    intro y hy y' hy' hactive hactive' hattempt
    obtain ⟨x, hx, rfl⟩ := List.mem_map.1 hy
    obtain ⟨x', hx', rfl⟩ := List.mem_map.1 hy'
    have hx_active : x.dispatchStatus ≠ .outcomeUnknown :=
      fun hunknown => hactive ((h.dispatch x hx).unknown hunknown)
    have hx'_active : x'.dispatchStatus ≠ .outcomeUnknown :=
      fun hunknown => hactive' ((h.dispatch x' hx').unknown hunknown)
    rw [(h.dispatch x hx).same.2.1, (h.dispatch x' hx').same.2.1] at hattempt
    rw [hs.active x hx x' hx' hx_active hx'_active hattempt]
  times := by
    intro y hy
    obtain ⟨x, hx, rfl⟩ := List.mem_map.1 hy
    exact (h.dispatch x hx).times (hs.times x hx)

theorem Adjusts.keeps (h : Adjusts update s) : Keeps update s where
  obligation x hx := (h.obligation x hx).core
  invocation x hx := (h.invocation x hx).same.1
  attempt x hx := (h.attempt x hx).toKeepsAttempt
  dispatch x hx := (h.dispatch x hx).keeps

theorem Adjusts.evidenceCoherent (h : Adjusts update s) (hs : EvidenceCoherent s) :
    EvidenceCoherent (update.apply lock s) where
  capture := by
    intro y hy
    obtain ⟨x, hx, rfl⟩ := List.mem_map.1 hy
    obtain ⟨-, hobligation, -, hattempt, hchild, hcapture⟩ := (h.invocation x hx).same
    rw [hcapture, hchild, hobligation, hattempt]
    exact hs.capture x hx
  bound := by
    intro y hy
    obtain ⟨x, hx, rfl⟩ := List.mem_map.1 hy
    obtain ⟨attempt, hattempt, hid, howned, htype, hstatus, hchild⟩ := hs.bound x hx
    obtain ⟨-, hobligation, htype', hattemptId, hchild', -⟩ := (h.invocation x hx).same
    have hadjusts := h.attempt attempt hattempt
    obtain ⟨hsame, hsame', hsame'', -⟩ := hadjusts.same
    obtain ⟨hkept, hkeptChild⟩ := hadjusts.evidenced ⟨x, hx, hid.symm⟩ hstatus
    refine ⟨_, List.mem_map_of_mem hattempt, ?_, ?_, ?_, hkept, ?_⟩
    · rw [hsame, hattemptId, hid]
    · rw [hsame', hobligation, howned]
    · rw [hsame'', htype', htype]
    · rw [hkeptChild, hchild', hchild]
  dispatched := by
    intro y hy
    obtain ⟨x, hx, rfl⟩ := List.mem_map.1 hy
    obtain ⟨record, hrecord, hlinks, hcompleted⟩ := hs.dispatched x hx
    have hadjusts := h.dispatch record hrecord
    refine ⟨_, List.mem_map_of_mem hrecord, ?_, hadjusts.completed_iff.2 hcompleted⟩
    rw [(h.invocation x hx).links, hadjusts.links]
    exact hlinks
  evidenced := by
    intro y hy hcompleted
    obtain ⟨x, hx, rfl⟩ := List.mem_map.1 hy
    have hadjusts := h.dispatch x hx
    obtain ⟨invocation, hinvocation, hlinks⟩ :=
      hs.evidenced x hx (hadjusts.completed_iff.1 hcompleted)
    refine ⟨_, List.mem_map_of_mem hinvocation, ?_⟩
    rw [(h.invocation _ hinvocation).links, hadjusts.links]
    exact hlinks
  single := by
    rw [RecordUpdate.apply, map_key_congr fun x hx => (h.invocation x hx).same.2.2.2.1]
    exact hs.single
  consumer := by
    intro y hy obligationId hconsumer
    obtain ⟨x, hx, rfl⟩ := List.mem_map.1 hy
    obtain hkept | hconsumed := h.invocation x hx
    · rw [hkept] at hconsumer ⊢
      exact hs.consumer x hx obligationId hconsumer
    · rw [hconsumed] at hconsumer ⊢
      exact (Option.some.inj hconsumer).symm

theorem Adjusts.obligationCoherent (h : Adjusts update s) (hs : ObligationCoherent s) :
    ObligationCoherent (update.apply lock s) where
  provenance := by
    intro y hy
    obtain ⟨x, hx, rfl⟩ := List.mem_map.1 hy
    obtain ⟨-, -, -, hauthority, hprovenance, -⟩ := (ReviewObligation.same (h.obligation x hx).core)
    rw [ProvenanceCoherent, hauthority, hprovenance]
    exact hs.provenance x hx
  linked := by
    intro y hy invocationId hinvocationId
    obtain ⟨x, hx, rfl⟩ := List.mem_map.1 hy
    have hadjusts := h.obligation x hx
    obtain hkept | hnone := hadjusts.linked
    · rw [hkept] at hinvocationId
      obtain ⟨invocation, hmem, hid, howned, htype⟩ := hs.linked x hx _ hinvocationId
      obtain ⟨hsame, hsame', hsame'', -⟩ := (h.invocation _ hmem).same
      refine ⟨_, List.mem_map_of_mem hmem, hsame.trans hid, ?_, ?_⟩
      · rw [hsame', (ReviewObligation.same hadjusts.core).1]
        exact howned
      · rw [hsame'', (ReviewObligation.same hadjusts.core).2.1]
        exact htype
    · rw [hnone] at hinvocationId
      cases hinvocationId
  fulfilled := by
    intro y hy
    obtain ⟨x, hx, rfl⟩ := List.mem_map.1 hy
    exact (h.obligation x hx).fulfilled
  consumed := by
    intro y hy
    obtain ⟨x, hx, rfl⟩ := List.mem_map.1 hy
    exact (h.obligation x hx).consumed
  boundSettled := by
    intro y hy attempt hattempt howned hbound
    obtain ⟨x, hx, rfl⟩ := List.mem_map.1 hy
    obtain ⟨item, hitem, rfl⟩ := List.mem_map.1 hattempt
    rw [(h.attempt item hitem).same.2.1, (ReviewObligation.same (h.obligation x hx).core).1] at howned
    exact h.settled x hx item hitem howned hbound
  boundOnce := by
    intro y hy y' hy' howned hbound hbound'
    obtain ⟨x, hx, rfl⟩ := List.mem_map.1 hy
    obtain ⟨x', hx', rfl⟩ := List.mem_map.1 hy'
    rw [(h.attempt x hx).same.2.1, (h.attempt x' hx').same.2.1] at howned
    rw [hs.boundOnce x hx x' hx' howned ((h.attempt x hx).bound hbound)
      ((h.attempt x' hx').bound hbound')]

theorem Adjusts.coherent (h : Adjusts update s) (hs : Coherent s)
    (hlock : LockCoherent (update.apply lock s)) : Coherent (update.apply lock s) where
  identity := h.keeps.identity hs.identity
  attempt := h.keeps.attemptCoherent hs
  dispatch := h.keeps.dispatchCoherent hs.dispatch
  evidence := h.evidenceCoherent hs.evidence
  obligation := h.obligationCoherent hs.obligation
  lock := hlock

/-- A kept lock stands as long as blocked obligations stay blocked. -/
theorem Adjusts.lockCoherent (h : Adjusts update s) (hs : LockCoherent s)
    (hblocked : ∀ lock, s.capacityLock = some lock → ∀ x ∈ s.obligations,
      x.obligationId = lock.obligationId → x.status = .blocked →
      (update.obligation x).status = .blocked) :
    LockCoherent (update.apply s.capacityLock s) where
  blocked := by
    intro lock hlock
    obtain ⟨x, hx, hid, hstatus⟩ := hs.blocked lock hlock
    exact ⟨_, List.mem_map_of_mem hx, (ReviewObligation.same (h.obligation x hx).core).1.trans hid,
      hblocked lock hlock x hx hid hstatus⟩
  unbound := by
    intro lock hlock hcode y hy howned hbound
    obtain ⟨x, hx, rfl⟩ := List.mem_map.1 hy
    rw [(h.attempt x hx).same.2.1] at howned
    exact hs.unbound lock hlock hcode x hx howned ((h.attempt x hx).bound hbound)

end Adjusted

/-! ### Records that stay or change in place -/

theorem AdjustsAttempt.refl (s : ReviewAssuranceState) (x : ReviewAttempt) :
    AdjustsAttempt s x x :=
  ⟨⟨rfl, id, id, id⟩, id, fun _ hstatus => ⟨hstatus, rfl⟩⟩

theorem AdjustsObligation.refl (hs : ObligationCoherent s) {x : ReviewObligation}
    (hx : x ∈ s.obligations) : AdjustsObligation x x :=
  ⟨rfl, .inl rfl, hs.fulfilled x hx, hs.consumed x hx⟩

/-- An attempt that gave no evidence yet is concluded, or stays as open as it was. -/
theorem AdjustsAttempt.of_open {x y : ReviewAttempt} (hcore : y.core = x.core)
    (hlifecycle : LifecycleCoherent x → LifecycleCoherent y)
    (hopen : x.status = .created ∨ x.status = .stale) (hbound : y.status ≠ .bound)
    (hstale : x.status = .stale → y.status = .stale) : AdjustsAttempt s x y where
  core := hcore
  lifecycle := hlifecycle
  bound h := absurd h hbound
  stale := hstale
  incoherent h := by
    simp only [ReviewAttempt.incoherentCapture, Bool.and_eq_true, beq_iff_eq] at h
    rw [h.1] at hopen
    obtain h | h := hopen <;> cases h
  evidenced _ h := by
    obtain hopen | hopen := hopen <;> rw [hopen] at h <;> obtain h | h := h <;> cases h

theorem lifecycle_stale (x : ReviewAttempt) (childSessionId : Option String)
    (hx : x.status ≠ .rejected) (h : LifecycleCoherent x) :
    LifecycleCoherent
      { x with status := .stale, completedAt := some now, childSessionId := childSessionId } :=
  ⟨nofun, fun _ => rfl, fun _ => h.unrejected hx⟩

theorem adjusts_abandoned (hostCallId : String) (x : ReviewDispatchRecord) :
    AdjustsDispatch x (abandonedRecord hostCallId x) := by
  unfold abandonedRecord
  split
  · next hlive => exact .inr ⟨hlive.2, rfl⟩
  · exact .inl rfl

/-- Nothing changes. -/
def keepRecords : RecordUpdate := ⟨id, id, id, id⟩

theorem keepRecords_apply (lock : Option ReviewCapacityLock) :
    keepRecords.apply lock s = { s with capacityLock := lock } := by
  simp [keepRecords, RecordUpdate.apply]

/-- Obligations that stay as they are stay settled. -/
theorem settled_of_kept (hs : Coherent s) {attempt : ReviewAttempt → ReviewAttempt}
    (hattempts : ∀ x ∈ s.attempts, AdjustsAttempt s x (attempt x)) :
    ∀ x ∈ s.obligations, ∀ item ∈ s.attempts, item.obligationId = x.obligationId →
      (attempt item).status = .bound → SettledStatus x :=
  fun x hx item hitem howned hbound =>
    hs.obligation.boundSettled x hx item hitem howned ((hattempts item hitem).bound hbound)

/-- An update of attempts and releases alone. -/
theorem Coherent.attemptsAdjusted (hs : Coherent s) (attempt : ReviewAttempt → ReviewAttempt)
    (dispatch : ReviewDispatchRecord → ReviewDispatchRecord)
    (hattempts : ∀ x ∈ s.attempts, AdjustsAttempt s x (attempt x))
    (hdispatches : ∀ x ∈ s.dispatches, AdjustsDispatch x (dispatch x)) :
    Coherent { s with
      attempts := s.attempts.map attempt
      dispatches := s.dispatches.map dispatch } := by
  let update : RecordUpdate := ⟨id, id, attempt, dispatch⟩
  have hadjusts : Adjusts update s :=
    ⟨fun _ hx => .refl hs.obligation hx, fun _ _ => .inl rfl, hattempts, hdispatches,
      settled_of_kept hs hattempts⟩
  have hcoherent := hadjusts.coherent hs
    (hadjusts.lockCoherent hs.lock fun _ _ _ _ _ hblocked => hblocked)
  simpa [update, RecordUpdate.apply] using hcoherent

/-- An update of one obligation, with the lock before it. -/
theorem Coherent.obligationAdjusted (hs : Coherent s) (obligationId : String)
    (transform : ReviewObligation → ReviewObligation) (lock : Option ReviewCapacityLock)
    (hobligation : ∀ x ∈ s.obligations, x.obligationId = obligationId →
      AdjustsObligation x (transform x))
    (hsettled : ∀ x ∈ s.obligations, x.obligationId = obligationId →
      ∀ attempt ∈ s.attempts, attempt.obligationId = x.obligationId → attempt.status = .bound →
      SettledStatus (transform x))
    (hlock : lock = none ∨ lock = s.capacityLock ∧ ∀ x ∈ s.obligations,
      x.obligationId = obligationId → x.status = .blocked → (transform x).status = .blocked) :
    Coherent { updateObligation s obligationId transform with capacityLock := lock } := by
  let update : RecordUpdate :=
    { keepRecords with
      obligation := fun item =>
        if item.obligationId = obligationId then transform item else item }
  have hadjusts : Adjusts update s := by
    refine ⟨fun x hx => ?_, fun _ _ => .inl rfl, fun x _ => .refl s x, fun _ _ => .inl rfl,
      fun x hx attempt hattempt howned hbound => ?_⟩
    · dsimp only [update]
      split
      · next hid => exact hobligation x hx hid
      · exact .refl hs.obligation hx
    · dsimp only [update]
      split
      · next hid => exact hsettled x hx hid attempt hattempt howned hbound
      · exact hs.obligation.boundSettled x hx attempt hattempt howned hbound
  have hlocked : LockCoherent (update.apply lock s) := by
    obtain rfl | ⟨rfl, hblocked⟩ := hlock
    · exact ⟨nofun, nofun⟩
    · refine hadjusts.lockCoherent hs.lock fun _ _ x hx _ hstatus => ?_
      dsimp only [update]
      split
      · next hid => exact hblocked x hx hid hstatus
      · exact hstatus
  have hcoherent := hadjusts.coherent hs hlocked
  simpa [update, keepRecords, RecordUpdate.apply, updateObligation] using hcoherent

/-! ### Effects in place -/

section InPlace

theorem coherent_childBound (hs : Coherent s) {lineage : DispatchLineage}
    (hlive : LiveRelease s lineage) (childSessionId : String) :
    Coherent (updateAttemptStatus s lineage.attempt.attemptId .created now (some childSessionId)
      none) := by
  have hcoherent := hs.attemptsAdjusted
    (fun x => if x.attemptId = lineage.attempt.attemptId then
      x.withStatus .created now (some childSessionId) none else x) id
    (fun x hx => by
      split
      · next hid =>
          obtain rfl := hs.attempt_eq hx hlive.attempt hid
          refine .of_open rfl (fun h => ?_) (.inl hlive.created)
            (by intro hended; cases hended)
            (fun hstale => by cases hlive.created.symm.trans hstale)
          refine ⟨fun _ => ?_, fun h => absurd rfl h, fun _ => ?_⟩
          · simpa [ReviewAttempt.withStatus] using h.unfinished hlive.created
          · simpa [ReviewAttempt.withStatus] using h.unrejected (by rw [hlive.created]; intro heq; cases heq)
      · exact .refl s x)
    (fun _ _ => .inl rfl)
  simpa [updateAttemptStatus] using hcoherent

/-- The attempt of an open release is concluded with it. -/
theorem coherent_concluded (hs : Coherent s) {hostCallId attemptId : String}
    {attempt : ReviewAttempt} (hattempt : s.attempt? attemptId = some attempt)
    (hstatus : attempt.status = .created ∨ attempt.status = .stale)
    (childSessionId : Option String) :
    Coherent (concludeRelease s hostCallId attemptId childSessionId now) := by
  rw [concludeRelease_eq]
  refine hs.attemptsAdjusted _ _ (fun x hx => ?_) (fun x _ => adjusts_abandoned hostCallId x)
  unfold concludedAttempt
  split
  · next hid =>
      obtain ⟨hmem, hid'⟩ := ReviewAssuranceState.mem_of_attempt? hattempt
      obtain rfl := hs.attempt_eq hx hmem (hid.trans hid'.symm)
      have hnot : x.status ≠ .rejected := by
        obtain h | h := hstatus <;> rw [h] <;> nofun
      exact .of_open rfl (lifecycle_stale x _ hnot) hstatus nofun fun _ => rfl
  · exact .refl s x

/-- A block of an obligation that no evidence settles otherwise. -/
theorem coherent_blocked (hs : Coherent s) (obligationId code : String)
    (hsettled : ∀ x ∈ s.obligations, x.obligationId = obligationId →
      ∀ attempt ∈ s.attempts, attempt.obligationId = x.obligationId → attempt.status = .bound →
      code ∉ reopenableCodes) :
    Coherent (blockObligation s obligationId code) :=
  hs.obligationAdjusted obligationId _ s.capacityLock
    (fun _ _ _ => ⟨rfl, .inl rfl, nofun, nofun⟩)
    (fun x hx hid attempt hattempt howned hbound =>
      .inr (.inr ⟨rfl, code, rfl, hsettled x hx hid attempt hattempt howned hbound⟩))
    (.inr ⟨rfl, fun _ _ _ _ => rfl⟩)

theorem coherent_closed (hs : Coherent s) {obligation : ReviewObligation} {code : String}
    (hobligation : s.obligation? obligation.obligationId = some obligation)
    (hstatus : obligation.status = .pending ∨
      obligation.status = .blocked ∧ obligation.blockedCode.getD code = code) :
    Coherent (blockObligation s obligation.obligationId code) := by
  refine coherent_blocked hs _ _ fun x hx hid attempt hattempt howned hbound => ?_
  obtain rfl := hs.obligation_eq hx (ReviewAssuranceState.mem_of_obligation? hobligation).1 hid
  have hsettled := hs.obligation.boundSettled x hx attempt hattempt howned hbound
  obtain hpending | ⟨hblocked, hcode⟩ := hstatus
  · rw [SettledStatus, hpending] at hsettled
    obtain h | h | ⟨h, -⟩ := hsettled <;> cases h
  · rw [SettledStatus, hblocked] at hsettled
    obtain h | h | ⟨-, recorded, hrecorded, hnot⟩ := hsettled
    · cases h
    · cases h
    · rw [hrecorded, Option.getD_some] at hcode
      exact hcode ▸ hnot

theorem coherent_forced (hs : Coherent s) (obligationId : String) {code : String}
    (hcode : code ∈ incidentCodes) : Coherent (blockObligation s obligationId code) := by
  have hapart : ∀ code ∈ incidentCodes, code ∉ reopenableCodes := by decide
  exact coherent_blocked hs _ _ fun _ _ _ _ _ _ _ => hapart code hcode

/-- The lock alone changes. -/
theorem Coherent.withLock (hs : Coherent s) {lock : Option ReviewCapacityLock}
    (hlock : LockCoherent { s with capacityLock := lock }) :
    Coherent { s with capacityLock := lock } := by
  have hadjusts : Adjusts keepRecords s :=
    ⟨fun _ hx => .refl hs.obligation hx, fun _ _ => .inl rfl, fun x _ => .refl s x,
      fun _ _ => .inl rfl, settled_of_kept hs fun x _ => .refl s x⟩
  rw [← keepRecords_apply] at hlock ⊢
  exact hadjusts.coherent hs hlock

theorem coherent_unlocked (hs : Coherent s) : Coherent (clearLock s) :=
  hs.withLock ⟨nofun, nofun⟩

theorem coherent_locked (hs : Coherent s) {obligation : ReviewObligation} {code : String}
    (hobligation : s.obligation? obligation.obligationId = some obligation)
    (hblocked : obligation.status = .blocked) (hcode : obligation.blockedCode = some code) :
    Coherent { s with capacityLock := some ⟨code, obligation.obligationId, now⟩ } := by
  have hmem := (ReviewAssuranceState.mem_of_obligation? hobligation).1
  refine hs.withLock ⟨fun lock hlock => ?_,
    fun lock hlock hreopenable attempt hattempt howned hbound => ?_⟩
  · obtain rfl := Option.some_inj.1 hlock
    exact ⟨obligation, hmem, rfl, hblocked⟩
  · obtain rfl := Option.some_inj.1 hlock
    have hsettled := hs.obligation.boundSettled obligation hmem attempt hattempt howned hbound
    rw [SettledStatus, hblocked] at hsettled
    obtain h | h | ⟨-, recorded, hrecorded, hnot⟩ := hsettled
    · cases h
    · cases h
    · rw [hcode] at hrecorded
      obtain rfl := Option.some_inj.1 hrecorded
      exact hnot hreopenable

/-- A proven reopening: nothing is bound for the obligation behind its lock. -/
theorem coherent_reopened (hs : Coherent s) {obligation : ReviewObligation}
    (hreopenable : Reopenable s obligation) :
    Coherent (clearLock (reopenedObligation s obligation.obligationId)) := by
  obtain ⟨lock, hlock, hid, hcode⟩ := hreopenable.lock
  have hcodes : lock.code ∈ reopenableCodes := by
    obtain h | h := hcode <;> rw [h] <;> decide
  have hmem := (ReviewAssuranceState.mem_of_obligation? hreopenable.found).1
  refine hs.obligationAdjusted obligation.obligationId _ none
    (fun x hx hsame => ⟨rfl, .inl rfl, ?_, ?_⟩)
    (fun x hx hsame attempt hattempt howned hbound => ?_) (.inl rfl)
  · rintro (h | h) <;> cases h
  · exact nofun
  · exact absurd hbound (hs.lock.unbound lock hlock hcodes attempt hattempt
      (howned.trans (hsame.trans hid.symm)))

theorem acceptedEvidence_iff {obligation : ReviewObligation}
    {invocation : ReviewInvocationEvidence} (h : acceptedEvidence s obligation invocation = true) :
    obligation.status ≠ .blocked ∧ obligation.status ≠ .consumed ∧
      invocation.obligationId = obligation.obligationId ∧
      ∃ attempt ∈ s.attempts, attempt.obligationId = obligation.obligationId ∧
        attempt.status = .bound := by
  simp only [acceptedEvidence, hasExactBoundAttempt, Bool.and_eq_true, bne_iff_ne, beq_iff_eq,
    Option.any_eq_true] at h
  obtain ⟨⟨⟨⟨⟨hblocked, hconsumed⟩, howner⟩, -⟩, -⟩, -, attempt, hattempt, ⟨⟨⟨hbound, howned⟩, -⟩,
    -⟩, -⟩ := h
  exact ⟨hblocked, hconsumed, howner, attempt,
    (ReviewAssuranceState.mem_of_attempt? hattempt).1, howned, hbound⟩

/-- Accepted evidence has fulfilled its obligation. -/
theorem Coherent.accepted_fulfilled (hs : Coherent s) {obligation : ReviewObligation}
    (hmem : obligation ∈ s.obligations) {invocation : ReviewInvocationEvidence}
    (haccepted : acceptedEvidence s obligation invocation = true) :
    obligation.status = .fulfilled := by
  obtain ⟨hblocked, hconsumed, -, attempt, hattempt, howned, hbound⟩ :=
    acceptedEvidence_iff haccepted
  obtain h | h | ⟨h, -⟩ :=
    hs.obligation.boundSettled obligation hmem attempt hattempt howned hbound
  · exact h
  · exact absurd h hconsumed
  · exact absurd h hblocked

theorem coherent_consumed (hs : Coherent s) {obligation : ReviewObligation}
    {invocation : ReviewInvocationEvidence}
    (hobligation : s.obligation? obligation.obligationId = some obligation)
    (hinvocation : invocation ∈ s.invocations)
    (haccepted : acceptedEvidence s obligation invocation = true) :
    Coherent (consumeReviewObligation s obligation.obligationId (some invocation.invocationId)
      now) := by
  have hmem := (ReviewAssuranceState.mem_of_obligation? hobligation).1
  have hfulfilled := hs.accepted_fulfilled hmem haccepted
  have howner := (acceptedEvidence_iff haccepted).2.2.1
  let update : RecordUpdate :=
    { keepRecords with
      obligation := fun item =>
        if item.obligationId = obligation.obligationId then
          { item with status := .consumed, consumedAt := some now }
        else item
      invocation := fun item =>
        if some invocation.invocationId = some item.invocationId then
          { item with consumedByObligationId := some obligation.obligationId }
        else item }
  have hadjusts : Adjusts update s := by
    refine ⟨fun x hx => ?_, fun x hx => ?_, fun x _ => .refl s x, fun _ _ => .inl rfl,
      fun x hx attempt hattempt howned hbound => ?_⟩
    · dsimp only [update]
      split
      · next hid =>
          obtain rfl := hs.obligation_eq hx hmem hid
          exact ⟨rfl, .inl rfl, fun _ => hs.obligation.fulfilled x hx (.inl hfulfilled),
            fun _ => rfl⟩
      · exact .refl hs.obligation hx
    · dsimp only [update]
      split
      · next hid =>
          obtain rfl := eq_of_nodup_map hs.identity.invocationIds hinvocation hx
            (Option.some_inj.1 hid)
          rw [← howner]
          exact .inr rfl
      · exact .inl rfl
    · dsimp only [update]
      split
      · exact .inr (.inl rfl)
      · exact hs.obligation.boundSettled x hx attempt hattempt howned hbound
  have hlock : LockCoherent (update.apply s.capacityLock s) := by
    refine hadjusts.lockCoherent hs.lock fun _ _ x hx _ hblocked => ?_
    dsimp only [update]
    split
    · next hid =>
        obtain rfl := hs.obligation_eq hx hmem hid
        rw [hfulfilled] at hblocked
        cases hblocked
    · exact hblocked
  have hcoherent := hadjusts.coherent hs hlock
  simpa [update, keepRecords, RecordUpdate.apply, consumeReviewObligation] using hcoherent

/-- A live release that is concluded has given no evidence. -/
theorem coherent_liveConcluded (hs : Coherent s) {record : ReviewDispatchRecord}
    (hrecord : record ∈ s.dispatches) (hlive : record.dispatchStatus = .authorized) :
    Coherent (concludeLiveRelease s record now) := by
  have habandoned : Coherent (abandonReviewDispatch s record.hostCallId) := by
    have hcoherent := hs.attemptsAdjusted id (abandonedRecord record.hostCallId)
      (fun x _ => .refl s x) fun x _ => adjusts_abandoned record.hostCallId x
    rw [List.map_id] at hcoherent
    exact hcoherent
  unfold concludeLiveRelease
  dsimp only
  split
  · next hopen =>
      obtain ⟨attempt, hattempt, hstatus⟩ := (Option.any_eq_true _ _).1 hopen
      obtain ⟨hmem, hid⟩ := ReviewAssuranceState.mem_of_attempt? hattempt
      have hnone : ∀ invocation ∈ s.invocations, invocation.attemptId ≠ record.attemptId :=
        fun invocation => hs.no_evidence_of_authorized hrecord hlive
      have hcoherent := habandoned.attemptsAdjusted
        (fun x => if x.attemptId = record.attemptId then
          x.withStatus .stale now none none else x) id
        (fun x hx => by
          split
          · next hsame =>
              obtain rfl := habandoned.attempt_eq hx hmem (hsame.trans hid.symm)
              simp only [Bool.or_eq_true, beq_iff_eq] at hstatus
              have hnot : x.status ≠ .rejected := by
                obtain h | h := hstatus <;> rw [h] <;> intro heq <;> cases heq
              have hstaled : x.withStatus .stale now none none =
                  { x with status := .stale, completedAt := some now } := by
                simp [ReviewAttempt.withStatus, isPresent]
              rw [hstaled]
              refine ⟨⟨rfl, lifecycle_stale x _ hnot, fun _ => rfl, fun h => ?_⟩, (by intro hended; cases hended), ?_⟩
              · simp only [ReviewAttempt.incoherentCapture, Bool.and_eq_true, beq_iff_eq] at h
                exact absurd h.1 hnot
              · rintro ⟨invocation, hinvocation, hattemptId⟩
                exact absurd (hattemptId.trans hid) (hnone invocation hinvocation)
          · exact .refl _ x)
        (fun _ _ => .inl rfl)
      simpa [updateAttemptStatus] using hcoherent
  · exact habandoned

/-- A contaminated capture: its attempt is rejected before any evidence of it. -/
theorem coherent_captureRejected (hs : Coherent s) {lineage : DispatchLineage}
    (hlive : LiveRelease s lineage) (code : String) :
    Coherent (updateAttemptStatus
      (abandonReviewDispatch (blockObligation s lineage.obligation.obligationId code)
        lineage.dispatch.hostCallId)
      lineage.attempt.attemptId .rejected now none none) := by
  have hblocked : Coherent (blockObligation s lineage.obligation.obligationId code) := by
    refine coherent_blocked hs _ _ fun x hx hid attempt hattempt howned hbound => ?_
    have hpending : x.status = .pending := by
      rw [hs.obligation_eq hx hlive.obligation hid]
      exact hlive.pending
    have hsettled := hs.obligation.boundSettled x hx attempt hattempt howned hbound
    rw [SettledStatus, hpending] at hsettled
    obtain h | h | ⟨h, -⟩ := hsettled <;> cases h
  have hcoherent := hblocked.attemptsAdjusted
    (fun x => if x.attemptId = lineage.attempt.attemptId then
      x.withStatus .rejected now none none else x) (abandonedRecord lineage.dispatch.hostCallId)
    (fun x hx => by
      split
      · next hid =>
          have hcreated : x.status = .created := by
            rw [hs.attempt_eq hx hlive.attempt hid]
            exact hlive.created
          exact .of_open rfl (fun _ => ⟨nofun, fun _ => rfl, fun h => absurd rfl h⟩)
            (.inl hcreated) nofun fun hstale => absurd (hcreated.symm.trans hstale) nofun
      · exact .refl _ x)
    fun x _ => adjusts_abandoned _ x
  exact hcoherent

end InPlace

end GovernedRuntime.Review
