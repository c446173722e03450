/-
Every step of the review-assurance ledger is a chain of its effects and incidents.
-/
import GovernedRuntime.Review.LedgerEffects
import Mathlib.Logic.Relation

namespace GovernedRuntime.Review

open GovernedRuntime.State (ReviewObligationType Timestamp)
open Relation (ReflTransGen)

variable {env : LedgerEnvironment} {now : Timestamp} {s t u : ReviewAssuranceState}

/-! ### Release -/

theorem assertReleaseAvailable_ok {attemptId : String}
    (h : assertReleaseAvailable s attemptId = .ok ()) :
    (∀ record ∈ s.dispatches, record.dispatchStatus ≠ .authorized) ∧
      (∀ record ∈ s.dispatches, record.dispatchStatus = .outcomeUnknown →
        s.superseded record.attemptId = true) ∧
      s.capacityLock = none ∧ ∀ record ∈ s.dispatches, record.attemptId ≠ attemptId := by
  unfold assertReleaseAvailable at h
  split at h
  · cases h
  · next hquarantine =>
      split at h
      · cases h
      · next hreleased =>
          simp only [List.any_eq_true, Bool.or_eq_true, beq_iff_eq, Bool.and_eq_true,
            Bool.not_eq_eq_eq_not, Bool.not_true, not_exists, not_and, not_or] at hquarantine
          simp only [hasReleasedDispatch, Bool.or_eq_true, not_or, Option.isSome_iff_ne_none,
            ne_eq, not_not, List.any_eq_true, beq_iff_eq, not_exists, not_and] at hreleased
          refine ⟨fun record hmem => (hquarantine record hmem).1, ?_, hreleased.1, hreleased.2⟩
          intro record hmem hunknown
          simpa using (hquarantine record hmem).2 hunknown

theorem pendingAttempt_ok {pendingReviews : List PendingReview} {obligation : ReviewObligation}
    {attempt : ReviewAttempt}
    (h : pendingAttempt s env pendingReviews = .ok (obligation, attempt)) :
    obligation.status = .pending ∧
      findBindableAttempt s obligation.obligationId = some attempt ∧
      assertReleaseAvailable s attempt.attemptId = .ok () := by
  unfold pendingAttempt at h
  split at h
  · split at h
    · cases h
    · split at h
      · cases h
      · next current hbindable =>
          split at h
          · next hcurrent =>
              cases havailable : assertReleaseAvailable s current.attemptId with
              | error e =>
                  rw [havailable] at h
                  cases h
              | ok =>
                  rw [havailable] at h
                  cases h
                  exact ⟨hcurrent.1, hbindable, havailable⟩
          · cases h
  · cases h

theorem dispatchAuthorizable_iff {input : AuthorizedReviewDispatchInput}
    (h : dispatchAuthorizable s input = true) :
    (∃ obligation ∈ s.obligations, obligation.obligationId = input.obligationId ∧
        obligation.status = .pending) ∧
      ∃ attempt ∈ s.attempts, attempt.attemptId = input.attemptId ∧
        attempt.obligationId = input.obligationId ∧ attempt.status = .created ∧
        attempt.childSessionId = none := by
  simp only [dispatchAuthorizable, Bool.and_eq_true, Option.any_eq_true, beq_iff_eq,
    Option.isNone_iff_eq_none] at h
  obtain ⟨-, obligation, hobligation, hpending, attempt, hattempt, ⟨howned, hcreated⟩, hchild⟩ := h
  obtain ⟨hmem, hid⟩ := ReviewAssuranceState.mem_of_obligation? hobligation
  obtain ⟨hmem', hid'⟩ := ReviewAssuranceState.mem_of_attempt? hattempt
  exact ⟨⟨obligation, hmem, hid, hpending⟩, attempt, hmem', hid', howned.trans hid, hcreated,
    hchild⟩

/-- While no release is live, a call is only authorized as a new one. -/
theorem persistAuthorizedReviewDispatch_ok {input : AuthorizedReviewDispatchInput}
    (hquiet : ∀ record ∈ s.dispatches, record.dispatchStatus ≠ .authorized)
    (h : persistAuthorizedReviewDispatch s input = .ok t) :
    dispatchAuthorizable s input = true ∧
      (∀ record ∈ s.dispatches, record.hostCallId ≠ input.hostCallId) ∧
      t = appendReviewDispatch s (authorizedRecord input) := by
  unfold persistAuthorizedReviewDispatch at h
  split at h
  · cases h
  · next hauthorizable =>
      split at h
      · cases h
      · next hretry =>
          unfold resolveExistingDispatchForCall at hretry
          split at hretry
          · cases hretry
          · next existing hexisting =>
              have hmem : existing ∈ s.dispatches.filter (·.hostCallId == input.hostCallId) := by
                rw [hexisting]
                exact List.mem_singleton_self _
              split at hretry
              · next hexact =>
                  exact absurd hexact.2.2.2 (hquiet existing (List.mem_of_mem_filter hmem))
              · cases hretry
          · cases hretry
      · next happend =>
          split at h
          · cases h
          · refine ⟨by simpa using hauthorizable, ?_, (Except.ok.inj h).symm⟩
            unfold resolveExistingDispatchForCall at happend
            split at happend
            · next hnone =>
                simpa using List.filter_eq_nil_iff.1 hnone
            · split at happend <;> cases happend
            · cases happend

theorem authorizeNativeReviewDispatch_ok {input : AuthorizedReviewDispatchInput}
    (h : authorizeNativeReviewDispatch s env input = .ok t) :
    Releasable s input ∧ t = appendReviewDispatch s (authorizedRecord input) := by
  unfold authorizeNativeReviewDispatch at h
  split at h
  · cases h
  · cases hpending : pendingAttempt s env input.pendingReviews with
    | error e =>
        rw [hpending] at h
        cases h
    | ok current =>
        obtain ⟨obligation, attempt⟩ := current
        rw [hpending] at h
        simp only [bind, Except.bind] at h
        split at h
        · next hsame =>
            obtain ⟨-, -, havailable⟩ := pendingAttempt_ok hpending
            obtain ⟨hquiet, hsucceeded, hunlocked, hunreleased⟩ :=
              assertReleaseAvailable_ok havailable
            obtain ⟨hauthorizable, hcall, ht⟩ := persistAuthorizedReviewDispatch_ok hquiet h
            obtain ⟨hobligation, hattempt⟩ := dispatchAuthorizable_iff hauthorizable
            exact ⟨⟨hquiet, hsucceeded, hunlocked, hsame.2.1 ▸ hunreleased, hcall, hobligation,
              hattempt⟩, ht⟩
        · cases h

/-! ### Child -/

theorem only_ok {α : Type} {values : List α} {value : α} (h : only values = .ok value) :
    values = [value] := by
  unfold only at h
  split at h
  · rw [Except.ok.inj h]
  · cases h

theorem nativeReviewDispatchLineage_ok {stateInScope : Bool} {hostCallId : String}
    {childSessionId : Option String} {lineage : DispatchLineage}
    (h : nativeReviewDispatchLineage s env stateInScope hostCallId childSessionId =
      .ok lineage) :
    LiveRelease s lineage ∧ lineage.dispatch.hostCallId = hostCallId := by
  unfold nativeReviewDispatchLineage at h
  split at h
  · cases h
  · simp only [bind, Except.bind] at h
    split at h
    · cases h
    · next dispatch hdispatch =>
        split at h
        · cases h
        · next attempt hattempt =>
            split at h
            · cases h
            · next obligation hobligation =>
                split at h
                · next hexact =>
                    obtain rfl := Except.ok.inj h
                    have hd := List.mem_filter.1 (only_ok hdispatch ▸ List.mem_singleton_self _)
                    have ha := List.mem_filter.1 (only_ok hattempt ▸ List.mem_singleton_self _)
                    have ho := List.mem_filter.1 (only_ok hobligation ▸ List.mem_singleton_self _)
                    obtain ⟨hauthorized, hcreated, hpending, howned, -, hunlocked, -⟩ := hexact
                    exact ⟨⟨hd.1, ha.1, ho.1, by simpa using ha.2, by simpa using ho.2, howned,
                      hauthorized, hcreated, hpending, hunlocked⟩, by simpa using hd.2⟩
                · cases h

theorem bindNativeReviewChild_ok {input : ChildBinding}
    (h : bindNativeReviewChild s env input now = .ok t) :
    ∃ lineage, nativeReviewDispatchLineage s env input.stateInScope input.hostCallId none =
        .ok lineage ∧
      (∀ bound, lineage.attempt.childSessionId = some bound → bound = input.childSessionId) ∧
      t = updateAttemptStatus s lineage.attempt.attemptId .created now
        (some input.childSessionId) none := by
  unfold bindNativeReviewChild at h
  simp only [bind, Except.bind] at h
  split at h
  · cases h
  · next lineage hlineage =>
      split at h
      · cases h
      · next hfree =>
          refine ⟨lineage, hlineage, ?_, (Except.ok.inj h).symm⟩
          intro bound hbound
          by_contra hother
          refine hfree (.inr (.inl ⟨by rw [hbound]; rfl, ?_⟩))
          rw [hbound]
          exact fun heq => hother (Option.some.inj heq)

theorem rejectNativeReviewCapture_ok {stateInScope : Bool}
    {hostCallId childSessionId code : String}
    (h : rejectNativeReviewCapture s env stateInScope hostCallId childSessionId code now =
      .ok t) : LedgerIncident now s t := by
  unfold rejectNativeReviewCapture at h
  simp only [bind, Except.bind] at h
  split at h
  · cases h
  · next lineage hlineage =>
      obtain rfl := Except.ok.inj h
      obtain ⟨hlive, hcall⟩ := nativeReviewDispatchLineage_ok hlineage
      rw [← hcall]
      exact .captureRejected lineage code hlive

/-! ### Evidence -/

theorem resolveEvidenceLineage_eq_some {obligation : ReviewObligation} {params : EvidenceParams}
    {attempt : ReviewAttempt} (h : resolveEvidenceLineage s obligation params = some attempt) :
    s.attempt? params.attemptId = some attempt ∧
      attempt.obligationId = obligation.obligationId ∧ attempt.status = .created ∧
      attempt.childSessionId = some params.childSessionId ∧
      ∃ record ∈ s.dispatches, record.hostCallId = params.hostCallId ∧
        record.attemptId = params.attemptId ∧ record.dispatchStatus = .authorized := by
  unfold resolveEvidenceLineage at h
  split at h
  · cases h
  · next found hfound =>
      split at h
      · next hexact =>
          obtain rfl := Option.some.inj h
          obtain ⟨howned, -, -, hcreated, hchild, hreleased⟩ := hexact
          refine ⟨hfound, howned, hcreated, hchild, ?_⟩
          have hid := (ReviewAssuranceState.mem_of_attempt? hfound).2
          simpa [hasAuthorizedDispatch, hid, and_assoc] using hreleased
      · cases h

theorem validCapture_iff {params : EvidenceParams} :
    validCapture params = true ↔
      params.capture = ⟨params.childSessionId, params.obligationId, params.attemptId⟩ ∧
        params.captureValid = true ∧ params.nativeCallId = params.hostCallId := by
  obtain ⟨_, _, _, _, _, _, _, _, ⟨_, _, _⟩, _, _, _, _, _, _⟩ := params
  simp [validCapture, hasCaptureLineage, and_assoc]

/-- What recording evidence can do: the exact capture is bound, or its reuse blocks the
obligation. -/
theorem applyEvidenceMutation_cases {params : EvidenceParams} :
    (∀ next, applyEvidenceMutation s params now = .reused next →
      next = reuseBlocked s params.obligationId) ∧
    ∀ next, applyEvidenceMutation s params now = .fulfilled next →
      ∃ obligation attempt, s.obligation? params.obligationId = some obligation ∧
        resolveEvidenceLineage s obligation params = some attempt ∧
        validCapture params = true ∧
        hasEvidenceReuse s params.childSessionId params.findingsHash = false ∧
        settleBoundEvidence (bindEvidence s params) params now = .ok next := by
  unfold applyEvidenceMutation
  split
  · exact ⟨nofun, nofun⟩
  · next hvalid =>
      split
      · exact ⟨nofun, nofun⟩
      · next obligation hobligation =>
          split
          · exact ⟨nofun, nofun⟩
          · split
            · refine ⟨?_, nofun⟩
              intro next h
              exact (EvidenceRecordResult.reused.inj h).symm
            · next hunused =>
                split
                · exact ⟨nofun, nofun⟩
                · next attempt hattempt =>
                    split
                    · exact ⟨nofun, nofun⟩
                    · split
                      · next settled hsettled =>
                          refine ⟨nofun, ?_⟩
                          intro next h
                          obtain rfl := EvidenceRecordResult.fulfilled.inj h
                          exact ⟨obligation, attempt, hobligation, hattempt, by simpa using hvalid,
                            by simpa using hunused, hsettled⟩
                      · exact ⟨nofun, nofun⟩

/-- The evidence the native capture records is that of a live release, under the prompt of
the release and the type of its obligation. -/
theorem bindNativeSubagentFindings_recorded {params : EvidenceParams}
    (h : bindNativeSubagentFindings s params now = .fulfilled t) :
    ∃ recorded obligation attempt, Recordable s recorded obligation attempt ∧
      recorded.invocationId = params.invocationId ∧
      recorded.unableToReview = params.unableToReview ∧
      settleBoundEvidence (bindEvidence s recorded) recorded now = .ok t := by
  unfold bindNativeSubagentFindings at h
  split at h
  · next dispatch obligation hdispatch hobligation =>
      obtain ⟨found, attempt, hfound, hlineage, hvalid, hunused, hsettled⟩ :=
        applyEvidenceMutation_cases.2 _ h
      obtain rfl := Option.some.inj (hobligation.symm.trans hfound)
      obtain ⟨hattempt, howned, hcreated, hchild, hreleased⟩ :=
        resolveEvidenceLineage_eq_some hlineage
      obtain ⟨hcapture, -, hcall⟩ := validCapture_iff.1 hvalid
      have hid := (ReviewAssuranceState.mem_of_obligation? hobligation).2
      refine ⟨{ params with
          promptHash := dispatch.canonicalPromptDigest
          obligationType := obligation.obligationType }, obligation, attempt,
        ⟨hobligation, hattempt, rfl, howned.trans hid, hcreated, hchild, hreleased,
          ⟨dispatch, hdispatch, rfl⟩, hcapture, hcall, ?_⟩, rfl, rfl, hsettled⟩
      simpa [hasEvidenceReuse] using hunused
  · cases h

theorem bindNativeSubagentFindings_fulfilled {params : EvidenceParams}
    {canBind : ReviewAssuranceState → ReviewAttempt → Prop}
    (hfresh : params.invocationId ∉ s.identities)
    (h : bindNativeSubagentFindings s params now = .fulfilled t) :
    LedgerEffect env canBind now s t := by
  obtain ⟨recorded, obligation, attempt, hrecordable, hinvocation, -, hsettled⟩ :=
    bindNativeSubagentFindings_recorded h
  exact .evidenceBound recorded obligation attempt hrecordable (hinvocation ▸ hfresh) _ hsettled

theorem bindNativeSubagentFindings_reused {params : EvidenceParams}
    (h : bindNativeSubagentFindings s params now = .reused t) : LedgerIncident now s t := by
  unfold bindNativeSubagentFindings at h
  split at h
  · obtain rfl := applyEvidenceMutation_cases.1 _ h
    exact .forced _ _ (List.mem_cons_self ..)
  · cases h

/-! ### Abandonment -/

/-- The record of a host call that was concluded without evidence. -/
def abandonedRecord (hostCallId : String) (record : ReviewDispatchRecord) :
    ReviewDispatchRecord :=
  if record.hostCallId = hostCallId ∧ record.dispatchStatus = .authorized then
    { record with dispatchStatus := .outcomeUnknown }
  else record

/-- The attempt of a concluded release. -/
def concludedAttempt (attemptId : String) (childSessionId : Option String) (now : Timestamp)
    (attempt : ReviewAttempt) : ReviewAttempt :=
  if attempt.attemptId = attemptId then
    { attempt with
      status := .stale
      completedAt := some now
      childSessionId := attempt.childSessionId.or childSessionId }
  else attempt

theorem concludeRelease_eq (hostCallId attemptId : String) (childSessionId : Option String) :
    concludeRelease s hostCallId attemptId childSessionId now =
      { s with
        attempts := s.attempts.map (concludedAttempt attemptId childSessionId now)
        dispatches := s.dispatches.map (abandonedRecord hostCallId) } := by
  have hstale : ∀ attempt : ReviewAttempt,
      attempt.withStatus .stale now none none =
        { attempt with status := .stale, completedAt := some now } := by
    intro attempt
    simp [ReviewAttempt.withStatus, isPresent]
  cases childSessionId with
  | none =>
      simp only [concludeRelease, bindStaleChildSession, updateAttemptStatus, hstale]
      congr 1
      apply List.map_congr_left
      intro attempt _
      simp [concludedAttempt]
  | some child =>
      simp only [concludeRelease, bindStaleChildSession, updateAttemptStatus, hstale,
        List.map_map]
      congr 1
      apply List.map_congr_left
      intro attempt _
      by_cases hid : attempt.attemptId = attemptId
      · cases hchild : attempt.childSessionId <;> simp [concludedAttempt, hid, hchild]
      · simp [concludedAttempt, hid]

@[simp] theorem concludedAttempt_attemptId (attemptId : String) (childSessionId : Option String)
    (attempt : ReviewAttempt) :
    (concludedAttempt attemptId childSessionId now attempt).attemptId = attempt.attemptId := by
  unfold concludedAttempt
  split <;> rfl

@[simp] theorem concludedAttempt_obligationId (attemptId : String)
    (childSessionId : Option String) (attempt : ReviewAttempt) :
    (concludedAttempt attemptId childSessionId now attempt).obligationId =
      attempt.obligationId := by
  unfold concludedAttempt
  split <;> rfl

@[simp] theorem concludedAttempt_origin (attemptId : String)
    (childSessionId : Option String) (attempt : ReviewAttempt) :
    (concludedAttempt attemptId childSessionId now attempt).origin = attempt.origin := by
  unfold concludedAttempt
  split <;> rfl

theorem concludeRelease_attempt? (hostCallId attemptId : String)
    (childSessionId : Option String) (id : String) :
    (concludeRelease s hostCallId attemptId childSessionId now).attempt? id =
      (s.attempt? id).map (concludedAttempt attemptId childSessionId now) := by
  rw [concludeRelease_eq, ReviewAssuranceState.attempt?, List.find?_map]
  simp only [Function.comp_def, concludedAttempt_attemptId]
  rfl

theorem concludeRelease_superseded (hostCallId attemptId : String)
    (childSessionId : Option String) (id : String) :
    (concludeRelease s hostCallId attemptId childSessionId now).superseded id =
      s.superseded id := by
  rw [concludeRelease_eq, ReviewAssuranceState.superseded, List.any_map]
  simp only [Function.comp_def, concludedAttempt_origin]
  rfl

theorem concludeRelease_identities (hostCallId attemptId : String)
    (childSessionId : Option String) :
    (concludeRelease s hostCallId attemptId childSessionId now).identities =
      s.identities := by
  have hdispatch : ∀ record : ReviewDispatchRecord,
      (abandonedRecord hostCallId record).dispatchId = record.dispatchId ∧
        (abandonedRecord hostCallId record).attemptId = record.attemptId := by
    intro record
    unfold abandonedRecord
    split <;> exact ⟨rfl, rfl⟩
  rw [concludeRelease_eq]
  simp only [ReviewAssuranceState.identities, List.map_map, List.filterMap_map,
    Function.comp_def, concludedAttempt_attemptId, concludedAttempt_obligationId,
    concludedAttempt_origin, (hdispatch _).1, (hdispatch _).2]

theorem updateObligation_obligation? {obligationId : String}
    {transform : ReviewObligation → ReviewObligation}
    (hid : ∀ item, (transform item).obligationId = item.obligationId) :
    (updateObligation s obligationId transform).obligation? obligationId =
      (s.obligation? obligationId).map transform := by
  have hsame : ∀ item : ReviewObligation,
      (if item.obligationId = obligationId then transform item else item).obligationId =
        item.obligationId := by
    intro item
    split
    · exact hid item
    · rfl
  rw [ReviewAssuranceState.obligation?, ReviewAssuranceState.obligation?, updateObligation,
    List.find?_map]
  simp only [Function.comp_def, hsame]
  cases hfind : s.obligations.find? (·.obligationId == obligationId) with
  | none => rfl
  | some item =>
      have hitem : item.obligationId = obligationId := by simpa using List.find?_some hfind
      simp [hitem]

theorem blockObligation_obligation? {obligationId code : String} :
    (blockObligation s obligationId code).obligation? obligationId =
      (s.obligation? obligationId).map fun item =>
        { item with status := .blocked, blockedCode := some code } :=
  updateObligation_obligation? fun _ => rfl

theorem authorizedCall_eq_some {hostCallId : String} {record : ReviewDispatchRecord}
    {attempt : ReviewAttempt} (h : authorizedCall s hostCallId = some (record, attempt)) :
    record ∈ s.dispatches ∧ record.hostCallId = hostCallId ∧
      record.dispatchStatus = .authorized ∧ s.attempt? record.attemptId = some attempt ∧
      attempt.status = .created := by
  unfold authorizedCall at h
  split at h
  · next found hfound =>
      split at h
      · next current hcurrent =>
          split at h
          · next hcreated =>
              obtain ⟨rfl, rfl⟩ := Prod.mk.inj (Option.some.inj h)
              have hmem := List.mem_filter.1 (hfound ▸ List.mem_singleton_self found)
              simp only [Bool.and_eq_true, beq_iff_eq] at hmem
              exact ⟨hmem.1, hmem.2.1, hmem.2.2, hcurrent, hcreated⟩
          · cases h
      · cases h
  · cases h

section Chains

variable {canBind : ReviewAssuranceState → ReviewAttempt → Prop}

theorem abandonReviewDispatchByHostCall_effects (hostCallId : String) :
    ReflTransGen (LedgerEffect env canBind now) s
      (abandonReviewDispatchByHostCall s hostCallId now) := by
  unfold abandonReviewDispatchByHostCall
  split
  · exact .refl
  · next record attempt hcall =>
      obtain ⟨hmem, rfl, hauthorized, hattempt, hcreated⟩ := authorizedCall_eq_some hcall
      rw [(ReviewAssuranceState.mem_of_attempt? hattempt).2]
      exact .single (.concluded record attempt none hmem (by rw [hauthorized]; decide) hattempt
        (.inl hcreated))

theorem resolveExecutionDispatch_mem {hostCallId : String} {identity : ExecutionClosureIdentity}
    {record : ReviewDispatchRecord}
    (h : resolveExecutionDispatch s hostCallId identity = some record) :
    record ∈ s.dispatches := by
  unfold resolveExecutionDispatch at h
  split at h
  · next found hfound =>
      obtain rfl := Option.some.inj h
      exact List.mem_of_mem_filter (hfound ▸ List.mem_singleton_self found)
  · cases h

/-- A closure concludes the release, blocks the obligation and sets the lock that is not
there yet. -/
theorem blockedExecutionState_effects {record : ReviewDispatchRecord} {attempt : ReviewAttempt}
    {obligation : ReviewObligation} {code : String} (childSessionId : Option String)
    (hrecord : record ∈ s.dispatches) (hopen : record.dispatchStatus ≠ .completed)
    (hattempt : s.attempt? record.attemptId = some attempt)
    (hobligation : s.obligation? record.obligationId = some obligation)
    (hclose : canCloseExecution attempt obligation childSessionId = true)
    (hcode : obligation.blockedCode.getD code = code) :
    ReflTransGen (LedgerEffect env canBind now) s
      (blockedExecutionState s record childSessionId code now) := by
  simp only [canCloseExecution, Bool.and_eq_true, Bool.or_eq_true, beq_iff_eq] at hclose
  obtain ⟨⟨hopenObligation, hopenAttempt⟩, -⟩ := hclose
  have hid := (ReviewAssuranceState.mem_of_obligation? hobligation).2
  have hconcluded : LedgerEffect env canBind now s
      (concludeRelease s record.hostCallId record.attemptId childSessionId now) :=
    .concluded record attempt childSessionId hrecord hopen hattempt hopenAttempt
  have hkept : (concludeRelease s record.hostCallId record.attemptId childSessionId now).obligation?
      obligation.obligationId = some obligation := by
    rw [concludeRelease_eq, hid]
    exact hobligation
  generalize hu : concludeRelease s record.hostCallId record.attemptId childSessionId now = u
    at hconcluded hkept
  have hclosed : LedgerEffect env canBind now u (blockObligation u obligation.obligationId code) :=
    .closed obligation code hkept (hopenObligation.imp_right fun hblocked => ⟨hblocked, hcode⟩)
  have hlock : u.capacityLock = s.capacityLock := by rw [← hu, concludeRelease_eq]
  have hchain := (ReflTransGen.single hconcluded).tail hclosed
  unfold blockedExecutionState
  rw [hu, ← hid]
  cases hcurrent : s.capacityLock with
  | some lock =>
      rw [hcurrent] at hlock
      have hsame : { blockObligation u obligation.obligationId code with
          capacityLock := some lock } = blockObligation u obligation.obligationId code := by
        rw [← hlock]
        rfl
      rw [Option.getD_some, hsame]
      exact hchain
  | none =>
      refine hchain.tail (.locked { obligation with status := .blocked, blockedCode := some code }
        code ?_ rfl rfl (hlock.trans hcurrent))
      exact blockObligation_obligation?.trans (congrArg _ hkept)

theorem abandonAndBlockByHostCall_effects {hostCallId code : String}
    {identity : ExecutionClosureIdentity}
    (h : LedgerOutcome.ofBlock (abandonAndBlockByHostCall s hostCallId code identity now) =
      .written t) : ReflTransGen (LedgerEffect env canBind now) s t := by
  unfold abandonAndBlockByHostCall at h
  split at h
  · cases h
  · next record hrecord =>
      split at h
      · next attempt obligation hattempt hobligation =>
          split at h
          · cases h
          · split at h
            · split at h <;> cases h
            · next hopen =>
                split at h
                · cases h
                · next hclose =>
                    split at h
                    · cases h
                    · obtain rfl := LedgerOutcome.written.inj h
                      refine blockedExecutionState_effects identity.childSessionId
                        (resolveExecutionDispatch_mem hrecord) hopen hattempt hobligation
                        (by simpa using hclose) ?_
                      cases obligation.blockedCode <;> rfl
      · cases h

/-! ### Re-arm -/

theorem isSettled_eq_false {obligation : ReviewObligation} :
    isSettled obligation = false ↔ obligation.status = .pending := by
  cases hstatus : obligation.status <;> simp [isSettled, hstatus]

theorem authorizeDispatchRearm_ok {spent : ReviewAttempt} {obligation : ReviewObligation}
    {trigger : RearmTrigger}
    (h : authorizeDispatchRearm s spent = .ok (obligation, trigger)) :
    s.obligation? spent.obligationId = some obligation ∧ obligation.status = .pending ∧
      countReviewAttempts s obligation.obligationId < obligation.maxReviewerAttempts ∧
      dispatchRearmTrigger s spent = some trigger := by
  unfold authorizeDispatchRearm at h
  split at h
  · cases h
  · next found hfound =>
      split at h
      · cases h
      · next hopen =>
          dsimp only at h
          split at h
          · cases h
          · next hbudget =>
              split at h
              · cases h
              · next htrigger =>
                  obtain ⟨rfl, rfl⟩ := Prod.mk.inj (Except.ok.inj h)
                  exact ⟨hfound, isSettled_eq_false.1 (by simpa using hopen),
                    Nat.lt_of_not_le hbudget, htrigger⟩

/-- Only an open obligation is refused for its budget. -/
theorem authorizeDispatchRearm_exhausted {spent : ReviewAttempt} {refusal : RearmRefusal}
    (h : authorizeDispatchRearm s spent = .error refusal)
    (hcause : refusal.cause = .budgetExhausted) :
    ∃ obligation, s.obligation? spent.obligationId = some obligation ∧
      obligation.status = .pending := by
  unfold authorizeDispatchRearm at h
  split at h
  · cases h
    cases hcause
  · next found hfound =>
      split at h
      · cases h
        cases hcause
      · next hopen =>
          exact ⟨found, hfound, isSettled_eq_false.1 (by simpa using hopen)⟩

theorem buildInterruptedDispatchRearm_eq (fresh : FreshAttempt) (spent : ReviewAttempt) :
    buildInterruptedDispatchRearm s fresh spent now =
      (authorizeDispatchRearm s spent).map fun authorization =>
        markDispatchOutcomeUnknown
          (createAttemptForExistingObligation s fresh authorization.1 now
            (.dispatchRearm spent.attemptId authorization.2) spent.repositoryDiscovery)
          spent.attemptId := by
  unfold buildInterruptedDispatchRearm
  cases authorizeDispatchRearm s spent <;> rfl

theorem buildInterruptedDispatchRearm_ok {fresh : FreshAttempt} {spent : ReviewAttempt}
    (hrecorded : spent ∈ s.attempts) (hselected : RearmSelected s spent)
    (h : buildInterruptedDispatchRearm s fresh spent now = .ok t) :
    ∃ obligation trigger, Rearmable s spent obligation trigger ∧
      t = markDispatchOutcomeUnknown
        (createAttemptForExistingObligation s fresh obligation now
          (.dispatchRearm spent.attemptId trigger) spent.repositoryDiscovery)
        spent.attemptId := by
  rw [buildInterruptedDispatchRearm_eq] at h
  cases hauthorization : authorizeDispatchRearm s spent with
  | error refusal =>
      rw [hauthorization] at h
      cases h
  | ok authorization =>
      obtain ⟨obligation, trigger⟩ := authorization
      rw [hauthorization] at h
      obtain ⟨hfound, hpending, hbudget, htrigger⟩ := authorizeDispatchRearm_ok hauthorization
      exact ⟨obligation, trigger, ⟨hrecorded, hfound, hpending, hbudget, htrigger, hselected⟩,
        (Except.ok.inj h).symm⟩

theorem rearmOrClose_effects {fresh : FreshAttempt} {spent : ReviewAttempt}
    (hrecorded : spent ∈ s.attempts) (hselected : RearmSelected s spent)
    (hfresh : fresh.attemptId ∉ s.identities) :
    ReflTransGen (LedgerEffect env canBind now) s
      (rearmOrClose s spent.obligationId fresh spent now) := by
  unfold rearmOrClose
  split
  · next next hbuild =>
      obtain ⟨obligation, trigger, hrearmable, rfl⟩ :=
        buildInterruptedDispatchRearm_ok hrecorded hselected hbuild
      exact .single (.rearmed fresh spent obligation trigger hrearmable hfresh)
  · next refusal hrefused =>
      split
      · next hcause =>
          rw [buildInterruptedDispatchRearm_eq] at hrefused
          cases hauthorization : authorizeDispatchRearm s spent with
          | error found =>
              rw [hauthorization] at hrefused
              obtain rfl := Except.error.inj hrefused
              obtain ⟨obligation, hfound, hpending⟩ :=
                authorizeDispatchRearm_exhausted hauthorization hcause
              have hid := (ReviewAssuranceState.mem_of_obligation? hfound).2
              rw [← hid] at hfound ⊢
              exact .single (.closed obligation exhaustedCode hfound (.inl hpending))
          | ok authorization =>
              rw [hauthorization] at hrefused
              cases hrefused
      · exact .refl

theorem abandonAndRearmByHostCall_effects (hs : WellIdentified s) {fresh : FreshAttempt}
    (hostCallId : String) (childSessionId : Option String)
    (hfresh : fresh.attemptId ∉ s.identities) :
    ReflTransGen (LedgerEffect env canBind now) s
      (abandonAndRearmByHostCall s hostCallId childSessionId fresh now) := by
  unfold abandonAndRearmByHostCall
  split
  · exact .refl
  · next record attempt hcall =>
      obtain ⟨hmem, rfl, hauthorized, hattempt, hcreated⟩ := authorizedCall_eq_some hcall
      obtain ⟨hrecorded, hid⟩ := ReviewAssuranceState.mem_of_attempt? hattempt
      rw [hid]
      dsimp only
      rw [concludeRelease_attempt?, hattempt, Option.map_some]
      dsimp only
      have hconcluded : LedgerEffect env canBind now s
          (concludeRelease s record.hostCallId record.attemptId childSessionId now) :=
        .concluded record attempt childSessionId hmem (by rw [hauthorized]; decide) hattempt
          (.inl hcreated)
      have hnone : s.superseded record.attemptId = false :=
        hid ▸ hs.createdLast attempt hrecorded hcreated
      have hspent : concludedAttempt record.attemptId childSessionId now attempt ∈
          (concludeRelease s record.hostCallId record.attemptId childSessionId now).attempts := by
        rw [concludeRelease_eq]
        exact List.mem_map_of_mem hrecorded
      rw [← concludedAttempt_obligationId record.attemptId childSessionId attempt]
      refine (ReflTransGen.single hconcluded).trans (rearmOrClose_effects hspent (.inl ?_) ?_)
      · rw [concludeRelease_superseded, concludedAttempt_attemptId, hid]
        exact hnone
      · rw [concludeRelease_identities]
        exact hfresh

theorem findLatestReviewObligation_mem {obligationType : ReviewObligationType}
    {obligation : ReviewObligation}
    (h : findLatestReviewObligation s obligationType = some obligation) :
    obligation ∈ s.obligations ∧ obligation.obligationType = obligationType :=
  ⟨List.mem_reverse.1 (List.mem_of_find?_eq_some h), by simpa using List.find?_some h⟩

/-- The attempt a continuation names as interrupted: a bindable one that was released, else
the latest spent one. -/
theorem resolveReviewContinuation_interrupted {obligationType : ReviewObligationType}
    {obligation : ReviewObligation} {attemptId : String}
    (h : resolveReviewContinuation s env obligationType =
      .interruptedDispatch obligation attemptId) :
    findLatestReviewObligation s obligationType = some obligation ∧
      obligation.status = .pending ∧
      ∃ attempt, attempt.attemptId = attemptId ∧
        (findBindableAttempt s obligation.obligationId = some attempt ∨
          findBindableAttempt s obligation.obligationId = none ∧
            findSpentStaleAttempt s obligation.obligationId = some attempt) := by
  unfold resolveReviewContinuation at h
  split at h
  · cases h
  · next latest hlatest =>
      split at h
      · cases h
      · cases h
      · next hpending =>
          unfold pendingContinuation at h
          split at h
          · next bindable hbindable =>
              split at h
              · cases h
                exact ⟨hlatest, hpending, bindable, rfl, .inl hbindable⟩
              · cases h
          · next hnone =>
              split at h
              · next spent hspent =>
                  cases h
                  exact ⟨hlatest, hpending, spent, rfl, .inr ⟨hnone, hspent⟩⟩
              · split at h <;> cases h
      · cases h

theorem resolveReviewContinuation_missing {obligationType : ReviewObligationType}
    {obligation : ReviewObligation}
    (h : resolveReviewContinuation s env obligationType = .missingAttempt obligation) :
    obligation ∈ s.obligations ∧ obligation.status = .pending := by
  unfold resolveReviewContinuation at h
  split at h
  · cases h
  · next latest hlatest =>
      split at h
      · cases h
      · cases h
      · next hpending =>
          unfold pendingContinuation at h
          split at h
          · split at h <;> cases h
          · split at h
            · cases h
            · split at h
              · cases h
              · cases h
                exact ⟨(findLatestReviewObligation_mem hlatest).1, hpending⟩
      · cases h

theorem handleReviewTransportRecovery_effects (hs : WellIdentified s) {fresh : FreshAttempt}
    (obligationType : ReviewObligationType) (closesMissing : Bool)
    (hfresh : fresh.attemptId ∉ s.identities) :
    ReflTransGen (LedgerEffect env canBind now) s
      (handleReviewTransportRecovery s env obligationType closesMissing fresh now) := by
  unfold handleReviewTransportRecovery
  split
  · next obligation attemptId hinterrupted =>
      obtain ⟨hlatest, hpending, attempt, rfl, hnamed⟩ :=
        resolveReviewContinuation_interrupted hinterrupted
      have hline : attempt ∈ s.line obligation.obligationId := by
        obtain hbindable | ⟨-, hspent⟩ := hnamed
        · exact (findBindableAttempt_eq_some hbindable).1
        · exact (mem_spentStaleAttempts.1 (findSpentStaleAttempt_mem hspent)).1
      obtain ⟨hrecorded, howned⟩ := ReviewAssuranceState.mem_line.1 hline
      rw [hs.attempt?_of_mem hrecorded]
      dsimp only
      rw [← howned]
      refine rearmOrClose_effects hrecorded ?_ hfresh
      obtain hbindable | hspent := hnamed
      · exact .inr (.inl (findBindableAttempt_eq_some hbindable).2.1)
      · rw [← howned] at hspent
        exact .inr (.inr ⟨⟨obligationType, obligation, hlatest, howned.symm⟩, hspent⟩)
  · next obligation hmissing =>
      obtain ⟨hmem, hpending⟩ := resolveReviewContinuation_missing hmissing
      split
      · exact .single (.closed obligation _ (hs.obligation?_of_mem hmem) (.inl hpending))
      · exact .refl
  · exact .refl

/-! ### Incoherent captures, reopening and consumption -/

theorem resolveRearmTarget_ok {input : IncoherentCapture} {target : RearmTarget}
    (h : resolveRearmTarget s input = .ok target) :
    s.obligation? target.obligation.obligationId = some target.obligation ∧
      target.obligation.status = .fulfilled ∧ target.invocation ∈ s.invocations ∧
      target.obligation.invocationId = some target.invocation.invocationId ∧
      s.attempt? target.invocation.attemptId = some target.attempt ∧
      target.attempt.status = .bound := by
  unfold resolveRearmTarget at h
  split at h
  · cases h
  · next obligation hobligation =>
      split at h
      · cases h
      · next hfulfilled =>
          split at h
          · cases h
          · split at h
            · cases h
            · split at h
              · cases h
              · next invocation hinvocation =>
                  split at h
                  · cases h
                  · split at h
                    · cases h
                    · split at h
                      · cases h
                      · next attempt hattempt =>
                          split at h
                          · cases h
                          · next hbound =>
                              split at h
                              · cases h
                              · obtain rfl := Except.ok.inj h
                                have hid := (ReviewAssuranceState.mem_of_obligation? hobligation).2
                                have hlinked := List.find?_some hinvocation
                                exact ⟨hid ▸ hobligation, not_not.1 hfulfilled,
                                  List.mem_of_find?_eq_some hinvocation,
                                  (beq_iff_eq.1 hlinked).symm, hattempt,
                                  not_not.1 hbound⟩

theorem authorizeResolvedTarget_ok {target : RearmTarget}
    (h : authorizeResolvedTarget s env target = .ok ()) :
    priorF12Failures s target.obligation.obligationId <
        env.maxIncoherentReviewerCaptureRetries ∧
      countReviewAttempts s target.obligation.obligationId <
        target.obligation.maxReviewerAttempts := by
  unfold authorizeResolvedTarget at h
  dsimp only at h
  split at h
  · next hallowed => exact hallowed
  · split at h <;> cases h

theorem buildIncoherentCaptureRearm_ok {input : IncoherentCapture} {fresh : FreshAttempt}
    (h : buildIncoherentCaptureRearm s env input fresh now = .ok t) :
    ∃ target, IncoherentTarget env s target ∧ t = incoherentRearm s target fresh now := by
  unfold buildIncoherentCaptureRearm at h
  cases htarget : resolveRearmTarget s input with
  | error reason =>
      rw [htarget] at h
      cases h
  | ok target =>
      rw [htarget] at h
      cases hauthorized : authorizeResolvedTarget s env target with
      | error reason =>
          simp only [bind, Except.bind, hauthorized] at h
          cases h
      | ok =>
          simp only [bind, Except.bind, hauthorized] at h
          obtain ⟨hobligation, hfulfilled, hinvocation, hlinked, hattempt, hbound⟩ :=
            resolveRearmTarget_ok htarget
          obtain ⟨hfailures, hbudget⟩ := authorizeResolvedTarget_ok hauthorized
          exact ⟨target, ⟨hobligation, hfulfilled, hinvocation, hlinked, hattempt, hbound,
            hfailures, hbudget⟩, (Except.ok.inj h).symm⟩

theorem lockedObligation_eq_some {obligationType : ReviewObligationType}
    {obligation : ReviewObligation} (h : lockedObligation s obligationType = some obligation) :
    s.obligation? obligation.obligationId = some obligation ∧ obligation.status = .blocked ∧
      ∃ lock, s.capacityLock = some lock ∧ lock.obligationId = obligation.obligationId ∧
        lock.code = unknownOutcomeCode := by
  unfold lockedObligation at h
  split at h
  · cases h
  · next lock hlock =>
      split at h
      · cases h
      · next hcode =>
          obtain ⟨hfound, hmatches⟩ := Option.filter_eq_some_iff.1 h
          have hid := (ReviewAssuranceState.mem_of_obligation? hfound).2
          simp only [Bool.and_eq_true, beq_iff_eq] at hmatches
          exact ⟨hid ▸ hfound, hmatches.1.2, lock, hlock, hid.symm, not_not.1 hcode⟩

theorem unknownOutcomeTarget_eq_some {obligationType : ReviewObligationType}
    {target : UnknownOutcomeTarget}
    (h : unknownOutcomeTarget s obligationType = some target) :
    Reopenable s target.obligation := by
  unfold unknownOutcomeTarget at h
  split at h
  · cases h
  · next obligation hlocked =>
      obtain ⟨hfound, hblocked, lock, hlock, hid, hcode⟩ := lockedObligation_eq_some hlocked
      dsimp only at h
      split at h
      · cases h
      · split at h
        · next attempt hattempt =>
            split at h
            · cases h
            · split at h
              · split at h
                · obtain rfl := Option.some.inj h
                  exact ⟨hfound, hblocked, ⟨lock, hlock, hid, .inl hcode⟩, attempt,
                    hattempt ▸ List.mem_singleton_self _⟩
                · cases h
              · cases h
        · cases h

theorem reopenUnknownOutcome_ok {expected : SettledLineage}
    (h : reopenUnknownOutcome s expected = .ok t) :
    ∃ obligation, Reopenable s obligation ∧
      t = clearLock (reopenedObligation s obligation.obligationId) := by
  unfold reopenUnknownOutcome at h
  split at h
  · cases h
  · next current hcurrent =>
      split at h
      · next hsame =>
          refine ⟨current.obligation, unknownOutcomeTarget_eq_some hcurrent, ?_⟩
          rw [hsame.1]
          exact (Except.ok.inj h).symm
      · cases h

theorem clearLock_reopened_identities (obligationId : String) :
    (clearLock (reopenedObligation s obligationId)).identities = s.identities := by
  have hsame : ∀ item : ReviewObligation,
      (if item.obligationId = obligationId then
          { item with status := .pending, blockedCode := none } else item).obligationId =
        item.obligationId ∧
      (if item.obligationId = obligationId then
          { item with status := .pending, blockedCode := none } else item).invocationId =
        item.invocationId := by
    intro item
    split <;> exact ⟨rfl, rfl⟩
  simp only [ReviewAssuranceState.identities, clearLock, reopenedObligation, updateObligation,
    List.map_map, List.filterMap_map, Function.comp_def, (hsame _).1, (hsame _).2]

/-- The reopening is one effect, the re-arm of the reopened obligation another. -/
theorem reopenReviewAfterAuthorResolution_effects {unaddressedPriorFails : Bool}
    {fresh : FreshAttempt} (hfresh : fresh.attemptId ∉ s.identities) :
    ReflTransGen (LedgerEffect env canBind now) s
      (reopenReviewAfterAuthorResolution s unaddressedPriorFails fresh now) := by
  unfold reopenReviewAfterAuthorResolution
  split
  · exact .refl
  · next lock hlock =>
      split
      · exact .refl
      · next hcode =>
          split
          · exact .refl
          · next obligation hobligation =>
              obtain ⟨-, hid⟩ := ReviewAssuranceState.mem_of_obligation? hobligation
              split
              · exact .refl
              · next hblocked =>
                  split
                  · exact .refl
                  · split
                    · exact .refl
                    · split
                      · next spent hspent =>
                          split
                          · next next hbuild =>
                              have hmem : spent ∈
                                  unsupersededStaleAttempts s obligation.obligationId :=
                                List.mem_of_mem_filter (hspent ▸ List.mem_singleton_self spent)
                              obtain ⟨hline, -, -, hnone⟩ := mem_unsupersededStaleAttempts.1 hmem
                              have hrecorded := (ReviewAssuranceState.mem_line.1 hline).1
                              have hreopenable : Reopenable s obligation :=
                                ⟨hid ▸ hobligation, not_not.1 (not_or.1 hblocked).2,
                                  ⟨lock, hlock, hid.symm, .inr (not_not.1 hcode)⟩, spent, hmem⟩
                              obtain ⟨found, trigger, hrearmable, rfl⟩ :=
                                buildInterruptedDispatchRearm_ok
                                  (s := reopenedObligation s obligation.obligationId) hrecorded
                                  (.inl hnone) hbuild
                              refine (ReflTransGen.single (.reopened obligation hreopenable)).tail
                                (LedgerEffect.rearmed
                                  (s := clearLock (reopenedObligation s obligation.obligationId))
                                  fresh spent found trigger
                                  ⟨hrearmable.recorded, hrearmable.found, hrearmable.pending,
                                    hrearmable.budget, hrearmable.triggered, .inl hnone⟩ ?_)
                              rw [clearLock_reopened_identities]
                              exact hfresh
                          · exact .refl
                      · exact .refl

theorem consumeWithEvidence_eq_some {obligationId invocationId : String}
    (h : consumeWithEvidence s obligationId invocationId now = some t) :
    LedgerEffect env canBind now s t := by
  unfold consumeWithEvidence at h
  split at h
  · next obligation invocation hobligation hinvocation =>
      split at h
      · next haccepted =>
          have hid := (ReviewAssuranceState.mem_of_obligation? hobligation).2
          have hid' : invocation.invocationId = invocationId := by
            simpa using List.find?_some hinvocation
          obtain rfl := Option.some.inj h
          rw [← hid']
          exact .consumed obligation invocation (hid ▸ hobligation)
            (List.mem_of_find?_eq_some hinvocation) haccepted
      · cases h
  · cases h

theorem releaseTerminalCapacityLock_ok {obligationId code attemptId : String}
    (h : releaseTerminalCapacityLock s obligationId code attemptId = .ok t) :
    t = clearLock s := by
  unfold releaseTerminalCapacityLock at h
  split at h
  · split at h
    · exact (Except.ok.inj h).symm
    · cases h
  · cases h

/-! ### Operations -/

/-- The random identities an operation draws. -/
def LedgerOperation.draws : LedgerOperation → List String
  | .create input => [input.obligationId, input.attempt.attemptId]
  | .authorize input => [input.dispatchId]
  | .recordEvidence params => [params.invocationId]
  | .abandonAndRearm _ _ fresh => [fresh.attemptId]
  | .recoverTransport _ _ fresh => [fresh.attemptId]
  | .rearmIncoherentCapture _ fresh => [fresh.attemptId]
  | .reopenAfterAuthorResolution _ fresh => [fresh.attemptId]
  | _ => []

/-- What an operation draws at random is new to the state. -/
def FreshDraws (s : ReviewAssuranceState) (operation : LedgerOperation) : Prop :=
  ∀ id ∈ operation.draws, id ∉ s.identities

instance (operation : LedgerOperation) : Decidable (FreshDraws s operation) :=
  inferInstanceAs (Decidable (∀ id ∈ operation.draws, id ∉ s.identities))

/-- The child of a bound operation goes to an attempt it may go to. -/
def BindsAllowed (env : LedgerEnvironment)
    (canBind : ReviewAssuranceState → ReviewAttempt → Prop) (s : ReviewAssuranceState)
    (operation : LedgerOperation) : Prop :=
  ∀ input lineage, operation = .bindChild input →
    nativeReviewDispatchLineage s env input.stateInScope input.hostCallId none = .ok lineage →
    canBind s lineage.attempt

theorem LedgerOutcome.ofExcept_written {ε : Type} {result : Except ε ReviewAssuranceState}
    (h : LedgerOutcome.ofExcept result = .written t) : result = .ok t := by
  cases result with
  | ok next => rw [LedgerOutcome.written.inj h]
  | error e => cases h

theorem LedgerOutcome.ofEvidence_written {result : EvidenceRecordResult}
    (h : LedgerOutcome.ofEvidence result = .written t) : result = .fulfilled t := by
  cases result with
  | fulfilled next => rw [LedgerOutcome.written.inj h]
  | _ => cases h

theorem LedgerOutcome.ofEvidence_reused {result : EvidenceRecordResult}
    (h : LedgerOutcome.ofEvidence result = .reused t) : result = .reused t := by
  cases result with
  | reused next => rw [LedgerOutcome.reused.inj h]
  | _ => cases h

/-- Whatever an operation writes, it has built from the effects. -/
theorem performLedgerOperation_effects (hs : WellIdentified s) {operation : LedgerOperation}
    (hfresh : FreshDraws s operation) (hcan : BindsAllowed env canBind s operation)
    (h : performLedgerOperation env now s operation = .written t) :
    ReflTransGen (LedgerEffect env canBind now) s t := by
  cases operation with
  | create input =>
      obtain rfl := LedgerOutcome.written.inj h
      exact .single (.opened input (hfresh _ (List.mem_cons_self ..))
        (hfresh _ (List.mem_cons_of_mem _ (List.mem_cons_self ..))))
  | authorize input =>
      obtain ⟨hreleasable, rfl⟩ :=
        authorizeNativeReviewDispatch_ok (LedgerOutcome.ofExcept_written h)
      exact .single (.released input hreleasable (hfresh _ (List.mem_singleton_self _)))
  | bindChild input =>
      obtain ⟨lineage, hlineage, hown, rfl⟩ :=
        bindNativeReviewChild_ok (LedgerOutcome.ofExcept_written h)
      exact .single (.childBound lineage input.childSessionId
        (nativeReviewDispatchLineage_ok hlineage).1 hown (hcan input lineage rfl hlineage))
  | recordEvidence params =>
      exact .single (bindNativeSubagentFindings_fulfilled
        (hfresh _ (List.mem_singleton_self _)) (LedgerOutcome.ofEvidence_written h))
  | abandon hostCallId =>
      obtain rfl := LedgerOutcome.written.inj h
      exact abandonReviewDispatchByHostCall_effects hostCallId
  | abandonAndBlock hostCallId code identity => exact abandonAndBlockByHostCall_effects h
  | abandonAndRearm hostCallId childSessionId fresh =>
      obtain rfl := LedgerOutcome.written.inj h
      exact abandonAndRearmByHostCall_effects hs hostCallId childSessionId
        (hfresh _ (List.mem_singleton_self _))
  | recoverTransport obligationType closesMissing fresh =>
      obtain rfl := LedgerOutcome.written.inj h
      exact handleReviewTransportRecovery_effects hs obligationType closesMissing
        (hfresh _ (List.mem_singleton_self _))
  | rearmIncoherentCapture input fresh =>
      obtain ⟨target, htarget, rfl⟩ :=
        buildIncoherentCaptureRearm_ok (LedgerOutcome.ofExcept_written h)
      exact .single (.incoherent fresh target htarget (hfresh _ (List.mem_singleton_self _)))
  | reopenUnknownOutcome expected =>
      obtain ⟨obligation, hreopenable, rfl⟩ :=
        reopenUnknownOutcome_ok (LedgerOutcome.ofExcept_written h)
      exact .single (.reopened obligation hreopenable)
  | reopenAfterAuthorResolution unaddressedPriorFails fresh =>
      obtain rfl := LedgerOutcome.written.inj h
      exact reopenReviewAfterAuthorResolution_effects (hfresh _ (List.mem_singleton_self _))
  | releaseLock obligationId code attemptId =>
      obtain rfl := releaseTerminalCapacityLock_ok (LedgerOutcome.ofExcept_written h)
      exact .single .unlocked
  | consume obligationId invocationId =>
      rw [performLedgerOperation] at h
      split at h
      · next next hconsumed =>
          obtain rfl := LedgerOutcome.written.inj h
          exact .single (consumeWithEvidence_eq_some hconsumed)
      · cases h

theorem LedgerOutcome.ofExcept_ne_reused {ε : Type} {result : Except ε ReviewAssuranceState} :
    LedgerOutcome.ofExcept result ≠ .reused t := by
  cases result <;> exact nofun

theorem LedgerOutcome.ofBlock_ne_reused {outcome : AbandonAndBlockOutcome} :
    LedgerOutcome.ofBlock outcome ≠ .reused t := by
  cases outcome <;> exact nofun

/-- Only recorded evidence can be reused. -/
theorem performLedgerOperation_reused {operation : LedgerOperation}
    (h : performLedgerOperation env now s operation = .reused t) : LedgerIncident now s t := by
  cases operation with
  | recordEvidence params =>
      exact bindNativeSubagentFindings_reused (LedgerOutcome.ofEvidence_reused h)
  | abandonAndBlock hostCallId code identity => exact absurd h LedgerOutcome.ofBlock_ne_reused
  | consume obligationId invocationId =>
      rw [performLedgerOperation] at h
      split at h <;> cases h
  | create | abandon | abandonAndRearm | recoverTransport | reopenAfterAuthorResolution => cases h
  | _ => exact absurd h LedgerOutcome.ofExcept_ne_reused

end Chains

/-! ### Runs -/

/-- What the session does to its ledger: an operation, the rejection of a contaminated
capture, or the closure of an obligation whose completed capture is incoherent. -/
inductive LedgerAction
  | operation (operation : LedgerOperation)
  | rejectCapture (stateInScope : Bool) (hostCallId childSessionId code : String)
  | blockIncoherentCompletedCapture (obligationId : String)
deriving DecidableEq, Repr

/-- One write of the ledger at a time; a refused action writes nothing. -/
def ledgerStep (env : LedgerEnvironment) (s : ReviewAssuranceState) :
    Timestamp × LedgerAction → Option ReviewAssuranceState
  | (now, .operation operation) =>
      match performLedgerOperation env now s operation with
      | .written next => some next
      | .reused next => some next
      | .refused => none
  | (now, .rejectCapture stateInScope hostCallId childSessionId code) =>
      (rejectNativeReviewCapture s env stateInScope hostCallId childSessionId code now).toOption
  | (now, .blockIncoherentCompletedCapture obligationId) =>
      some (blockReviewOutcome s obligationId "SUBAGENT_VERDICT_FINDINGS_INCOHERENT" now)

/-- The random identities a step draws are new. -/
def LedgerAction.fresh (s : ReviewAssuranceState) : LedgerAction → Prop
  | .operation performed => FreshDraws s performed
  | _ => True

instance : DecidablePred (LedgerAction.fresh s)
  | .operation performed => inferInstanceAs (Decidable (FreshDraws s performed))
  | .rejectCapture .. => .isTrue trivial
  | .blockIncoherentCompletedCapture _ => .isTrue trivial

/-- An effect or an incident. -/
def LedgerMove (env : LedgerEnvironment)
    (canBind : ReviewAssuranceState → ReviewAttempt → Prop) (now : Timestamp)
    (s t : ReviewAssuranceState) : Prop :=
  LedgerEffect env canBind now s t ∨ LedgerIncident now s t

theorem concludeLiveRelease_dispatches (dispatch : ReviewDispatchRecord) :
    (concludeLiveRelease s dispatch now).dispatches =
      s.dispatches.map (abandonedRecord dispatch.hostCallId) := by
  unfold concludeLiveRelease
  dsimp only
  split <;> rfl

/-- Closing live releases of distinct host calls one after the other. -/
theorem concludeLiveReleases_incidents (dispatches : List ReviewDispatchRecord)
    (hcalls : (dispatches.map (·.hostCallId)).Nodup)
    (hlive : ∀ record ∈ dispatches, record ∈ s.dispatches ∧
      record.dispatchStatus = .authorized) :
    ReflTransGen (LedgerIncident now) s
      (dispatches.foldl (concludeLiveRelease · · now) s) := by
  induction dispatches generalizing s with
  | nil => exact .refl
  | cons dispatch rest ih =>
      rw [List.map_cons, List.nodup_cons] at hcalls
      obtain ⟨hrecord, hauthorized⟩ := hlive dispatch (List.mem_cons_self ..)
      refine (ReflTransGen.single (.liveConcluded dispatch hrecord hauthorized)).trans
        (ih hcalls.2 ?_)
      intro other hother
      obtain ⟨hmem, hlive⟩ := hlive other (List.mem_cons_of_mem _ hother)
      have hcall : other.hostCallId ≠ dispatch.hostCallId := fun heq =>
        hcalls.1 (heq ▸ List.mem_map_of_mem hother)
      have hkept : abandonedRecord dispatch.hostCallId other = other :=
        if_neg fun hsame => hcall hsame.1
      refine ⟨?_, hlive⟩
      rw [concludeLiveRelease_dispatches, ← hkept]
      exact List.mem_map_of_mem hmem

theorem blockReviewOutcome_incidents (hs : WellIdentified s) {obligationId code : String}
    (hcode : code ∈ incidentCodes) :
    ReflTransGen (LedgerIncident now) s (blockReviewOutcome s obligationId code now) := by
  refine (ReflTransGen.single (.forced obligationId code hcode)).trans
    (concludeLiveReleases_incidents _ ?_ ?_)
  · exact hs.hostCallIds.sublist (List.filter_sublist.map _)
  · intro dispatch hdispatch
    obtain ⟨hmem, hlive⟩ := List.mem_filter.1 hdispatch
    simp only [Bool.and_eq_true, beq_iff_eq] at hlive
    exact ⟨hmem, hlive.2⟩

/-- The binding an action asks for is allowed. -/
def LedgerAction.bindsAllowed (env : LedgerEnvironment)
    (canBind : ReviewAssuranceState → ReviewAttempt → Prop) (s : ReviewAssuranceState) :
    LedgerAction → Prop
  | .operation performed => BindsAllowed env canBind s performed
  | _ => True

/-- Every step is a chain of moves. -/
theorem ledgerStep_moves {canBind : ReviewAssuranceState → ReviewAttempt → Prop}
    (hs : WellIdentified s) {action : LedgerAction} (hfresh : action.fresh s)
    (hcan : action.bindsAllowed env canBind s) (hstep : ledgerStep env s (now, action) = some t) :
    ReflTransGen (LedgerMove env canBind now) s t := by
  cases action with
  | operation operation =>
      rw [ledgerStep] at hstep
      split at hstep
      · next next hwritten =>
          obtain rfl := Option.some.inj hstep
          exact ReflTransGen.mono (fun _ _ h => Or.inl h) _ _
            (performLedgerOperation_effects hs hfresh hcan hwritten)
      · next next hreused =>
          obtain rfl := Option.some.inj hstep
          exact .single (.inr (performLedgerOperation_reused hreused))
      · cases hstep
  | rejectCapture stateInScope hostCallId childSessionId code =>
      rw [ledgerStep] at hstep
      cases hresult : rejectNativeReviewCapture s env stateInScope hostCallId childSessionId code
          now with
      | error e =>
          rw [hresult] at hstep
          cases hstep
      | ok next =>
          rw [hresult] at hstep
          obtain rfl := Option.some.inj hstep
          exact .single (.inr (rejectNativeReviewCapture_ok hresult))
  | blockIncoherentCompletedCapture obligationId =>
      obtain rfl := Option.some.inj hstep
      exact ReflTransGen.mono (fun _ _ h => Or.inr h) _ _
        (blockReviewOutcome_incidents hs (List.mem_cons_of_mem _ (List.mem_singleton_self _)))

end GovernedRuntime.Review
