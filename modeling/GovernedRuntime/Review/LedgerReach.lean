/-
The records that moves of the review-assurance ledger append, and the ledgers a session
reaches: all of them are coherent.
-/
import GovernedRuntime.Library.Schedule
import GovernedRuntime.Review.LedgerInvariant

namespace GovernedRuntime.Review

open GovernedRuntime.Library (Reaches)
open GovernedRuntime.State (Timestamp)
open Relation (ReflTransGen)

variable {env : LedgerEnvironment} {now : Timestamp} {s t : ReviewAssuranceState}
variable {canBind : ReviewAssuranceState → ReviewAttempt → Prop}

theorem nodup_map_append_singleton {α β : Type} {key : α → β} {items : List α} {item : α}
    (hnodup : (items.map key).Nodup) (hnew : ∀ other ∈ items, key other ≠ key item) :
    ((items ++ [item]).map key).Nodup := by
  rw [List.map_append, List.map_singleton, List.nodup_append]
  refine ⟨hnodup, List.nodup_singleton _, ?_⟩
  intro a ha b hb
  obtain ⟨other, hother, rfl⟩ := List.mem_map.1 ha
  obtain rfl := List.mem_singleton.1 hb
  exact hnew other hother

/-- A trigger lasts as long as the releases it rests on. -/
theorem TriggerCoherent.mono {predecessor : ReviewAttempt} {trigger : RearmTrigger}
    (h : TriggerCoherent s predecessor trigger)
    (hkept : ∀ record ∈ s.dispatches, record ∈ t.dispatches) :
    TriggerCoherent t predecessor trigger := by
  obtain ⟨hstale, hunknown⟩ | ⟨hincoherent, hspent, record, hrecord, hid, hcompleted⟩ := h
  · obtain ⟨record, hrecord, hid, hstatus⟩ := hasUnknownOutcome_iff.1 hunknown
    exact .inl ⟨hstale, hasUnknownOutcome_iff.2 ⟨record, hkept record hrecord, hid, hstatus⟩⟩
  · exact .inr ⟨hincoherent, hspent, record, hkept record hrecord, hid, hcompleted⟩

/-! ### Releases -/

section Released

variable {input : AuthorizedReviewDispatchInput}

theorem mem_released {record : ReviewDispatchRecord} :
    record ∈ (appendReviewDispatch s (authorizedRecord input)).dispatches ↔
      record ∈ s.dispatches ∨ record = authorizedRecord input := by
  simp [appendReviewDispatch]

theorem coherent_released (hs : Coherent s) (hreleasable : Releasable s input)
    (hfresh : input.dispatchId ∉ s.identities) :
    Coherent (appendReviewDispatch s (authorizedRecord input)) where
  identity :=
    { hs.identity with
      dispatchIds := by
        refine nodup_map_append_singleton hs.identity.dispatchIds fun other hother heq => hfresh ?_
        have hid : input.dispatchId = other.dispatchId := heq.symm
        rw [hid]
        simp only [ReviewAssuranceState.identities, List.mem_append]
        exact .inl (.inr (List.mem_map_of_mem hother))
      hostCallIds := nodup_map_append_singleton hs.identity.hostCallIds hreleasable.newCall }
  attempt :=
    { hs.attempt with
      lineage := by
        intro attempt hattempt predecessorAttemptId trigger horigin
        obtain ⟨predecessor, hmem, hid, howned, hbefore, htrigger⟩ :=
          hs.attempt.lineage attempt hattempt predecessorAttemptId trigger horigin
        exact ⟨predecessor, hmem, hid, howned, hbefore,
          htrigger.mono fun record hrecord => mem_released.2 (.inl hrecord)⟩ }
  dispatch :=
    { released := by
        intro record hrecord
        obtain hrecord | rfl := mem_released.1 hrecord
        · exact hs.dispatch.released record hrecord
        · obtain ⟨attempt, hattempt, hid, howned, -, -⟩ := hreleasable.unbound
          exact ⟨attempt, hattempt, hid, howned⟩
      active := by
        intro record hrecord other hother hactive hactive' hattempt
        obtain hrecord | rfl := mem_released.1 hrecord
        · obtain hother | rfl := mem_released.1 hother
          · exact hs.dispatch.active record hrecord other hother hactive hactive' hattempt
          · exact absurd hattempt (hreleasable.unreleased record hrecord)
        · obtain hother | rfl := mem_released.1 hother
          · exact absurd hattempt.symm (hreleasable.unreleased other hother)
          · rfl
      times := by
        intro record hrecord
        obtain hrecord | rfl := mem_released.1 hrecord
        · exact hs.dispatch.times record hrecord
        · exact ⟨fun _ => rfl, by intro hopen; cases hopen⟩ }
  evidence :=
    { hs.evidence with
      dispatched := by
        intro invocation hinvocation
        obtain ⟨record, hrecord, hlinks⟩ := hs.evidence.dispatched invocation hinvocation
        exact ⟨record, mem_released.2 (.inl hrecord), hlinks⟩
      evidenced := by
        intro record hrecord hcompleted
        obtain hrecord | rfl := mem_released.1 hrecord
        · exact hs.evidence.evidenced record hrecord hcompleted
        · cases hcompleted }
  obligation := { hs.obligation with }
  lock := { hs.lock with }

end Released

/-! ### Attempts -/

/-- An attempt that may be appended to a ledger. -/
structure Mintable (s : ReviewAssuranceState) (attempt : ReviewAttempt) : Prop where
  fresh : ∀ other ∈ s.attempts, other.attemptId ≠ attempt.attemptId
  owned : ∃ obligation ∈ s.obligations, OwnedBy attempt obligation
  ordinal : attempt.ordinal = (s.line attempt.obligationId).length + 1
  created : attempt.status = .created
  lifecycle : LifecycleCoherent attempt
  initial : attempt.origin = .initial → s.line attempt.obligationId = []
  lineage : ∀ predecessorAttemptId trigger,
    attempt.origin = .dispatchRearm predecessorAttemptId trigger →
    ∃ predecessor ∈ s.attempts, predecessor.attemptId = predecessorAttemptId ∧
      predecessor.obligationId = attempt.obligationId ∧ TriggerCoherent s predecessor trigger

section Minted

variable {attempt : ReviewAttempt}

theorem mem_minted {other : ReviewAttempt} :
    other ∈ (appendReviewAttempt s attempt).attempts ↔ other ∈ s.attempts ∨ other = attempt := by
  simp [appendReviewAttempt]

theorem line_minted (obligationId : String) :
    (appendReviewAttempt s attempt).line obligationId =
      s.line obligationId ++ if attempt.obligationId = obligationId then [attempt] else [] := by
  rw [ReviewAssuranceState.line, appendReviewAttempt, List.filter_append]
  congr 1
  split
  · next howned => simp [howned]
  · next howned => simp [howned]

/-- Every attempt of the obligation comes before the one it mints. -/
theorem Mintable.later (hs : Coherent s) (h : Mintable s attempt) {other : ReviewAttempt}
    (hother : other ∈ s.attempts) (howned : other.obligationId = attempt.obligationId) :
    other.ordinal < attempt.ordinal := by
  have hbounded := hs.attempt.bounded other hother
  rw [howned] at hbounded
  rw [h.ordinal]
  exact Nat.lt_succ_of_le hbounded

theorem Mintable.attemptCoherent (hs : Coherent s) (h : Mintable s attempt) :
    AttemptCoherent (appendReviewAttempt s attempt) where
  owned := by
    intro other hother
    obtain hother | rfl := mem_minted.1 hother
    · exact hs.attempt.owned other hother
    · exact h.owned
  ordinals := by
    intro x hx y hy howned hordinal
    obtain hx_old | rfl := mem_minted.1 hx
    · obtain hy_old | rfl := mem_minted.1 hy
      · exact hs.attempt.ordinals x hx_old y hy_old howned hordinal
      · exact absurd hordinal (Nat.ne_of_lt (h.later hs hx_old howned))
    · obtain hy_old | rfl := mem_minted.1 hy
      · exact absurd hordinal.symm (Nat.ne_of_lt (h.later hs hy_old howned.symm))
      · rfl
  bounded := by
    intro other hother
    rw [line_minted, List.length_append]
    obtain hother | rfl := mem_minted.1 hother
    · exact Nat.le_trans (hs.attempt.bounded other hother) (Nat.le_add_right _ _)
    · exact Nat.le_of_eq (by rw [h.ordinal, if_pos rfl, List.length_singleton])
  initialFirst := by
    intro x hx y hy howned hinitial
    obtain hx_old | rfl := mem_minted.1 hx
    · obtain hy_old | rfl := mem_minted.1 hy
      · exact hs.attempt.initialFirst x hx_old y hy_old howned hinitial
      · exact Nat.le_of_lt (h.later hs hx_old howned)
    · obtain hy_old | rfl := mem_minted.1 hy
      · have hmem := ReviewAssuranceState.mem_line.2 ⟨hy_old, howned.symm⟩
        rw [h.initial hinitial] at hmem
        cases hmem
      · exact Nat.le_refl _
  lifecycle := by
    intro other hother
    obtain hother | rfl := mem_minted.1 hother
    · exact hs.attempt.lifecycle other hother
    · exact h.lifecycle
  lineage := by
    intro other hother predecessorAttemptId trigger horigin
    obtain hother | rfl := mem_minted.1 hother
    · obtain ⟨predecessor, hmem, hrest⟩ :=
        hs.attempt.lineage other hother predecessorAttemptId trigger horigin
      exact ⟨predecessor, mem_minted.2 (.inl hmem), hrest⟩
    · obtain ⟨predecessor, hmem, hid, howned, htrigger⟩ :=
        h.lineage predecessorAttemptId trigger horigin
      exact ⟨predecessor, mem_minted.2 (.inl hmem), hid, howned, h.later hs hmem howned, htrigger⟩

theorem Coherent.minted (hs : Coherent s) (h : Mintable s attempt) :
    Coherent (appendReviewAttempt s attempt) where
  identity :=
    { hs.identity with
      attemptIds := nodup_map_append_singleton hs.identity.attemptIds h.fresh }
  attempt := h.attemptCoherent hs
  dispatch :=
    { hs.dispatch with
      released := by
        intro record hrecord
        obtain ⟨other, hother, hrest⟩ := hs.dispatch.released record hrecord
        exact ⟨other, mem_minted.2 (.inl hother), hrest⟩ }
  evidence :=
    { hs.evidence with
      bound := by
        intro invocation hinvocation
        obtain ⟨other, hother, hrest⟩ := hs.evidence.bound invocation hinvocation
        exact ⟨other, mem_minted.2 (.inl hother), hrest⟩ }
  obligation :=
    { hs.obligation with
      boundSettled := by
        intro obligation hobligation other hother howned hbound
        obtain hother | rfl := mem_minted.1 hother
        · exact hs.obligation.boundSettled obligation hobligation other hother howned hbound
        · exact absurd (h.created.symm.trans hbound) nofun
      boundOnce := by
        intro x hx y hy howned hbound hbound'
        obtain hx_old | rfl := mem_minted.1 hx
        · obtain hy_old | rfl := mem_minted.1 hy
          · exact hs.obligation.boundOnce x hx_old y hy_old howned hbound hbound'
          · exact absurd (h.created.symm.trans hbound') nofun
        · exact absurd (h.created.symm.trans hbound) nofun }
  lock :=
    { hs.lock with
      unbound := by
        intro lock hlock hcode other hother howned
        obtain hother | rfl := mem_minted.1 hother
        · exact hs.lock.unbound lock hlock hcode other hother howned
        · rw [h.created]
          exact nofun }

/-- An attempt that gives way to a newer one of its obligation. -/
def staledFor (obligationId : String) (now : Timestamp) (attempt : ReviewAttempt) :
    ReviewAttempt :=
  if attempt.obligationId = obligationId ∧ attempt.status = .created then
    { attempt with status := .stale, completedAt := some now }
  else attempt

theorem staleObligationAttempts_minted (s : ReviewAssuranceState) (attempt : ReviewAttempt)
    (obligationId : String) (now : Timestamp)
    (hfresh : ∀ other ∈ s.attempts, other.attemptId ≠ attempt.attemptId) :
    staleObligationAttempts (appendReviewAttempt s attempt) obligationId attempt.attemptId now =
      appendReviewAttempt
        { s with attempts := s.attempts.map (staledFor obligationId now) } attempt := by
  have hold : ∀ other ∈ s.attempts,
      (if other.obligationId = obligationId ∧ other.attemptId ≠ attempt.attemptId ∧
          other.status = .created then
        { other with status := .stale, completedAt := some now }
      else other) = staledFor obligationId now other := by
    intro other hother
    simp [staledFor, hfresh other hother]
  simp only [staleObligationAttempts, appendReviewAttempt, List.map_append, List.map_singleton]
  rw [List.map_congr_left hold]
  simp

theorem adjusts_staled (s : ReviewAssuranceState) (obligationId : String) (now : Timestamp)
    (x : ReviewAttempt) : AdjustsAttempt s x (staledFor obligationId now x) := by
  unfold staledFor
  split
  · next hcreated =>
      exact .of_open rfl (lifecycle_stale x _ (by rw [hcreated.2]; nofun)) (.inl hcreated.2) nofun
        fun _ => rfl
  · exact .refl s x

theorem mintedAttempt_lifecycle {fresh : FreshAttempt} {obligation : ReviewObligation}
    {origin : ReviewAttemptOrigin} {repositoryDiscovery : ReviewAttemptDiscoveryContext} :
    LifecycleCoherent (mintedAttempt s fresh obligation now origin repositoryDiscovery) :=
  ⟨fun _ => rfl, fun h => absurd rfl h, fun _ => rfl⟩

theorem mintedAttempt_owned {fresh : FreshAttempt} {obligation : ReviewObligation}
    {origin : ReviewAttemptOrigin} {repositoryDiscovery : ReviewAttemptDiscoveryContext}
    (hdiscovery : repositoryDiscovery.isRepository = obligation.hasFrozenRepositoryAuthority) :
    OwnedBy (mintedAttempt s fresh obligation now origin repositoryDiscovery) obligation where
  id := rfl
  obligationType := rfl
  subject := rfl
  discovery := hdiscovery
  capability := by
    rw [mintedAttempt, createReviewAttempt]
    split
    · next hfrozen => exact hfrozen.symm
    · next hfrozen => simpa using hfrozen

end Minted

theorem fresh_attempt {attemptId : String} (hfresh : attemptId ∉ s.identities) :
    ∀ other ∈ s.attempts, other.attemptId ≠ attemptId := by
  rintro other hother rfl
  apply hfresh
  simp only [ReviewAssuranceState.identities, List.mem_append]
  exact .inl (.inl (.inl (.inl (.inr (List.mem_map_of_mem hother)))))

theorem fresh_obligation {obligationId : String} (hfresh : obligationId ∉ s.identities) :
    ∀ other ∈ s.obligations, other.obligationId ≠ obligationId := by
  rintro other hother rfl
  apply hfresh
  simp only [ReviewAssuranceState.identities, List.mem_append]
  exact .inl (.inl (.inl (.inl (.inl (.inl (.inl (.inl (List.mem_map_of_mem hother))))))))

/-! ### Obligations -/

theorem Coherent.obligationAppended (hs : Coherent s) {obligation : ReviewObligation}
    (hfresh : ∀ other ∈ s.obligations, other.obligationId ≠ obligation.obligationId)
    (hpending : obligation.status = .pending) (hunlinked : obligation.invocationId = none)
    (hprovenance : ProvenanceCoherent obligation) :
    Coherent { s with obligations := s.obligations ++ [obligation] } := by
  have hmem : ∀ {other}, other ∈ s.obligations ++ [obligation] ↔
      other ∈ s.obligations ∨ other = obligation := by simp
  refine
    { identity :=
        { hs.identity with
          obligationIds := nodup_map_append_singleton hs.identity.obligationIds hfresh }
      attempt := { hs.attempt with owned := ?_ }
      dispatch := { hs.dispatch with }
      evidence := { hs.evidence with }
      obligation := ⟨?_, ?_, ?_, ?_, ?_, hs.obligation.boundOnce⟩
      lock := { hs.lock with blocked := ?_ } }
  · intro attempt hattempt
    obtain ⟨owner, howner, howned⟩ := hs.attempt.owned attempt hattempt
    exact ⟨owner, hmem.2 (.inl howner), howned⟩
  · intro other hother
    obtain hother | rfl := hmem.1 hother
    · exact hs.obligation.provenance other hother
    · exact hprovenance
  · intro other hother invocationId hlinked
    obtain hother | rfl := hmem.1 hother
    · exact hs.obligation.linked other hother invocationId hlinked
    · exact absurd (hunlinked.symm.trans hlinked) nofun
  · intro other hother hstatus
    obtain hother | rfl := hmem.1 hother
    · exact hs.obligation.fulfilled other hother hstatus
    · rw [hpending] at hstatus
      obtain h | h := hstatus <;> cases h
  · intro other hother hstatus
    obtain hother | rfl := hmem.1 hother
    · exact hs.obligation.consumed other hother hstatus
    · exact absurd (hpending.symm.trans hstatus) nofun
  · intro other hother attempt hattempt howned hbound
    obtain hother | rfl := hmem.1 hother
    · exact hs.obligation.boundSettled other hother attempt hattempt howned hbound
    · obtain ⟨owner, howner, howns⟩ := hs.attempt.owned attempt hattempt
      exact absurd (howns.id.trans howned) (hfresh owner howner)
  · intro lock hlock
    obtain ⟨locked, hlocked, hrest⟩ := hs.lock.blocked lock hlock
    exact ⟨locked, hmem.2 (.inl hlocked), hrest⟩

section Opened

variable {input : ObligationInput}

/-- The ledger with the new obligation, before its first attempt is minted. -/
def withObligation (s : ReviewAssuranceState) (env : LedgerEnvironment) (input : ObligationInput)
    (now : Timestamp) : ReviewAssuranceState :=
  { s with obligations := s.obligations ++ [createReviewObligation env input now] }

def initialAttempt (s : ReviewAssuranceState) (env : LedgerEnvironment) (input : ObligationInput)
    (now : Timestamp) : ReviewAttempt :=
  mintedAttempt s input.attempt (createReviewObligation env input now) now .initial
    (resolvedDiscovery input)

theorem opened_unowned (hs : Coherent s) (hobligation : input.obligationId ∉ s.identities) :
    ∀ other ∈ s.attempts, other.obligationId ≠ input.obligationId := by
  intro other hother howned
  obtain ⟨owner, howner, howns⟩ := hs.attempt.owned other hother
  exact fresh_obligation hobligation owner howner (howns.id.trans howned)

/-- A new obligation has no attempt that its first one would stale. -/
theorem opened_eq (hs : Coherent s) (hobligation : input.obligationId ∉ s.identities)
    (hattempt : input.attempt.attemptId ∉ s.identities) :
    createObligationAndAttempt s env input now =
      appendReviewAttempt (withObligation s env input now) (initialAttempt s env input now) := by
  have hkept : s.attempts.map (staledFor input.obligationId now) = s.attempts := by
    refine (List.map_congr_left fun other hother => ?_).trans (List.map_id _)
    exact if_neg fun howned => opened_unowned hs hobligation other hother howned.1
  have hnew : ∀ other ∈ s.attempts, other.attemptId ≠ input.attempt.attemptId :=
    fresh_attempt hattempt
  have hminted := staleObligationAttempts_minted (withObligation s env input now)
    (initialAttempt s env input now) input.obligationId now hnew
  have hopened : { withObligation s env input now with attempts := s.attempts } =
      withObligation s env input now := rfl
  rw [show (withObligation s env input now).attempts = s.attempts from rfl, hkept,
    hopened] at hminted
  exact hminted

theorem coherent_opened (hs : Coherent s) (hobligation : input.obligationId ∉ s.identities)
    (hattempt : input.attempt.attemptId ∉ s.identities) :
    Coherent (createObligationAndAttempt s env input now) := by
  have happended : Coherent (withObligation s env input now) := by
    refine hs.obligationAppended (fresh_obligation hobligation) rfl rfl ?_
    intro _ persisted hpersisted
    exact (Option.some.inj hpersisted).symm
  have hempty : s.line input.obligationId = [] :=
    List.filter_eq_nil_iff.2 fun other hother => by
      simpa using opened_unowned hs hobligation other hother
  have hdiscovery : (resolvedDiscovery input).isRepository =
      (createReviewObligation env input now).hasFrozenRepositoryAuthority := by
    rw [resolvedDiscovery, ReviewObligation.hasFrozenRepositoryAuthority, createReviewObligation]
    by_cases hfrozen : input.repositoryAuthority.isSome = true
    · rw [if_pos hfrozen, hfrozen]
      rfl
    · rw [if_neg hfrozen, eq_false_of_ne_true hfrozen]
      rfl
  have hnew : ∀ other ∈ s.attempts, other.attemptId ≠ input.attempt.attemptId :=
    fresh_attempt hattempt
  rw [opened_eq hs hobligation hattempt]
  exact happended.minted
    { fresh := hnew
      owned := ⟨createReviewObligation env input now, by simp [withObligation],
        mintedAttempt_owned hdiscovery⟩
      ordinal := rfl
      created := rfl
      lifecycle := mintedAttempt_lifecycle
      initial := fun _ => hempty
      lineage := by intro _ _ horigin; cases horigin }

end Opened

/-! ### Re-arms -/

theorem dispatchRearmTrigger_eq_some {spent : ReviewAttempt} {trigger : RearmTrigger}
    (h : dispatchRearmTrigger s spent = some trigger) :
    (spent.status = .created ∨ spent.status = .stale) ∧
      ∃ record ∈ s.dispatches, record.attemptId = spent.attemptId ∧
        (record.dispatchStatus = .authorized ∨ record.dispatchStatus = .outcomeUnknown) := by
  unfold dispatchRearmTrigger at h
  dsimp only at h
  split at h
  · cases h
  · next hopen =>
      refine ⟨by tauto, ?_⟩
      split at h
      · next hlive =>
          obtain ⟨record, hmem, hstatus⟩ := List.any_eq_true.1 hlive.2
          obtain ⟨hrecord, hid⟩ := List.mem_filter.1 hmem
          exact ⟨record, hrecord, by simpa using hid, .inl (by simpa using hstatus)⟩
      · split at h
        · next hunknown =>
            obtain ⟨record, hmem, hstatus⟩ := List.any_eq_true.1 hunknown
            obtain ⟨hrecord, hid⟩ := List.mem_filter.1 hmem
            exact ⟨record, hrecord, by simpa using hid, .inr (by simpa using hstatus)⟩
        · cases h

/-- The release of an attempt, concluded by its re-arm. -/
def supersededRecord (attemptId : String) (record : ReviewDispatchRecord) :
    ReviewDispatchRecord :=
  if record.attemptId = attemptId ∧ record.dispatchStatus ≠ .outcomeUnknown then
    { record with dispatchStatus := .outcomeUnknown }
  else record

/-- The ledger before a re-arm appends its attempt. -/
def rearmPrepared (s : ReviewAssuranceState) (spent : ReviewAttempt) (obligationId : String)
    (now : Timestamp) : ReviewAssuranceState :=
  { s with
    attempts := s.attempts.map (staledFor obligationId now)
    dispatches := s.dispatches.map (supersededRecord spent.attemptId) }

theorem adjusts_superseded (hs : Coherent s) {spent : ReviewAttempt} (hspent : spent ∈ s.attempts)
    (hopen : spent.status = .created ∨ spent.status = .stale) {record : ReviewDispatchRecord}
    (hrecord : record ∈ s.dispatches) :
    AdjustsDispatch record (supersededRecord spent.attemptId record) := by
  unfold supersededRecord
  split
  · next hlive =>
      cases hstatus : record.dispatchStatus with
      | authorized => exact .inr ⟨hstatus, rfl⟩
      | completed =>
          have hbound := hs.completed_status hrecord hstatus hspent hlive.1.symm
          obtain h | h := hopen <;> rw [h] at hbound <;> obtain h | h := hbound <;> cases h
      | outcomeUnknown => exact absurd hstatus hlive.2
  · exact .inl rfl

theorem coherent_rearmPrepared (hs : Coherent s) {spent : ReviewAttempt}
    (hspent : spent ∈ s.attempts) (hopen : spent.status = .created ∨ spent.status = .stale)
    (obligationId : String) : Coherent (rearmPrepared s spent obligationId now) :=
  hs.attemptsAdjusted _ _ (fun x _ => adjusts_staled s obligationId now x)
    fun _ hrecord => adjusts_superseded hs hspent hopen hrecord

/-- The attempts of the obligation give way, the release is concluded and its successor
appended. -/
theorem rearmed_eq {fresh : FreshAttempt} {spent : ReviewAttempt} {obligation : ReviewObligation}
    {origin : ReviewAttemptOrigin} {repositoryDiscovery : ReviewAttemptDiscoveryContext}
    (hfresh : ∀ other ∈ s.attempts, other.attemptId ≠ fresh.attemptId) :
    markDispatchOutcomeUnknown
        (createAttemptForExistingObligation s fresh obligation now origin repositoryDiscovery)
        spent.attemptId =
      appendReviewAttempt (rearmPrepared s spent obligation.obligationId now)
        (mintedAttempt s fresh obligation now origin repositoryDiscovery) := by
  have hminted := staleObligationAttempts_minted s
    (mintedAttempt s fresh obligation now origin repositoryDiscovery) obligation.obligationId now
    hfresh
  rw [createAttemptForExistingObligation]
  exact congrArg (markDispatchOutcomeUnknown · spent.attemptId) hminted

theorem coherent_rearmed (hs : Coherent s) {fresh : FreshAttempt} {spent : ReviewAttempt}
    {obligation : ReviewObligation} {trigger : RearmTrigger}
    (hrearmable : Rearmable s spent obligation trigger) (hfresh : fresh.attemptId ∉ s.identities) :
    Coherent (markDispatchOutcomeUnknown
      (createAttemptForExistingObligation s fresh obligation now
        (.dispatchRearm spent.attemptId trigger) spent.repositoryDiscovery) spent.attemptId) := by
  obtain ⟨hopen, record, hrecord, hreleased, hstatus⟩ :=
    dispatchRearmTrigger_eq_some hrearmable.triggered
  obtain ⟨hobligation, hid⟩ := ReviewAssuranceState.mem_of_obligation? hrearmable.found
  have hprepared : Coherent (rearmPrepared s spent obligation.obligationId now) :=
    coherent_rearmPrepared hs hrearmable.recorded hopen _
  obtain ⟨owner, howner, howned⟩ := hs.attempt.owned spent hrearmable.recorded
  obtain rfl := hs.obligation_eq howner hobligation (howned.id.trans hid.symm)
  have hspent : staledFor owner.obligationId now spent ∈
      (rearmPrepared s spent owner.obligationId now).attempts :=
    List.mem_map_of_mem hrearmable.recorded
  have hsame := (adjusts_staled s owner.obligationId now spent).same
  have hstale : (staledFor owner.obligationId now spent).status = .stale := by
    rw [staledFor]
    split
    · rfl
    · next hcreated => exact hopen.resolve_left fun h => hcreated ⟨hid.symm, h⟩
  have hunknown : hasUnknownOutcome (rearmPrepared s spent owner.obligationId now)
      spent.attemptId = true := by
    refine hasUnknownOutcome_iff.2
      ⟨supersededRecord spent.attemptId record, List.mem_map_of_mem hrecord, ?_, ?_⟩
    · rw [(adjusts_superseded hs hrearmable.recorded hopen hrecord).keeps.same.2.1, hreleased]
    · rw [supersededRecord]
      split
      · rfl
      · next hkept => exact not_not.1 fun h => hkept ⟨hreleased, h⟩
  rw [rearmed_eq (fresh_attempt hfresh)]
  refine hprepared.minted
    { fresh := ?_
      owned := ⟨owner, howner, mintedAttempt_owned howned.discovery⟩
      ordinal := ?_
      created := rfl
      lifecycle := mintedAttempt_lifecycle
      initial := nofun
      lineage := ?_ }
  · intro other hother
    obtain ⟨x, hx, rfl⟩ := List.mem_map.1 hother
    rw [(adjusts_staled s owner.obligationId now x).same.1]
    exact fresh_attempt hfresh x hx
  · exact congrArg (· + 1) (map_line_length
      (fun x _ => (adjusts_staled s owner.obligationId now x).same.2.1) _).symm
  · intro predecessorAttemptId trigger' horigin
    obtain ⟨rfl, rfl⟩ := ReviewAttemptOrigin.dispatchRearm.inj horigin
    refine ⟨_, hspent, hsame.1, hsame.2.1.trans hid.symm, .inl ⟨hstale, ?_⟩⟩
    rw [hsame.1]
    exact hunknown

/-- The bound attempt of an incoherent capture is rejected and its obligation open again,
before the re-arm mints its attempt. -/
def incoherentReset (s : ReviewAssuranceState) (target : RearmTarget) (now : Timestamp) :
    ReviewAssuranceState :=
  updateObligation
    (updateAttemptStatus s target.attempt.attemptId .rejected now none (some .consistencyInvalid))
    target.obligation.obligationId fun _ => resetObligation target.obligation

section Incoherent

variable {target : RearmTarget}

theorem IncoherentTarget.owned (hs : Coherent s) (htarget : IncoherentTarget env s target) :
    target.attempt.obligationId = target.obligation.obligationId := by
  obtain ⟨hobligation, -⟩ := ReviewAssuranceState.mem_of_obligation? htarget.obligation
  obtain ⟨hattempt, hattemptId⟩ := ReviewAssuranceState.mem_of_attempt? htarget.attempt
  obtain ⟨bound, hbound, hid, howned, -⟩ := hs.evidence.bound _ htarget.invocation
  obtain ⟨linked, hlinked, hlinkedId, hlinkedOwned, -⟩ :=
    hs.obligation.linked _ hobligation _ htarget.linked
  obtain rfl := eq_of_nodup_map hs.identity.invocationIds hlinked htarget.invocation hlinkedId
  rw [hs.attempt_eq hattempt hbound (hattemptId.trans hid.symm), howned, hlinkedOwned]

theorem coherent_incoherentReset (hs : Coherent s) (htarget : IncoherentTarget env s target) :
    Coherent (incoherentReset s target now) := by
  obtain ⟨hobligation, -⟩ := ReviewAssuranceState.mem_of_obligation? htarget.obligation
  obtain ⟨hattempt, -⟩ := ReviewAssuranceState.mem_of_attempt? htarget.attempt
  have howned := htarget.owned hs
  let update : RecordUpdate :=
    { keepRecords with
      obligation := fun item =>
        if item.obligationId = target.obligation.obligationId then
          resetObligation target.obligation
        else item
      attempt := fun item =>
        if item.attemptId = target.attempt.attemptId then
          item.withStatus .rejected now none (some .consistencyInvalid)
        else item }
  have hattempts : ∀ x ∈ s.attempts, AdjustsAttempt s x (update.attempt x) := by
    intro x hx
    dsimp only [update]
    split
    · next hid =>
        obtain rfl := hs.attempt_eq hx hattempt hid
        refine ⟨⟨rfl, fun _ => ⟨nofun, fun _ => rfl, fun h => absurd rfl h⟩, fun h => ?_,
          fun _ => rfl⟩, nofun, fun _ _ => ⟨.inr rfl, rfl⟩⟩
        exact absurd (htarget.bound.symm.trans h) nofun
    · exact .refl s x
  have hadjusts : Adjusts update s := by
    refine ⟨fun x hx => ?_, fun _ _ => .inl rfl, hattempts, fun _ _ => .inl rfl,
      fun x hx attempt hmem howns hbound => ?_⟩
    · dsimp only [update]
      split
      · next hid =>
          obtain rfl := hs.obligation_eq hx hobligation hid
          refine ⟨rfl, .inr rfl, ?_, nofun⟩
          rintro (h | h) <;> cases h
      · exact .refl hs.obligation hx
    · have hbefore := (hattempts attempt hmem).bound hbound
      dsimp only [update]
      split
      · next hid =>
          obtain rfl := hs.obligation.boundOnce attempt hmem _ hattempt
            (howns.trans (hid.trans howned.symm)) hbefore htarget.bound
          dsimp only [update] at hbound
          rw [if_pos rfl] at hbound
          cases hbound
      · exact hs.obligation.boundSettled x hx attempt hmem howns hbefore
  have hlock : LockCoherent (update.apply s.capacityLock s) := by
    refine hadjusts.lockCoherent hs.lock fun _ _ x hx _ hblocked => ?_
    dsimp only [update]
    split
    · next hid =>
        obtain rfl := hs.obligation_eq hx hobligation hid
        exact absurd (htarget.fulfilled.symm.trans hblocked) nofun
    · exact hblocked
  have hcoherent := hadjusts.coherent hs hlock
  simpa [update, keepRecords, RecordUpdate.apply, incoherentReset, updateObligation,
    updateAttemptStatus] using hcoherent

/-- The rejected attempt, as its re-arm leaves it. -/
theorem mem_incoherentReset (htarget : IncoherentTarget env s target) (now : Timestamp) :
    target.attempt.withStatus .rejected now none (some .consistencyInvalid) ∈
      (incoherentReset s target now).attempts := by
  have hmem := List.mem_map_of_mem (f := fun item : ReviewAttempt =>
    if item.attemptId = target.attempt.attemptId then
      item.withStatus .rejected now none (some .consistencyInvalid)
    else item) (ReviewAssuranceState.mem_of_attempt? htarget.attempt).1
  rw [if_pos rfl] at hmem
  exact hmem

/-- The ledger before the re-arm of an incoherent capture appends its attempt. -/
def incoherentPrepared (s : ReviewAssuranceState) (target : RearmTarget) (now : Timestamp) :
    ReviewAssuranceState :=
  { incoherentReset s target now with
    attempts := (incoherentReset s target now).attempts.map
      (staledFor target.obligation.obligationId now) }

def incoherentSuccessor (s : ReviewAssuranceState) (target : RearmTarget) (fresh : FreshAttempt)
    (now : Timestamp) : ReviewAttempt :=
  mintedAttempt (incoherentReset s target now) fresh (resetObligation target.obligation) now
    (.dispatchRearm target.attempt.attemptId .spent) target.attempt.repositoryDiscovery

theorem incoherentRearm_eq {fresh : FreshAttempt} (hfresh : fresh.attemptId ∉ s.identities) :
    incoherentRearm s target fresh now =
      appendReviewAttempt (incoherentPrepared s target now)
        (incoherentSuccessor s target fresh now) := by
  refine staleObligationAttempts_minted (incoherentReset s target now)
    (incoherentSuccessor s target fresh now) target.obligation.obligationId now ?_
  intro other hother
  obtain ⟨x, hx, rfl⟩ := List.mem_map.1 hother
  split
  · exact fresh_attempt hfresh x hx
  · exact fresh_attempt hfresh x hx

theorem coherent_incoherentPrepared (hs : Coherent s) (htarget : IncoherentTarget env s target) :
    Coherent (incoherentPrepared s target now) := by
  have hreset : Coherent (incoherentReset s target now) := coherent_incoherentReset hs htarget
  have hcoherent := hreset.attemptsAdjusted (staledFor target.obligation.obligationId now) id
    (fun x _ => adjusts_staled _ _ _ x) fun _ _ => .inl rfl
  rw [List.map_id] at hcoherent
  exact hcoherent

theorem mem_incoherentPrepared (htarget : IncoherentTarget env s target) (now : Timestamp) :
    target.attempt.withStatus .rejected now none (some .consistencyInvalid) ∈
        (incoherentPrepared s target now).attempts ∧
      resetObligation target.obligation ∈ (incoherentPrepared s target now).obligations := by
  constructor
  · have hmem := List.mem_map_of_mem (f := staledFor target.obligation.obligationId now)
      (mem_incoherentReset htarget now)
    rw [staledFor, if_neg (by simp [ReviewAttempt.withStatus])] at hmem
    exact hmem
  · have hmem := List.mem_map_of_mem (f := fun item : ReviewObligation =>
      if item.obligationId = target.obligation.obligationId then
        resetObligation target.obligation
      else item) (ReviewAssuranceState.mem_of_obligation? htarget.obligation).1
    rw [if_pos rfl] at hmem
    exact hmem

theorem coherent_incoherent (hs : Coherent s) (htarget : IncoherentTarget env s target)
    {fresh : FreshAttempt} (hfresh : fresh.attemptId ∉ s.identities) :
    Coherent (incoherentRearm s target fresh now) := by
  have hprepared : Coherent (incoherentPrepared s target now) :=
    coherent_incoherentPrepared hs htarget
  obtain ⟨hrejected, hreset⟩ := mem_incoherentPrepared htarget now
  obtain ⟨owner, howner, howned⟩ := hprepared.attempt.owned _ hrejected
  obtain rfl := hprepared.obligation_eq howner hreset (howned.id.trans (htarget.owned hs))
  obtain ⟨record, hrecord, hlinks, hcompleted⟩ := hs.evidence.dispatched _ htarget.invocation
  simp only [dispatchLinksInvocation, Bool.and_eq_true, beq_iff_eq] at hlinks
  obtain ⟨-, hattemptId⟩ := ReviewAssuranceState.mem_of_attempt? htarget.attempt
  rw [incoherentRearm_eq hfresh]
  refine hprepared.minted
    { fresh := ?_
      owned := ⟨_, hreset, mintedAttempt_owned howned.discovery⟩
      ordinal := congrArg (· + 1) (map_line_length
        (fun x _ => (adjusts_staled s target.obligation.obligationId now x).same.2.1) _).symm
      created := rfl
      lifecycle := mintedAttempt_lifecycle
      initial := by intro horigin; cases horigin
      lineage := ?_ }
  · intro other hother
    obtain ⟨y, hy, rfl⟩ := List.mem_map.1 hother
    obtain ⟨x, hx, rfl⟩ := List.mem_map.1 hy
    rw [(adjusts_staled s target.obligation.obligationId now _).same.1]
    split
    · exact fresh_attempt hfresh x hx
    · exact fresh_attempt hfresh x hx
  · intro predecessorAttemptId trigger horigin
    obtain ⟨rfl, rfl⟩ := ReviewAttemptOrigin.dispatchRearm.inj horigin
    exact ⟨_, hrejected, rfl, htarget.owned hs, .inr ⟨rfl, rfl, record, hrecord,
      hlinks.1.1.1.trans hattemptId.symm, hcompleted⟩⟩

end Incoherent

/-! ### Evidence -/

section Evidence

variable {params : EvidenceParams} {obligation : ReviewObligation} {attempt : ReviewAttempt}

/-- What recorded evidence makes of its open obligation. -/
structure Settles (params : EvidenceParams) (x y : ReviewObligation) : Prop where
  core : y.core = x.core
  linked : y.invocationId = some params.invocationId
  fulfilled : y.fulfilledAt.isSome = true
  settled : SettledStatus y
  consumed : y.status = .consumed → y.consumedAt.isSome = true
  unable : y.status = .consumed →
    params.unableToReview = true ∧ params.obligationType = .review

/-- The release that evidence completes. -/
def completedRecord (params : EvidenceParams) (record : ReviewDispatchRecord) :
    ReviewDispatchRecord :=
  if record.hostCallId = params.hostCallId ∧ record.dispatchStatus = .authorized then
    { record with dispatchStatus := .completed, completedAt := some params.fulfilledAt }
  else record

/-- The attempt that evidence binds. -/
def boundAttempt (params : EvidenceParams) (attempt : ReviewAttempt) : ReviewAttempt :=
  if attempt.attemptId = params.attemptId then
    attempt.withStatus .bound params.fulfilledAt (some params.childSessionId) none
  else attempt

/-- What recording evidence does to the records that are there. -/
def evidenceUpdate (params : EvidenceParams) (settle : ReviewObligation → ReviewObligation) :
    RecordUpdate where
  obligation item := if item.obligationId = params.obligationId then settle item else item
  invocation := id
  attempt := boundAttempt params
  dispatch := completedRecord params

theorem evidenceUpdate_settled {settle : ReviewObligation → ReviewObligation}
    {x : ReviewObligation} (howned : x.obligationId = params.obligationId) :
    (evidenceUpdate params settle).obligation x = settle x := if_pos howned

theorem evidenceUpdate_other {settle : ReviewObligation → ReviewObligation}
    {x : ReviewObligation} (hother : x.obligationId ≠ params.obligationId) :
    (evidenceUpdate params settle).obligation x = x := if_neg hother

/-- The ledger with the evidence in it. -/
def withEvidence (s : ReviewAssuranceState) (params : EvidenceParams)
    (settle : ReviewObligation → ReviewObligation) (consumer : Option String) :
    ReviewAssuranceState where
  obligations := s.obligations.map (evidenceUpdate params settle).obligation
  invocations :=
    s.invocations ++ [{ buildInvocationEvidence params with consumedByObligationId := consumer }]
  attempts := s.attempts.map (boundAttempt params)
  dispatches := s.dispatches.map (completedRecord params)
  capacityLock := s.capacityLock

theorem fresh_invocation {invocationId : String} (hfresh : invocationId ∉ s.identities) :
    (∀ other ∈ s.obligations, other.invocationId ≠ some invocationId) ∧
      ∀ other ∈ s.invocations, other.invocationId ≠ invocationId := by
  simp only [ReviewAssuranceState.identities, List.mem_append, not_or] at hfresh
  obtain ⟨⟨⟨⟨⟨⟨⟨⟨-, hlinked⟩, hinvocations⟩, -⟩, -⟩, -⟩, -⟩, -⟩, -⟩ := hfresh
  refine ⟨fun other hother hid => hlinked (List.mem_filterMap.2 ⟨other, hother, hid⟩), ?_⟩
  rintro other hother rfl
  exact hinvocations (List.mem_map_of_mem hother)

theorem fulfillObligation_ok (hobligation : s.obligation? params.obligationId = some obligation)
    (hunlinked : obligation.invocationId ≠ some params.invocationId)
    (h : fulfillObligation (bindEvidence s params) params.obligationId params.invocationId now =
      .ok t) :
    obligation.status = .pending ∧
      t = withEvidence s params
        (fun item => { item with
          status := .fulfilled
          invocationId := some params.invocationId
          fulfilledAt := some now }) none := by
  have hfound : (bindEvidence s params).obligation? params.obligationId = some obligation :=
    hobligation
  rw [fulfillObligation, hfound] at h
  dsimp only at h
  split at h
  · split at h
    · next hlinked => exact absurd hlinked.2 hunlinked
    · cases h
  · next hpending =>
      exact ⟨not_not.1 hpending, (Except.ok.inj h).symm⟩

theorem blockObligationWithInvocation_ok {code : String}
    (hobligation : s.obligation? params.obligationId = some obligation)
    (hunlinked : obligation.invocationId ≠ some params.invocationId)
    (h : blockObligationWithInvocation (bindEvidence s params) params.obligationId
      params.invocationId code now = .ok t) :
    obligation.status = .pending ∧
      t = withEvidence s params
        (fun item => { item with
          status := .blocked
          blockedCode := some code
          invocationId := some params.invocationId
          fulfilledAt := some now }) none := by
  have hfound : (bindEvidence s params).obligation? params.obligationId = some obligation :=
    hobligation
  rw [blockObligationWithInvocation, hfound] at h
  dsimp only at h
  split at h
  · split at h
    · next hlinked => exact absurd hlinked.2.2 hunlinked
    · cases h
  · next hpending =>
      exact ⟨not_not.1 hpending, (Except.ok.inj h).symm⟩

/-- Evidence consumed in the write that records it. -/
theorem consume_withEvidence {settle : ReviewObligation → ReviewObligation}
    (hid : ∀ x, (settle x).obligationId = x.obligationId)
    (hunused : ∀ other ∈ s.invocations, other.invocationId ≠ params.invocationId) :
    consumeReviewObligation (withEvidence s params settle none) params.obligationId
        (some params.invocationId) now =
      withEvidence s params
        (fun item => { settle item with status := .consumed, consumedAt := some now })
        (some params.obligationId) := by
  have hobligations : ∀ x ∈ s.obligations,
      (if ((evidenceUpdate params settle).obligation x).obligationId = params.obligationId then
        { (evidenceUpdate params settle).obligation x with
          status := .consumed
          consumedAt := some now }
      else (evidenceUpdate params settle).obligation x) =
        (evidenceUpdate params fun item =>
          { settle item with status := .consumed, consumedAt := some now }).obligation x := by
    intro x _
    by_cases howned : x.obligationId = params.obligationId
    · simp [evidenceUpdate, howned, hid]
    · simp [evidenceUpdate, howned]
  have hinvocations : ∀ x ∈ s.invocations,
      (if some params.invocationId = some x.invocationId then
        { x with consumedByObligationId := some params.obligationId }
      else x) = x := by
    intro x hx
    exact if_neg fun h => hunused x hx (Option.some.inj h).symm
  rw [consumeReviewObligation, withEvidence, List.map_map, List.map_append,
    List.map_congr_left hinvocations, List.map_id']
  rw [withEvidence, ← List.map_congr_left hobligations]
  simp [buildInvocationEvidence]

/-- What recorded evidence leaves: its pending obligation settled by it. -/
theorem settleBoundEvidence_ok (hobligation : s.obligation? params.obligationId = some obligation)
    (hfresh : params.invocationId ∉ s.identities)
    (h : settleBoundEvidence (bindEvidence s params) params now = .ok t) :
    obligation.status = .pending ∧
      ∃ settle consumer, (∀ x, Settles params x (settle x)) ∧
        (∀ obligationId, consumer = some obligationId → obligationId = params.obligationId) ∧
        t = withEvidence s params settle consumer := by
  obtain ⟨hlinked, hunused⟩ := fresh_invocation hfresh
  have hunlinked := hlinked obligation (ReviewAssuranceState.mem_of_obligation? hobligation).1
  have hfulfilled : ∀ {u}, fulfillObligation (bindEvidence s params) params.obligationId
      params.invocationId now = .ok u → obligation.status = .pending ∧
        ∃ settle, (∀ x, Settles params x (settle x)) ∧
          u = withEvidence s params settle none := by
    intro u hu
    obtain ⟨hpending, rfl⟩ := fulfillObligation_ok hobligation hunlinked hu
    refine ⟨hpending, _, fun x => ?_, rfl⟩
    exact ⟨rfl, rfl, rfl, .inl rfl, nofun, nofun⟩
  unfold settleBoundEvidence at h
  split at h
  · obtain ⟨hpending, settle, hsettle, rfl⟩ := hfulfilled h
    exact ⟨hpending, settle, none, hsettle, nofun, rfl⟩
  · next hunable =>
      split at h
      · next htype =>
          simp only [bind, Except.bind] at h
          split at h
          · cases h
          · next fulfilled hu =>
              obtain ⟨hpending, settle, hsettle, rfl⟩ := hfulfilled hu
              refine ⟨hpending, _, _, fun x => ?_, ?_, (Except.ok.inj h).symm.trans
                (consume_withEvidence (fun x => (ReviewObligation.same (hsettle x).core).1)
                  hunused)⟩
              · exact ⟨(hsettle x).core, (hsettle x).linked, (hsettle x).fulfilled,
                  .inr (.inl rfl), fun _ => rfl, fun _ => ⟨by simpa using hunable, htype⟩⟩
              · intro obligationId hconsumer
                exact (Option.some.inj hconsumer).symm
      · obtain ⟨hpending, settle, hsettle, rfl⟩ := hfulfilled h
        exact ⟨hpending, settle, none, hsettle, nofun, rfl⟩
      · obtain ⟨hpending, rfl⟩ := blockObligationWithInvocation_ok hobligation hunlinked h
        refine ⟨hpending, _, none, fun x => ?_, nofun, rfl⟩
        exact ⟨rfl, rfl, rfl, .inr (.inr ⟨rfl, _, rfl, by decide⟩), nofun, nofun⟩

/-- What recording evidence starts from. -/
structure RecordsEvidence (s : ReviewAssuranceState) (params : EvidenceParams)
    (obligation : ReviewObligation) (attempt : ReviewAttempt) (record : ReviewDispatchRecord) :
    Prop where
  foundObligation : obligation ∈ s.obligations
  obligationId : obligation.obligationId = params.obligationId
  sameType : obligation.obligationType = params.obligationType
  pending : obligation.status = .pending
  foundAttempt : attempt ∈ s.attempts
  attemptId : attempt.attemptId = params.attemptId
  owned : attempt.obligationId = params.obligationId
  created : attempt.status = .created
  child : attempt.childSessionId = some params.childSessionId
  foundRecord : record ∈ s.dispatches
  hostCall : record.hostCallId = params.hostCallId
  released : record.attemptId = params.attemptId
  releasedFor : record.obligationId = params.obligationId
  authorized : record.dispatchStatus = .authorized
  prompt : record.canonicalPromptDigest = params.promptHash
  capture : params.capture = ⟨params.childSessionId, params.obligationId, params.attemptId⟩
  nativeCall : params.nativeCallId = params.hostCallId

theorem Recordable.records (hs : Coherent s) (h : Recordable s params obligation attempt)
    (hpending : obligation.status = .pending) :
    ∃ record, RecordsEvidence s params obligation attempt record := by
  obtain ⟨hobligation, hid⟩ := ReviewAssuranceState.mem_of_obligation? h.foundObligation
  obtain ⟨hattempt, hattemptId⟩ := ReviewAssuranceState.mem_of_attempt? h.foundAttempt
  obtain ⟨record, hrecord, hcall, hreleased, hauthorized⟩ := h.released
  obtain ⟨prompted, hfound, hprompt⟩ := h.prompt
  obtain rfl : prompted = record :=
    eq_of_nodup_map hs.identity.hostCallIds (List.mem_of_find?_eq_some hfound) hrecord
      (((by simpa using List.find?_some hfound) : prompted.hostCallId = _).trans hcall.symm)
  obtain ⟨owner, howner, hownerId, howned⟩ := hs.dispatch.released prompted hrecord
  obtain rfl := hs.attempt_eq howner hattempt (hownerId.trans (hreleased.trans hattemptId.symm))
  exact ⟨prompted,
    { foundObligation := hobligation
      obligationId := hid
      sameType := h.sameType.symm
      pending := hpending
      foundAttempt := hattempt
      attemptId := hattemptId
      owned := h.owned
      created := h.created
      child := h.child
      foundRecord := hrecord
      hostCall := hcall
      released := hreleased
      releasedFor := howned.symm.trans h.owned
      authorized := hauthorized
      prompt := hprompt.symm
      capture := h.capture
      nativeCall := h.nativeCall }⟩

namespace RecordsEvidence

variable {record : ReviewDispatchRecord} {settle : ReviewObligation → ReviewObligation}
  {consumer : Option String}

theorem boundAttempt_cases (hs : Coherent s) (h : RecordsEvidence s params obligation attempt record)
    {x : ReviewAttempt} (hx : x ∈ s.attempts) :
    x = attempt ∧ boundAttempt params x =
        { x with status := .bound, completedAt := some params.fulfilledAt } ∨
      x.attemptId ≠ params.attemptId ∧ boundAttempt params x = x := by
  unfold boundAttempt
  split
  · next hid =>
      obtain rfl := hs.attempt_eq hx h.foundAttempt (hid.trans h.attemptId.symm)
      refine .inl ⟨rfl, ?_⟩
      simp [ReviewAttempt.withStatus, h.child]
  · next hid => exact .inr ⟨hid, rfl⟩

theorem completedRecord_cases (hs : Coherent s)
    (h : RecordsEvidence s params obligation attempt record) {x : ReviewDispatchRecord}
    (hx : x ∈ s.dispatches) :
    x = record ∧ completedRecord params x =
        { x with dispatchStatus := .completed, completedAt := some params.fulfilledAt } ∨
      x ≠ record ∧ completedRecord params x = x := by
  unfold completedRecord
  split
  · next hlive =>
      exact .inl ⟨eq_of_nodup_map hs.identity.hostCallIds hx h.foundRecord
        (hlive.1.trans h.hostCall.symm), rfl⟩
  · next hlive =>
      refine .inr ⟨?_, rfl⟩
      rintro rfl
      exact hlive ⟨h.hostCall, h.authorized⟩

theorem keeps (hs : Coherent s) (h : RecordsEvidence s params obligation attempt record)
    (hsettle : ∀ x, Settles params x (settle x)) :
    Keeps (evidenceUpdate params settle) s where
  obligation := by
    intro x _
    dsimp only [evidenceUpdate]
    split
    · exact (hsettle x).core
    · rfl
  invocation _ _ := rfl
  attempt := by
    intro x hx
    dsimp only [evidenceUpdate]
    obtain ⟨rfl, hbound⟩ | ⟨-, hkept⟩ := h.boundAttempt_cases hs hx
    · rw [hbound]
      refine ⟨rfl, fun hlifecycle => ⟨(by intro hcreated; cases hcreated), fun _ => rfl, fun _ => ?_⟩, fun hstale => ?_,
        fun hincoherent => ?_⟩
      · exact hlifecycle.unrejected (by rw [h.created]; intro heq; cases heq)
      · cases h.created.symm.trans hstale
      · simp [ReviewAttempt.incoherentCapture, h.created] at hincoherent
    · rw [hkept]
      exact ⟨rfl, id, id, id⟩
  dispatch := by
    intro x hx
    dsimp only [evidenceUpdate]
    obtain ⟨rfl, hcompleted⟩ | ⟨-, hkept⟩ := h.completedRecord_cases hs hx
    · rw [hcompleted]
      exact ⟨rfl, fun _ => ⟨(by intro hopen; cases hopen), fun _ => rfl⟩, fun _ => rfl,
        fun hunknown => by cases h.authorized.symm.trans hunknown⟩
    · rw [hkept]
      exact ⟨rfl, id, id, id⟩

theorem mem_evidence {invocation : ReviewInvocationEvidence} :
    invocation ∈ (withEvidence s params settle consumer).invocations ↔
      invocation ∈ s.invocations ∨
        invocation = { buildInvocationEvidence params with consumedByObligationId := consumer } := by
  simp [withEvidence]

theorem unevidenced (hs : Coherent s) (h : RecordsEvidence s params obligation attempt record)
    {invocation : ReviewInvocationEvidence} (hinvocation : invocation ∈ s.invocations) :
    invocation.attemptId ≠ params.attemptId := by
  rw [← h.released]
  exact hs.no_evidence_of_authorized h.foundRecord h.authorized hinvocation

theorem evidenceCoherent (hs : Coherent s) (h : RecordsEvidence s params obligation attempt record)
    (hconsumer : ∀ obligationId, consumer = some obligationId →
      obligationId = params.obligationId) :
    EvidenceCoherent (withEvidence s params settle consumer) where
  capture := by
    intro invocation hinvocation
    obtain hold | rfl := mem_evidence.1 hinvocation
    · exact hs.evidence.capture invocation hold
    · exact h.capture
  bound := by
    intro invocation hinvocation
    obtain hold | rfl := mem_evidence.1 hinvocation
    · obtain ⟨bound, hbound, hid, hrest⟩ := hs.evidence.bound invocation hold
      refine ⟨boundAttempt params bound, List.mem_map_of_mem hbound, ?_⟩
      obtain ⟨rfl, -⟩ | ⟨-, hkept⟩ := h.boundAttempt_cases hs hbound
      · exact absurd (hid.symm.trans h.attemptId) (h.unevidenced hs hold)
      · rw [hkept]
        exact ⟨hid, hrest⟩
    · refine ⟨boundAttempt params attempt, List.mem_map_of_mem h.foundAttempt, ?_⟩
      obtain ⟨-, hbound⟩ | ⟨hother, -⟩ := h.boundAttempt_cases hs h.foundAttempt
      · obtain ⟨owner, howner, howned⟩ := hs.attempt.owned attempt h.foundAttempt
        obtain rfl := hs.obligation_eq howner h.foundObligation
          (howned.id.trans (h.owned.trans h.obligationId.symm))
        rw [hbound]
        exact ⟨h.attemptId, h.owned, howned.obligationType.trans h.sameType, .inl rfl, h.child⟩
      · exact absurd h.attemptId hother
  dispatched := by
    intro invocation hinvocation
    obtain hold | rfl := mem_evidence.1 hinvocation
    · obtain ⟨linked, hlinked, hlinks, hcompleted⟩ := hs.evidence.dispatched invocation hold
      refine ⟨completedRecord params linked, List.mem_map_of_mem hlinked, ?_⟩
      obtain ⟨rfl, -⟩ | ⟨-, hkept⟩ := h.completedRecord_cases hs hlinked
      · exact absurd (h.authorized.symm.trans hcompleted) nofun
      · rw [hkept]
        exact ⟨hlinks, hcompleted⟩
    · refine ⟨completedRecord params record, List.mem_map_of_mem h.foundRecord, ?_⟩
      obtain ⟨-, hcompleted⟩ | ⟨hother, -⟩ := h.completedRecord_cases hs h.foundRecord
      · rw [hcompleted]
        simp [dispatchLinksInvocation, buildInvocationEvidence,
          ReviewInvocationEvidence.releaseCall, h.released, h.releasedFor, h.hostCall,
          h.nativeCall, h.prompt]
      · exact absurd rfl hother
  evidenced := by
    intro y hy hcompleted
    obtain ⟨x, hx, rfl⟩ := List.mem_map.1 hy
    obtain ⟨rfl, hnow⟩ | ⟨-, hkept⟩ := h.completedRecord_cases hs hx
    · refine ⟨_, mem_evidence.2 (.inr rfl), ?_⟩
      rw [hnow]
      simp [dispatchLinksInvocation, buildInvocationEvidence,
        ReviewInvocationEvidence.releaseCall, h.released, h.releasedFor, h.hostCall,
        h.nativeCall, h.prompt]
    · rw [hkept] at hcompleted ⊢
      obtain ⟨invocation, hinvocation, hlinks⟩ := hs.evidence.evidenced x hx hcompleted
      exact ⟨invocation, mem_evidence.2 (.inl hinvocation), hlinks⟩
  single := nodup_map_append_singleton hs.evidence.single fun _ hother => h.unevidenced hs hother
  consumer := by
    intro invocation hinvocation obligationId hconsumed
    obtain hold | rfl := mem_evidence.1 hinvocation
    · exact hs.evidence.consumer invocation hold obligationId hconsumed
    · exact hconsumer obligationId hconsumed

/-- Nothing else is bound for a pending obligation. -/
theorem bound_eq (hs : Coherent s) (h : RecordsEvidence s params obligation attempt record)
    {x : ReviewAttempt} (hx : x ∈ s.attempts) (howned : x.obligationId = params.obligationId)
    (hbound : (boundAttempt params x).status = .bound) : x = attempt := by
  obtain ⟨heq, -⟩ | ⟨-, hkept⟩ := h.boundAttempt_cases hs hx
  · exact heq
  · rw [hkept] at hbound
    have hsettled := hs.obligation.boundSettled obligation h.foundObligation x hx
      (howned.trans h.obligationId.symm) hbound
    rw [SettledStatus, h.pending] at hsettled
    obtain h | h | ⟨h, -⟩ := hsettled <;> cases h

theorem boundAttempt_obligationId (hs : Coherent s)
    (h : RecordsEvidence s params obligation attempt record) {x : ReviewAttempt}
    (hx : x ∈ s.attempts) : (boundAttempt params x).obligationId = x.obligationId := by
  obtain ⟨-, hbound⟩ | ⟨-, hkept⟩ := h.boundAttempt_cases hs hx
  · rw [hbound]
  · rw [hkept]

/-- An attempt of another obligation is bound only if it was. -/
theorem bound_before (hs : Coherent s) (h : RecordsEvidence s params obligation attempt record)
    {x : ReviewAttempt} (hx : x ∈ s.attempts) (howned : x.obligationId ≠ params.obligationId)
    (hbound : (boundAttempt params x).status = .bound) : x.status = .bound := by
  obtain ⟨rfl, -⟩ | ⟨-, hkept⟩ := h.boundAttempt_cases hs hx
  · exact absurd h.owned howned
  · rwa [hkept] at hbound

theorem settledObligation_id (hsettle : ∀ x, Settles params x (settle x))
    (x : ReviewObligation) :
    ((evidenceUpdate params settle).obligation x).obligationId = x.obligationId ∧
      ((evidenceUpdate params settle).obligation x).obligationType = x.obligationType ∧
      ((evidenceUpdate params settle).obligation x).repositoryAuthority =
        x.repositoryAuthority ∧
      ((evidenceUpdate params settle).obligation x).repositoryRevisionProvenance =
        x.repositoryRevisionProvenance := by
  dsimp only [evidenceUpdate]
  split
  · obtain ⟨hid, htype, -, hauthority, hprovenance, -⟩ := ReviewObligation.same (hsettle x).core
    exact ⟨hid, htype, hauthority, hprovenance⟩
  · exact ⟨rfl, rfl, rfl, rfl⟩

theorem obligationCoherent (hs : Coherent s)
    (h : RecordsEvidence s params obligation attempt record)
    (hsettle : ∀ x, Settles params x (settle x)) :
    ObligationCoherent (withEvidence s params settle consumer) where
  provenance := by
    intro y hy
    obtain ⟨x, hx, rfl⟩ := List.mem_map.1 hy
    obtain ⟨-, -, hauthority, hprovenance⟩ := settledObligation_id hsettle x
    rw [ProvenanceCoherent, hauthority, hprovenance]
    exact hs.obligation.provenance x hx
  linked := by
    intro y hy invocationId hlinked
    obtain ⟨x, hx, rfl⟩ := List.mem_map.1 hy
    obtain ⟨hid, htype, -, -⟩ := settledObligation_id hsettle x
    rw [hid, htype]
    by_cases howned : x.obligationId = params.obligationId
    · rw [evidenceUpdate_settled howned, (hsettle x).linked] at hlinked
      obtain rfl := hs.obligation_eq hx h.foundObligation (howned.trans h.obligationId.symm)
      exact ⟨_, mem_evidence.2 (.inr rfl), Option.some.inj hlinked, howned.symm, h.sameType.symm⟩
    · rw [evidenceUpdate_other howned] at hlinked
      obtain ⟨invocation, hinvocation, hrest⟩ := hs.obligation.linked x hx invocationId hlinked
      exact ⟨invocation, mem_evidence.2 (.inl hinvocation), hrest⟩
  fulfilled := by
    intro y hy hstatus
    obtain ⟨x, hx, rfl⟩ := List.mem_map.1 hy
    by_cases howned : x.obligationId = params.obligationId
    · rw [evidenceUpdate_settled howned, (hsettle x).linked]
      exact ⟨rfl, (hsettle x).fulfilled⟩
    · rw [evidenceUpdate_other howned] at hstatus ⊢
      exact hs.obligation.fulfilled x hx hstatus
  consumed := by
    intro y hy hstatus
    obtain ⟨x, hx, rfl⟩ := List.mem_map.1 hy
    by_cases howned : x.obligationId = params.obligationId
    · rw [evidenceUpdate_settled howned] at hstatus ⊢
      exact (hsettle x).consumed hstatus
    · rw [evidenceUpdate_other howned] at hstatus ⊢
      exact hs.obligation.consumed x hx hstatus
  boundSettled := by
    intro y hy z hz hzowned hbound
    obtain ⟨x, hx, rfl⟩ := List.mem_map.1 hy
    obtain ⟨w, hw, rfl⟩ := List.mem_map.1 hz
    rw [h.boundAttempt_obligationId hs hw, (settledObligation_id hsettle x).1] at hzowned
    by_cases howned : x.obligationId = params.obligationId
    · rw [evidenceUpdate_settled howned]
      exact (hsettle x).settled
    · rw [evidenceUpdate_other howned]
      exact hs.obligation.boundSettled x hx w hw hzowned
        (h.bound_before hs hw (fun heq => howned (hzowned.symm.trans heq)) hbound)
  boundOnce := by
    intro y hy z hz howned hbound hbound'
    obtain ⟨x, hx, rfl⟩ := List.mem_map.1 hy
    obtain ⟨w, hw, rfl⟩ := List.mem_map.1 hz
    rw [h.boundAttempt_obligationId hs hx, h.boundAttempt_obligationId hs hw] at howned
    by_cases hparams : x.obligationId = params.obligationId
    · rw [h.bound_eq hs hx hparams hbound, h.bound_eq hs hw (howned.symm.trans hparams) hbound']
    · rw [hs.obligation.boundOnce x hx w hw howned (h.bound_before hs hx hparams hbound)
        (h.bound_before hs hw (fun heq => hparams (howned.trans heq)) hbound')]

theorem lockCoherent (hs : Coherent s) (h : RecordsEvidence s params obligation attempt record)
    (hsettle : ∀ x, Settles params x (settle x)) :
    LockCoherent (withEvidence s params settle consumer) := by
  have hother : ∀ lock, s.capacityLock = some lock → lock.obligationId ≠ params.obligationId := by
    intro lock hlock heq
    obtain ⟨locked, hlocked, hid, hblocked⟩ := hs.lock.blocked lock hlock
    obtain rfl := hs.obligation_eq hlocked h.foundObligation
      (hid.trans (heq.trans h.obligationId.symm))
    exact absurd (h.pending.symm.trans hblocked) nofun
  constructor
  · intro lock hlock
    obtain ⟨locked, hlocked, hid, hblocked⟩ := hs.lock.blocked lock hlock
    refine ⟨_, List.mem_map_of_mem hlocked, (settledObligation_id hsettle locked).1.trans hid, ?_⟩
    rw [evidenceUpdate_other fun heq => hother lock hlock (hid.symm.trans heq)]
    exact hblocked
  · intro lock hlock hcode y hy howned hbound
    obtain ⟨x, hx, rfl⟩ := List.mem_map.1 hy
    rw [h.boundAttempt_obligationId hs hx] at howned
    exact hs.lock.unbound lock hlock hcode x hx howned
      (h.bound_before hs hx (fun heq => hother lock hlock (howned.symm.trans heq)) hbound)

theorem coherent (hs : Coherent s) (h : RecordsEvidence s params obligation attempt record)
    (hsettle : ∀ x, Settles params x (settle x))
    (hconsumer : ∀ obligationId, consumer = some obligationId →
      obligationId = params.obligationId)
    (hfresh : ∀ other ∈ s.invocations, other.invocationId ≠ params.invocationId) :
    Coherent (withEvidence s params settle consumer) := by
  have hkeeps := h.keeps hs hsettle
  let updated := (evidenceUpdate params settle).apply s.capacityLock s
  have hidentity : IdentityCoherent updated := hkeeps.identity hs.identity
  have hattempts : AttemptCoherent updated := hkeeps.attemptCoherent hs
  have hdispatches : DispatchCoherent updated := hkeeps.dispatchCoherent hs.dispatch
  exact
    { identity :=
        { hidentity with
          invocationIds := nodup_map_append_singleton hs.identity.invocationIds hfresh }
      attempt := { hattempts with }
      dispatch := { hdispatches with }
      evidence := h.evidenceCoherent hs hconsumer
      obligation := h.obligationCoherent hs hsettle
      lock := h.lockCoherent hs hsettle }

end RecordsEvidence

theorem coherent_evidenceBound (hs : Coherent s)
    (hrecordable : Recordable s params obligation attempt)
    (hfresh : params.invocationId ∉ s.identities)
    (hsettled : settleBoundEvidence (bindEvidence s params) params now = .ok t) : Coherent t := by
  obtain ⟨hpending, settle, consumer, hsettle, hconsumer, rfl⟩ :=
    settleBoundEvidence_ok hrecordable.foundObligation hfresh hsettled
  obtain ⟨record, hrecords⟩ := hrecordable.records hs hpending
  exact hrecords.coherent hs hsettle hconsumer (fresh_invocation hfresh).2

end Evidence

/-! ### Runs -/

/-- Every move of the ledger keeps it coherent. -/
theorem LedgerMove.coherent (hs : Coherent s) (hmove : LedgerMove env canBind now s t) :
    Coherent t := by
  obtain heffect | hincident := hmove
  · cases heffect with
    | opened input hobligation hattempt => exact coherent_opened hs hobligation hattempt
    | released input hreleasable hfresh => exact coherent_released hs hreleasable hfresh
    | childBound lineage childSessionId hlive => exact coherent_childBound hs hlive childSessionId
    | evidenceBound params obligation attempt hrecordable hfresh _ hsettled =>
        exact coherent_evidenceBound hs hrecordable hfresh hsettled
    | concluded record attempt childSessionId _ _ hattempt hstatus =>
        exact coherent_concluded hs hattempt hstatus childSessionId
    | closed obligation code hobligation hstatus => exact coherent_closed hs hobligation hstatus
    | locked obligation code hobligation hblocked hcode _ =>
        exact coherent_locked hs hobligation hblocked hcode
    | rearmed fresh spent obligation trigger hrearmable hfresh =>
        exact coherent_rearmed hs hrearmable hfresh
    | incoherent fresh target htarget hfresh => exact coherent_incoherent hs htarget hfresh
    | reopened obligation hreopenable => exact coherent_reopened hs hreopenable
    | unlocked => exact coherent_unlocked hs
    | consumed obligation invocation hobligation hinvocation haccepted =>
        exact coherent_consumed hs hobligation hinvocation haccepted
  · cases hincident with
    | forced obligationId code hcode => exact coherent_forced hs obligationId hcode
    | liveConcluded record hrecord hlive => exact coherent_liveConcluded hs hrecord hlive
    | captureRejected lineage code hlive => exact coherent_captureRejected hs hlive code

theorem coherent_of_moves (hs : Coherent s)
    (hmoves : ReflTransGen (LedgerMove env canBind now) s t) : Coherent t := by
  induction hmoves with
  | refl => exact hs
  | tail _ hmove ih => exact hmove.coherent ih

/-- The ledgers a session comes to from another one, each write drawing fresh identities. -/
def LedgerReaches (env : LedgerEnvironment) : ReviewAssuranceState → ReviewAssuranceState → Prop :=
  Reaches (ledgerStep env) fun s action => action.2.fresh s

/-- The ledgers it comes to when children are bound only where `canBind` allows it. -/
def BoundReaches (env : LedgerEnvironment)
    (canBind : ReviewAssuranceState → ReviewAttempt → Prop) :
    ReviewAssuranceState → ReviewAssuranceState → Prop :=
  Reaches (ledgerStep env) fun s action =>
    action.2.fresh s ∧ action.2.bindsAllowed env canBind s

theorem LedgerReaches.bound (hreaches : LedgerReaches env s t) :
    BoundReaches env (fun _ _ => True) s t := by
  refine Reaches.mono (fun s action hfresh => ⟨hfresh, ?_⟩) hreaches
  cases action.2 with
  | operation performed => exact fun _ _ _ _ => trivial
  | _ => trivial

/-- A move at some time. -/
def TimedMove (env : LedgerEnvironment)
    (canBind : ReviewAssuranceState → ReviewAttempt → Prop) (s t : ReviewAssuranceState) : Prop :=
  ∃ now, LedgerMove env canBind now s t

theorem BoundReaches.moves (hs : Coherent s) (hreaches : BoundReaches env canBind s t) :
    ReflTransGen (TimedMove env canBind) s t ∧ Coherent t := by
  induction hreaches with
  | refl => exact ⟨.refl, hs⟩
  | @tail u v action _ hallowed hstep ih =>
      have hchain := ledgerStep_moves ih.2.wellIdentified hallowed.1 hallowed.2 hstep
      exact ⟨ih.1.trans (ReflTransGen.mono (fun _ _ hmove => ⟨_, hmove⟩) _ _ hchain),
        coherent_of_moves ih.2 hchain⟩

theorem LedgerReaches.coherent (hreaches : LedgerReaches env emptyReviewAssurance s) :
    Coherent s :=
  (hreaches.bound.moves emptyReviewAssurance_coherent).2

/-- What every move keeps, every ledger reached has. -/
theorem BoundReaches.keeps {Inv : ReviewAssuranceState → Prop}
    (hkeeps : ∀ {now u v}, Coherent u → Inv u → LedgerMove env canBind now u v → Inv v)
    (hreaches : BoundReaches env canBind s t) (hs : Coherent s) (hinit : Inv s) : Inv t := by
  have hboth : Coherent t ∧ Inv t := by
    obtain ⟨hmoves, -⟩ := hreaches.moves hs
    clear hreaches
    induction hmoves with
    | refl => exact ⟨hs, hinit⟩
    | tail _ hmove ih =>
        obtain ⟨now, hmove⟩ := hmove
        exact ⟨hmove.coherent ih.1, hkeeps ih.1 ih.2 hmove⟩
  exact hboth.2

/-! ### Sample sessions -/

/-- A schedule whose writes all draw fresh identities. -/
def freshRun (env : LedgerEnvironment) (s : ReviewAssuranceState)
    (actions : List (Timestamp × LedgerAction)) : Option ReviewAssuranceState :=
  Library.runSchedule
    (fun s action => if decide (action.2.fresh s) then ledgerStep env s action else none) s actions

theorem LedgerReaches.of_run {actions : List (Timestamp × LedgerAction)}
    (hrun : freshRun env s actions = some t) : LedgerReaches env s t :=
  Library.reaches_of_runSchedule (fun _ _ => of_decide_eq_true) hrun

def sampleEnvironment : LedgerEnvironment where
  reviewMandateDigest := "mandate"
  maxIncoherentReviewerCaptureRetries := 1
  verifyFrozenMaterialForObligation _ := none

def samplePlan : ObligationInput where
  obligationId := "plan"
  obligationType := .plan
  subjectDigest := "subject"
  maxReviewerAttempts := 2
  repositoryAuthority := none
  discoverySnapshot := "{}"
  attempt := ⟨"attempt-1", "capability-1"⟩

/-- The release of an attempt of the sample plan, by the host call of its own. -/
def sampleRelease (attemptId hostCallId : String) : AuthorizedReviewDispatchInput where
  stateInScope := true
  pendingReviews := [⟨some "plan", some attemptId⟩]
  promptUnchanged := true
  obligationId := "plan"
  attemptId := attemptId
  hostCallId := hostCallId
  canonicalPromptDigest := "prompt"
  authorizedAt := "2026-01-01T00:00:01.000Z"
  dispatchId := "dispatch-" ++ hostCallId

end GovernedRuntime.Review
