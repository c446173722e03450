/-
Recovery from a terminal capacity closure: when the lock of a blocked obligation leads back
to the one attempt it was set for
(`src/integration/review/dispatch/native-review-settlement.ts`).
-/
import GovernedRuntime.Review.LedgerReach
import GovernedRuntime.Review.LedgerRefinements

namespace GovernedRuntime.Review

open GovernedRuntime.State (Timestamp)

variable {s : ReviewAssuranceState} {target : RecoverableCapacityTarget}

/-- A reviewer of the obligation may still be running. -/
def executionMayBeLive (s : ReviewAssuranceState) (obligationId : String) : Bool :=
  s.dispatches.any (fun record =>
    record.obligationId == obligationId && record.dispatchStatus == .authorized) ||
  (s.line obligationId).any fun attempt => attempt.status == .created || attempt.status == .bound

/-- A lock with a recoverable code whose obligation has come to rest in one last attempt: a
stale one without a successor that was released once, with an unknown outcome. -/
structure RecoverableLock (s : ReviewAssuranceState) (target : RecoverableCapacityTarget) :
    Prop where
  locked : s.capacityLock = some target.lock
  recoverable : target.lock.code ∈ recoverableCapacityCodes
  obligation : s.obligation? target.lock.obligationId = some target.obligation
  blocked : target.obligation.status = .blocked
  blockedCode : target.obligation.blockedCode = some target.lock.code
  quiet : executionMayBeLive s target.obligation.obligationId = false
  last : (s.line target.obligation.obligationId).filter (fun attempt =>
    attempt.status == .stale && !s.superseded attempt.attemptId) = [target.attempt]
  child : target.attempt.childSessionId.isSome = true
  released : (s.dispatches.filter (·.attemptId == target.attempt.attemptId)).map
    (·.dispatchStatus) = [.outcomeUnknown]

instance : Decidable (RecoverableLock s target) :=
  decidable_of_iff
    (s.capacityLock = some target.lock ∧ target.lock.code ∈ recoverableCapacityCodes ∧
      s.obligation? target.lock.obligationId = some target.obligation ∧
      target.obligation.status = .blocked ∧
      target.obligation.blockedCode = some target.lock.code ∧
      executionMayBeLive s target.obligation.obligationId = false ∧
      (s.line target.obligation.obligationId).filter (fun attempt =>
        attempt.status == .stale && !s.superseded attempt.attemptId) = [target.attempt] ∧
      target.attempt.childSessionId.isSome = true ∧
      (s.dispatches.filter (·.attemptId == target.attempt.attemptId)).map
        (·.dispatchStatus) = [.outcomeUnknown])
    ⟨fun ⟨locked, recoverable, obligation, blocked, blockedCode, quiet, last, child, released⟩ =>
        ⟨locked, recoverable, obligation, blocked, blockedCode, quiet, last, child, released⟩,
      fun h => ⟨h.locked, h.recoverable, h.obligation, h.blocked, h.blockedCode, h.quiet, h.last,
        h.child, h.released⟩⟩

/-! ### What the refinements give -/

theorem issue_of_refined (hrefined : Refined s) {issue : Option RefinementIssue}
    (hissue : issue ∈ [refineAssuranceIdentityUniqueness s, refineAssuranceDiscoveryCoherence s,
      refineAssuranceProvenanceCoherence s, refineAssuranceAttemptLineageCoherence s,
      refineAssuranceDispatchCoherence s, refineAssuranceInvocationLinkageCoherence s,
      refineAssuranceInvocationDispatchLinkage s, refineAssuranceCapacityLockCoherence s]) :
    issue = none := by
  rw [Refined, refinementIssues, List.filterMap_eq_nil_iff] at hrefined
  exact hrefined issue hissue

/-- A release and the attempt it was made for belong to one obligation. -/
theorem Refined.dispatch_obligation (hrefined : Refined s) {record : ReviewDispatchRecord}
    (hrecord : record ∈ s.dispatches) :
    ∃ attempt, attemptsById s record.attemptId = some attempt ∧
      attempt.obligationId = record.obligationId := by
  have hnone : refineAssuranceDispatchCoherence s = none :=
    issue_of_refined hrefined (by simp)
  obtain ⟨before, after, hsplit⟩ := List.append_of_mem hrecord
  have hcheck := firstIssue_eq_none_iff.1 hnone before record after hsplit
  simp only [dispatchCoherenceIssue, dispatchIssue, ite_some_eq_none_iff] at hcheck
  obtain ⟨-, -, howner⟩ := hcheck
  cases hattempt : attemptsById s record.attemptId with
  | none => simp [hattempt] at howner
  | some attempt =>
      simp only [hattempt, ite_some_eq_none_iff] at howner
      exact ⟨attempt, rfl, not_not.1 howner.1⟩

theorem Refined.attempts_nodup (hrefined : Refined s) :
    (s.attempts.map (·.attemptId)).Nodup := by
  have hnone : refineAssuranceIdentityUniqueness s = none :=
    issue_of_refined hrefined (by simp)
  rw [refineAssuranceIdentityUniqueness, Option.or_eq_none_iff, Option.or_eq_none_iff] at hnone
  exact (firstIssue_duplicate_eq_none_iff.1 hnone.2.2).1

/-- Every release of an attempt is one of the attempt's obligation. -/
theorem Refined.released_obligation (hrefined : Refined s) {attempt : ReviewAttempt}
    (hattempt : attempt ∈ s.attempts) {record : ReviewDispatchRecord}
    (hrecord : record ∈ s.dispatches) (hid : record.attemptId = attempt.attemptId) :
    record.obligationId = attempt.obligationId := by
  obtain ⟨found, hfound, howner⟩ := hrefined.dispatch_obligation hrecord
  have hmem : found ∈ s.attempts := List.mem_reverse.1 (List.mem_of_find?_eq_some hfound)
  have hfoundId : found.attemptId = record.attemptId := by
    simpa using List.find?_some hfound
  obtain rfl := eq_of_nodup_map hrefined.attempts_nodup hmem hattempt (hfoundId.trans hid)
  exact howner.symm

/-! ### The target -/

namespace RecoverableLock

theorem target_mem (hlock : RecoverableLock s target) :
    target.attempt ∈ s.line target.obligation.obligationId ∧
      target.attempt.status = .stale ∧ s.superseded target.attempt.attemptId = false := by
  have hmem := hlock.last.symm ▸ List.mem_singleton_self target.attempt
  simpa [List.mem_filter] using hmem

theorem not_live (hlock : RecoverableLock s target) :
    (∀ record ∈ s.dispatches, record.obligationId = target.obligation.obligationId →
      record.dispatchStatus ≠ .authorized) ∧
      ∀ attempt ∈ s.line target.obligation.obligationId,
        attempt.status ≠ .created ∧ attempt.status ≠ .bound := by
  have hquiet := hlock.quiet
  rw [executionMayBeLive, Bool.or_eq_false_iff, List.any_eq_false, List.any_eq_false] at hquiet
  simpa using hquiet

end RecoverableLock

namespace RecoverableLock

/-- The one release of the target among those of its obligation. -/
theorem only_release (hrefined : Refined s) (hlock : RecoverableLock s target) :
    ∃ record, (s.dispatches.filter (·.obligationId == target.obligation.obligationId)).filter
        (·.attemptId == target.attempt.attemptId) = [record] ∧
      record.dispatchStatus = .outcomeUnknown := by
  obtain ⟨hmem, -, -⟩ := hlock.target_mem
  rw [ReviewAssuranceState.line, List.mem_filter, beq_iff_eq] at hmem
  have hall : (s.dispatches.filter (·.obligationId == target.obligation.obligationId)).filter
      (·.attemptId == target.attempt.attemptId) =
        s.dispatches.filter (·.attemptId == target.attempt.attemptId) := by
    rw [List.filter_filter]
    apply List.filter_congr
    intro record hrecord
    by_cases hid : record.attemptId = target.attempt.attemptId
    · simp [hid, (hrefined.released_obligation hmem.1 hrecord hid).trans hmem.2]
    · simp [hid]
  have hreleased := hlock.released
  rw [← hall, List.map_eq_singleton_iff] at hreleased
  exact hreleased

theorem not_followed (hlock : RecoverableLock s target) :
    ((s.line target.obligation.obligationId).any fun item =>
      item.status == .created || item.status == .bound ||
        item.origin.predecessor? == some target.attempt.attemptId) = false := by
  rw [List.any_eq_false]
  intro item hitem
  have hsuperseded := hlock.target_mem.2.2
  rw [ReviewAssuranceState.superseded, List.any_eq_false] at hsuperseded
  have hrest := hlock.not_live.2 item hitem
  have hother := hsuperseded item (List.mem_filter.1 hitem).1
  simp only [beq_iff_eq] at hother
  simp [hrest, hother]

theorem target_eq (hrefined : Refined s) (hlock : RecoverableLock s target) :
    recoverableCapacityTarget s =
      if (s.line target.obligation.obligationId).filter (·.status == .stale) = [target.attempt]
        then some target else none := by
  have hcode : recoverableCapacityCodes.contains target.lock.code = true := by
    simpa using hlock.recoverable
  have hauthorized : ((s.dispatches.filter
      (·.obligationId == target.obligation.obligationId)).any
        (·.dispatchStatus == .authorized)) = false := by
    simpa using hlock.not_live.1
  have hbound : ((s.line target.obligation.obligationId).any (·.status == .bound)) = false := by
    simpa using fun attempt hattempt => (hlock.not_live.2 attempt hattempt).2
  obtain ⟨record, hrecord, hstatus⟩ := hlock.only_release hrefined
  simp only [recoverableCapacityTarget, hlock.locked, hcode, hlock.obligation,
    Option.filter_some, hlock.blocked, hlock.blockedCode, hauthorized, hbound, beq_self_eq_true,
    Bool.and_self, Bool.not_true, Bool.or_self, if_false, if_true, Bool.false_eq_true]
  split
  · rename_i attempt hstale
    have hmem : target.attempt ∈ [attempt] := by
      rw [← hstale, List.mem_filter]
      exact ⟨hlock.target_mem.1, by simp [hlock.target_mem.2.1]⟩
    obtain rfl := List.mem_singleton.1 hmem
    have hchild : target.attempt.childSessionId.isNone = false := by
      simpa using hlock.child
    rw [if_pos hstale, hchild, hlock.not_followed, hrecord]
    simp [hstatus]
  · rename_i hmany
    rw [if_neg (hmany target.attempt)]

end RecoverableLock

/-- A lock behind which a reviewer may still be running has no target. -/
theorem recoverableCapacityTarget_of_live {lock : ReviewCapacityLock}
    (hlock : s.capacityLock = some lock)
    (hlive : executionMayBeLive s lock.obligationId = true) :
    recoverableCapacityTarget s = none := by
  simp only [recoverableCapacityTarget, hlock]
  split
  · rfl
  split
  · rfl
  rename_i obligation hfound
  rw [Option.filter_eq_some_iff] at hfound
  have hid : obligation.obligationId = lock.obligationId := by
    simpa using List.find?_some hfound.1
  rw [← hid, executionMayBeLive, Bool.or_eq_true, List.any_eq_true, List.any_eq_true] at hlive
  split_ifs with hactive
  · rfl
  simp only [Bool.or_eq_true, List.any_eq_true, List.mem_filter, not_or, not_exists] at hactive
  -- no release is live and no attempt bound, so one is created and would follow the target
  obtain ⟨attempt, hattempt, hcreated⟩ : ∃ attempt ∈ s.line obligation.obligationId,
      attempt.status = .created := by
    obtain ⟨record, hrecord, hauthorized⟩ | ⟨attempt, hattempt, hopen⟩ := hlive
    · simp only [Bool.and_eq_true, beq_iff_eq] at hauthorized
      exact absurd ⟨⟨hrecord, by simpa using hauthorized.1⟩, by simpa using hauthorized.2⟩
        (hactive.1 record)
    · simp only [Bool.or_eq_true, beq_iff_eq] at hopen
      obtain hcreated | hbound := hopen
      · exact ⟨attempt, hattempt, hcreated⟩
      · exact absurd ⟨hattempt, by simpa using hbound⟩ (hactive.2 attempt)
  split
  · rw [if_pos (List.any_eq_true.2 ⟨attempt, hattempt, by simp [hcreated]⟩)]
    split_ifs <;> rfl
  · rfl

/-- The target is found exactly when no re-arm has left an earlier attempt of the obligation
stale, and never while a reviewer may be running. -/
theorem recoverableCapacityTarget_iff (s : ReviewAssuranceState) :
    (∀ target, Refined s → RecoverableLock s target →
      (recoverableCapacityTarget s = some target ↔
        ∀ attempt ∈ s.line target.obligation.obligationId, attempt.status = .stale →
          s.superseded attempt.attemptId = false)) ∧
      ∀ lock, s.capacityLock = some lock → executionMayBeLive s lock.obligationId = true →
        recoverableCapacityTarget s = none := by
  refine ⟨?_, fun lock hlock hlive => recoverableCapacityTarget_of_live hlock hlive⟩
  intro target hrefined hlock
  rw [hlock.target_eq hrefined, ← hlock.last]
  constructor
  · intro hfound attempt hattempt hstale
    split_ifs at hfound with heq
    have hmem : attempt ∈ (s.line target.obligation.obligationId).filter (·.status == .stale) :=
      List.mem_filter.2 ⟨hattempt, by simp [hstale]⟩
    rw [heq, List.mem_filter] at hmem
    simpa [hstale] using hmem.2
  · intro hsole
    rw [if_pos]
    apply List.filter_congr
    intro attempt hattempt
    by_cases hstale : attempt.status = .stale
    · simp [hstale, hsole attempt hattempt hstale]
    · simp [hstale]

/-! ### A closure after a re-arm -/

/-- The first release of a plan review, up to its reviewer's session. -/
def firstRelease : List (Timestamp × LedgerAction) :=
  [("2026-01-01T00:00:00.000Z", .operation (.create samplePlan)),
    ("2026-01-01T00:00:01.000Z", .operation (.authorize (sampleRelease "attempt-1" "call-1"))),
    ("2026-01-01T00:00:02.000Z", .operation (.bindChild ⟨true, "parent", "call-1", "child-1"⟩))]

/-- Its re-arm and the release of the successor. -/
def secondRelease : List (Timestamp × LedgerAction) :=
  [("2026-01-01T00:00:03.000Z",
      .operation (.abandonAndRearm "call-1" (some "child-1") ⟨"attempt-2", "capability-2"⟩)),
    ("2026-01-01T00:00:04.000Z", .operation (.authorize (sampleRelease "attempt-2" "call-2"))),
    ("2026-01-01T00:00:05.000Z", .operation (.bindChild ⟨true, "parent", "call-2", "child-2"⟩))]

def budgetClosure (hostCallId : String) : Timestamp × LedgerAction :=
  ("2026-01-01T00:00:06.000Z",
    .operation (.abandonAndBlock hostCallId "REVIEWER_STEP_BUDGET_EXHAUSTED"
      ⟨none, none, none, none⟩))

/-- The lock, the obligation and the last attempt a closed plan review ends with. -/
def closedTarget (s : ReviewAssuranceState) : Option RecoverableCapacityTarget := do
  let lock ← s.capacityLock
  let obligation ← s.obligation? lock.obligationId
  let attempt ← (s.line obligation.obligationId).getLast?
  some ⟨lock, obligation, attempt⟩

theorem recoverableCapacityTarget_iff_firstRelease :
    ∃ s target, freshRun sampleEnvironment emptyReviewAssurance
        (firstRelease ++ [budgetClosure "call-1"]) = some s ∧
      recoverableCapacityTarget s = some target := by
  have hclosed : ∃ s, freshRun sampleEnvironment emptyReviewAssurance
      (firstRelease ++ [budgetClosure "call-1"]) = some s ∧
      ∃ target, closedTarget s = some target ∧ Refined s ∧ RecoverableLock s target ∧
        ∀ attempt ∈ s.line target.obligation.obligationId, attempt.status = .stale →
          s.superseded attempt.attemptId = false :=
    ⟨_, rfl, _, rfl, by decide, by decide, by decide⟩
  obtain ⟨s, hrun, target, -, hrefined, hlock, hsole⟩ := hclosed
  exact ⟨s, target, hrun, ((recoverableCapacityTarget_iff s).1 target hrefined hlock).2 hsole⟩

/-- The same closure after one re-arm leaves a lock that leads nowhere. -/
theorem recoverableCapacityTarget_stuck :
    ∃ s target, freshRun sampleEnvironment emptyReviewAssurance
        (firstRelease ++ secondRelease ++ [budgetClosure "call-2"]) = some s ∧
      closedTarget s = some target ∧ Refined s ∧ RecoverableLock s target ∧
      recoverableCapacityTarget s = none :=
  ⟨_, _, rfl, rfl, by decide, by decide, by decide⟩

end GovernedRuntime.Review
