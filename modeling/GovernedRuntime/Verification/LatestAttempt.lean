/-
What the evidence of a check hangs on (`src/machine/impl-validation-evidence.ts`): the
latest attempt of the current implementation, whatever came before it.
-/
import GovernedRuntime.Rails.AutoAdvance
import GovernedRuntime.State.TimestampOrder

namespace GovernedRuntime.Verification

open GovernedRuntime.State
open GovernedRuntime.Machine

/-! ### One format of timestamps -/

/-- A format whose texts sort like the instants they denote. -/
structure TimestampFormat (Instant : Type) [LinearOrder Instant] where
  admits : Timestamp → Prop
  instant : Timestamp → Instant
  sorted : ∀ {first later}, admits first → admits later →
    (first < later ↔ instant first < instant later)

/-- What `toISOString` writes. -/
def isoFormat : TimestampFormat Int where
  admits text := ∃ instant, IsInstant text instant
  instant text := (dateParse text).getD 0
  sorted := by
    rintro first later ⟨instant, hfirst⟩ ⟨instant', hlater⟩
    rw [hfirst.lt_iff hlater, hfirst.2, hlater.2]
    rfl

/-! ### The latest item -/

section LatestBy

variable {α : Type} {key : α → String}

theorem latestBy_concat (key : α → String) (items : List α) (item : α) :
    latestBy key (items ++ [item]) =
      match latestBy key items with
      | none => some item
      | some best => if key best ≤ key item then some item else some best := by
  rw [latestBy, List.foldl_append]
  rfl

theorem latestBy_spec {items : List α} {item : α} (hlatest : latestBy key items = some item) :
    ∃ earlier later, items = earlier ++ item :: later ∧
      (∀ other ∈ earlier, key other ≤ key item) ∧ ∀ other ∈ later, key other < key item := by
  induction items using List.reverseRecOn generalizing item with
  | nil => cases hlatest
  | append_singleton items last ih =>
      rw [latestBy_concat] at hlatest
      cases hbest : latestBy key items with
      | none =>
          rw [hbest] at hlatest
          cases hlatest
          refine ⟨items, [], rfl, fun other hother => ?_, nofun⟩
          cases items using List.reverseRecOn with
          | nil => cases hother
          | append_singleton items last =>
              rw [latestBy_concat] at hbest
              split at hbest
              · cases hbest
              · split_ifs at hbest
      | some best =>
          rw [hbest] at hlatest
          obtain ⟨earlier, later, rfl, hearlier, hlater⟩ := ih hbest
          dsimp only at hlatest
          split_ifs at hlatest with hle
          · cases hlatest
            refine ⟨earlier ++ best :: later, [], rfl, ?_, nofun⟩
            intro other hother
            rcases List.mem_append.1 hother with hbefore | hafter
            · exact (hearlier other hbefore).trans hle
            · rcases List.mem_cons.1 hafter with rfl | hafter
              · exact hle
              · exact (hlater other hafter).le.trans hle
          · cases hlatest
            refine ⟨earlier, later ++ [last], by simp, hearlier, fun other hother => ?_⟩
            rcases List.mem_append.1 hother with hafter | hlast
            · exact hlater other hafter
            · rw [List.mem_singleton.1 hlast]
              exact not_le.1 hle

theorem latestBy_concat_latest {items : List α} {item : α}
    (hlatest : ∀ other ∈ items, key other ≤ key item) :
    latestBy key (items ++ [item]) = some item := by
  rw [latestBy_concat]
  cases hbest : latestBy key items with
  | none => rfl
  | some best =>
      obtain ⟨earlier, later, rfl, -, -⟩ := latestBy_spec hbest
      exact if_pos (hlatest best (by simp))

end LatestBy

theorem latestUnknownOutcomeResolvedAt_append (resolutions : List MutationEpisodeResolution)
    (last : MutationEpisodeResolution) :
    latestUnknownOutcomeResolvedAt (resolutions ++ [last]) =
      match latestUnknownOutcomeResolvedAt resolutions with
      | none => some last.resolvedAt
      | some time =>
          if time < last.resolvedAt then some last.resolvedAt else some time := by
  rw [latestUnknownOutcomeResolvedAt, List.foldl_append]
  rfl

/-- The latest resolution precedes a time exactly when all of them do. -/
theorem latestUnknownOutcomeResolvedAt_all (resolutions : List MutationEpisodeResolution)
    (time : Timestamp) :
    (latestUnknownOutcomeResolvedAt resolutions).all (· < time) = true ↔
      ∀ resolution ∈ resolutions, resolution.resolvedAt < time := by
  induction resolutions using List.reverseRecOn with
  | nil => simp [latestUnknownOutcomeResolvedAt]
  | append_singleton resolutions last ih =>
      rw [latestUnknownOutcomeResolvedAt_append, List.forall_mem_append, ← ih, List.forall_mem_singleton]
      cases latestUnknownOutcomeResolvedAt resolutions with
      | none => simp
      | some latest =>
          dsimp only
          split_ifs with hlater
          · simpa using fun hlast => hlater.trans hlast
          · simpa using fun hlatest => (not_lt.1 hlater).trans_lt hlatest

/-! ### The attempts that count -/

section Attempts

variable {Instant : Type} [LinearOrder Instant] (format : TimestampFormat Instant)

/-- An attempt of the current implementation. -/
def OfImplementation (s : SessionState) (attempt : ValidationAttempt) : Prop :=
  ∃ implementation, s.implementation = some implementation ∧
    attempt.scope = .implementation implementation.implementationId implementation.digest

/-- An attempt made when the last unknown outcome had been resolved. -/
def AfterResolution (s : SessionState) (attempt : ValidationAttempt) : Prop :=
  ∀ resolution ∈ s.mutationEpisodeResolutions,
    format.instant resolution.resolvedAt < format.instant attempt.result.executedAt

structure Eligible (s : SessionState) (checkId : String) (attempt : ValidationAttempt) :
    Prop where
  check : attempt.result.checkId = checkId
  current : OfImplementation s attempt
  fresh : AfterResolution format s attempt

/-- No eligible attempt of the check is later; of those made at the same time it was
recorded last. -/
def IsLatest (s : SessionState) (checkId : String) (attempt : ValidationAttempt) : Prop :=
  ∃ earlier later, s.validationAttempts = earlier ++ attempt :: later ∧
    Eligible format s checkId attempt ∧
    (∀ other ∈ earlier, Eligible format s checkId other →
      format.instant other.result.executedAt ≤ format.instant attempt.result.executedAt) ∧
    ∀ other ∈ later, Eligible format s checkId other →
      format.instant other.result.executedAt < format.instant attempt.result.executedAt

/-- Every timestamp that attempts are selected by has the one format. -/
structure UniformTimestamps (s : SessionState) : Prop where
  attempts : ∀ attempt ∈ s.validationAttempts, format.admits attempt.result.executedAt
  resolutions : ∀ resolution ∈ s.mutationEpisodeResolutions,
    format.admits resolution.resolvedAt

variable {format} {s : SessionState} {checkId : String} {attempt : ValidationAttempt}

theorem TimestampFormat.sorted_le {first later : Timestamp} (hfirst : format.admits first)
    (hlater : format.admits later) :
    first ≤ later ↔ format.instant first ≤ format.instant later := by
  rw [← not_lt, ← not_lt, format.sorted hlater hfirst]

/-- What the source filters by is what makes an attempt eligible. -/
theorem mem_eligibleAttempts {implementation : ImplEvidence}
    (hresolutions : ∀ resolution ∈ s.mutationEpisodeResolutions,
      format.admits resolution.resolvedAt)
    (himplementation : s.implementation = some implementation)
    (hadmits : format.admits attempt.result.executedAt) :
    (attempt.scope == .implementation implementation.implementationId implementation.digest &&
      attempt.result.checkId == checkId &&
      (latestUnknownOutcomeResolvedAt s.mutationEpisodeResolutions).all
        (· < attempt.result.executedAt)) = true ↔ Eligible format s checkId attempt := by
  have hfresh : AfterResolution format s attempt ↔
      ∀ resolution ∈ s.mutationEpisodeResolutions,
        resolution.resolvedAt < attempt.result.executedAt :=
    forall₂_congr fun resolution hmem =>
      (format.sorted (hresolutions resolution hmem) hadmits).symm
  rw [Bool.and_eq_true, Bool.and_eq_true, latestUnknownOutcomeResolvedAt_all, ← hfresh,
    beq_iff_eq, beq_iff_eq]
  constructor
  · rintro ⟨⟨hscope, hcheck⟩, hafter⟩
    exact ⟨hcheck, ⟨implementation, himplementation, hscope⟩, hafter⟩
  · rintro ⟨hcheck, ⟨current, hcurrent, hscope⟩, hafter⟩
    obtain rfl := Option.some.inj (himplementation.symm.trans hcurrent)
    exact ⟨⟨hscope, hcheck⟩, hafter⟩

/-- The attempt the source selects is the latest eligible one. -/
theorem isLatest_of_latestBy {implementation : ImplEvidence}
    (huniform : UniformTimestamps format s)
    (himplementation : s.implementation = some implementation)
    (hlatest : latestBy (fun attempt => attempt.result.executedAt)
      (eligibleAttempts s implementation checkId) = some attempt) :
    IsLatest format s checkId attempt := by
  obtain ⟨earlier, later, hsplit, hearlier, hlater⟩ := latestBy_spec hlatest
  rw [eligibleAttempts, List.filter_eq_append_iff] at hsplit
  obtain ⟨before, rest, hattempts, hbefore, hrest⟩ := hsplit
  obtain ⟨skipped, after, rfl, hskipped, hcounts, hafter⟩ := List.filter_eq_cons_iff.1 hrest
  have hadmits : ∀ other ∈ before ++ skipped ++ attempt :: after,
      format.admits other.result.executedAt := fun other hother =>
    huniform.attempts other (by simpa [hattempts] using hother)
  have hcounts_iff : ∀ other ∈ before ++ skipped ++ attempt :: after, _ ↔ _ :=
    fun other hother => @mem_eligibleAttempts _ _ _ _ checkId _ _ huniform.resolutions
      himplementation (hadmits other hother)
  refine ⟨before ++ skipped, after, by simpa using hattempts,
    (hcounts_iff attempt (by simp)).1 hcounts, fun other hother heligible => ?_,
    fun other hother heligible => ?_⟩
  · have hcounted := (hcounts_iff other (List.mem_append_left _ hother)).2 heligible
    rcases List.mem_append.1 hother with hother | hother
    · have hmem : other ∈ earlier := hbefore ▸ List.mem_filter.2 ⟨hother, hcounted⟩
      exact (TimestampFormat.sorted_le (hadmits other (by simp [hother]))
        (hadmits attempt (by simp))).1 (hearlier other hmem)
    · exact absurd hcounted (hskipped other hother)
  · have hwithin : other ∈ before ++ skipped ++ attempt :: after :=
      List.mem_append_right _ (List.mem_cons_of_mem _ hother)
    have hcounted := (hcounts_iff other hwithin).2 heligible
    have hmem : other ∈ later := hafter ▸ List.mem_filter.2 ⟨hother, hcounted⟩
    exact (format.sorted (hadmits other (by simp [hother]))
      (hadmits attempt (by simp))).1 (hlater other hmem)

/-! ### The decision on a check -/

/-- An active check without a latest attempt that passed is missing. -/
theorem mem_missing (env : Environment) (hactive : checkId ∈ s.activeChecks)
    (hunsatisfied : ∀ implementation, s.implementation = some implementation →
      satisfyingAttempt env s implementation checkId = none) :
    checkId ∈ (evaluateImplValidationEvidence env s).missing ∧
      (evaluateImplValidationEvidence env s).satisfied = false := by
  have hsome : s.activeChecks.isEmpty = false :=
    List.isEmpty_eq_false_iff.2 (List.ne_nil_of_mem hactive)
  rw [evaluateImplValidationEvidence, hsome, if_neg Bool.false_ne_true]
  cases himplementation : s.implementation with
  | none => exact ⟨hactive, rfl⟩
  | some implementation =>
      have hmissing : checkId ∈ s.activeChecks.filter fun checkId =>
          (satisfyingAttempt env s implementation checkId).isNone := by
        rw [List.mem_filter, hunsatisfied implementation himplementation]
        exact ⟨hactive, rfl⟩
      exact ⟨hmissing, List.isEmpty_eq_false_iff.2 (List.ne_nil_of_mem hmissing)⟩

theorem latest_of_satisfyingAttempt {env : Environment} {implementation : ImplEvidence}
    (huniform : UniformTimestamps format s)
    (himplementation : s.implementation = some implementation)
    (hsatisfied : satisfyingAttempt env s implementation checkId ≠ none) :
    ∃ attempt, IsLatest format s checkId attempt ∧ attempt.result.passed = true := by
  rw [satisfyingAttempt] at hsatisfied
  split at hsatisfied
  case h_2 => exact absurd rfl hsatisfied
  case h_1 result attempt _ hlatest =>
    refine ⟨attempt, isLatest_of_latestBy huniform himplementation hlatest, ?_⟩
    by_contra hfailed
    exact hsatisfied (if_neg (by simp [hfailed]))

/-- A satisfied check has a latest eligible attempt, and that one passed. -/
theorem latest_of_not_missing {env : Environment} (huniform : UniformTimestamps format s)
    (hactive : checkId ∈ s.activeChecks)
    (hsatisfied : checkId ∉ (evaluateImplValidationEvidence env s).missing) :
    ∃ attempt, IsLatest format s checkId attempt ∧ attempt.result.passed = true := by
  by_contra hnone
  refine hsatisfied (mem_missing env hactive fun implementation himplementation => ?_).1
  by_contra hattempt
  exact hnone (latest_of_satisfyingAttempt huniform himplementation hattempt)

/-- Without a passing latest attempt no attempt satisfies the check. -/
theorem satisfyingAttempt_eq_none {env : Environment} {implementation : ImplEvidence}
    (hfailed : ∀ attempt, latestBy (fun attempt => attempt.result.executedAt)
      (eligibleAttempts s implementation checkId) = some attempt →
        attempt.result.passed = false) :
    satisfyingAttempt env s implementation checkId = none := by
  rw [satisfyingAttempt]
  split
  case h_2 => rfl
  case h_1 result attempt _ hlatest =>
    rw [hfailed attempt hlatest]
    simp

/-- The state with another history of attempts. -/
def withAttempts (s : SessionState) (attempts : List ValidationAttempt) : SessionState :=
  { s with validationAttempts := attempts }

theorem eligibleAttempts_append (implementation : ImplEvidence)
    (earlier later : List ValidationAttempt) :
    eligibleAttempts (withAttempts s (earlier ++ later)) implementation checkId =
      eligibleAttempts (withAttempts s earlier) implementation checkId ++
        eligibleAttempts (withAttempts s later) implementation checkId :=
  List.filter_append ..

theorem missing_appended (env : Environment) (huniform : UniformTimestamps format s)
    (hactive : checkId ∈ s.activeChecks) {failed : ValidationAttempt}
    (hadmits : format.admits failed.result.executedAt) (hcheck : failed.result.checkId = checkId)
    (hcurrent : OfImplementation s failed) (hfailed : failed.result.passed = false)
    (hlater : ∀ attempt ∈ s.validationAttempts, Eligible format s checkId attempt →
      format.instant attempt.result.executedAt ≤ format.instant failed.result.executedAt) :
    let decision := evaluateImplValidationEvidence env
      (withAttempts s (s.validationAttempts ++ [failed]))
    checkId ∈ decision.missing ∧ decision.satisfied = false := by
  refine mem_missing env hactive fun implementation himplementation =>
    satisfyingAttempt_eq_none fun latest hlatest => ?_
  have himplementation' : s.implementation = some implementation := himplementation
  have heligible_iff : ∀ attempt ∈ s.validationAttempts, _ ↔ Eligible format s checkId attempt :=
    fun attempt hmem => mem_eligibleAttempts huniform.resolutions himplementation'
      (huniform.attempts attempt hmem)
  have happended : eligibleAttempts (withAttempts s (s.validationAttempts ++ [failed]))
      implementation checkId = eligibleAttempts s implementation checkId ++
        eligibleAttempts (withAttempts s [failed]) implementation checkId :=
    eligibleAttempts_append ..
  by_cases hfresh : AfterResolution format s failed
  · have hcounts := (mem_eligibleAttempts huniform.resolutions himplementation' hadmits).2
      ⟨hcheck, hcurrent, hfresh⟩
    have hsingle : eligibleAttempts (withAttempts s [failed]) implementation
        checkId = [failed] := List.filter_cons_of_pos hcounts
    rw [happended, hsingle, latestBy_concat_latest] at hlatest
    · cases hlatest
      exact hfailed
    · intro other hother
      obtain ⟨hmem, hcounted⟩ := List.mem_filter.1 hother
      exact (TimestampFormat.sorted_le (huniform.attempts other hmem) hadmits).2
        (hlater other hmem ((heligible_iff other hmem).1 hcounted))
  · -- An attempt before a resolution leaves the earlier ones before it as well.
    have hnone : eligibleAttempts (withAttempts s (s.validationAttempts ++ [failed]))
        implementation checkId = [] := by
      rw [happended, List.append_eq_nil_iff]
      constructor
      · refine List.filter_eq_nil_iff.2 fun other hmem hcounted => hfresh ?_
        have heligible := (heligible_iff other hmem).1 hcounted
        exact fun resolution hresolution =>
          (heligible.fresh resolution hresolution).trans_le (hlater other hmem heligible)
      · refine List.filter_eq_nil_iff.2 fun other hmem hcounted => hfresh ?_
        obtain rfl := List.mem_singleton.1 hmem
        exact ((mem_eligibleAttempts huniform.resolutions himplementation' hadmits).1
          hcounted).fresh
    rw [hnone] at hlatest
    cases hlatest

/-- Attempts enter the decision only as eligible ones. -/
theorem evaluateImplValidationEvidence_congr (env : Environment)
    {attempts : List ValidationAttempt}
    (hsame : ∀ implementation, s.implementation = some implementation → ∀ checkId,
      eligibleAttempts (withAttempts s attempts) implementation checkId =
        eligibleAttempts s implementation checkId) :
    evaluateImplValidationEvidence env (withAttempts s attempts) =
      evaluateImplValidationEvidence env s := by
  rw [evaluateImplValidationEvidence, evaluateImplValidationEvidence]
  cases himplementation : s.implementation with
  | none =>
      have himplementation' : (withAttempts s attempts).implementation = none := himplementation
      rw [himplementation']
      rfl
  | some implementation =>
      have himplementation' : (withAttempts s attempts).implementation = some implementation :=
        himplementation
      have hattempt : satisfyingAttempt env (withAttempts s attempts) implementation =
          satisfyingAttempt env s implementation := by
        funext checkId
        rw [satisfyingAttempt, satisfyingAttempt, hsame implementation himplementation]
        rfl
      rw [himplementation']
      dsimp only
      rw [hattempt]
      rfl

/-- An attempt that is of another implementation, or that a resolution came after, can be
left out of the history. -/
theorem evaluate_ignored (env : Environment) (huniform : UniformTimestamps format s)
    {earlier later : List ValidationAttempt} {ignored : ValidationAttempt}
    (hattempts : s.validationAttempts = earlier ++ ignored :: later)
    (hignored : ¬ OfImplementation s ignored ∨ ¬ AfterResolution format s ignored) :
    evaluateImplValidationEvidence env (withAttempts s (earlier ++ later)) =
      evaluateImplValidationEvidence env s := by
  refine evaluateImplValidationEvidence_congr env fun implementation himplementation checkId => ?_
  have huncounted := (@mem_eligibleAttempts _ _ _ _ checkId _ _ huniform.resolutions
    himplementation (huniform.attempts ignored (by simp [hattempts]))).not.2 fun heligible =>
      hignored.elim (absurd heligible.current) (absurd heligible.fresh)
  have hnone : eligibleAttempts (withAttempts s [ignored]) implementation checkId = [] :=
    List.filter_cons_of_neg huncounted
  calc
    eligibleAttempts (withAttempts s (earlier ++ later)) implementation checkId
    _ = eligibleAttempts (withAttempts s (earlier ++ ([ignored] ++ later))) implementation
          checkId := by
        rw [eligibleAttempts_append, eligibleAttempts_append, eligibleAttempts_append, hnone,
          List.nil_append]
    _ = eligibleAttempts s implementation checkId :=
        congrArg (fun attempts => eligibleAttempts (withAttempts s attempts) implementation
          checkId) hattempts.symm

end Attempts

/-! ### The latest attempt decides -/

/-- An active check is satisfied only by a latest eligible attempt that passed; a failing
one recorded later leaves it missing, whatever came before; and attempts of another
implementation, or from before a resolution, change nothing. -/
theorem latest_attempt_decides {Instant : Type} [LinearOrder Instant]
    (format : TimestampFormat Instant) (env : Environment) (s : SessionState)
    (huniform : UniformTimestamps format s) :
    ((evaluateImplValidationEvidence env s).satisfied = true ↔
      s.activeChecks ≠ [] ∧ (evaluateImplValidationEvidence env s).missing = []) ∧
    (∀ checkId ∈ s.activeChecks, checkId ∉ (evaluateImplValidationEvidence env s).missing →
      ∃ attempt, IsLatest format s checkId attempt ∧ attempt.result.passed = true) ∧
    (∀ checkId ∈ s.activeChecks, ∀ failed : ValidationAttempt,
      format.admits failed.result.executedAt → failed.result.checkId = checkId →
      OfImplementation s failed → failed.result.passed = false →
      (∀ attempt ∈ s.validationAttempts, Eligible format s checkId attempt →
        format.instant attempt.result.executedAt ≤ format.instant failed.result.executedAt) →
      let decision := evaluateImplValidationEvidence env
        (withAttempts s (s.validationAttempts ++ [failed]))
      checkId ∈ decision.missing ∧ decision.satisfied = false) ∧
    ∀ earlier ignored later, s.validationAttempts = earlier ++ ignored :: later →
      ¬ OfImplementation s ignored ∨ ¬ AfterResolution format s ignored →
      evaluateImplValidationEvidence env (withAttempts s (earlier ++ later)) =
        evaluateImplValidationEvidence env s := by
  refine ⟨?_, fun checkId hactive => latest_of_not_missing huniform hactive,
    fun checkId hactive failed hadmits hcheck hcurrent hfailed hlater =>
      missing_appended env huniform hactive hadmits hcheck hcurrent hfailed hlater,
    fun earlier ignored later hattempts hignored =>
      evaluate_ignored env huniform hattempts hignored⟩
  rw [evaluateImplValidationEvidence]
  by_cases hnone : s.activeChecks = []
  · simp [hnone]
  · rw [if_neg (by simpa [List.isEmpty_iff] using hnone)]
    cases s.implementation with
    | none => simp [hnone]
    | some implementation => simp [hnone, List.isEmpty_iff]

/-- Candidates are told apart by their commands. -/
def commandEnvironment : Environment :=
  { Environment.plain with
    hashing := { Hashing.transparent with candidate := VerificationCandidate.command } }

/-- A recorded implementation whose check passed once. -/
def attemptedSession : SessionState :=
  { Rails.reviewedSession true with
    verificationCandidates := some [⟨"vc_npm test", .test, "npm test", .unsupported, ""⟩]
    implValidation := [testResult true "2024-05-01T09:10:00.000Z"]
    validationAttempts :=
      [{ attemptId := "4b7c1d2e-3f40-4a5b-8c6d-7e8f90a1b2c3"
         scope := .implementation "0b8f9a52-6c1d-4f0e-9a75-2f1c3d4e5f60" "d1"
         executionObservation := ""
         result := testResult true "2024-05-01T09:10:00.000Z" }] }
where
  testResult (passed : Bool) (executedAt : Timestamp) : ValidationResult :=
    { checkId := "test"
      passed := passed
      executedAt := executedAt
      kind := .test
      candidateId := some "vc_npm test"
      command := "npm test"
      exitCode := if passed then 0 else 1
      outputDigest := "d2"
      timedOut := false
      outcome := .supported
      assertionExtraction := none
      other := "" }

/-- The check fails when it is run again. -/
def failedAttempt : ValidationAttempt :=
  { attemptId := "5c8d2e3f-4051-4b6c-9d7e-8f90a1b2c3d4"
    scope := .implementation "0b8f9a52-6c1d-4f0e-9a75-2f1c3d4e5f60" "d1"
    executionObservation := ""
    result := attemptedSession.testResult false "2024-05-01T09:20:00.000Z" }

theorem uniform_attemptedSession : UniformTimestamps isoFormat attemptedSession where
  attempts := by
    intro attempt hmem
    obtain rfl := List.mem_singleton.1 hmem
    exact ⟨1714554600000, by decide, by decide⟩
  resolutions := nofun

theorem latest_attempt_decides_failed :
    UniformTimestamps isoFormat attemptedSession ∧
    "test" ∉ (evaluateImplValidationEvidence commandEnvironment attemptedSession).missing ∧
    "test" ∈ (evaluateImplValidationEvidence commandEnvironment (withAttempts attemptedSession
      (attemptedSession.validationAttempts ++ [failedAttempt]))).missing := by
  obtain ⟨_, _, hlater, _⟩ :=
    latest_attempt_decides isoFormat commandEnvironment attemptedSession uniform_attemptedSession
  refine ⟨uniform_attemptedSession, by decide, (hlater "test" (by decide) failedAttempt
    ⟨1714555200000, by decide, by decide⟩ rfl ⟨_, rfl, rfl⟩ rfl ?_).1⟩
  intro attempt hmem _
  obtain rfl := List.mem_singleton.1 hmem
  decide

end GovernedRuntime.Verification
