/-
What a check result means, to the builder of the next state and to the machine
(`src/integration/tools/validation/run-check-result.ts`): the one decides what the
result clears, the other which edge is taken.
-/
import GovernedRuntime.Tools.Implementation

namespace GovernedRuntime.Tools

open GovernedRuntime.Library
open GovernedRuntime.State
open GovernedRuntime.Machine
open GovernedRuntime.Rails

/-! ### Building a result -/

/-- What `executeCheck` reports of an execution. -/
structure CheckEvidence where
  kind : VerificationCandidateKind
  command : String
  startedAt : Timestamp
  passed : Bool
  exitCode : Int
  timedOut : Bool
  stdout : String
  stderr : String
  outputDigest : String

/-- What a result is built from.  The outcome is any: that of
`classifyValidationOutcome`, or the override of a subject that drifted; `other` is the
detail, the duration, the reason of the classification, the repair guidance and the
scope attestation. -/
structure ValidationResultParams where
  checkId : String
  candidateId : Option String
  evidence : CheckEvidence
  outcome : ValidationOutcome
  extraction : Option AssertionExtractionResult
  other : CanonicalText

def buildValidationResult (params : ValidationResultParams) : ValidationResult :=
  { checkId := params.checkId
    passed := params.outcome == .supported
    executedAt := params.evidence.startedAt
    kind := params.evidence.kind
    candidateId := params.candidateId
    command := params.evidence.command
    exitCode := params.evidence.exitCode
    outputDigest := params.evidence.outputDigest
    timedOut := params.evidence.timedOut
    outcome := params.outcome
    assertionExtraction := params.extraction
    other := params.other }

/-- Only an outcome that supports the check passes it. -/
theorem outcome_of_passed {params : ValidationResultParams}
    (hpassed : (buildValidationResult params).passed = true) :
    (buildValidationResult params).outcome = .supported := by
  simpa [buildValidationResult] using hpassed

/-! ### Dispositions of the merged results -/

def HasArtifactFailure (results : List ValidationResult) : Prop :=
  ∃ result ∈ results, classifyValidationDisposition result = .artifactFailure

def HasTechnicalBlock (results : List ValidationResult) : Prop :=
  ∃ result ∈ results, classifyValidationDisposition result = .technicalBlock

/-- A check failed, and none of them was left without a verdict. -/
def FailsGenuinely (results : List ValidationResult) : Prop :=
  HasArtifactFailure results ∧ ¬ HasTechnicalBlock results

instance (results : List ValidationResult) : Decidable (FailsGenuinely results) :=
  inferInstanceAs (Decidable
    ((∃ result ∈ results, classifyValidationDisposition result = .artifactFailure) ∧
      ¬ ∃ result ∈ results, classifyValidationDisposition result = .technicalBlock))

/-- The results as `buildValidationResult` makes them. -/
def BuiltResults (results : List ValidationResult) : Prop :=
  ∀ result ∈ results, result.passed = true → result.outcome = .supported

theorem any_technicalBlock_iff (results : List ValidationResult) :
    results.any isTechnicalValidationBlock = true ↔ HasTechnicalBlock results := by
  simp [HasTechnicalBlock, isTechnicalValidationBlock]

theorem disposition_of_passed {result : ValidationResult} (hpassed : result.passed = true)
    (hsupported : result.outcome = .supported) :
    classifyValidationDisposition result = .supported := by
  simp [classifyValidationDisposition, hpassed, hsupported]

/-- What did not pass is a failure of the artifact or a technical block. -/
theorem disposition_of_not_passed {result : ValidationResult}
    (hfailed : result.passed = false) :
    classifyValidationDisposition result = .artifactFailure ∨
      classifyValidationDisposition result = .technicalBlock := by
  simp only [classifyValidationDisposition, hfailed, Bool.false_and, Bool.false_eq_true,
    if_false]
  split_ifs <;> simp

/-- For built results the builder's test is the disposition. -/
theorem failed_iff_failsGenuinely {results : List ValidationResult}
    (hbuilt : BuiltResults results) :
    (results.any (!·.passed) && !results.any isTechnicalValidationBlock) = true ↔
      FailsGenuinely results := by
  rw [Bool.and_eq_true, Bool.not_eq_true', ← Bool.not_eq_true, any_technicalBlock_iff,
    FailsGenuinely]
  refine and_congr_left ?_
  intro hclear
  simp only [List.any_eq_true, Bool.not_eq_true']
  constructor
  · rintro ⟨result, hmem, hfailed⟩
    rcases disposition_of_not_passed hfailed with hartifact | htechnical
    · exact ⟨result, hmem, hartifact⟩
    · exact absurd ⟨result, hmem, htechnical⟩ hclear
  · rintro ⟨result, hmem, hartifact⟩
    refine ⟨result, hmem, ?_⟩
    cases hpassed : result.passed with
    | false => rfl
    | true =>
        rw [disposition_of_passed hpassed (hbuilt result hmem hpassed)] at hartifact
        cases hartifact

/-- Without a genuine failure, a failing result comes with a technical block. -/
theorem technical_of_not_failsGenuinely {results : List ValidationResult}
    (hfine : ¬ FailsGenuinely results) :
    results.any (!·.passed) = false ∨ results.any isTechnicalValidationBlock = true := by
  by_cases htechnical : HasTechnicalBlock results
  · exact Or.inr ((any_technicalBlock_iff results).2 htechnical)
  left
  rw [← Bool.not_eq_true]
  intro hfailing
  obtain ⟨result, hmem, hfailed⟩ := List.any_eq_true.1 hfailing
  rw [Bool.not_eq_true'] at hfailed
  rcases disposition_of_not_passed hfailed with hartifact | hblock
  · exact hfine ⟨⟨result, hmem, hartifact⟩, htechnical⟩
  · exact htechnical ⟨result, hmem, hblock⟩

/-! ### Merging a result -/

/-- The slot the results of a phase accumulate in. -/
def storedResults (s : SessionState) : List ValidationResult :=
  if s.phase == .implValidation then s.implValidation else s.validation

theorem mem_mergeValidationResult {s : SessionState} {result merged : ValidationResult} :
    merged ∈ mergeValidationResult s result ↔
      (merged ∈ storedResults s ∧ merged.checkId ≠ result.checkId) ∨ merged = result := by
  simp [mergeValidationResult, storedResults]

/-- A state in which a check can be run: what it has stored belongs to active checks
and was built by the tool, at most one result a check for the baseline, and no
implementation is recorded with results that failed. -/
structure ReadyForCheck (s : SessionState) : Prop where
  phase : s.phase = .validation ∨ s.phase = .implValidation
  active : ∀ result ∈ storedResults s, result.checkId ∈ s.activeChecks
  built : BuiltResults (storedResults s)
  once : s.phase = .validation → (s.validation.map (·.checkId)).Nodup
  fresh : s.phase = .validation →
    s.implementation = none ∨ ¬ FailsGenuinely s.implValidation

theorem ReadyForCheck.merged_active {s : SessionState} (hready : ReadyForCheck s)
    {result : ValidationResult} (hactive : result.checkId ∈ s.activeChecks) :
    ∀ merged ∈ mergeValidationResult s result, merged.checkId ∈ s.activeChecks := by
  intro merged hmem
  rcases mem_mergeValidationResult.1 hmem with ⟨hstored, -⟩ | rfl
  · exact hready.active merged hstored
  · exact hactive

theorem ReadyForCheck.merged_built {s : SessionState} (hready : ReadyForCheck s)
    (params : ValidationResultParams) :
    BuiltResults (mergeValidationResult s (buildValidationResult params)) := by
  intro merged hmem hpassed
  rcases mem_mergeValidationResult.1 hmem with ⟨hstored, -⟩ | rfl
  · exact hready.built merged hstored hpassed
  · exact outcome_of_passed hpassed

/-- The merged baseline keeps one result a check. -/
theorem ReadyForCheck.merged_once {s : SessionState} (hready : ReadyForCheck s)
    (hphase : s.phase = .validation) (result : ValidationResult) :
    ((mergeValidationResult s result).map (·.checkId)).Nodup := by
  have hslot : mergeValidationResult s result =
      s.validation.filter (·.checkId != result.checkId) ++ [result] := by
    simp [mergeValidationResult, hphase]
  rw [hslot, List.map_append, List.map_singleton, List.nodup_append]
  refine ⟨(List.filter_sublist.map _).nodup (hready.once hphase), by simp, ?_⟩
  intro checkId hmem other hother
  obtain ⟨kept, hkept, rfl⟩ := List.mem_map.1 hmem
  rw [List.mem_singleton] at hother
  subst hother
  simpa using (List.mem_filter.1 hkept).2

/-! ### The built state -/

/-- The approval of the plan or the implementation, whichever the phase checks, is
gone. -/
def AuthorityCleared (s built : SessionState) : Prop :=
  (s.phase = .validation → built.selfReview = none ∧ built.reviewDecision = none) ∧
    (s.phase = .implValidation → built.implementation = none)

structure AuthorityKept (s built : SessionState) : Prop where
  selfReview : built.selfReview = s.selfReview
  reviewDecision : built.reviewDecision = s.reviewDecision
  implementation : built.implementation = s.implementation

section Built

variable (s : SessionState) (merged : List ValidationResult) (attempt : ValidationAttempt)

theorem buildNextValidationState_phase :
    (buildNextValidationState s merged attempt).phase = s.phase := by
  rw [buildNextValidationState]
  split <;> rfl

theorem buildNextValidationState_activeChecks :
    (buildNextValidationState s merged attempt).activeChecks = s.activeChecks := by
  rw [buildNextValidationState]
  split <;> rfl

theorem hasError_buildNextValidationState :
    hasError (buildNextValidationState s merged attempt) = false := by
  rw [buildNextValidationState]
  split <;> rfl

theorem storedResults_buildNextValidationState :
    storedResults (buildNextValidationState s merged attempt) = merged := by
  by_cases hphase : s.phase = .implValidation <;>
    simp [buildNextValidationState, storedResults, hphase]

variable {s merged}

theorem authorityCleared_of_failsGenuinely (hbuilt : BuiltResults merged)
    (hfails : FailsGenuinely merged) :
    AuthorityCleared s (buildNextValidationState s merged attempt) := by
  have hfailed := (failed_iff_failsGenuinely hbuilt).2 hfails
  constructor
  · intro hphase
    simp only [buildNextValidationState, hphase, hfailed]
    exact ⟨rfl, rfl⟩
  · intro hphase
    simp only [buildNextValidationState, hphase, hfailed]
    rfl

theorem authorityKept_of_not_failsGenuinely (hbuilt : BuiltResults merged)
    (hfine : ¬ FailsGenuinely merged) :
    AuthorityKept s (buildNextValidationState s merged attempt) := by
  rw [← failed_iff_failsGenuinely hbuilt, Bool.not_eq_true] at hfine
  by_cases hphase : s.phase = .implValidation
  · constructor <;> simp [buildNextValidationState, hphase, hfine]
  · constructor <;> simp [buildNextValidationState, hphase, hfine]

end Built

/-! ### How the machine reads the results -/

section Machine

variable (env : Environment)

/-- The guards read the slot the builder wrote. -/
theorem guards_storedResults {s : SessionState} :
    (s.phase = .validation → s.validation = storedResults s) ∧
      (s.phase = .implValidation → s.implValidation = storedResults s) := by
  constructor <;> intro hphase <;> simp [storedResults, hphase]

/-- A technical block is answered by a self-loop, before any other guard. -/
theorem evaluate_of_technicalBlock {s : SessionState} (policy : Option GatePolicy)
    (hphase : s.phase = .validation ∨ s.phase = .implValidation)
    (herror : hasError s = false) (htechnical : HasTechnicalBlock (storedResults s)) :
    evaluate env s policy = .transition .checkErrored s.phase := by
  have hany := (any_technicalBlock_iff _).2 htechnical
  rcases hphase with hphase | hphase
  · have herrored : checkErrored s = true := by
      rw [checkErrored, guards_storedResults.1 hphase, hany]
    rw [evaluate_validation env policy hphase, herror, herrored, hphase]
    rfl
  · have herrored : implCheckErrored s = true := by
      rw [implCheckErrored, guards_storedResults.2 hphase, hany]
    rw [evaluate_implValidation env policy hphase, herror, herrored, hphase]
    rfl

/-- The phase a proven failure leads back to. -/
def failureTarget (phase : Phase) : Phase :=
  if phase == .validation then .plan else .implementation

/-- A failing check of the baseline has no passing result beside it. -/
theorem allValidationsPassed_of_failed {s : SessionState} {failed : ValidationResult}
    (honce : (s.validation.map (·.checkId)).Nodup) (hmem : failed ∈ s.validation)
    (hfailed : failed.passed = false) (hactive : failed.checkId ∈ s.activeChecks) :
    allValidationsPassed s = false := by
  rw [← Bool.not_eq_true, allValidationsPassed_iff (List.ne_nil_of_mem hactive)]
  intro hall
  obtain ⟨passing, hpassing, hpassed, hsame⟩ := hall failed.checkId hactive
  have heq : passing = failed := List.inj_on_of_nodup_map honce hpassing hmem hsame
  rw [heq, hfailed] at hpassed
  cases hpassed

theorem implValidationPassed_of_none {s : SessionState} (hchecks : s.activeChecks ≠ [])
    (hnone : s.implementation = none) : implValidationPassed env s = false := by
  simp [implValidationPassed, evaluateImplValidationEvidence, hchecks, hnone]

theorem reducedCeremonyReady_of_none {s : SessionState} (hnone : s.implementation = none) :
    reducedCeremonyReady env s = false := by
  cases hdecision : s.reducedCeremony with
  | none => simp [reducedCeremonyReady, hdecision]
  | some decision => simp [reducedCeremonyReady, hdecision, ceremonyBindingMatches, hnone]

/-- A genuine failure whose authority was cleared is answered by the backward edge. -/
theorem evaluate_of_failsGenuinely {s : SessionState} (policy : Option GatePolicy)
    (hphase : s.phase = .validation ∨ s.phase = .implValidation)
    (herror : hasError s = false) (hfails : FailsGenuinely (storedResults s))
    (hbuilt : BuiltResults (storedResults s))
    (hactive : ∀ result ∈ storedResults s, result.checkId ∈ s.activeChecks)
    (honce : s.phase = .validation → ((storedResults s).map (·.checkId)).Nodup)
    (hcleared : s.phase = .implValidation → s.implementation = none) :
    evaluate env s policy = .transition .checkFailed (failureTarget s.phase) := by
  have hfailed := (failed_iff_failsGenuinely hbuilt).2 hfails
  rw [Bool.and_eq_true, Bool.not_eq_true'] at hfailed
  obtain ⟨hany, hclear⟩ := hfailed
  obtain ⟨failed, hmem, hnot⟩ := List.any_eq_true.1 hany
  rw [Bool.not_eq_true'] at hnot
  have hcheck := hactive failed hmem
  rcases hphase with hphase | hphase
  · have hslot := guards_storedResults.1 hphase
    have herrored : checkErrored s = false := by rw [checkErrored, hslot, hclear]
    have hfailing : checkFailed s = true := by rw [checkFailed, hslot, hany]
    have hpassed : allValidationsPassed s = false :=
      allValidationsPassed_of_failed (hslot ▸ honce hphase) (hslot ▸ hmem) hnot hcheck
    rw [evaluate_validation env policy hphase, herror, herrored, hpassed, hfailing, hphase]
    rfl
  · have hslot := guards_storedResults.2 hphase
    have herrored : implCheckErrored s = false := by rw [implCheckErrored, hslot, hclear]
    have hfailing : implCheckFailed s = true := by rw [implCheckFailed, hslot, hany]
    have hpassed : implValidationPassed env s = false :=
      implValidationPassed_of_none env (List.ne_nil_of_mem hcheck) (hcleared hphase)
    have hreduced : reducedCeremonyReady env s = false :=
      reducedCeremonyReady_of_none env (hcleared hphase)
    rw [evaluate_implValidation env policy hphase, herror, herrored, hreduced, hpassed,
      hfailing, hphase]
    rfl

/-- Without the approval of its plan, or without its implementation, a state waits. -/
theorem evaluate_leaves_of_cleared {s : SessionState} (policy : Option GatePolicy)
    (hwaits : (s.phase = .plan ∧ s.selfReview = none) ∨
      (s.phase = .implementation ∧ s.implementation = none)) :
    (evaluate env s policy).leaves s.phase = false := by
  rcases hwaits with ⟨hphase, hnone⟩ | ⟨hphase, hnone⟩
  · rw [evaluate_plan env policy hphase, hphase]
    simp only [selfReviewMet, selfReviewPending, hnone]
    split_ifs <;> first | rfl | contradiction
  · rw [evaluate_implementation env policy hphase, hphase]
    simp only [implComplete, hnone]
    split_ifs <;> first | rfl | contradiction

/-! ### Runs that only move forward -/

/-- The phases of the ticket flow in order, counted from its end. -/
def flowRank : Phase → Nat
  | .plan => 6
  | .validation => 5
  | .implementation => 4
  | .implValidation => 3
  | .implReview => 2
  | .evidenceReview => 1
  | _ => 0

/-- `VALIDATION -> PLAN` or `IMPL_VALIDATION -> IMPLEMENTATION`. -/
def IsBackwardEdge (record : TransitionRecord) : Prop :=
  (record.fromPhase = .validation ∧ record.toPhase = .plan) ∨
    (record.fromPhase = .implValidation ∧ record.toPhase = .implementation)

instance (record : TransitionRecord) : Decidable (IsBackwardEdge record) :=
  inferInstanceAs (Decidable ((record.fromPhase = .validation ∧ record.toPhase = .plan) ∨
    (record.fromPhase = .implValidation ∧ record.toPhase = .implementation)))

theorem IsBackwardEdge.rank_lt {record : TransitionRecord} (hback : IsBackwardEdge record) :
    flowRank record.fromPhase < flowRank record.toPhase := by
  rcases hback with ⟨hfrom, hto⟩ | ⟨hfrom, hto⟩ <;> rw [hfrom, hto] <;> decide

/-- Nothing in the state leads back: the baseline does not fail, and the checks of
the implementation neither fail nor wait for one. -/
structure Forward (s : SessionState) : Prop where
  phase : s.phase = .validation ∨ s.phase = .implementation ∨ s.phase = .implValidation ∨
    s.phase = .implReview ∨ s.phase = .evidenceReview ∨ s.phase = .exportReady
  baseline : s.phase = .validation → checkFailed s = false
  checked : (s.implementation = none ∧ s.phase ≠ .implValidation) ∨
    implCheckFailed s = false ∨ implCheckErrored s = true

/-- The edges that lead on. -/
inductive ForwardEdge : Phase → Phase → Prop
  | passed : ForwardEdge .validation .implementation
  | recorded : ForwardEdge .implementation .implValidation
  | checked : ForwardEdge .implValidation .implReview
  | reduced : ForwardEdge .implValidation .evidenceReview
  | reviewed : ForwardEdge .implReview .evidenceReview
  | approved : ForwardEdge .evidenceReview .exportReady

theorem ForwardEdge.rank_lt {source target : Phase} (hedge : ForwardEdge source target) :
    flowRank target < flowRank source := by
  cases hedge <;> decide

/-- An edge that leaves such a state goes forward. -/
theorem Forward.edge {s : SessionState} (hforward : Forward s)
    {policy : Option GatePolicy} {event : Event} {target : Phase}
    (heval : evaluate env s policy = .transition event target) (hleaves : target ≠ s.phase) :
    ForwardEdge s.phase target ∧ (target = .implValidation → s.implementation ≠ none) := by
  rcases hforward.phase with hphase | hphase | hphase | hphase | hphase | hphase
  · rw [evaluate_validation env policy hphase, hforward.baseline hphase] at heval
    rw [hphase] at hleaves ⊢
    split_ifs at heval <;> cases heval <;> first | contradiction | skip
    exact ⟨.passed, fun hother => by cases hother⟩
  · rw [evaluate_implementation env policy hphase] at heval
    rw [hphase] at hleaves ⊢
    split_ifs at heval with herror hcomplete <;> cases heval <;> first | contradiction | skip
    exact ⟨.recorded, fun _ => Option.isSome_iff_ne_none.1 hcomplete⟩
  · have hchecked := hforward.checked
    rw [hphase] at hchecked
    rw [evaluate_implValidation env policy hphase] at heval
    rw [hphase] at hleaves ⊢
    split_ifs at heval with herror herrored hreduced hpassed hfailed <;> cases heval <;>
      first | contradiction | skip
    · exact ⟨.reduced, fun hother => by cases hother⟩
    · exact ⟨.checked, fun hother => by cases hother⟩
    · simp [hfailed, herrored] at hchecked
  · rw [evaluate_implReview env policy hphase] at heval
    rw [hphase] at hleaves ⊢
    split_ifs at heval <;> cases heval <;> first | contradiction | skip
    exact ⟨.reviewed, fun hother => by cases hother⟩
  · rw [evaluate_of_userGate env (by rw [hphase]; rfl)] at heval
    obtain ⟨-, -, hedge⟩ := evaluateUserGate_transition heval
    rw [hphase] at hedge ⊢
    cases hedge
    exact ⟨.approved, fun hother => by cases hother⟩
  · simp [evaluate, hphase, isTerminal, isUserGate, guards] at heval

/-- Such a state stays one along its edges. -/
theorem Forward.next {s : SessionState} (hforward : Forward s) {target : Phase}
    (hedge : ForwardEdge s.phase target)
    (hrecorded : target = .implValidation → s.implementation ≠ none)
    (event : Event) (atTime : Timestamp) :
    Forward (applyTransitionUnchecked s s.phase target event atTime) := by
  constructor
  · show target = .validation ∨ target = .implementation ∨ target = .implValidation ∨
      target = .implReview ∨ target = .evidenceReview ∨ target = .exportReady
    generalize s.phase = source at hedge
    cases hedge <;> simp
  · intro hphase
    have htarget : target = .validation := hphase
    subst htarget
    generalize s.phase = source at hedge
    cases hedge
  · rcases hforward.checked with ⟨hnone, hphase⟩ | hchecked
    · exact Or.inl ⟨hnone, fun hentered => hrecorded hentered hnone⟩
    · exact Or.inr hchecked

/-- The invariant of a run from such a state. -/
structure ForwardLoop (policy : Option GatePolicy) (loop : AdvanceLoop) : Prop where
  forward : Forward loop.current
  result : loop.result = evaluate env loop.current policy
  records : ∀ record ∈ loop.transitions, ForwardEdge record.fromPhase record.toPhase

theorem ForwardLoop.step {policy : Option GatePolicy} {now : Nat → Timestamp}
    {loop next : AdvanceLoop} (hloop : ForwardLoop env policy loop)
    (hstep : advanceStep env (evaluate env · policy) now loop = .next next) :
    ForwardLoop env policy next ∧
      flowRank next.current.phase < flowRank loop.current.phase := by
  cases (advanceStep_next_iff env).1 hstep with
  | generic event target hresult hleaves hopen hnext =>
      have heval := hloop.result.symm.trans hresult
      obtain ⟨hedge, hrecorded⟩ := hloop.forward.edge env heval hleaves
      subst hnext
      refine ⟨⟨hloop.forward.next hedge hrecorded event _, rfl, ?_⟩, hedge.rank_lt⟩
      intro record hmem
      rcases List.mem_append.1 hmem with hold | hnew
      · exact hloop.records record hold
      · rw [List.mem_singleton] at hnew
        subst hnew
        exact hedge
  | approved event approved hresult hcleared happroved hnext =>
      have hedge : ForwardEdge loop.current.phase .exportReady := by
        rw [hcleared.phase]
        exact .approved
      have hnextForward : Forward approved := by
        rw [happroved, ← hcleared.phase]
        exact hloop.forward.next hedge (fun hother => by cases hother) .approve _
      subst hnext
      refine ⟨⟨hnextForward, rfl, ?_⟩, ?_⟩
      · intro record hmem
        rcases List.mem_append.1 hmem with hold | hnew
        · exact hloop.records record hold
        · rw [List.mem_singleton] at hnew
          subst hnew
          exact .approved
      · rw [happroved]
        exact hedge.rank_lt

/-- A run from such a state is short and never goes back. -/
theorem Forward.turns {policy : Option GatePolicy} {now : Nat → Timestamp} {n : Nat}
    {s : SessionState} {loop : AdvanceLoop} (hforward : Forward s)
    (hturns : Turns (advanceStep env (evaluate env · policy) now) n
      (advanceStart (evaluate env · policy) s) loop) :
    n ≤ 5 ∧ ForwardLoop env policy loop := by
  have hstart : ForwardLoop env policy (advanceStart (evaluate env · policy) s) := by
    refine ⟨hforward, rfl, ?_⟩
    intro record hmem
    simp [advanceStart] at hmem
  have hrank : flowRank s.phase ≤ 5 := by
    rcases hforward.phase with hphase | hphase | hphase | hphase | hphase | hphase <;>
      rw [hphase] <;> decide
  have hbound := @Turns.add_rank_le _ _ _ (ForwardLoop env policy)
    (fun loop => flowRank loop.current.phase)
    (fun _ _ hloop hnext => hloop.step env hnext) _ _ _ hturns hstart
  have hcurrent : flowRank (advanceStart (evaluate env · policy) s).current.phase ≤ 5 :=
    hrank
  refine ⟨by omega, ?_⟩
  exact hturns.invariant (fun _ _ hloop hnext => (hloop.step env hnext).1) hstart

/-! ### The builder and the machine agree -/

/-- Some turn of the run takes a backward edge. -/
def TakesBackwardEdge (policy : Option GatePolicy) (ctx : RailContext)
    (s : SessionState) : Prop :=
  ∃ n ≤ maxAutoAdvanceSteps, ∃ loop,
    Turns (advanceStep env (evaluate env · policy) ctx.now) n
      (advanceStart (evaluate env · policy) s) loop ∧
    ∃ record ∈ loop.transitions, IsBackwardEdge record

/-- What the builder and the machine make of the merged results of a state. -/
structure ResultAgreement (policy : Option GatePolicy) (ctx : RailContext)
    (s built : SessionState) (merged : List ValidationResult)
    (outcome : AutoAdvanceResult) : Prop where
  settles : ∀ result, outcome ≠ .overflow result
  backward : TakesBackwardEdge env policy ctx built ↔ FailsGenuinely merged
  cleared : FailsGenuinely merged → AuthorityCleared s built
  kept : ¬ FailsGenuinely merged → AuthorityKept s built
  returns : FailsGenuinely merged → ∃ result, outcome = .advanced result ∧
    result.state.phase = failureTarget s.phase ∧ AuthorityCleared s result.state
  retries : HasTechnicalBlock merged → ∃ result, outcome = .advanced result ∧
    result.state.phase = s.phase ∧ AuthorityKept s result.state

/-- One turn back, and the machine waits. -/
theorem autoAdvance_of_failsGenuinely {built : SessionState} {policy : Option GatePolicy}
    (ctx : RailContext) (hphase : built.phase = .validation ∨ built.phase = .implValidation)
    (heval : evaluate env built policy = .transition .checkFailed (failureTarget built.phase))
    (hcleared : AuthorityCleared built built) :
    ∃ result, autoAdvance env built (evaluate env · policy) ctx = .ok (.advanced result) ∧
      result.state = applyTransitionUnchecked built built.phase (failureTarget built.phase)
        .checkFailed (ctx.now 0) ∧
      TakesBackwardEdge env policy ctx built := by
  have hback : IsBackwardEdge
      ⟨built.phase, failureTarget built.phase, .checkFailed, ctx.now 0⟩ := by
    rcases hphase with hphase | hphase
    · exact Or.inl ⟨hphase, by rw [hphase]; rfl⟩
    · exact Or.inr ⟨hphase, by rw [hphase]; rfl⟩
  have hopen : failureTarget built.phase ≠ .exportReady ∧
      failureTarget built.phase ≠ built.phase := by
    rcases hphase with hphase | hphase <;> rw [hphase] <;> decide
  have hturn : advanceStep env (evaluate env · policy) ctx.now
      (advanceStart (evaluate env · policy) built) = .next _ :=
    (advanceStep_next_iff env).2
      (.generic .checkFailed (failureTarget built.phase) heval hopen.2 hopen.1 rfl)
  have hwaits : (evaluate env (applyTransitionUnchecked built built.phase
      (failureTarget built.phase) .checkFailed (ctx.now 0)) policy).leaves
        (failureTarget built.phase) = false := by
    apply evaluate_leaves_of_cleared env policy
    rcases hphase with hphase | hphase
    · exact Or.inl ⟨by rw [hphase]; rfl, (hcleared.1 hphase).1⟩
    · exact Or.inr ⟨by rw [hphase]; rfl, hcleared.2 hphase⟩
  refine ⟨_, autoAdvance_of_turns env (.turn hturn (.none _)) (by decide) hwaits, rfl, ?_⟩
  exact ⟨1, by decide, _, .turn hturn (.none _), _, List.mem_singleton_self _, hback⟩

/-- A settled state takes no edge at all. -/
theorem not_takesBackwardEdge_of_settled {s : SessionState} {policy : Option GatePolicy}
    (ctx : RailContext) (hsettled : (evaluate env s policy).leaves s.phase = false) :
    ¬ TakesBackwardEdge env policy ctx s := by
  rintro ⟨n, -, loop, hturns, record, hmem, -⟩
  cases hturns with
  | none => simp [advanceStart] at hmem
  | turn hstep _ =>
      have hstop := @advanceStep_of_not_leaves env (evaluate env · policy) ctx.now
        (advanceStart (evaluate env · policy) s) hsettled
      rw [hstop] at hstep
      cases hstep

/-- Results that all passed lead a ready state forward. -/
theorem ReadyForCheck.forward {s : SessionState} (hready : ReadyForCheck s)
    {merged : List ValidationResult} (attempt : ValidationAttempt)
    (hpassed : merged.any (!·.passed) = false) :
    Forward (buildNextValidationState s merged attempt) := by
  have hphase := buildNextValidationState_phase s merged attempt
  have hslot := storedResults_buildNextValidationState s merged attempt
  constructor
  · rw [hphase]
    rcases hready.phase with hvalidation | himpl
    · exact Or.inl hvalidation
    · exact Or.inr (Or.inr (Or.inl himpl))
  · intro hvalidation
    rw [checkFailed, guards_storedResults.1 hvalidation, hslot]
    exact hpassed
  · rcases hready.phase with hvalidation | himpl
    · have hkept : (buildNextValidationState s merged attempt).implementation =
          s.implementation ∧
          (buildNextValidationState s merged attempt).implValidation = s.implValidation := by
        simp [buildNextValidationState, hvalidation]
      rw [hphase, implCheckFailed, implCheckErrored, hkept.1, hkept.2]
      rcases hready.fresh hvalidation with hnone | hfine
      · exact Or.inl ⟨hnone, by rw [hvalidation]; decide⟩
      · exact Or.inr (technical_of_not_failsGenuinely hfine)
    · refine Or.inr (Or.inl ?_)
      rw [implCheckFailed, guards_storedResults.2 (hphase.trans himpl), hslot]
      exact hpassed

/-- The builder and the machine agree on what a check result means: the run is short,
it goes back exactly on a failure of the artifact without a technical block, exactly
then the evidence was cleared, and a technical block keeps the phase. -/
theorem runCheck_agreement {s : SessionState} (hready : ReadyForCheck s)
    (params : ValidationResultParams) (hactive : params.checkId ∈ s.activeChecks)
    (attempt : ValidationAttempt) (policy : Option GatePolicy) (ctx : RailContext) :
    ∃ outcome, autoAdvance env
        (buildNextValidationState s
          (mergeValidationResult s (buildValidationResult params)) attempt)
        (evaluate env · policy) ctx = .ok outcome ∧
      ResultAgreement env policy ctx s
        (buildNextValidationState s
          (mergeValidationResult s (buildValidationResult params)) attempt)
        (mergeValidationResult s (buildValidationResult params)) outcome := by
  have hbuilt := hready.merged_built params
  have hchecks := @ReadyForCheck.merged_active _ hready (buildValidationResult params) hactive
  have honce := fun hphase => hready.merged_once hphase (buildValidationResult params)
  generalize mergeValidationResult s (buildValidationResult params) = merged at *
  have hphase := buildNextValidationState_phase s merged attempt
  have hslot := storedResults_buildNextValidationState s merged attempt
  have herror := hasError_buildNextValidationState s merged attempt
  have hchecked : (buildNextValidationState s merged attempt).phase = .validation ∨
      (buildNextValidationState s merged attempt).phase = .implValidation :=
    hphase ▸ hready.phase
  by_cases htechnical : HasTechnicalBlock merged
  · -- the machine stays, and nothing was cleared
    have hfine : ¬ FailsGenuinely merged := fun hfails => hfails.2 htechnical
    have hkept := authorityKept_of_not_failsGenuinely (s := s) attempt hbuilt hfine
    have hsettled : (evaluate env (buildNextValidationState s merged attempt) policy).leaves
        (buildNextValidationState s merged attempt).phase = false := by
      rw [evaluate_of_technicalBlock env policy hchecked herror (hslot.symm ▸ htechnical)]
      simp [EvalResult.leaves]
    refine ⟨_, autoAdvance_of_settled env ctx hsettled, ?_⟩
    constructor
    · intro result hoverflow
      cases hoverflow
    · exact iff_of_false (not_takesBackwardEdge_of_settled env ctx hsettled) hfine
    · exact fun hfails => absurd hfails hfine
    · exact fun _ => hkept
    · exact fun hfails => absurd hfails hfine
    · exact fun _ => ⟨_, rfl, hphase, hkept⟩
  by_cases hfails : FailsGenuinely merged
  · -- one turn back, to where the cleared evidence is missing
    have hcleared := authorityCleared_of_failsGenuinely (s := s) attempt hbuilt hfails
    have hself : AuthorityCleared (buildNextValidationState s merged attempt)
        (buildNextValidationState s merged attempt) := by
      rw [AuthorityCleared, hphase]
      exact hcleared
    have heval : evaluate env (buildNextValidationState s merged attempt) policy =
        .transition .checkFailed
          (failureTarget (buildNextValidationState s merged attempt).phase) := by
      apply evaluate_of_failsGenuinely env policy hchecked herror
      · rwa [hslot]
      · rwa [hslot]
      · rw [hslot, buildNextValidationState_activeChecks]
        exact hchecks
      · rw [hslot, hphase]
        exact honce
      · exact hself.2
    obtain ⟨result, hadvance, hstate, hback⟩ :=
      autoAdvance_of_failsGenuinely env ctx hchecked heval hself
    refine ⟨_, hadvance, ?_⟩
    constructor
    · intro other hoverflow
      cases hoverflow
    · exact iff_of_true hback hfails
    · exact fun _ => hcleared
    · exact fun hfine => absurd hfails hfine
    · refine fun _ => ⟨result, rfl, ?_, ?_⟩
      · rw [hstate, applyTransitionUnchecked_phase, hphase]
      · rw [hstate]
        exact hcleared
    · exact fun hblock => absurd hblock htechnical
  · -- every result passed: the run goes forward, at most to the approval
    have hpassed : merged.any (!·.passed) = false :=
      (technical_of_not_failsGenuinely hfails).resolve_right
        (fun hblock => htechnical ((any_technicalBlock_iff merged).1 hblock))
    have hforward := hready.forward attempt hpassed
    obtain ⟨outcome, hadvance⟩ := autoAdvance_evaluate_total env
      (buildNextValidationState s merged attempt) policy ctx
    refine ⟨outcome, hadvance, ?_⟩
    constructor
    · rintro result rfl
      obtain ⟨loop, hturns⟩ := autoAdvance_overflow env hadvance
      have hshort := (hforward.turns env hturns).1
      exact absurd hshort (by decide)
    · refine iff_of_false ?_ hfails
      rintro ⟨n, -, loop, hturns, record, hmem, hback⟩
      have hedge := (hforward.turns env hturns).2.records record hmem
      have hdown := hedge.rank_lt
      have hup := hback.rank_lt
      omega
    · exact fun hgenuine => absurd hgenuine hfails
    · exact authorityKept_of_not_failsGenuinely attempt hbuilt
    · exact fun hgenuine => absurd hgenuine hfails
    · exact fun hblock => absurd hblock htechnical

/-- An execution of the test suite, with the exit code it ended with. -/
def testEvidence (exitCode : Int) : CheckEvidence :=
  { kind := .test
    command := "npm test"
    startedAt := "2024-05-01T09:30:00.000Z"
    passed := exitCode == 0
    exitCode := exitCode
    timedOut := false
    stdout := "12 tests"
    stderr := ""
    outputDigest := "o1" }

def testParams (exitCode : Int) : ValidationResultParams :=
  { checkId := "test"
    candidateId := none
    evidence := testEvidence exitCode
    outcome := if exitCode == 0 then .supported else .inconclusive
    extraction := none
    other := "" }

/-- A recorded implementation whose stored check results are given. -/
def checkedSession (phase : Phase) (stored : List ValidationResult) : SessionState :=
  { reviewedSession false with
    phase := phase
    implValidation := stored }

def testAttempt (exitCode : Int) : ValidationAttempt :=
  ⟨"a1", .baseline "p1", "", buildValidationResult (testParams exitCode)⟩

/-- A recorded implementation whose other check has passed. -/
def lintedSession : SessionState :=
  { checkedSession .implValidation [lintResult 0] with activeChecks := ["lint", "test"] }
where
  lintResult (exitCode : Int) : ValidationResult :=
    buildValidationResult { testParams exitCode with checkId := "lint" }

/-- A failing test takes the implementation back. -/
theorem runCheck_agreement_failing :
    ∃ outcome, autoAdvance .plain
        (buildNextValidationState lintedSession
          (mergeValidationResult lintedSession (buildValidationResult (testParams 1)))
          (testAttempt 1))
        (evaluate .plain · (some soloPolicy.gate)) (stillContext soloPolicy) = .ok outcome ∧
      ResultAgreement .plain (some soloPolicy.gate) (stillContext soloPolicy) lintedSession
        (buildNextValidationState lintedSession
          (mergeValidationResult lintedSession (buildValidationResult (testParams 1)))
          (testAttempt 1))
        (mergeValidationResult lintedSession (buildValidationResult (testParams 1))) outcome :=
  runCheck_agreement .plain
    ⟨Or.inr rfl, by decide, by unfold BuiltResults; decide,
      fun hphase => (by cases hphase), fun hphase => (by cases hphase)⟩
    (testParams 1) (by decide) (testAttempt 1) (some soloPolicy.gate)
    (stillContext soloPolicy)

/-- A plan under two checks, with the stored baseline. -/
def baselineSession (stored : List ValidationResult) : SessionState :=
  { checkedSession .validation [] with
    activeChecks := ["lint", "test"]
    implementation := none
    validation := stored }

/-- The merged results fail genuinely, and the machine goes forward. -/
def Disagrees (s : SessionState) (params : ValidationResultParams) : Prop :=
  FailsGenuinely (mergeValidationResult s (buildValidationResult params)) ∧
    ∃ result, autoAdvance .plain
        (buildNextValidationState s
          (mergeValidationResult s (buildValidationResult params)) (testAttempt 0))
        (evaluate .plain · (some soloPolicy.gate)) (stillContext soloPolicy) =
          .ok (.advanced result) ∧
      ∀ record ∈ result.transitions, ¬ IsBackwardEdge record

/-- Each of the restrictions is needed: no implementation whose checks had failed (its
machine never settles), one baseline result a check, stored results as the tool builds
them, and a new result of an active check. -/
theorem runCheck_agreement_counterexample :
    ((checkedSession .validation [buildValidationResult (testParams 1)]).phase = .validation ∧
      (∀ result ∈ (checkedSession .validation
          [buildValidationResult (testParams 1)]).validation ++
          (checkedSession .validation [buildValidationResult (testParams 1)]).implValidation,
        result.checkId ∈ (checkedSession .validation
          [buildValidationResult (testParams 1)]).activeChecks) ∧
      ∃ result, autoAdvance .plain
        (buildNextValidationState
          (checkedSession .validation [buildValidationResult (testParams 1)])
          (mergeValidationResult
            (checkedSession .validation [buildValidationResult (testParams 1)])
            (buildValidationResult (testParams 0))) (testAttempt 0))
        (evaluate .plain · (some soloPolicy.gate)) (stillContext soloPolicy) =
          .ok (.overflow result)) ∧
      Disagrees (baselineSession [lintedSession.lintResult 0, lintedSession.lintResult 1])
        (testParams 0) ∧
      Disagrees (baselineSession [{ lintedSession.lintResult 1 with passed := true }])
        (testParams 0) ∧
      Disagrees (baselineSession
          [lintedSession.lintResult 0, buildValidationResult (testParams 0)])
        { testParams 1 with checkId := "build" } := by
  exact ⟨⟨rfl, by decide, _, rfl⟩, ⟨by decide, _, rfl, by decide⟩, ⟨by decide, _, rfl, by decide⟩,
    ⟨by decide, _, rfl, by decide⟩⟩

end Machine

end GovernedRuntime.Tools
