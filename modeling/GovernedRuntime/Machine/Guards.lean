/-
Guard predicates over the session state and the ordered guard table
(`src/machine/guards.ts`, `validation-evidence.ts`, `impl-validation-evidence.ts`).
-/
import GovernedRuntime.Activation.Revision
import GovernedRuntime.State.Session

namespace GovernedRuntime.Machine

open GovernedRuntime.State
open GovernedRuntime.Activation (trim)

/-! ### Convergence -/

/-- A reviewer that could not review never converges, even out of budget. -/
def isConverged (iteration maxIterations : Nat) (revisionDelta : RevisionDelta)
    (verdict : LoopVerdict) : Bool :=
  if verdict == .unableToReview then false
  else maxIterations ≤ iteration ||
    (revisionDelta == .none && verdict == .accept)

def hasError (s : SessionState) : Bool := s.error.isSome

def hasPlanReady (s : SessionState) : Bool := s.ticket.isSome && s.plan.isSome

def selfReviewMet (s : SessionState) : Bool :=
  match s.selfReview with
  | none => false
  | some r => isConverged r.iteration r.maxIterations r.revisionDelta r.verdict

def selfReviewPending (s : SessionState) : Bool :=
  s.selfReview.isSome && !selfReviewMet s

def implReviewMet (s : SessionState) : Bool :=
  match s.implReview with
  | none => false
  | some r => isConverged r.iteration r.maxIterations r.revisionDelta r.verdict

def implReviewPending (s : SessionState) : Bool :=
  s.implReview.isSome && !implReviewMet s

def implComplete (s : SessionState) : Bool := s.implementation.isSome

def reviewDone (s : SessionState) : Bool := s.reviewReportPath.isSome

/-! ### Validation evidence -/

inductive ValidationEvidenceReasonCode
  | required
  | unverified
  | stackNoCommands
deriving DecidableEq, Repr

structure ValidationEvidenceDecision where
  blocked : Bool
  required : Bool
  code : Option ValidationEvidenceReasonCode
deriving DecidableEq, Repr

def hasTrustworthyDiscoveryForVerification (s : SessionState) : Bool :=
  if s.discoverySummary.isNone || s.discoveryDigest.isNone then false
  else if s.policySnapshot.discoveryHealth != .required then false
  else s.discoveryHealthGate == some (.clear (some .clean))

def hasDetectedStack (s : SessionState) : Bool :=
  s.detectedStack.any (!·.isEmpty) ||
    s.discoverySummary.any fun summary =>
      !summary.primaryLanguages.isEmpty || !summary.frameworks.isEmpty

/-- Whether an empty list of checks may pass validation under the policy. -/
def evaluateValidationEvidence (s : SessionState) : ValidationEvidenceDecision :=
  let policy := s.policySnapshot
  let required := policy.validationEvidence == .required && !policy.allowNoCommands
  if !s.activeChecks.isEmpty then ⟨false, required, none⟩
  else if !required && !policy.allowNoCommands && hasDetectedStack s then
    ⟨true, required, some .stackNoCommands⟩
  else if !required then ⟨false, required, none⟩
  else if hasTrustworthyDiscoveryForVerification s then
    ⟨true, required, some .required⟩
  else ⟨true, required, some .unverified⟩

def missingValidationChecks (s : SessionState) : List String :=
  s.activeChecks.filter fun checkId =>
    !s.validation.any fun result => result.passed && result.checkId == checkId

def allValidationsPassed (s : SessionState) : Bool :=
  if s.activeChecks.isEmpty then !(evaluateValidationEvidence s).blocked
  else (missingValidationChecks s).isEmpty

def checkFailed (s : SessionState) : Bool := s.validation.any (!·.passed)

def checkErrored (s : SessionState) : Bool :=
  s.validation.any isTechnicalValidationBlock

/-- With checks to run, passing means each of them has a passing result. -/
theorem allValidationsPassed_iff {s : SessionState} (hchecks : s.activeChecks ≠ []) :
    allValidationsPassed s = true ↔
      ∀ checkId ∈ s.activeChecks,
        ∃ result ∈ s.validation, result.passed = true ∧ result.checkId = checkId := by
  have hnonempty : s.activeChecks.isEmpty = false := by
    simpa [List.isEmpty_eq_false_iff] using hchecks
  simp [allValidationsPassed, hnonempty, missingValidationChecks]

/-! ### Validation of the implementation -/

/-- The last item with the greatest key. -/
def latestBy {α : Type} (key : α → String) (items : List α) : Option α :=
  items.foldl
    (fun latest item =>
      match latest with
      | none => some item
      | some best => if key best ≤ key item then some item else some best)
    none

structure ImplValidationEvidenceDecision where
  activeChecks : List String
  satisfied : Bool
  missing : List String
  basis : List VerificationAttemptRef
deriving DecidableEq, Repr

/-- Two results of one execution agree on everything but presentation. -/
def sameExecution (a b : ValidationResult) : Bool :=
  a.checkId == b.checkId && a.passed == b.passed &&
    a.executedAt == b.executedAt && a.exitCode == b.exitCode &&
    a.timedOut == b.timedOut && a.outcome == b.outcome &&
    a.outputDigest == b.outputDigest && a.candidateId == b.candidateId &&
    a.command == b.command && a.kind == b.kind

def expectedCandidateCommand (candidate : VerificationCandidate)
    (attemptId : String) : String :=
  match candidate.assertionCapability with
  | .structured (some template) =>
      trim (candidate.command ++ " " ++
        template.replace "\x7battemptId\x7d" attemptId)
  | _ => candidate.command

section Environment

variable (env : Environment)

/-- The identity of a candidate is derived from the rest of it. -/
def isVerificationCandidateBound (candidate : VerificationCandidate) : Bool :=
  candidate.candidateId == "vc_" ++ env.hashing.hashText
    (env.hashing.candidate { candidate with candidateId := "" })

def candidateBindingMatches (s : SessionState) (attempt : ValidationAttempt) :
    Bool :=
  match attempt.result.candidateId with
  | none => false
  | some candidateId =>
      match (s.verificationCandidates.getD []).find?
          (·.candidateId == candidateId) with
      | none => false
      | some candidate =>
          isVerificationCandidateBound env candidate &&
            candidate.kind == attempt.result.kind &&
            expectedCandidateCommand candidate attempt.attemptId ==
              attempt.result.command

/-- The attempts that count for one check of the current implementation. -/
def eligibleAttempts (s : SessionState) (implementation : ImplEvidence)
    (checkId : String) : List ValidationAttempt :=
  s.validationAttempts.filter fun attempt =>
    attempt.scope == .implementation implementation.implementationId
        implementation.digest &&
      attempt.result.checkId == checkId &&
      (latestUnknownOutcomeResolvedAt s.mutationEpisodeResolutions).all
        (· < attempt.result.executedAt)

/-- The attempt that satisfies one active check, if there is one. -/
def satisfyingAttempt (s : SessionState) (implementation : ImplEvidence)
    (checkId : String) : Option VerificationAttemptRef :=
  let latestResult := latestBy ValidationResult.executedAt
    (s.implValidation.filter (·.checkId == checkId))
  let latestAttempt := latestBy (fun attempt => attempt.result.executedAt)
    (eligibleAttempts s implementation checkId)
  match latestResult, latestAttempt with
  | some result, some attempt =>
      if result.passed && attempt.result.passed &&
          sameExecution attempt.result result &&
          candidateBindingMatches env s attempt then
        some ⟨checkId, attempt.attemptId, attempt.result.executedAt⟩
      else none
  | _, _ => none

def evaluateImplValidationEvidence (s : SessionState) :
    ImplValidationEvidenceDecision :=
  if s.activeChecks.isEmpty then ⟨s.activeChecks, false, [], []⟩
  else
    match s.implementation with
    | none => ⟨s.activeChecks, false, s.activeChecks, []⟩
    | some implementation =>
        let missing := s.activeChecks.filter fun checkId =>
          (satisfyingAttempt env s implementation checkId).isNone
        ⟨s.activeChecks, missing.isEmpty, missing,
          s.activeChecks.filterMap (satisfyingAttempt env s implementation)⟩

def implValidationPassed (s : SessionState) : Bool :=
  if s.activeChecks.isEmpty then !(evaluateValidationEvidence s).blocked
  else (evaluateImplValidationEvidence env s).satisfied

def implCheckFailed (s : SessionState) : Bool := s.implValidation.any (!·.passed)

def implCheckErrored (s : SessionState) : Bool :=
  s.implValidation.any isTechnicalValidationBlock

/-! ### Reduced ceremony -/

def isOpenReviewObligation (obligation : ReviewObligation) : Bool :=
  (obligation.status == .pending || obligation.status == .fulfilled) &&
    obligation.consumedAt.isNone

def hasOutstandingReviewObligation (assurance : Option ReviewAssuranceState) :
    Bool :=
  assurance.any (·.obligations.any isOpenReviewObligation)

def hasUnresolvedIntegrityIncident (assurance : Option ReviewAssuranceState) :
    Bool :=
  assurance.any (·.obligations.any fun obligation =>
    obligation.status == .blocked &&
      obligation.blockedCode == some "SUBAGENT_EVIDENCE_REUSED")

def verifyTicketRiskDeclarationIntegrity (ticket : TicketEvidence) : Bool :=
  ticket.digest == env.hashing.hashText ticket.text &&
    env.parseTicketRiskDeclaration ticket.text == ticket.riskDeclaration

/-- The digest-bound declaration; `none` for a manipulated or unusable one. -/
def boundTicketDeclaration (s : SessionState) : Option TicketRiskDeclaration :=
  match s.ticket with
  | none => some .absent
  | some ticket =>
      if !verifyTicketRiskDeclarationIntegrity env ticket then none
      else
        match ticket.riskDeclaration with
        | .conflict _ _ | .invalid _ => none
        | declaration => some declaration

/-- Equality of the sets of members, duplicates not counted. -/
def samePathSet (left right : List String) : Bool :=
  left.dedup.length == right.dedup.length && left.dedup.all (right.contains ·)

def decisionBindsFrozenPolicy (s : SessionState)
    (decision : ReducedCeremonyDecision) : Bool :=
  s.policySnapshot.allowReducedCeremony && s.policySnapshot.requireHumanGates &&
    decision.policyDigest == s.policySnapshot.hash

def assessmentMatchesImplementation (s : SessionState)
    (assessment : ImplementationRiskAssessment) (decision : ReducedCeremonyDecision)
    (implementation : ImplEvidence) : Bool :=
  assessment.assessedFileCount == implementation.changedFiles.length &&
    assessment.escalatedTaskClass == s.claimedTaskClass &&
    decision.escalatedTaskClass == s.claimedTaskClass

def assessmentBindsTicketDeclaration (s : SessionState)
    (assessment : ImplementationRiskAssessment)
    (declaration : TicketRiskDeclaration) : Bool :=
  assessment.ticketDigest == s.ticket.map (·.digest) &&
    assessment.declarationKind == declaration.kind &&
    assessment.declaredTaskClass == ticketRiskDeclarationFloor declaration

def declaredDecisionMatches (decision : ReducedCeremonyDecision)
    (declaration : TicketRiskDeclaration) (recomputed : RecomputedRisk)
    (effective : TaskClass) : Bool :=
  decision.declaredTaskClass == ticketRiskDeclarationFloor declaration &&
    decision.computedMinimumTaskClass == recomputed.minimumTaskClass &&
    decision.effectiveTaskClass == effective

/-- The stored facts against the classification of the recorded files. -/
def decisionMatchesRiskFacts (s : SessionState)
    (assessment : ImplementationRiskAssessment) (decision : ReducedCeremonyDecision)
    (declaration : TicketRiskDeclaration) (implementation : ImplEvidence) : Bool :=
  let recomputed := env.assessMinimumTaskClass implementation.changedFiles
    s.policySnapshot.riskTriggerPaths
  let effective := resolveEffectiveTaskClass recomputed.minimumTaskClass
    declaration s.claimedTaskClass
  assessmentMatchesImplementation s assessment decision implementation &&
    assessmentBindsTicketDeclaration s assessment declaration &&
    recomputed.minimumTaskClass == assessment.computedMinimumTaskClass &&
    samePathSet assessment.touchedSurfaces recomputed.touchedSurfaces &&
    samePathSet decision.touchedSurfaces recomputed.touchedSurfaces &&
    assessment.effectiveTaskClass == effective && effective == .trivial &&
    env.reducedCeremonyEligible implementation.changedFiles &&
    declaredDecisionMatches decision declaration recomputed effective

def decisionBindsRiskAuthority (s : SessionState)
    (decision : ReducedCeremonyDecision) (implementation : ImplEvidence) : Bool :=
  match s.implementationRiskAssessment, boundTicketDeclaration env s with
  | some assessment, some declaration =>
      assessment.implementationDigest == implementation.digest &&
        decision.declarationKind == declaration.kind &&
        decision.ticketDigest == s.ticket.map (·.digest) &&
        decisionMatchesRiskFacts env s assessment decision declaration
          implementation &&
        (match s.riskGate with
          | some (.blocked _ _) => false
          | _ => true)
  | _, _ => false

def ceremonyBindingMatches (s : SessionState) (decision : ReducedCeremonyDecision) :
    Bool :=
  match s.implementation with
  | none => false
  | some implementation =>
      decision.implementationId == implementation.implementationId &&
        decision.implementationDigest == implementation.digest &&
        decisionBindsFrozenPolicy s decision &&
        decisionBindsRiskAuthority env s decision implementation &&
        !hasOutstandingReviewObligation s.reviewAssurance &&
        !hasUnresolvedIntegrityIncident s.reviewAssurance

/-- Both lists are sorted and compared entry by entry. -/
def ceremonyBasisMatches (decision : ReducedCeremonyDecision)
    (evidence : ImplValidationEvidenceDecision) : Bool :=
  let spelled (entry : VerificationAttemptRef) :=
    entry.checkId ++ ":" ++ entry.attemptId ++ ":" ++ entry.executedAt
  decision.checkIds.isPerm evidence.activeChecks &&
    (decision.attempts.map spelled).isPerm (evidence.basis.map spelled)

/-- The reduced-ceremony decision is bound to the current implementation, the
frozen policy and the evidence of the checks. -/
def reducedCeremonyReady (s : SessionState) : Bool :=
  match s.reducedCeremony with
  | none => false
  | some decision =>
      let evidence := evaluateImplValidationEvidence env s
      ceremonyBindingMatches env s decision && evidence.satisfied &&
        ceremonyBasisMatches decision evidence

/-! ### The guard table -/

/-- `GUARDS`: for each guard phase the ordered guards and their events, the error
guard first.  User gates, terminal phases, `READY` and `EXPORT_READY` have no
entry. -/
def guards : Phase → Option (List (Event × (SessionState → Bool)))
  | .ticket => some [(.error, hasError), (.planReady, hasPlanReady)]
  | .plan => some
      [(.error, hasError), (.selfReviewMet, selfReviewMet),
        (.selfReviewPending, selfReviewPending)]
  | .validation => some
      [(.error, hasError), (.checkErrored, checkErrored),
        (.allPassed, allValidationsPassed), (.checkFailed, checkFailed)]
  | .implementation => some [(.error, hasError), (.implComplete, implComplete)]
  | .implValidation => some
      [(.error, hasError), (.checkErrored, implCheckErrored),
        (.reducedCeremony, reducedCeremonyReady env),
        (.allPassed, implValidationPassed env), (.checkFailed, implCheckFailed)]
  | .implReview => some
      [(.error, hasError), (.reviewMet, implReviewMet),
        (.reviewPending, implReviewPending)]
  | .architecture => some
      [(.error, hasError), (.selfReviewMet, selfReviewMet),
        (.selfReviewPending, selfReviewPending)]
  | .peerReview => some [(.error, hasError), (.peerReviewDone, reviewDone)]
  | _ => none

/-- The first event whose guard holds. -/
def firedEvent (entries : List (Event × (SessionState → Bool)))
    (s : SessionState) : Option Event :=
  (entries.find? fun entry => entry.2 s).map (·.1)

theorem firedEvent_nil (s : SessionState) : firedEvent [] s = none := rfl

theorem firedEvent_cons (event : Event) (guard : SessionState → Bool)
    (rest : List (Event × (SessionState → Bool))) (s : SessionState) :
    firedEvent ((event, guard) :: rest) s =
      if guard s = true then some event else firedEvent rest s := by
  by_cases hguard : guard s = true <;> simp [firedEvent, hguard]

/-- Every guard list asks for an error before anything else. -/
theorem firedEvent_of_error {phase : Phase}
    {entries : List (Event × (SessionState → Bool))} {s : SessionState}
    (hentries : guards env phase = some entries) (herror : s.error ≠ none) :
    firedEvent entries s = some .error := by
  have hguard : hasError s = true := Option.isSome_iff_ne_none.2 herror
  cases phase <;> simp only [guards, reduceCtorEq, Option.some.injEq] at hentries <;>
    subst hentries <;> simp [firedEvent, hguard]

end Environment

end GovernedRuntime.Machine
