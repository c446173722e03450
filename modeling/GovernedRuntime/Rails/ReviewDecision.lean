/-
The `/review-decision` rail: a human verdict at a user gate, with its gates
(`src/rails/review-decision.ts`, `src/rails/review-decision-gates.ts`).
-/
import GovernedRuntime.Rails.AutoAdvance
import GovernedRuntime.Rails.ReviewEvidence

namespace GovernedRuntime.Rails

open GovernedRuntime.Library (truthy)
open GovernedRuntime.State
open GovernedRuntime.Machine
open GovernedRuntime.ProofGraph
open GovernedRuntime.Activation (trim)

/-! ### Input -/

/-- The worktree re-attestation of a reduced-ceremony approval. -/
inductive ReducedCeremonySubjectAttestationOutcome
  | ok (digest : String)
  | subjectChanged (expected actual : String)
deriving DecidableEq, Repr

structure ReviewDecisionInput where
  verdict : ReviewVerdict
  rationale : String
  decisionIdentity : DecisionIdentity
  subjectAttestation : Option ReducedCeremonySubjectAttestationOutcome
deriving DecidableEq, Repr

/-- `VERDICT_TO_EVENT`. -/
def verdictToEvent : ReviewVerdict → Event
  | .approve => .approve
  | .approveWithGovernanceOverride => .approve
  | .changesRequested => .changesRequested
  | .reject => .reject

/-! ### Agreement with the gate -/

/-- An exhausted gate takes only the override, a normal gate only the plain
approval, and an override carries a rationale. -/
def enforceOverrideAgreement (s : SessionState) (input : ReviewDecisionInput) :
    Option RailBlocked :=
  let overrideRequired := (resolveWorkflowDirective s).allowedIntents.contains
    .approveWithGovernanceOverride
  if input.verdict == .approve && overrideRequired then
    some governanceOverrideRequired
  else if input.verdict == .approveWithGovernanceOverride && !overrideRequired then
    some governanceOverrideNotRequired
  else if input.verdict == .approveWithGovernanceOverride &&
      trim input.rationale == "" then
    some (.plain "GOVERNANCE_OVERRIDE_RATIONALE_REQUIRED"
      [("intent", "APPROVE_WITH_GOVERNANCE_OVERRIDE")])
  else none

/-! ### Identity -/

inductive ActorIdentityComparison
  | same
  | different
  | uncomparable
deriving DecidableEq, Repr

section Environment

variable (env : Environment)

def normalizeActorId (actorId : String) : Option String :=
  truthy (some (env.foldCase (trim actorId)))

def compareActorIdentity (left right : String) : ActorIdentityComparison :=
  match normalizeActorId env left, normalizeActorId env right with
  | some leftActorId, some rightActorId =>
      if leftActorId == rightActorId then .same else .different
  | _, _ => .uncomparable

/-- Initiator and reviewer are two known and different actors. -/
def verifyFourEyes (s : SessionState) (input : ReviewDecisionInput) :
    Option RailBlocked :=
  match s.initiatedByIdentity with
  | none => some (.plain "DECISION_IDENTITY_REQUIRED" [])
  | some initiator =>
      if initiator.actorSource == .unknown then
        some (.plain "REGULATED_ACTOR_UNKNOWN" [("role", "initiator")])
      else if input.decisionIdentity.actorSource == .unknown then
        some (.plain "REGULATED_ACTOR_UNKNOWN" [("role", "reviewer")])
      else
        match compareActorIdentity env input.decisionIdentity.actorId
            initiator.actorId with
        | .same => some (.plain "FOUR_EYES_ACTOR_MATCH" [("initiator", initiator.actorId)])
        | .uncomparable => some (.plain "DECISION_IDENTITY_REQUIRED" [])
        | .different => none

def checkMinAssurance (input : ReviewDecisionInput) (minimum : ActorAssurance) :
    Option RailBlocked :=
  if !isAssuranceAtLeast input.decisionIdentity.actorAssurance minimum then
    some (.plain "ACTOR_ASSURANCE_INSUFFICIENT"
      [("minimum", minimum.name),
        ("current", input.decisionIdentity.actorAssurance.name)])
  else none

def verifyAssuranceThreshold (input : ReviewDecisionInput) (ctx : RailContext) :
    Option RailBlocked :=
  match ctx.policy.map FlowGuardPolicy.minimumActorAssuranceForApproval with
  | some .claimValidated => checkMinAssurance input .claimValidated
  | some .idpVerified => checkMinAssurance input .idpVerified
  | _ => none

def enforceApprovalIdentity (s : SessionState) (input : ReviewDecisionInput)
    (ctx : RailContext) : Option RailBlocked :=
  let fourEyes :=
    if ctx.policy.map (·.allowSelfApproval) == some false then
      verifyFourEyes env s input
    else none
  fourEyes <|> verifyAssuranceThreshold input ctx

/-! ### Evidence gates -/

def enforceEvidenceApprovalPreflight (s : SessionState)
    (input : ReviewDecisionInput) : Option RailBlocked :=
  if (s.phase == .planReview || s.phase == .evidenceReview) &&
      isApprovalVerdict input.verdict then
    match evaluateEvidenceApprovalPreflight env s with
    | .clear => none
    | .blocked block => some block
  else none

/-- Shared by the decision rail and, by its intent, the automatic approval. -/
def unboundMutationEpisodeCount (s : SessionState) : Nat :=
  countUnboundMutationEpisodes s.mutationEpisodes s.mutationEpisodeResolutions

/-- An open or unbound host mutation can have changed the reviewed worktree. -/
def enforceMutationEpisodeEvidenceApproval (s : SessionState)
    (input : ReviewDecisionInput) : Option RailBlocked :=
  if s.phase != .evidenceReview || !isApprovalVerdict input.verdict then none
  else if 0 < unboundMutationEpisodeCount s then
    some (.plain "MUTATION_EPISODE_BINDING_REQUIRED"
      [("count", toString (unboundMutationEpisodeCount s))])
  else none

def implementationReviewSubjectMismatch (s : SessionState) (reviewedDigest : String) :
    RailBlocked :=
  .plain "IMPLEMENTATION_REVIEW_SUBJECT_MISMATCH"
    [("reviewedDigest", reviewedDigest),
      ("currentDigest", s.implementation.elim "missing" (·.digest))]

def enforceReducedCeremonyWaiver (s : SessionState) (input : ReviewDecisionInput) :
    Option RailBlocked :=
  if !reducedCeremonyReady env s then
    some (.plain "IMPLEMENTATION_REVIEW_EVIDENCE_REQUIRED" [])
  else
    match input.subjectAttestation with
    | some (.ok digest) =>
        if some digest != s.implementation.map (·.digest) then
          some (implementationReviewSubjectMismatch s digest)
        else none
    | _ => some (implementationReviewSubjectMismatch s "unattested")

/-- An implementation approval is bound to the reviewed revision. -/
def enforceImplementationReviewSubject (s : SessionState)
    (input : ReviewDecisionInput) : Option RailBlocked :=
  if s.phase != .evidenceReview || !isApprovalVerdict input.verdict then none
  else
    match s.implReview with
    | none =>
        if input.verdict == .approveWithGovernanceOverride then
          some (.plain "IMPLEMENTATION_REVIEW_EVIDENCE_REQUIRED" [])
        else enforceReducedCeremonyWaiver env s input
    | some reviewed =>
        let current := truthy (s.implementation.map (·.digest))
        if current != some reviewed.currDigest then
          some (implementationReviewSubjectMismatch s reviewed.currDigest)
        else none

def enforceArchitectureReviewCompletion (s : SessionState)
    (input : ReviewDecisionInput) : Option RailBlocked :=
  if s.phase != .archReview || !isApprovalVerdict input.verdict then none
  else
    match s.architecture.map ArchitectureDecision.reviewCompletion with
    | some .reviewerAccepted => none
    | some .reviewExhausted => none
    | _ => some (.plain "ARCHITECTURE_REVIEW_COMPLETION_REQUIRED"
        [("reviewCompletion", architectureCompletionName s)])

/-! ### Preconditions -/

/-- The block of an approval, and the evidence resolved once for gate and
certificate. -/
structure ApprovalPreconditions where
  block : Option RailBlocked
  evidence : Option ArchitectureReviewEvidenceResolution
  planEvidence : Option ResolvedBoundReviewEvidence
deriving DecidableEq, Repr

/-- The completion of the plan decides which review may bind it. -/
def resolvePlanEvidence (s : SessionState) : Option ResolvedBoundReviewEvidence :=
  s.plan.bind fun plan =>
    let authority := planReviewSubjectAuthority env.hashing plan
    if plan.reviewCompletion == .reviewExhausted then
      resolveLatestPlanReviewEvidence s authority
    else resolvePlanReviewEvidence s authority

def enforceApprovalPreconditions (s : SessionState) (input : ReviewDecisionInput)
    (ctx : RailContext) : ApprovalPreconditions :=
  if !isApprovalVerdict input.verdict then ⟨none, none, none⟩
  else
    match enforceApprovalIdentity env s input ctx <|>
        enforceArchitectureReviewCompletion s input with
    | some block => ⟨some block, none, none⟩
    | none =>
        let evidence := s.architecture.map (resolveArchitectureReviewEvidence s)
        match enforceArchitectureReviewEvidence s evidence with
        | some block => ⟨some block, evidence, none⟩
        | none =>
            let planEvidence := resolvePlanEvidence env s
            { block :=
                enforcePlanReviewEvidence env.hashing s planEvidence <|>
                  enforceMutationEpisodeEvidenceApproval s input <|>
                  enforceEvidenceApprovalPreflight env s input
              evidence := evidence
              planEvidence := planEvidence }

/-! ### The decided state -/

/-- The certificates of a first approval at the gate of its flow. -/
def approvalCertificatePatch (s : SessionState) (input : ReviewDecisionInput)
    (decision : ReviewDecision) (ctx : RailContext)
    (architectureReviewBinding : Option ReviewBinding)
    (planReviewEvidence : Option ResolvedBoundReviewEvidence) : SessionState :=
  if !isApprovalVerdict input.verdict then s
  else
    { s with
      plan := planCertificatePatch env.hashing s decision planReviewEvidence
      architecture := architectureCertificatePatch env.hashing ctx.digest s decision
        architectureReviewBinding }

end Environment

/-- What a verdict clears, resets and counts at its gate. -/
def applyStateClearingPattern (s : SessionState) (verdict : ReviewVerdict) :
    SessionState :=
  if isApprovalVerdict verdict then
    if s.phase == .archReview then
      { s with architecture := s.architecture.map ({ · with status := .accepted }) }
    else s
  else if verdict == .reject then s
  else
    match s.phase with
    | .planReview =>
        { s with
          selfReview := none
          reviewDecision := none
          reviewCycles := { s.reviewCycles with plan := s.reviewCycles.plan + 1 } }
    | .evidenceReview =>
        { s with
          implementation := none
          implValidation := []
          implReview := none
          reducedCeremony := none
          reviewDecision := none
          reviewCycles :=
            { s.reviewCycles with
              implementation := s.reviewCycles.implementation + 1 } }
    | .archReview =>
        { s with
          architecture := s.architecture.map
            ({ · with reviewCompletion := .pending, approvalCertificate := none })
          selfReview := none
          reviewCycles :=
            { s.reviewCycles with architecture := s.reviewCycles.architecture + 1 } }
    | _ => s

/-! ### The rail -/

structure RailOk where
  state : SessionState
  evalResult : EvalResult
  transitions : List TransitionRecord
  decisionEvidence : Option ReviewDecision
  approvalAdmission : Option AdmissionRecord

inductive RailResult
  | ok (result : RailOk)
  | blocked (block : RailBlocked)

inductive DecisionApplication
  | applied (state : SessionState) (approvalAdmission : Option AdmissionRecord)
  | blocked (block : RailBlocked)

section Environment

variable (env : Environment)

/-- The protected edge only through its gated application. -/
def applyDecisionTransition (clearedState : SessionState) (fromPhase target : Phase)
    (event : Event) (atTime : Timestamp) :
    Except ProtectedTransitionError DecisionApplication :=
  if fromPhase != .evidenceReview || target != .exportReady then
    (applyTransition clearedState fromPhase target event atTime).map (.applied · none)
  else
    (applyEvidenceApprovalTransition env clearedState atTime).map fun
      | .applied approved admission => .applied approved (some admission)
      | .blocked block => .blocked block

/-- The recorded decision; the clock is read before the transition's. -/
def decisionOf (input : ReviewDecisionInput) (ctx : RailContext) : ReviewDecision :=
  { verdict := input.verdict
    rationale := input.rationale
    decidedAt := ctx.now 0
    decisionIdentity := input.decisionIdentity }

/-- The candidate a decision is applied to: decision, certificates, clearing. -/
def decidedState (s : SessionState) (input : ReviewDecisionInput)
    (ctx : RailContext) : SessionState :=
  let preconditions := enforceApprovalPreconditions env s input ctx
  let architectureReviewBinding :=
    match preconditions.evidence with
    | some (.bound binding) => some binding
    | _ => none
  let decision := decisionOf input ctx
  applyStateClearingPattern
    { approvalCertificatePatch env s input decision ctx architectureReviewBinding
        preconditions.planEvidence with
      reviewDecision := some decision }
    input.verdict

/-- Every gate of the rail before the transition, in order. -/
def decisionBlock (s : SessionState) (input : ReviewDecisionInput)
    (ctx : RailContext) : Option RailBlocked :=
  enforceOverrideAgreement s input <|>
    enforceImplementationReviewSubject env s input <|>
    (enforceApprovalPreconditions env s input ctx).block

/-- `executeReviewDecision`; every verdict has an event. -/
def executeReviewDecision (s : SessionState) (input : ReviewDecisionInput)
    (ctx : RailContext) : Except ProtectedTransitionError RailResult :=
  if !isCommandAllowed s.phase .reviewDecision then
    .ok (.blocked (.plain "COMMAND_NOT_ALLOWED"
      [("command", "/review-decision"), ("phase", s.phase.name)]))
  else
    match decisionBlock env s input ctx with
    | some block => .ok (.blocked block)
    | none =>
        let event := verdictToEvent input.verdict
        match evaluateWithEvent s.phase event with
        | none => .ok (.blocked (.plain "INVALID_TRANSITION"
            [("event", event.name), ("phase", s.phase.name)]))
        | some target =>
            match applyDecisionTransition env (decidedState env s input ctx) s.phase
                target event (ctx.now 1) with
            | .error error => .error error
            | .ok (.blocked block) => .ok (.blocked block)
            | .ok (.applied finalState approvalAdmission) =>
                .ok (.ok
                  { state := finalState
                    evalResult := evaluate env finalState (ctx.policy.map (·.gate))
                    transitions := [⟨s.phase, target, event, ctx.now 1⟩]
                    decisionEvidence := some (decisionOf input ctx)
                    approvalAdmission := approvalAdmission })

/-! ### What the rail can answer -/

@[simp] theorem applyStateClearingPattern_phase (s : SessionState)
    (verdict : ReviewVerdict) : (applyStateClearingPattern s verdict).phase = s.phase := by
  rw [applyStateClearingPattern]
  split_ifs
  · rfl
  · rfl
  · rfl
  · split <;> rfl

@[simp] theorem approvalCertificatePatch_phase (s : SessionState)
    (input : ReviewDecisionInput) (decision : ReviewDecision) (ctx : RailContext)
    (architectureReviewBinding : Option ReviewBinding)
    (planReviewEvidence : Option ResolvedBoundReviewEvidence) :
    (approvalCertificatePatch env s input decision ctx architectureReviewBinding
      planReviewEvidence).phase = s.phase := by
  rw [approvalCertificatePatch]
  split_ifs <;> rfl

/-- A decision is prepared at the gate it was taken at. -/
@[simp] theorem decidedState_phase (s : SessionState) (input : ReviewDecisionInput)
    (ctx : RailContext) : (decidedState env s input ctx).phase = s.phase := by
  simp [decidedState]

/-- Applying a decision never throws. -/
theorem applyDecisionTransition_ok {candidate : SessionState} {target : Phase}
    (event : Event) (atTime : Timestamp)
    (hedge : target = .exportReady → candidate.phase = .evidenceReview) :
    ∃ application, applyDecisionTransition env candidate candidate.phase target event
      atTime = .ok application := by
  rw [applyDecisionTransition]
  split_ifs with hopen
  · have htarget : target ≠ .exportReady := by
      rintro rfl
      simp [hedge rfl] at hopen
    exact ⟨_, by rw [applyTransition_of_ne htarget]; rfl⟩
  · have hphase : candidate.phase = .evidenceReview := by
      by_contra hother
      simp [hother] at hopen
    by_cases hcleared : ApprovalCleared env candidate
    · have happlied : applyEvidenceApprovalTransition env candidate atTime =
          .ok (.applied _ _) :=
        (applyEvidenceApproval_applied_iff env).2 ⟨hcleared, rfl, rfl⟩
      exact ⟨_, by rw [happlied]; rfl⟩
    · obtain ⟨block, hblocked⟩ :=
        (applyEvidenceApproval_blocked_iff env hphase).2 hcleared
      exact ⟨_, by rw [hblocked]; rfl⟩

/-- An applied decision took an open edge, or the protected edge of a cleared
candidate with its admission. -/
theorem applyDecisionTransition_applied {candidate final : SessionState}
    {target : Phase} {event : Event} {atTime : Timestamp}
    {admission : Option AdmissionRecord}
    (happly : applyDecisionTransition env candidate candidate.phase target event atTime =
      .ok (.applied final admission)) :
    (target ≠ .exportReady ∧ final = applyTransitionUnchecked candidate candidate.phase
        target event atTime ∧ admission = none) ∨
      (target = .exportReady ∧ ApprovalCleared env candidate ∧
        final = applyTransitionUnchecked candidate .evidenceReview .exportReady .approve
          atTime ∧
        admission = some (issueEvidenceApprovalAdmission env.hashing final)) := by
  rw [applyDecisionTransition] at happly
  split_ifs at happly with hopen
  · by_cases htarget : target = .exportReady
    · subst htarget
      simp [applyTransition, Except.map] at happly
    · rw [applyTransition_of_ne htarget] at happly
      simp only [Except.map, Except.ok.injEq, DecisionApplication.applied.injEq] at happly
      exact Or.inl ⟨htarget, happly.1.symm, happly.2.symm⟩
  · have htarget : target = .exportReady := by
      by_contra hother
      simp [hother] at hopen
    cases hprotected : applyEvidenceApprovalTransition env candidate atTime with
    | error error => simp [hprotected, Except.map] at happly
    | ok application =>
        cases application with
        | blocked block => simp [hprotected, Except.map] at happly
        | applied approved record =>
            simp only [hprotected, Except.map, Except.ok.injEq,
              DecisionApplication.applied.injEq] at happly
            obtain ⟨rfl, rfl⟩ := happly
            obtain ⟨hcleared, hfinal, hrecord⟩ :=
              (applyEvidenceApproval_applied_iff env).1 hprotected
            exact Or.inr ⟨htarget, hcleared, hfinal, by rw [hrecord]⟩

/-- What an accepted decision went through. -/
structure Decided (s : SessionState) (input : ReviewDecisionInput) (ctx : RailContext)
    (result : RailOk) (target : Phase) : Prop where
  gate : isUserGate s.phase = true
  clear : decisionBlock env s input ctx = none
  edge : resolveTransition s.phase (verdictToEvent input.verdict) = some target
  applied : applyDecisionTransition env (decidedState env s input ctx) s.phase target
    (verdictToEvent input.verdict) (ctx.now 1) =
      .ok (.applied result.state result.approvalAdmission)
  transitions : result.transitions =
    [⟨s.phase, target, verdictToEvent input.verdict, ctx.now 1⟩]
  evaluated : result.evalResult =
    evaluate env result.state (ctx.policy.map (·.gate))
  evidence : result.decisionEvidence = some (decisionOf input ctx)

theorem executeReviewDecision_ok {s : SessionState} {input : ReviewDecisionInput}
    {ctx : RailContext} {result : RailOk}
    (hdecided : executeReviewDecision env s input ctx = .ok (.ok result)) :
    ∃ target, Decided env s input ctx result target := by
  rw [executeReviewDecision, isCommandAllowed_reviewDecision] at hdecided
  by_cases hgate : isUserGate s.phase = true
  · cases hclear : decisionBlock env s input ctx with
    | some block => simp [hgate, hclear] at hdecided
    | none =>
        cases hedge : resolveTransition s.phase (verdictToEvent input.verdict) with
        | none => simp [hgate, hclear, evaluateWithEvent, hedge] at hdecided
        | some target =>
            simp only [hgate, hclear, evaluateWithEvent, hedge, Bool.not_true,
              Bool.false_eq_true, if_false] at hdecided
            cases happly : applyDecisionTransition env (decidedState env s input ctx)
                s.phase target (verdictToEvent input.verdict) (ctx.now 1) with
            | error error => simp [happly] at hdecided
            | ok application =>
                cases application with
                | blocked block => simp [happly] at hdecided
                | applied final admission =>
                    simp only [happly, Except.ok.injEq, RailResult.ok.injEq] at hdecided
                    subst hdecided
                    exact ⟨target, hgate, hclear, hedge, happly, rfl, rfl, rfl⟩
  · simp [hgate] at hdecided

/-- No gate of an accepted approval blocked, the mutation fence among them. -/
theorem mutationGate_of_decisionBlock {s : SessionState} {input : ReviewDecisionInput}
    {ctx : RailContext} (hclear : decisionBlock env s input ctx = none)
    (happroval : isApprovalVerdict input.verdict = true) :
    enforceMutationEpisodeEvidenceApproval s input = none := by
  have hpreconditions : (enforceApprovalPreconditions env s input ctx).block = none := by
    simp only [decisionBlock, Option.orElse_eq_orElse, Option.orElse_eq_or,
      Option.or_eq_none_iff] at hclear
    exact hclear.2.2
  rw [enforceApprovalPreconditions] at hpreconditions
  simp only [happroval, Bool.not_true, Bool.false_eq_true, if_false] at hpreconditions
  split at hpreconditions
  · cases hpreconditions
  · split at hpreconditions
    · cases hpreconditions
    · simp only [Option.orElse_eq_orElse, Option.orElse_eq_or,
        Option.or_eq_none_iff] at hpreconditions
      exact hpreconditions.2.1

/-- The rail always answers: it accepts the decision or blocks it. -/
theorem executeReviewDecision_total (s : SessionState) (input : ReviewDecisionInput)
    (ctx : RailContext) :
    ∃ answer, executeReviewDecision env s input ctx = .ok answer := by
  rw [executeReviewDecision]
  split_ifs with hallowed
  · exact ⟨_, rfl⟩
  cases hclear : decisionBlock env s input ctx with
  | some block => exact ⟨_, rfl⟩
  | none =>
      simp only
      cases hedge : evaluateWithEvent s.phase (verdictToEvent input.verdict) with
      | none => exact ⟨_, rfl⟩
      | some target =>
          have hexport : target = .exportReady →
              (decidedState env s input ctx).phase = .evidenceReview := by
            rintro rfl
            rw [decidedState_phase]
            exact (resolveTransition_exportReady hedge).1
          obtain ⟨application, happly⟩ := applyDecisionTransition_ok env
            (verdictToEvent input.verdict) (ctx.now 1) hexport
          rw [decidedState_phase] at happly
          cases application <;> exact ⟨_, by simp only [happly]; rfl⟩

end Environment

end GovernedRuntime.Rails
