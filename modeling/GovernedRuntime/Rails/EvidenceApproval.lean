/-
The protected `EVIDENCE_REVIEW -> EXPORT_READY` approval: its authority, the
generic applier that refuses it, and the admission it issues
(`src/rails/evidence-approval-application.ts`, `src/state/evidence-gate-decision.ts`,
`src/audit/proofgraph/evidence-approval-admission.ts`).
-/
import GovernedRuntime.Machine.Directive
import GovernedRuntime.ProofGraph.Gate
import GovernedRuntime.State.Timestamp

namespace GovernedRuntime.Rails

open GovernedRuntime.State
open GovernedRuntime.Machine
open GovernedRuntime.ProofGraph

/-! ### The decision of the current gate -/

/-- The recorded decision when it was taken for the current evidence revision; a
decision carried from an earlier gate is none. -/
def evidenceGateDecisionOf (s : SessionState) : Option ReviewDecision :=
  match s.reviewDecision with
  | none => none
  | some decision =>
      match (s.implReview.map (·.executedAt)).or
          (s.implementation.map (·.executedAt)) with
      | none => some decision
      | some revision =>
          match dateParse decision.decidedAt, dateParse revision with
          | some decidedAt, some revisionAt =>
              if decidedAt < revisionAt then none else some decision
          | _, _ => none

def governanceOverrideRequired : EvidenceApprovalBlock :=
  .plain "GOVERNANCE_OVERRIDE_REQUIRED" [("intent", "APPROVE")]

def governanceOverrideNotRequired : EvidenceApprovalBlock :=
  .plain "GOVERNANCE_OVERRIDE_NOT_REQUIRED"
    [("intent", "APPROVE_WITH_GOVERNANCE_OVERRIDE")]

/-- Under human gates: a plain approval, or the override after an exhausted
review. -/
def humanGateDecisionBlock (overrideRequired : Bool)
    (decision : Option ReviewDecision) : Option EvidenceApprovalBlock :=
  match decision with
  | none => some (.plain "HUMAN_DECISION_REQUIRED"
      [("reason", "a human-gated evidence approval requires a recorded decision " ++
        "for this gate")])
  | some decision =>
      if overrideRequired && decision.verdict != .approveWithGovernanceOverride then
        some governanceOverrideRequired
      else if !overrideRequired && decision.verdict != .approve then
        some governanceOverrideNotRequired
      else none

/-- Whether the approval authority refuses the protected edge in a state. -/
def evidenceApprovalAuthorityBlock (s : SessionState) :
    Option EvidenceApprovalBlock :=
  let overrideRequired := requiresGovernanceOverride s
  let currentDecision := evidenceGateDecisionOf s
  let overridden :=
    currentDecision.any (·.verdict == .approveWithGovernanceOverride)
  if s.policySnapshot.requireHumanGates then
    humanGateDecisionBlock overrideRequired currentDecision
  else if overrideRequired then
    if overridden then none else some governanceOverrideRequired
  else if overridden then some governanceOverrideNotRequired
  else none

/-! ### Appliers -/

structure ProtectedTransitionError where
  message : String
deriving DecidableEq, Repr

/-- Every applied transition sets the phase and the record, clears the error, and
requests system work exactly when it enters a validation phase. -/
def applyTransitionUnchecked (s : SessionState) (fromPhase toPhase : Phase)
    (event : Event) (atTime : Timestamp) : SessionState :=
  { s with
    phase := toPhase
    transition := some ⟨fromPhase, toPhase, event, atTime⟩
    error := none
    pendingSystemWork :=
      if toPhase == .validation || toPhase == .implValidation then
        some ⟨atTime, 0, none⟩
      else none
    -- the repair loop converges on the edge into `IMPL_REVIEW`
    implementationRework :=
      if fromPhase == .implValidation && toPhase == .implReview then none
      else s.implementationRework }

/-- The generic applier refuses the protected destination. -/
def applyTransition (s : SessionState) (fromPhase toPhase : Phase) (event : Event)
    (atTime : Timestamp) : Except ProtectedTransitionError SessionState :=
  if toPhase == .exportReady then
    .error ⟨"The EVIDENCE_REVIEW -> EXPORT_READY approval must be applied through " ++
      "applyEvidenceApprovalTransition, never the generic transition applier."⟩
  else .ok (applyTransitionUnchecked s fromPhase toPhase event atTime)

@[simp] theorem applyTransitionUnchecked_phase (s : SessionState)
    (fromPhase toPhase : Phase) (event : Event) (atTime : Timestamp) :
    (applyTransitionUnchecked s fromPhase toPhase event atTime).phase = toPhase := rfl

@[simp] theorem applyTransitionUnchecked_transition (s : SessionState)
    (fromPhase toPhase : Phase) (event : Event) (atTime : Timestamp) :
    (applyTransitionUnchecked s fromPhase toPhase event atTime).transition =
      some ⟨fromPhase, toPhase, event, atTime⟩ := rfl

@[simp] theorem applyTransitionUnchecked_error (s : SessionState)
    (fromPhase toPhase : Phase) (event : Event) (atTime : Timestamp) :
    (applyTransitionUnchecked s fromPhase toPhase event atTime).error = none := rfl

theorem applyTransition_of_ne {s : SessionState} {fromPhase toPhase : Phase}
    {event : Event} {atTime : Timestamp} (hopen : toPhase ≠ .exportReady) :
    applyTransition s fromPhase toPhase event atTime =
      .ok (applyTransitionUnchecked s fromPhase toPhase event atTime) := by
  simp [applyTransition, hopen]

/-! ### The approval basis and its admission -/

def evidenceApprovalBasisProjection (hashing : Hashing) (s : SessionState)
    (includeDecision : Bool) : EvidenceApprovalBasis :=
  { flowguardSessionId := s.flowguardSessionId
    bindingDigest := evidenceApprovalBindingDigest hashing s
    policySnapshot := s.policySnapshot
    ticket := s.ticket
    architecture := s.architecture
    actorInfo := s.actorInfo
    initiatedBy := s.initiatedBy
    initiatedByIdentity := s.initiatedByIdentity
    reducedCeremony := s.reducedCeremony
    implementationRework := s.implementationRework
    reviewDecision := if includeDecision then some s.reviewDecision else none
    plan := s.plan
    implReview := s.implReview
    implReviewFindings := s.implReviewFindings
    reviewAssurance := s.reviewAssurance
    validationAttempts := s.validationAttempts
    implValidation := s.implValidation
    mutationEpisodes := s.mutationEpisodes
    mutationEpisodeResolutions := s.mutationEpisodeResolutions
    implementation := s.implementation
    implementationBaseAuthority := s.implementationBaseAuthority
    verificationCandidates := s.verificationCandidates
    executionSubjectInputsByCandidateId := s.executionSubjectInputsByCandidateId
    challengeResolutions := s.challengeResolutions
    implementationRiskAssessment := s.implementationRiskAssessment
    proofContract := s.proofContract
    proofContractCoverage := s.proofContractCoverage
    proofGraphClaims := s.proofGraph.claims.map fun claim =>
      (claim.toDeclaredClaim, claim.verificationState,
        claim.freshness.map fun freshness => (freshness.boundDigest, freshness.stale))
    proofGraphDiagnostics := s.proofGraph.claimDiagnostics }

/-- What the runtime keeps about an admission it issued. -/
structure AdmissionRecord where
  flowguardSessionId : String
  bindingDigest : String
  basisDigest : String
  sourceBasisDigest : String
  transitionDigest : String
deriving DecidableEq, Repr

section Hashing

variable (hashing : Hashing)

def appliedTransitionDigest (s : SessionState) : String :=
  hashing.hashText (hashing.transition s.transition)

/-- Basis of the predecessor: everything except the approval decision. -/
def evidenceApprovalSourceBasisDigest (s : SessionState) : String :=
  hashing.hashText (hashing.approvalBasis
    (evidenceApprovalBasisProjection hashing s false))

def evidenceApprovalBasisDigest (s : SessionState) : String :=
  hashing.hashText (hashing.approvalBasis
    (evidenceApprovalBasisProjection hashing s true))

def issueEvidenceApprovalAdmission (s : SessionState) : AdmissionRecord :=
  { flowguardSessionId := s.flowguardSessionId
    bindingDigest := evidenceApprovalBindingDigest hashing s
    basisDigest := evidenceApprovalBasisDigest hashing s
    sourceBasisDigest := evidenceApprovalSourceBasisDigest hashing s
    transitionDigest := appliedTransitionDigest hashing s }

end Hashing

/-! ### The protected application -/

inductive EvidenceApprovalApplication
  | applied (state : SessionState) (admission : AdmissionRecord)
  | blocked (block : EvidenceApprovalBlock)
deriving DecidableEq, Repr

section Environment

variable (env : Environment)

/-- The only sanctioned application of the approval edge: the authority first,
then the evidence preflight of the exact state, then the edge and its admission. -/
def applyEvidenceApprovalTransition (s : SessionState) (atTime : Timestamp) :
    Except ProtectedTransitionError EvidenceApprovalApplication :=
  if s.phase != .evidenceReview then
    .error ⟨"Evidence approval can only be applied at EVIDENCE_REVIEW (observed '" ++
      s.phase.name ++ "')."⟩
  else
    match evidenceApprovalAuthorityBlock s with
    | some block => .ok (.blocked block)
    | none =>
        match evaluateEvidenceApprovalPreflight env s with
        | .blocked block => .ok (.blocked block)
        | .clear =>
            let applied :=
              applyTransitionUnchecked s .evidenceReview .exportReady .approve atTime
            .ok (.applied applied (issueEvidenceApprovalAdmission env.hashing applied))

/-- A state may be approved when its authority and its evidence both clear. -/
structure ApprovalCleared (s : SessionState) : Prop where
  phase : s.phase = .evidenceReview
  authority : evidenceApprovalAuthorityBlock s = none
  preflight : evaluateEvidenceApprovalPreflight env s = .clear

/-- The protected application applies exactly the cleared states. -/
theorem applyEvidenceApproval_applied_iff {s next : SessionState}
    {atTime : Timestamp} {admission : AdmissionRecord} :
    applyEvidenceApprovalTransition env s atTime = .ok (.applied next admission) ↔
      ApprovalCleared env s ∧
        next = applyTransitionUnchecked s .evidenceReview .exportReady .approve atTime ∧
        admission = issueEvidenceApprovalAdmission env.hashing next := by
  constructor
  · intro happlied
    rw [applyEvidenceApprovalTransition] at happlied
    by_cases hphase : s.phase = .evidenceReview
    · cases hauthority : evidenceApprovalAuthorityBlock s with
      | some block => simp [hphase, hauthority] at happlied
      | none =>
          cases hpreflight : evaluateEvidenceApprovalPreflight env s with
          | blocked block => simp [hphase, hauthority, hpreflight] at happlied
          | clear =>
              simp only [hphase, hauthority, hpreflight, bne_self_eq_false,
                Bool.false_eq_true, if_false, Except.ok.injEq,
                EvidenceApprovalApplication.applied.injEq] at happlied
              obtain ⟨rfl, rfl⟩ := happlied
              exact ⟨⟨hphase, hauthority, hpreflight⟩, rfl, rfl⟩
    · simp [hphase] at happlied
  · rintro ⟨hcleared, rfl, rfl⟩
    simp [applyEvidenceApprovalTransition, hcleared.phase, hcleared.authority,
      hcleared.preflight]

/-- At the gate the application answers; it blocks exactly what is not cleared. -/
theorem applyEvidenceApproval_blocked_iff {s : SessionState} {atTime : Timestamp}
    (hphase : s.phase = .evidenceReview) :
    (∃ block, applyEvidenceApprovalTransition env s atTime = .ok (.blocked block)) ↔
      ¬ ApprovalCleared env s := by
  constructor
  · rintro ⟨block, hblocked⟩ hcleared
    have happlied : applyEvidenceApprovalTransition env s atTime = .ok (.applied _ _) :=
      (applyEvidenceApproval_applied_iff env).2 ⟨hcleared, rfl, rfl⟩
    simp [happlied] at hblocked
  · intro hrefused
    rw [applyEvidenceApprovalTransition]
    cases hauthority : evidenceApprovalAuthorityBlock s with
    | some block => exact ⟨block, by simp [hphase]⟩
    | none =>
        cases hpreflight : evaluateEvidenceApprovalPreflight env s with
        | blocked block => exact ⟨block, by simp [hphase]⟩
        | clear => exact absurd ⟨hphase, hauthority, hpreflight⟩ hrefused

end Environment

end GovernedRuntime.Rails
