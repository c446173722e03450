/-
The frame of a review decision (the table of `src/rails/review-decision.ts`): what each
verdict counts, clears and records at its gate, and that it leaves the rest alone.
-/
import GovernedRuntime.Rails.ApprovalFence

namespace GovernedRuntime.Rails

open GovernedRuntime.State
open GovernedRuntime.Machine

/-! ### The table -/

/-- The loops that a human review cycle is counted for. -/
inductive ReviewLoop
  | plan
  | architecture
  | implementation
deriving DecidableEq, Repr

def ReviewLoop.count (cycles : ReviewCycles) : ReviewLoop → Nat
  | .plan => cycles.plan
  | .architecture => cycles.architecture
  | .implementation => cycles.implementation

/-- The loop whose review a gate decides. -/
def decidedLoop : Phase → Option ReviewLoop
  | .planReview => some .plan
  | .archReview => some .architecture
  | .evidenceReview => some .implementation
  | _ => none

/-- An architecture record before its review. -/
def unreviewed (architecture : ArchitectureDecision) : ArchitectureDecision :=
  { architecture with reviewCompletion := .pending, approvalCertificate := none }

/-- What the table clears or resets for requested changes. -/
def Cleared (s t : SessionState) : ReviewLoop → Prop
  | .plan => t.selfReview = none ∧ t.reviewDecision = none
  | .architecture => t.selfReview = none ∧ t.architecture = s.architecture.map unreviewed
  | .implementation =>
      t.implementation = none ∧ t.implValidation = [] ∧ t.implReview = none ∧
        t.reducedCeremony = none ∧ t.reviewDecision = none

/-- The state with the fields that a transition writes, and the decision, taken from
another one. -/
def withDecision (s t : SessionState) : SessionState :=
  { s with
    phase := t.phase
    transition := t.transition
    error := t.error
    pendingSystemWork := t.pendingSystemWork
    reviewDecision := t.reviewDecision }

/-- Beside transition and decision, only what the table names for a loop differs. -/
def ChangesOnly (s t : SessionState) : ReviewLoop → Prop
  | .plan =>
      t = { withDecision s t with selfReview := t.selfReview, reviewCycles := t.reviewCycles }
  | .architecture =>
      t = { withDecision s t with
        architecture := t.architecture
        selfReview := t.selfReview
        reviewCycles := t.reviewCycles }
  | .implementation =>
      t = { withDecision s t with
        implementation := t.implementation
        implValidation := t.implValidation
        implReview := t.implReview
        reducedCeremony := t.reducedCeremony
        reviewCycles := t.reviewCycles }

/-- What an approval writes beside transition and decision: the status of the decided
ADR, and the first certificate of the artifact its gate decides. -/
structure ApprovesOnly (s t : SessionState) : Prop where
  frame : t = { withDecision s t with plan := t.plan, architecture := t.architecture }
  otherPlan : s.phase ≠ .planReview → t.plan = s.plan
  plan : ∀ plan, s.plan = some plan → ∃ certificate,
    t.plan = some { plan with approvalCertificate := certificate } ∧
      (plan.approvalCertificate.isSome → certificate = plan.approvalCertificate)
  noPlan : s.plan = none → t.plan = none
  otherArchitecture : s.phase ≠ .archReview → t.architecture = s.architecture
  architecture : ∀ architecture, s.phase = .archReview → s.architecture = some architecture →
    ∃ certificate,
      t.architecture =
        some { architecture with status := .accepted, approvalCertificate := certificate } ∧
      (architecture.approvalCertificate.isSome → certificate = architecture.approvalCertificate)
  noArchitecture : s.architecture = none → t.architecture = none

/-- The state a decision leads to, before any automatic step. -/
structure DecisionFrame (s : SessionState) (input : ReviewDecisionInput) (ctx : RailContext)
    (t : SessionState) : Prop where
  transition : ∃ target, resolveTransition s.phase (verdictToEvent input.verdict) = some target ∧
    t.phase = target ∧
    t.transition = some ⟨s.phase, target, verdictToEvent input.verdict, ctx.now 1⟩ ∧
    t.error = none ∧
    t.pendingSystemWork =
      if target = .validation ∨ target = .implValidation then some ⟨ctx.now 1, 0, none⟩ else none
  counters : ∀ loop : ReviewLoop, loop.count t.reviewCycles = loop.count s.reviewCycles +
    if input.verdict = .changesRequested ∧ decidedLoop s.phase = some loop then 1 else 0
  changes : input.verdict = .changesRequested →
    ∃ loop, decidedLoop s.phase = some loop ∧ Cleared s t loop ∧ ChangesOnly s t loop ∧
      (loop = .architecture → t.reviewDecision = some (decisionOf input ctx))
  rejects : input.verdict = .reject →
    t.reviewDecision = some (decisionOf input ctx) ∧ t = withDecision s t
  approves : isApprovalVerdict input.verdict = true →
    t.reviewDecision = some (decisionOf input ctx) ∧ ApprovesOnly s t

/-! ### The decided state -/

section Environment

variable (env : Environment) {s : SessionState} {input : ReviewDecisionInput} {ctx : RailContext}

/-- Open or protected, the edge applies the one transition to the decided state. -/
theorem Decided.state_eq {result : RailOk} {target : Phase}
    (hdecided : Decided env s input ctx result target) :
    result.state = applyTransitionUnchecked (decidedState env s input ctx) s.phase target
      (verdictToEvent input.verdict) (ctx.now 1) := by
  have happlied := hdecided.applied
  rw [← decidedState_phase env s input ctx] at happlied
  rcases applyDecisionTransition_applied env happlied with
    ⟨-, hstate, -⟩ | ⟨hexport, -, hstate, -⟩
  · rw [hstate, decidedState_phase]
  · obtain ⟨hphase, hevent⟩ := resolveTransition_exportReady (hexport ▸ hdecided.edge)
    rw [hstate, hphase, hevent, hexport]

theorem decidedLoop_of_gate {phase : Phase} (hgate : isUserGate phase = true) :
    ∃ loop, decidedLoop phase = some loop := by
  cases phase <;> first | exact ⟨_, rfl⟩ | cases hgate

/-- A certificate changes nothing else in its plan, and no plan has its certificate
replaced. -/
theorem planCertificatePatch_spec (hashing : Hashing) (decision : ReviewDecision)
    (evidence : Option ResolvedBoundReviewEvidence) {plan : PlanRecord}
    (hplan : s.plan = some plan) :
    ∃ certificate, planCertificatePatch hashing s decision evidence =
        some { plan with approvalCertificate := certificate } ∧
      (plan.approvalCertificate.isSome → certificate = plan.approvalCertificate) ∧
      (s.phase ≠ .planReview → certificate = plan.approvalCertificate) := by
  rw [planCertificatePatch, hplan]
  dsimp only
  split_ifs with hkept
  · exact ⟨plan.approvalCertificate, rfl, fun _ => rfl, fun _ => rfl⟩
  · have hopen : s.phase = .planReview ∧ plan.approvalCertificate.isSome = false := by
      simpa using hkept
    split
    · exact ⟨plan.approvalCertificate, rfl, fun _ => rfl, fun _ => rfl⟩
    · refine ⟨_, rfl, fun hsome => ?_, fun hother => absurd hopen.1 hother⟩
      rw [hopen.2] at hsome
      cases hsome

theorem architectureCertificatePatch_spec (hashing : Hashing) (digest : String → String)
    (decision : ReviewDecision) (binding : Option ReviewBinding)
    {architecture : ArchitectureDecision} (harchitecture : s.architecture = some architecture) :
    ∃ certificate, architectureCertificatePatch hashing digest s decision binding =
        some { architecture with approvalCertificate := certificate } ∧
      (architecture.approvalCertificate.isSome →
        certificate = architecture.approvalCertificate) ∧
      (s.phase ≠ .archReview → certificate = architecture.approvalCertificate) := by
  cases binding with
  | none =>
      simp only [architectureCertificatePatch, harchitecture]
      exact ⟨architecture.approvalCertificate, rfl, fun _ => rfl, fun _ => rfl⟩
  | some binding =>
      simp only [architectureCertificatePatch, harchitecture]
      split_ifs with hkept
      · exact ⟨architecture.approvalCertificate, rfl, fun _ => rfl, fun _ => rfl⟩
      · have hopen : s.phase = .archReview ∧ architecture.approvalCertificate.isSome = false := by
          simpa using hkept
        refine ⟨_, rfl, fun hsome => ?_, fun hother => absurd hopen.1 hother⟩
        rw [hopen.2] at hsome
        cases hsome

/-- Without an approval the candidate is the state with the decision, cleared. -/
theorem decidedState_of_other (hother : isApprovalVerdict input.verdict = false) :
    decidedState env s input ctx =
      applyStateClearingPattern { s with reviewDecision := some (decisionOf input ctx) }
        input.verdict := by
  rw [decidedState, approvalCertificatePatch, hother]
  rfl

theorem decidedState_reject (hverdict : input.verdict = .reject) :
    decidedState env s input ctx =
      { s with reviewDecision := some (decisionOf input ctx) } := by
  rw [decidedState_of_other env (by rw [hverdict]; rfl), hverdict]
  rfl

/-- What a transition from a gate writes. -/
theorem applyTransitionUnchecked_gate {candidate : SessionState} {target : Phase}
    (event : Event) (atTime : Timestamp) (hgate : isUserGate s.phase = true) :
    applyTransitionUnchecked candidate s.phase target event atTime =
      { candidate with
        phase := target
        transition := some ⟨s.phase, target, event, atTime⟩
        error := none
        pendingSystemWork :=
          if target = .validation ∨ target = .implValidation then some ⟨atTime, 0, none⟩
          else none } := by
  have hrework : (s.phase == .implValidation && target == .implReview) = false := by
    revert hgate
    cases s.phase <;> first | exact fun _ => rfl | exact nofun
  rw [applyTransitionUnchecked, hrework]
  simp

theorem changes_frame {target : Phase} {event : Event} {atTime : Timestamp} {loop : ReviewLoop}
    (hverdict : input.verdict = .changesRequested) (hgate : isUserGate s.phase = true)
    (hloop : decidedLoop s.phase = some loop) :
    let t := applyTransitionUnchecked (decidedState env s input ctx) s.phase target event atTime
    Cleared s t loop ∧ ChangesOnly s t loop ∧
      (loop = .architecture → t.reviewDecision = some (decisionOf input ctx)) ∧
      ∀ other : ReviewLoop, other.count t.reviewCycles =
        other.count s.reviewCycles + if loop = other then 1 else 0 := by
  have hstate : decidedState env s input ctx = applyStateClearingPattern
      { s with reviewDecision := some (decisionOf input ctx) } .changesRequested := by
    rw [decidedState_of_other env (by rw [hverdict]; rfl), hverdict]
  dsimp only
  rw [applyTransitionUnchecked_gate event atTime hgate, hstate]
  cases hphase : s.phase with
  | planReview =>
      rw [hphase] at hloop
      cases hloop
      simp only [applyStateClearingPattern]
      refine ⟨⟨rfl, rfl⟩, rfl, fun heq => absurd heq (by decide), fun other => ?_⟩
      cases other <;> rfl
  | archReview =>
      rw [hphase] at hloop
      cases hloop
      simp only [applyStateClearingPattern]
      refine ⟨⟨rfl, rfl⟩, rfl, fun _ => rfl, fun other => ?_⟩
      cases other <;> rfl
  | evidenceReview =>
      rw [hphase] at hloop
      cases hloop
      simp only [applyStateClearingPattern]
      refine ⟨⟨rfl, rfl, rfl, rfl, rfl⟩, rfl, fun heq => absurd heq (by decide), fun other => ?_⟩
      cases other <;> rfl
  | _ =>
      rw [hphase] at hgate
      cases hgate

/-- The artifacts of an approved candidate. -/
theorem decidedState_approval (happroval : isApprovalVerdict input.verdict = true) :
    ∃ evidence binding,
      decidedState env s input ctx =
        { s with
          reviewDecision := some (decisionOf input ctx)
          plan := planCertificatePatch env.hashing s (decisionOf input ctx) evidence
          architecture :=
            if s.phase = .archReview then
              (architectureCertificatePatch env.hashing ctx.digest s (decisionOf input ctx)
                binding).map ({ · with status := .accepted })
            else
              architectureCertificatePatch env.hashing ctx.digest s (decisionOf input ctx)
                binding } := by
  rw [decidedState, approvalCertificatePatch, happroval]
  simp only [applyStateClearingPattern, happroval, Bool.not_true, Bool.false_eq_true, if_false,
    if_true, beq_iff_eq]
  split_ifs
  · exact ⟨_, _, rfl⟩
  · exact ⟨_, _, rfl⟩

theorem approves_frame {target : Phase} {event : Event} {atTime : Timestamp}
    (happroval : isApprovalVerdict input.verdict = true) (hgate : isUserGate s.phase = true) :
    let t := applyTransitionUnchecked (decidedState env s input ctx) s.phase target event atTime
    t.reviewDecision = some (decisionOf input ctx) ∧ ApprovesOnly s t ∧
      t.reviewCycles = s.reviewCycles := by
  obtain ⟨evidence, binding, hstate⟩ := @decidedState_approval env s input ctx happroval
  dsimp only
  rw [applyTransitionUnchecked_gate event atTime hgate, hstate]
  refine ⟨rfl, ⟨rfl, ?_, ?_, ?_, ?_, ?_, ?_⟩, rfl⟩
  · intro hother
    cases hplan : s.plan with
    | none => simp [planCertificatePatch, hplan]
    | some plan =>
        obtain ⟨certificate, hpatch, -, hsame⟩ :=
          planCertificatePatch_spec env.hashing (decisionOf input ctx) evidence hplan
        rw [hsame hother] at hpatch
        exact hpatch
  · intro plan hplan
    obtain ⟨certificate, hpatch, hkept, -⟩ :=
      planCertificatePatch_spec env.hashing (decisionOf input ctx) evidence hplan
    exact ⟨certificate, hpatch, hkept⟩
  · intro hplan
    simp [planCertificatePatch, hplan]
  · intro hother
    dsimp only
    rw [if_neg hother]
    cases harchitecture : s.architecture with
    | none => simp [architectureCertificatePatch, harchitecture]
    | some architecture =>
        obtain ⟨certificate, hpatch, -, hsame⟩ := architectureCertificatePatch_spec env.hashing
          ctx.digest (decisionOf input ctx) binding harchitecture
        rw [hsame hother] at hpatch
        exact hpatch
  · intro architecture hphase harchitecture
    obtain ⟨certificate, hpatch, hkept, -⟩ := architectureCertificatePatch_spec env.hashing
      ctx.digest (decisionOf input ctx) binding harchitecture
    refine ⟨certificate, ?_, hkept⟩
    dsimp only
    rw [if_pos hphase, hpatch]
    rfl
  · intro harchitecture
    have hpatch : architectureCertificatePatch env.hashing ctx.digest s (decisionOf input ctx)
        binding = none := by
      simp [architectureCertificatePatch, harchitecture]
    dsimp only
    rw [hpatch]
    split_ifs <;> rfl

theorem Decided.frame {result : RailOk} {target : Phase}
    (hdecided : Decided env s input ctx result target) :
    DecisionFrame s input ctx result.state := by
  have hgate := hdecided.gate
  have hphases := @applyTransitionUnchecked_gate s (decidedState env s input ctx) target
    (verdictToEvent input.verdict) (ctx.now 1) hgate
  obtain ⟨loop, hloop⟩ := decidedLoop_of_gate hgate
  rw [hdecided.state_eq]
  constructor
  case transition =>
    rw [hphases]
    exact ⟨target, hdecided.edge, rfl, rfl, rfl, rfl⟩
  case counters =>
    intro other
    cases hverdict : input.verdict with
    | changesRequested =>
        rw [← hverdict, (changes_frame env hverdict hgate hloop).2.2.2 other, hloop]
        simp [hverdict]
    | reject =>
        rw [← hverdict, hphases, decidedState_reject env hverdict]
        simp [hverdict]
    | approve =>
        rw [← hverdict, (approves_frame env (by rw [hverdict]; rfl) hgate).2.2]
        simp [hverdict]
    | approveWithGovernanceOverride =>
        rw [← hverdict, (approves_frame env (by rw [hverdict]; rfl) hgate).2.2]
        simp [hverdict]
  case changes =>
    intro hverdict
    obtain ⟨hcleared, honly, hdecision, -⟩ := changes_frame env hverdict hgate hloop
    exact ⟨loop, hloop, hcleared, honly, hdecision⟩
  case rejects =>
    intro hverdict
    rw [hphases, decidedState_reject env hverdict]
    exact ⟨rfl, rfl⟩
  case approves =>
    intro happroval
    obtain ⟨hdecision, honly, -⟩ := approves_frame env happroval hgate
    exact ⟨hdecision, honly⟩

/-- The state of an answer. -/
def RailResult.state? : RailResult → Option SessionState
  | .ok result => some result.state
  | .blocked _ => none

/-- The rail answers every decision: with a state inside the frame of the decision, or
with a block and no state. -/
theorem executeReviewDecision_frame (s : SessionState) (input : ReviewDecisionInput)
    (ctx : RailContext) :
    ∃ answer, executeReviewDecision env s input ctx = .ok answer ∧
      (∀ t, answer.state? = some t → DecisionFrame s input ctx t) ∧
      ((∃ block, answer = .blocked block) → answer.state? = none) := by
  obtain ⟨answer, hanswer⟩ := executeReviewDecision_total env s input ctx
  refine ⟨answer, hanswer, fun t hstate => ?_, ?_⟩
  · cases answer with
    | blocked block => cases hstate
    | ok result =>
        obtain rfl := Option.some.inj hstate
        obtain ⟨target, hdecided⟩ := executeReviewDecision_ok env hanswer
        exact hdecided.frame env
  · rintro ⟨block, rfl⟩
    rfl

end Environment

/-! ### The first approval of a plan -/

/-- A plan without claims, accepted by its reviewer and at its gate. -/
def acceptedPlanSession : SessionState :=
  { sessionAt .planReview false with
    ticket := some ⟨"Add a cache", "t1", "2024-05-01T08:30:00.000Z", .absent, ""⟩
    plan := some
      { current :=
          { body := "Plan A"
            digest := "p1"
            sections := []
            createdAt := "2024-05-01T09:00:00.000Z"
            revisionId := "9b2e6c1a-1111-4d2e-8f0a-6c8f5d2f8a11"
            recordDigest := "r1"
            planVersion := 1
            supersedesRecordDigest := none
            originatingReviewObligationId := none
            revisionReason := none }
        history := []
        reviewFindings := ""
        claimDeclarations := none
        claimSubmissionDiagnostics := none
        claimSubmissionHistory := none
        approvalCertificate := none
        reviewCompletion := .reviewerAccepted }
    reviewAssurance := some
      { obligations :=
          [{ obligationId := "9b2e6c1a-2222-4d2e-8f0a-6c8f5d2f8a11"
             obligationType := .plan
             iteration := 1
             planVersion := 1
             createdAt := "2024-05-01T09:00:00.000Z"
             status := .consumed
             invocationId := some "i1"
             blockedCode := none
             consumedAt := some "2024-05-01T09:20:00.000Z"
             subjectDigest := "p1"
             claimDeclarationsDigest := some "[]"
             other := "" }]
        invocations :=
          [{ invocationId := "i1"
             obligationId := "9b2e6c1a-2222-4d2e-8f0a-6c8f5d2f8a11"
             obligationType := .plan
             transportVersion := some 6
             invocationMode := some "native_subagent_message_json"
             nativeProvenance := some ""
             findingsHash := "f1"
             capturedVerdict := some "accept"
             other := "" }]
        other := "" } }

/-- No claims hash as the text of the empty list. -/
def planEnvironment : Environment :=
  { Environment.plain with
    hashing := { Hashing.transparent with claimDeclarations := fun _ => "[]" } }

/-- The approval mints the plan's certificate and requests the validation it leads to. -/
theorem acceptedPlan_approved :
    ∃ result, executeReviewDecision planEnvironment acceptedPlanSession soloApproval
        (stillContext soloPolicy) = .ok (.ok result) ∧
      result.state.plan ≠ acceptedPlanSession.plan ∧
      acceptedPlanSession.pendingSystemWork = none ∧
      result.state.pendingSystemWork = some ⟨"2024-05-01T11:00:00.000Z", 0, none⟩ := by
  have hanswer : executeReviewDecision planEnvironment acceptedPlanSession soloApproval
      (stillContext soloPolicy) = .ok (.ok _) := rfl
  refine ⟨_, hanswer, ?_, rfl, rfl⟩
  intro hsame
  have hcertificates := congrArg (fun plan : Option PlanRecord =>
    (plan.bind PlanRecord.approvalCertificate).isSome) hsame
  exact absurd hcertificates (by decide)

end GovernedRuntime.Rails
