/-
What stands at the plan gate: over every run of plan calls, the plan that leaves
`PLAN` for `PLAN_REVIEW` is the one the reviewer saw.
-/
import GovernedRuntime.Tools.PlanCalls

namespace GovernedRuntime.Tools

open GovernedRuntime.Library
open GovernedRuntime.State
open GovernedRuntime.Machine
open GovernedRuntime.Rails

/-! ### Advancing a plan -/

/-- What the auto-advance loop leaves alone, and why it passed the plan gate. -/
structure PlanFrame (env : Environment) (policy : Option GatePolicy) (s : SessionState)
    (loop : AdvanceLoop) : Prop where
  ticket : loop.current.ticket = s.ticket
  plan : loop.current.plan = s.plan
  selfReview : loop.current.selfReview = s.selfReview
  reviewAssurance : loop.current.reviewAssurance = s.reviewAssurance
  result : loop.result = evaluate env loop.current policy
  gate : ∀ record ∈ loop.transitions, record.fromPhase = .plan →
    record.toPhase = .planReview → selfReviewMet s = true

theorem selfReviewMet_congr {s t : SessionState} (hsame : s.selfReview = t.selfReview) :
    selfReviewMet s = selfReviewMet t := by
  rw [selfReviewMet, selfReviewMet, hsame]

section Advance

variable (env : Environment) {policy : Option GatePolicy} {now : Nat → Timestamp}
  {s : SessionState} {loop next : AdvanceLoop}

theorem selfReviewMet_of_planReview {event : Event}
    (hresult : evaluate env s policy = .transition event .planReview)
    (hphase : s.phase = .plan) : selfReviewMet s = true := by
  rw [evaluate_plan env policy hphase] at hresult
  split_ifs at hresult with herror hmet hpending
  · cases hresult
  · exact hmet
  · cases hresult

theorem PlanFrame.step (hframe : PlanFrame env policy s loop)
    (hstep : advanceStep env (evaluate env · policy) now loop = .next next) :
    PlanFrame env policy s next := by
  obtain ⟨hticket, hplan, hself, hassurance, hresult, hgate⟩ := hframe
  cases (advanceStep_next_iff env).1 hstep with
  | generic event target htarget hleaves hopen hnext =>
      subst hnext
      refine ⟨hticket, hplan, hself, hassurance, rfl, fun record hmem hfrom hto => ?_⟩
      rcases List.mem_append.1 hmem with hold | hnew
      · exact hgate record hold hfrom hto
      · rw [List.mem_singleton] at hnew
        subst hnew
        obtain rfl : target = .planReview := hto
        rw [← selfReviewMet_congr hself]
        exact selfReviewMet_of_planReview env (hresult ▸ htarget) hfrom
  | approved event approved htarget hcleared happroved hnext =>
      subst hnext happroved
      refine ⟨hticket, hplan, hself, hassurance, rfl, fun record hmem hfrom hto => ?_⟩
      rcases List.mem_append.1 hmem with hold | hnew
      · exact hgate record hold hfrom hto
      · rw [List.mem_singleton] at hnew
        subst hnew
        cases hto

theorem PlanFrame.init (policy : Option GatePolicy) (s : SessionState) :
    PlanFrame env policy s (advanceStart (evaluate env · policy) s) :=
  ⟨rfl, rfl, rfl, rfl, rfl, fun _ hmem => absurd hmem List.not_mem_nil⟩

/-- Phases a plan with an open review advances through. -/
structure Submitting (loop : AdvanceLoop) : Prop where
  phase : loop.current.phase = .ticket ∨ loop.current.phase = .plan
  error : loop.current.error = none

theorem Submitting.step (hframe : PlanFrame env policy s loop)
    (hmet : selfReviewMet s = false) (hsubmitting : Submitting loop)
    (hstep : advanceStep env (evaluate env · policy) now loop = .next next) :
    Submitting next := by
  obtain ⟨hphase, herror⟩ := hsubmitting
  rw [← selfReviewMet_congr hframe.selfReview] at hmet
  have hnone : hasError loop.current = false := by rw [hasError, herror]; rfl
  cases (advanceStep_next_iff env).1 hstep with
  | generic event target htarget hleaves hopen hnext =>
      subst hnext
      refine ⟨Or.inr ?_, rfl⟩
      rw [hframe.result] at htarget
      rcases hphase with hphase | hphase
      · rw [evaluate_ticket env policy hphase, hnone] at htarget
        simp only [Bool.false_eq_true, if_false] at htarget
        split_ifs at htarget
        cases htarget
        rfl
      · rw [evaluate_plan env policy hphase, hnone, hmet] at htarget
        simp only [Bool.false_eq_true, if_false] at htarget
        split_ifs at htarget
        cases htarget
        exact absurd hphase.symm hleaves
  | approved event approved htarget hcleared happroved hnext =>
      have hgate := hcleared.phase
      rcases hphase with hphase | hphase <;> rw [hphase] at hgate <;> cases hgate

/-- A plan with an open review settles in `PLAN`. -/
theorem Submitting.phase_of_settled (hframe : PlanFrame env policy s loop)
    (hsubmitting : Submitting loop) (hticket : s.ticket.isSome = true)
    (hplan : s.plan.isSome = true)
    (hsettled : (evaluate env loop.current policy).leaves loop.current.phase = false) :
    loop.current.phase = .plan := by
  obtain ⟨hphase | hphase, herror⟩ := hsubmitting
  · rw [evaluate_ticket env policy hphase, hasError, herror, hasPlanReady, hframe.ticket,
      hframe.plan, hticket, hplan, hphase] at hsettled
    cases hsettled
  · exact hphase

end Advance

/-! ### What a call writes -/

section Services

variable {services : PlanServices} {scope : PlanExecutionScope}

/-- The state an advance ends in, as far as plans go. -/
structure PlanAdvance (next : SessionState) (write : PlanWrite) : Prop where
  plan : write.state.plan = next.plan
  selfReview : write.state.selfReview = next.selfReview
  reviewAssurance : write.state.reviewAssurance = next.reviewAssurance
  gate : ∀ record ∈ write.transitions, record.fromPhase = .plan →
    record.toPhase = .planReview → selfReviewMet next = true

theorem advancePlanState_ok {next : SessionState} {write : PlanWrite}
    (hadvance : advancePlanState services scope next = .ok write) :
    ∃ n loop, Turns (advanceStep services.env
          (evaluate services.env · (some scope.policy.gate)) scope.now) n
        (advanceStart (evaluate services.env · (some scope.policy.gate)) next) loop ∧
      loop.result.leaves loop.current.phase = false ∧
      write = ⟨loop.current, loop.transitions, none⟩ := by
  rw [advancePlanState] at hadvance
  split at hadvance
  · cases hadvance
  · cases hadvance
  · cases hadvance
  · rename_i result hresult
    obtain rfl := Except.ok.inj hadvance
    obtain ⟨n, -, hturns, hsettled⟩ := autoAdvance_advanced services.env hresult
    exact ⟨n, _, hturns, hsettled, rfl⟩

theorem planFrame_of_turns {env : Environment} {policy : Option GatePolicy}
    {now : Nat → Timestamp} {s : SessionState} {n : Nat} {loop : AdvanceLoop}
    (hturns : Turns (advanceStep env (evaluate env · policy) now) n
      (advanceStart (evaluate env · policy) s) loop) : PlanFrame env policy s loop :=
  hturns.invariant (fun _ _ hframe hstep => hframe.step env hstep) (PlanFrame.init env policy s)

theorem planAdvance_of_ok {next : SessionState} {write : PlanWrite}
    (hadvance : advancePlanState services scope next = .ok write) : PlanAdvance next write := by
  obtain ⟨n, loop, hturns, -, rfl⟩ := advancePlanState_ok hadvance
  have hframe := planFrame_of_turns hturns
  exact ⟨hframe.plan, hframe.selfReview, hframe.reviewAssurance, hframe.gate⟩

/-- While its review is open a plan stays in `PLAN`. -/
theorem phase_of_advancePlanState {next : SessionState} {write : PlanWrite}
    (hadvance : advancePlanState services scope next = .ok write)
    (hphase : next.phase = .ticket ∨ next.phase = .plan) (herror : next.error = none)
    (hticket : next.ticket.isSome = true) (hplan : next.plan.isSome = true)
    (hmet : selfReviewMet next = false) : write.state.phase = .plan := by
  obtain ⟨n, loop, hturns, hsettled, rfl⟩ := advancePlanState_ok hadvance
  have hkeeps : ∀ loop loop', PlanFrame services.env (some scope.policy.gate) next loop ∧
      Submitting loop → advanceStep services.env
        (evaluate services.env · (some scope.policy.gate)) scope.now loop = .next loop' →
      PlanFrame services.env (some scope.policy.gate) next loop' ∧ Submitting loop' := by
    rintro loop loop' ⟨hframe, hsubmitting⟩ hstep
    exact ⟨hframe.step services.env hstep, hsubmitting.step services.env hframe hmet hstep⟩
  obtain ⟨hframe, hsubmitting⟩ :=
    hturns.invariant hkeeps ⟨PlanFrame.init services.env _ next, hphase, herror⟩
  rw [hframe.result] at hsettled
  exact hsubmitting.phase_of_settled services.env hframe hticket hplan hsettled

/-- Findings captured for an obligation. -/
def Captured (services : PlanServices) (state : SessionState) (obligation : ReviewObligation)
    (findings : ReviewFindings) : Prop :=
  ∃ assurance, state.reviewAssurance = some assurance ∧
    ∃ invocation ∈ assurance.invocations, invocation.obligationId = obligation.obligationId ∧
      services.evaluateStructuredInvocation state obligation invocation = .resolved findings

/-- The two calls that write. -/
inductive PlanCalled (services : PlanServices) (state : SessionState) (budget : ReviewBudget)
    (verdict : Option LoopVerdict) (write : PlanWrite) : Prop
  | submitted (admitted : PlanExecutionScope) (assurance : ReviewAssuranceState)
      (hnone : verdict = none) (hstate : admitted.state = state)
      (hphase : state.phase = .ticket ∨ state.phase = .plan)
      (hticket : state.ticket.isSome = true)
      (hgate : state.phase = .plan → state.selfReview.isSome = true →
        blockedPlanReviewInProgress state = none)
      (hattempt : createPlanReviewAttempt services admitted
        (submittedPlanEvidence services admitted)
        (submittedPlanEvidence services admitted).planVersion = .ok assurance)
      (hwrite : advancePlanState services admitted (buildPlanSubmissionState services admitted
        (submittedPlanEvidence services admitted)
        (submittedPlanEvidence services admitted).planVersion assurance) = .ok write)
  | reviewed (admitted : PlanExecutionScope) (plan : PlanRecord) (selfReview : SelfReviewLoop)
      (obligation : ReviewObligation) (findings : ReviewFindings) (invocationId : String)
      (revision : PlanRevisionResult)
      (hstate : admitted.state = state) (hbudget : admitted.budget = budget)
      (hphase : state.phase = .ticket ∨ state.phase = .plan)
      (hticket : state.ticket.isSome = true)
      (hplan : state.plan = some plan) (hloop : state.selfReview = some selfReview)
      (hgiven : verdict = some findings.overallVerdict)
      (hargs : admitted.args.reviewVerdict = some findings.overallVerdict)
      (hverdict : findings.overallVerdict ≠ .unableToReview)
      (hpending : lastOpenObligation .plan (obligationsOf state) = some obligation)
      (hcaptured : Captured services state obligation findings)
      (hrevision : applyPlanRevision services admitted plan findings.overallVerdict
        (some obligation.obligationId) = .ok revision)
      (hwrite : persistPlanReview services admitted revision selfReview
        (buildReviewedPlanState services admitted plan selfReview revision findings
          (consumePlanObligation services admitted
            (ensureReviewAssurance state.reviewAssurance) obligation.iteration
            obligation.planVersion invocationId)) = .ok write)

theorem resolveFromStructuredInvocations_ok {state : SessionState}
    {obligation : ReviewObligation} {invocations : List ReviewInvocation}
    {findings : ReviewFindings} {invocationId : String}
    (hresolved : resolveFromStructuredInvocations services state obligation invocations =
      .ok (findings, invocationId)) :
    ∃ invocation ∈ invocations,
      services.evaluateStructuredInvocation state obligation invocation = .resolved findings := by
  induction invocations with
  | nil => cases hresolved
  | cons invocation rest ih =>
      rw [resolveFromStructuredInvocations] at hresolved
      have hskip : resolveFromStructuredInvocations services state obligation rest =
          .ok (findings, invocationId) → ∃ found ∈ invocation :: rest,
            services.evaluateStructuredInvocation state obligation found =
              .resolved findings := by
        intro hrest
        obtain ⟨found, hmem, hfound⟩ := ih hrest
        exact ⟨found, List.mem_cons_of_mem _ hmem, hfound⟩
      cases hevaluate : services.evaluateStructuredInvocation state obligation invocation with
      | skip =>
          rw [hevaluate] at hresolved
          exact hskip hresolved
      | deferred =>
          rw [hevaluate] at hresolved
          exact hskip hresolved
      | rejected code =>
          rw [hevaluate] at hresolved
          cases hresolved
      | resolved captured =>
          rw [hevaluate] at hresolved
          cases hresolved
          exact ⟨invocation, List.mem_cons_self, hevaluate⟩

/-- Findings are resolved for a pending obligation, from an invocation of it. -/
theorem captured_of_structured {state : SessionState} {pending : Option ReviewObligation}
    {findings : ReviewFindings} {invocationId : String}
    (hresolve : resolveStructuredFindings services state pending =
      .ok (findings, invocationId)) :
    ∃ obligation, pending = some obligation ∧ Captured services state obligation findings := by
  unfold resolveStructuredFindings at hresolve
  split at hresolve
  · rename_i obligation assurance hassurance
    split at hresolve
    · cases hresolve
    · obtain ⟨invocation, hmem, hevaluate⟩ := resolveFromStructuredInvocations_ok hresolve
      rw [List.mem_filter, Bool.and_eq_true, Bool.and_eq_true, beq_iff_eq] at hmem
      exact ⟨obligation, rfl, assurance, hassurance, invocation, hmem.1, hmem.2.1.1, hevaluate⟩
  · cases hresolve

theorem captured_of_resolve {pending : Option ReviewObligation} {findings : ReviewFindings}
    {invocationId : String}
    (hresolve : resolveEffectivePlanFindings services scope pending =
      .ok (findings, invocationId)) :
    ∃ obligation, pending = some obligation ∧
      Captured services scope.state obligation findings := by
  rw [resolveEffectivePlanFindings] at hresolve
  split_ifs at hresolve with hunavailable
  exact captured_of_structured hresolve

theorem blockedInvalidPlanFindings_none {args : PlanArgs} {findings : ReviewFindings}
    (hnone : blockedInvalidPlanFindings args findings = none) :
    findings.overallVerdict ≠ .unableToReview ∧
      args.reviewVerdict = some findings.overallVerdict := by
  rw [blockedInvalidPlanFindings] at hnone
  split_ifs at hnone with hunable hverdict
  rw [beq_iff_eq] at hunable
  rw [bne_iff_ne, ne_eq, Decidable.not_not] at hverdict
  exact ⟨hunable, hverdict.symm⟩

theorem admitReviewedRevision_ok {admitted : PlanExecutionScope}
    (hadmitted : admitReviewedRevision services scope = .ok admitted) :
    admitted.state = scope.state ∧ admitted.budget = scope.budget ∧
      admitted.args.reviewVerdict = scope.args.reviewVerdict := by
  rw [admitReviewedRevision] at hadmitted
  split_ifs at hadmitted
  · obtain ⟨claims, diagnostics, rfl⟩ := admitPlanRevision_ok services hadmitted
    exact ⟨rfl, rfl, rfl⟩
  · obtain rfl := Except.ok.inj hadmitted
    exact ⟨rfl, rfl, rfl⟩

/-- A review that is written saw a pending obligation and its captured findings. -/
theorem reviewed_of_handlePlanReview {write : PlanWrite}
    (hphase : scope.state.phase = .ticket ∨ scope.state.phase = .plan)
    (hticket : scope.state.ticket.isSome = true)
    (hreview : handlePlanReview services scope = .ok write) :
    PlanCalled services scope.state scope.budget scope.args.reviewVerdict write := by
  unfold handlePlanReview at hreview
  split at hreview
  · cases hreview
  · cases hreview
  · rename_i selfReview plan hloop hplan
    dsimp only at hreview
    split at hreview
    · cases hreview
    · rename_i findings invocationId hresolve
      obtain ⟨obligation, hpending, hcaptured⟩ := captured_of_resolve hresolve
      rw [hpending] at hreview
      split at hreview
      · cases hreview
      · rename_i hnone
        obtain ⟨hverdict, hargs⟩ := blockedInvalidPlanFindings_none hnone
        split at hreview
        · cases hreview
        · rename_i admitted hadmitted
          obtain ⟨hstate, hbudget, hsame⟩ := admitReviewedRevision_ok hadmitted
          split at hreview
          · cases hreview
          · rename_i revision hrevision
            exact .reviewed admitted plan selfReview obligation findings invocationId revision
              hstate hbudget hphase hticket hplan hloop hargs (hsame.trans hargs) hverdict
              hpending hcaptured hrevision hreview

theorem handlePlanSubmission_ok {write : PlanWrite}
    (hsubmit : handlePlanSubmission services scope = .ok write) :
    hasText scope.args.planText = true ∧ ∃ admitted assurance, admitted.state = scope.state ∧
      createPlanReviewAttempt services admitted (submittedPlanEvidence services admitted)
          (submittedPlanEvidence services admitted).planVersion = .ok assurance ∧
      advancePlanState services admitted (buildPlanSubmissionState services admitted
        (submittedPlanEvidence services admitted)
        (submittedPlanEvidence services admitted).planVersion assurance) = .ok write := by
  unfold handlePlanSubmission at hsubmit
  split_ifs at hsubmit with hempty
  refine ⟨?_, ?_⟩
  · cases htext : scope.args.planText with
    | none =>
        rw [htext] at hempty
        exact absurd rfl hempty
    | some text =>
        rw [htext, beq_iff_eq] at hempty
        exact bne_iff_ne.2 hempty
  · split at hsubmit
    · cases hsubmit
    · rename_i admitted hadmitted
      obtain ⟨claims, diagnostics, hadmitted⟩ := admitPlanRevision_ok services hadmitted
      dsimp only at hsubmit
      split at hsubmit
      · cases hsubmit
      · rename_i assurance hattempt
        exact ⟨admitted, assurance, hadmitted ▸ rfl, hattempt, hsubmit⟩

theorem validatePlanCallShape_none (hshape : validatePlanCallShape scope = none) :
    (scope.state.phase = .ticket ∨ scope.state.phase = .plan) ∧
      scope.state.ticket.isSome = true := by
  unfold validatePlanCallShape at hshape
  split_ifs at hshape with hallowed hticket
  refine ⟨?_, ?_⟩
  · revert hallowed
    cases scope.state.phase <;> simp [isCommandAllowed, commandPolicy]
  · rwa [Option.isNone_iff_eq_none, ← ne_eq, ← Option.isSome_iff_ne_none] at hticket

theorem submitPlan_ok {write : PlanWrite} (hsubmit : submitPlan services scope = .ok write) :
    handlePlanSubmission services scope = .ok write ∧
      (scope.state.phase = .plan → scope.state.selfReview.isSome = true →
        blockedPlanReviewInProgress scope.state = none) := by
  unfold submitPlan at hsubmit
  split_ifs at hsubmit with hloop
  · split at hsubmit
    · cases hsubmit
    · rename_i hgate
      exact ⟨hsubmit, fun _ _ => hgate⟩
  · refine ⟨hsubmit, fun hphase hself => ?_⟩
    have htext := (handlePlanSubmission_ok hsubmit).1
    rw [htext, hphase, hself] at hloop
    exact absurd rfl hloop

theorem normalizeInitialPlanSubmissionArgs_of_plan {args : PlanArgs} {state : SessionState}
    (hplan : state.plan.isSome = true) :
    normalizeInitialPlanSubmissionArgs args state = args := by
  rw [normalizeInitialPlanSubmissionArgs, hplan, Bool.or_true, Bool.true_or]
  rfl

theorem planCall_ok {write : PlanWrite} (hcall : planCall services scope = .ok write) :
    PlanCalled services scope.state scope.budget
      (normalizeInitialPlanSubmissionArgs scope.args scope.state).reviewVerdict write := by
  unfold planCall at hcall
  dsimp only at hcall
  split at hcall
  · cases hcall
  · rename_i hshape
    obtain ⟨hphase, hticket⟩ := validatePlanCallShape_none hshape
    split_ifs at hcall with hverdict
    · obtain ⟨hsubmit, hgate⟩ := submitPlan_ok hcall
      obtain ⟨-, admitted, assurance, hstate, hattempt, hwrite⟩ := handlePlanSubmission_ok hsubmit
      exact .submitted admitted assurance (Option.isNone_iff_eq_none.1 hverdict) hstate hphase
        hticket hgate hattempt hwrite
    · exact reviewed_of_handlePlanReview hphase hticket hcall

/-! ### What a review persists -/

/-- A plan with another certificate. -/
def recertified (certificate : Option PlanApprovalCertificate) (plan : PlanRecord) :
    PlanRecord :=
  { plan with approvalCertificate := certificate }

/-- The preparation of an approval at most adds a certificate. -/
theorem prepareAutomaticPlanApproval_ok {state next : SessionState}
    (hprepare : prepareAutomaticPlanApproval services state scope = .ok next) :
    ∃ certificate, next = { state with plan := state.plan.map (recertified certificate) } := by
  have hsame : ∃ certificate,
      state = { state with plan := state.plan.map (recertified certificate) } := by
    cases hplan : state.plan with
    | none => exact ⟨none, by rw [Option.map_none, ← hplan]⟩
    | some plan =>
        refine ⟨plan.approvalCertificate, ?_⟩
        rw [Option.map_some, recertified, ← hplan]
  unfold prepareAutomaticPlanApproval at hprepare
  dsimp only at hprepare
  split_ifs at hprepare
  · obtain rfl := Except.ok.inj hprepare
    exact hsame
  · obtain rfl := Except.ok.inj hprepare
    exact hsame
  · split at hprepare
    · obtain rfl := Except.ok.inj hprepare
      exact hsame
    · rename_i plan hplan
      split_ifs at hprepare
      · obtain rfl := Except.ok.inj hprepare
        exact hsame
      · split at hprepare
        · cases hprepare
        · split at hprepare
          · cases hprepare
          · split at hprepare
            · cases hprepare
            · split at hprepare
              · cases hprepare
              · rename_i certificate _
                obtain rfl := Except.ok.inj hprepare
                exact ⟨some certificate, by rw [hplan, Option.map_some, recertified]⟩

/-- Only an accepted plan is refused its approval. -/
theorem prepareAutomaticPlanApproval_error {state : SessionState} {block : RailBlocked}
    (hprepare : prepareAutomaticPlanApproval services state scope = .error block) :
    ∃ plan, state.plan = some plan ∧ plan.reviewCompletion = .reviewerAccepted := by
  unfold prepareAutomaticPlanApproval at hprepare
  dsimp only at hprepare
  split_ifs at hprepare
  split at hprepare
  · cases hprepare
  · rename_i plan hplan
    split_ifs at hprepare with hready
    refine ⟨plan, hplan, ?_⟩
    rw [Bool.or_eq_true, not_or, bne_iff_ne, ne_eq, Decidable.not_not] at hready
    exact hready.2

/-- A minted obligation is open and asks about the revision it was minted for. -/
structure Minted (evidence : PlanEvidence) (obligation : ReviewObligation) : Prop where
  type : obligation.obligationType = .plan
  isOpen : isOpenReviewObligation obligation = true
  consumedAt : obligation.consumedAt = none
  subjectDigest : obligation.subjectDigest = evidence.digest

theorem createPlanObligation_ok {state : SessionState} {evidence : PlanEvidence}
    {iteration planVersion : Nat} {declarations : PlanClaimDeclarations}
    {obligation : ReviewObligation}
    (hcreate : createPlanObligation services scope state evidence iteration planVersion
      declarations = .ok obligation) : Minted evidence obligation := by
  rw [createPlanObligation] at hcreate
  split_ifs at hcreate
  cases hfreeze : services.freezeReviewContext state evidence declarations with
  | error code =>
      rw [hfreeze] at hcreate
      cases hcreate
  | ok other =>
      rw [hfreeze] at hcreate
      obtain rfl := Except.ok.inj hcreate
      exact ⟨rfl, rfl, rfl, rfl⟩

theorem minted_of_map {state : SessionState} {evidence : PlanEvidence}
    {iteration planVersion : Nat} {declarations : PlanClaimDeclarations}
    {assurance : Option ReviewAssuranceState} {appended : ReviewAssuranceState}
    (hmint : (createPlanObligation services scope state evidence iteration planVersion
      declarations).map (appendObligationAndInitialAttempt services assurance) =
        .ok appended) :
    ∃ obligation, Minted evidence obligation ∧
      appended.obligations = (ensureReviewAssurance assurance).obligations ++ [obligation] := by
  cases hcreate : createPlanObligation services scope state evidence iteration planVersion
      declarations with
  | error code =>
      rw [hcreate] at hmint
      cases hmint
  | ok obligation =>
      rw [hcreate] at hmint
      obtain rfl := Except.ok.inj hmint
      exact ⟨obligation, createPlanObligation_ok hcreate, rfl⟩

/-- Whether a review is over: accepted, or out of budget. -/
def isReviewOver (scope : PlanExecutionScope) (revision : PlanRevisionResult)
    (iteration : Nat) : Bool :=
  (revision.revisionDelta == .none && revision.verdict == .accept) ||
    decide (scope.maxPlanReviewIterations ≤ iteration)

/-- What a persisted review leaves of the reviewed state. -/
structure PersistedReview (scope : PlanExecutionScope) (revision : PlanRevisionResult)
    (iteration : Nat) (reviewed : SessionState) (write : PlanWrite) : Prop where
  plan : ∃ certificate, write.state.plan = reviewed.plan.map (recertified certificate)
  selfReview : write.state.selfReview = reviewed.selfReview
  gate : ∀ record ∈ write.transitions, record.fromPhase = .plan →
    record.toPhase = .planReview → selfReviewMet reviewed = true ∨
      ∃ plan, reviewed.plan = some plan ∧ plan.reviewCompletion = .reviewerAccepted
  phase : reviewed.phase = .plan → reviewed.error = none → reviewed.ticket.isSome = true →
    reviewed.plan.isSome = true → selfReviewMet reviewed = false →
    (∀ plan, reviewed.plan = some plan → plan.reviewCompletion ≠ .reviewerAccepted) →
    write.state.phase = .plan
  obligations : obligationsOf write.state = obligationsOf reviewed ∨
    (isReviewOver scope revision iteration = false ∧ ∃ obligation,
      Minted revision.currentPlan obligation ∧
        obligationsOf write.state = obligationsOf reviewed ++ [obligation])

theorem persistPlanReview_ok {revision : PlanRevisionResult} {selfReview : SelfReviewLoop}
    {reviewed : SessionState} {write : PlanWrite}
    (hpersist : persistPlanReview services scope revision selfReview reviewed = .ok write) :
    PersistedReview scope revision (selfReview.iteration + 1) reviewed write := by
  unfold persistPlanReview at hpersist
  split at hpersist
  · rename_i block hprepare
    obtain rfl := Except.ok.inj hpersist
    have haccepted := prepareAutomaticPlanApproval_error hprepare
    obtain ⟨plan, hplan, hcompletion⟩ := haccepted
    rw [persistBlockedAutomaticPlanApproval]
    have hcertificate : reviewed.plan = reviewed.plan.map
        (recertified plan.approvalCertificate) := by
      rw [hplan, Option.map_some, recertified]
    split_ifs
    · exact ⟨⟨_, hcertificate⟩, rfl, fun _ hmem => absurd hmem List.not_mem_nil,
        fun _ _ _ _ _ hopen => absurd hcompletion (hopen plan hplan), Or.inl rfl⟩
    · exact ⟨⟨_, hcertificate⟩, rfl, fun _ _ _ _ => Or.inr ⟨plan, hplan, hcompletion⟩,
        fun _ _ _ _ _ hopen => absurd hcompletion (hopen plan hplan), Or.inl rfl⟩
  · rename_i next hprepare
    obtain ⟨certificate, rfl⟩ := prepareAutomaticPlanApproval_ok hprepare
    split at hpersist
    · cases hpersist
    · rename_i advanced hadvance
      have hframe := planAdvance_of_ok hadvance
      have hobligations : obligationsOf advanced.state = obligationsOf reviewed := by
        rw [obligationsOf, hframe.reviewAssurance, obligationsOf]
      have hstays : reviewed.phase = .plan → reviewed.error = none →
          reviewed.ticket.isSome = true → reviewed.plan.isSome = true →
          selfReviewMet reviewed = false →
          (∀ plan, reviewed.plan = some plan → plan.reviewCompletion ≠ .reviewerAccepted) →
          advanced.state.phase = .plan := fun hphase herror hticket hplan hmet _ =>
        phase_of_advancePlanState hadvance (Or.inr hphase) herror hticket
          (Option.isSome_map.trans hplan) hmet
      dsimp only at hpersist
      split_ifs at hpersist with hover
      · obtain rfl := Except.ok.inj hpersist
        exact ⟨⟨certificate, hframe.plan⟩, hframe.selfReview,
          fun record hmem hfrom hto => Or.inl (hframe.gate record hmem hfrom hto),
          hstays, Or.inl hobligations⟩
      · rw [persistNonConvergedPlanReview] at hpersist
        cases hmint : mintPlanRevisionAttempt services scope advanced.state revision
            (selfReview.iteration + 1) with
        | error code =>
            rw [hmint] at hpersist
            cases hpersist
        | ok assurance =>
            rw [hmint] at hpersist
            obtain rfl := Except.ok.inj hpersist
            obtain ⟨obligation, hminted, happended⟩ := minted_of_map hmint
            refine ⟨⟨certificate, hframe.plan⟩, hframe.selfReview,
              fun record hmem hfrom hto => Or.inl (hframe.gate record hmem hfrom hto), hstays,
              Or.inr ⟨Bool.eq_false_of_not_eq_true hover, obligation, hminted, ?_⟩⟩
            rw [← hobligations]
            exact happended

/-! ### The invariant of a run -/

/-- An obligation a verdict has closed. -/
structure VerdictGiven (obligation : ReviewObligation) : Prop where
  closed : isOpenReviewObligation obligation = false
  consumed : obligation.consumedAt.isSome = true

instance (obligation : ReviewObligation) : Decidable (VerdictGiven obligation) :=
  decidable_of_iff (isOpenReviewObligation obligation = false ∧
    obligation.consumedAt.isSome = true) ⟨fun h => ⟨h.1, h.2⟩, fun h => ⟨h.closed, h.consumed⟩⟩

/-- An obligation whose verdict is still to come, in a session that ended or that reviews
the plan the obligation asks about. -/
structure UnderReview (s : SessionState) (obligation : ReviewObligation) : Prop where
  unconsumed : obligation.consumedAt = none
  current : isTerminal s.phase = true ∨ (s.phase = .plan ∧ s.selfReview.isSome = true ∧
    ∃ plan, s.plan = some plan ∧ plan.current.digest = obligation.subjectDigest)

/-- At most the last plan obligation is open; it has its verdict, or its plan is current. -/
structure PlanReviewInvariant (s : SessionState) : Prop where
  onlyLast : OnlyLastOpen .plan (obligationsOf s)
  last : ∀ last, lastObligation .plan (obligationsOf s) = some last →
    VerdictGiven last ∨ UnderReview s last

/-- No plan review is open. -/
def NoOpenPlanReview (s : SessionState) : Prop :=
  ∀ obligation ∈ obligationsOfType .plan (obligationsOf s),
    isOpenReviewObligation obligation = false

theorem PlanReviewInvariant.of_none {s : SessionState}
    (hnone : obligationsOfType .plan (obligationsOf s) = []) : PlanReviewInvariant s := by
  constructor
  · rw [OnlyLastOpen, hnone]
    exact fun _ hmem => absurd hmem List.not_mem_nil
  · intro last hlast
    rw [lastObligation_eq_getLast?, hnone] at hlast
    cases hlast

/-- A state whose last plan obligation has its verdict. -/
theorem PlanReviewInvariant.of_given {s : SessionState} {earlier : List ReviewObligation}
    {last : ReviewObligation} (hclosed : ∀ obligation ∈ earlier,
      isOpenReviewObligation obligation = false) (hgiven : VerdictGiven last)
    (heq : obligationsOfType .plan (obligationsOf s) = earlier ++ [last]) :
    PlanReviewInvariant s := by
  constructor
  · rw [OnlyLastOpen, heq, List.dropLast_concat]
    exact hclosed
  · intro found hfound
    rw [lastObligation_eq_getLast?, heq, List.getLast?_concat] at hfound
    obtain rfl := Option.some_inj.1 hfound
    exact Or.inl hgiven

/-- A review that is opened for the current plan keeps the invariant. -/
theorem PlanReviewInvariant.of_minted {s : SessionState} {plan : PlanRecord}
    {obligations : List ReviewObligation} {obligation : ReviewObligation}
    (hclosed : ∀ other ∈ obligationsOfType .plan obligations,
      isOpenReviewObligation other = false)
    (hminted : Minted plan.current obligation)
    (happended : obligationsOf s = obligations ++ [obligation]) (hphase : s.phase = .plan)
    (hself : s.selfReview.isSome = true) (hplan : s.plan = some plan) :
    PlanReviewInvariant s := by
  have htype := obligationsOfType_append obligations obligation hminted.type
  constructor
  · rw [OnlyLastOpen, happended, htype, List.dropLast_concat]
    exact hclosed
  · intro found hfound
    rw [lastObligation_eq_getLast?, happended, htype, List.getLast?_concat] at hfound
    obtain rfl := Option.some_inj.1 hfound
    exact Or.inr ⟨hminted.consumedAt,
      Or.inr ⟨hphase, hself, plan, hplan, hminted.subjectDigest.symm⟩⟩

/-- While a plan call is possible, an obligation without its verdict asks about the current
plan of a review in `PLAN`. -/
theorem UnderReview.of_phase {s : SessionState} {obligation : ReviewObligation}
    (hreview : UnderReview s obligation) (hphase : s.phase = .ticket ∨ s.phase = .plan) :
    s.phase = .plan ∧ s.selfReview.isSome = true ∧
      ∃ plan, s.plan = some plan ∧ plan.current.digest = obligation.subjectDigest := by
  rcases hreview.current with hterminal | hcurrent
  · rcases hphase with hphase | hphase <;> rw [hphase] at hterminal <;> cases hterminal
  · exact hcurrent

/-- A submission passes only when no plan review is open. -/
theorem noOpen_of_submitted {s : SessionState} (hinv : PlanReviewInvariant s)
    (hphase : s.phase = .ticket ∨ s.phase = .plan)
    (hgate : s.phase = .plan → s.selfReview.isSome = true →
      blockedPlanReviewInProgress s = none) : NoOpenPlanReview s := by
  have honly := hinv.onlyLast
  rcases List.eq_nil_or_concat' (obligationsOfType .plan (obligationsOf s)) with
    heq | ⟨earlier, last, heq⟩
  · intro obligation hmem
    rw [heq] at hmem
    exact absurd hmem List.not_mem_nil
  · rw [OnlyLastOpen, heq, List.dropLast_concat] at honly
    have hlast : lastObligation .plan (obligationsOf s) = some last := by
      rw [lastObligation_eq_getLast?, heq, List.getLast?_concat]
    have hclosed : isOpenReviewObligation last = false := by
      rcases hinv.last last hlast with hgiven | hreview
      · exact hgiven.closed
      · obtain ⟨hplan, hself, -⟩ := hreview.of_phase hphase
        have hblocked := hgate hplan hself
        rw [blockedPlanReviewInProgress, hlast] at hblocked
        split_ifs at hblocked with hstatus
        rw [Option.map_some, bne_iff_ne, ne_eq, Decidable.not_not, Option.some_inj] at hstatus
        rw [isOpenReviewObligation, hstatus]
        rfl
    intro obligation hmem
    rw [heq] at hmem
    rcases List.mem_append.1 hmem with hearlier | hmem
    · exact honly obligation hearlier
    · rw [List.mem_singleton.1 hmem]
      exact hclosed

/-- A fresh review loop has not converged: its budget is positive. -/
theorem selfReviewMet_submitted {evidence : PlanEvidence} {planVersion : Nat}
    {assurance : ReviewAssuranceState} :
    selfReviewMet (buildPlanSubmissionState services scope evidence planVersion assurance) =
      false := by
  have hbudget : ¬ scope.budget.iterations ≤ 0 := not_le.2 scope.budget.positive
  simp [selfReviewMet, buildPlanSubmissionState, isConverged,
    PlanExecutionScope.maxPlanReviewIterations, hbudget]

/-- A submission opens a review of what it submits and does not leave `PLAN`. -/
theorem submitted_step {s : SessionState} {write : PlanWrite} {admitted : PlanExecutionScope}
    {assurance : ReviewAssuranceState} {evidence : PlanEvidence} {planVersion : Nat}
    (hinv : PlanReviewInvariant s) (hstate : admitted.state = s)
    (hphase : s.phase = .ticket ∨ s.phase = .plan) (hticket : s.ticket.isSome = true)
    (hgate : s.phase = .plan → s.selfReview.isSome = true →
      blockedPlanReviewInProgress s = none)
    (hattempt : createPlanReviewAttempt services admitted evidence planVersion = .ok assurance)
    (hwrite : advancePlanState services admitted
      (buildPlanSubmissionState services admitted evidence planVersion assurance) =
        .ok write) :
    PlanReviewInvariant write.state ∧ ∀ record ∈ write.transitions,
      record.fromPhase = .plan → record.toPhase ≠ .planReview := by
  subst hstate
  have hclosed := noOpen_of_submitted hinv hphase hgate
  have hframe := planAdvance_of_ok hwrite
  have hplanPhase := phase_of_advancePlanState hwrite hphase rfl hticket rfl
    selfReviewMet_submitted
  obtain ⟨obligation, hminted, happended⟩ := minted_of_map hattempt
  refine ⟨?_, fun record hmem hfrom hto => ?_⟩
  · have hobligations : obligationsOf write.state =
        obligationsOf admitted.state ++ [obligation] := by
      rw [obligationsOf, hframe.reviewAssurance]
      exact happended
    have hself : write.state.selfReview.isSome = true := by
      rw [hframe.selfReview]
      rfl
    exact PlanReviewInvariant.of_minted hclosed hminted hobligations hplanPhase hself hframe.plan
  · have hmet := hframe.gate record hmem hfrom hto
    rw [selfReviewMet_submitted] at hmet
    cases hmet

/-! ### A review step -/

/-- The completion a verdict leaves. -/
def reviewedCompletion (scope : PlanExecutionScope) (revision : PlanRevisionResult)
    (iteration : Nat) : ReviewCompletion :=
  if revision.discardedDraft then .reviewExhausted
  else resolvePlanReviewCompletion iteration scope.maxPlanReviewIterations
    revision.revisionDelta revision.verdict

/-- What a persisted review says of the plan and of the review. -/
structure ReviewedPlan (scope : PlanExecutionScope) (revision : PlanRevisionResult)
    (iteration : Nat) (state : SessionState) : Prop where
  plan : ∃ plan, state.plan = some plan ∧ plan.current = revision.currentPlan ∧
    plan.history = revision.history ∧
    plan.reviewCompletion = reviewedCompletion scope revision iteration
  selfReview : state.selfReview.isSome = true
  met : selfReviewMet state = isConverged iteration scope.maxPlanReviewIterations
    revision.revisionDelta revision.verdict

theorem reviewedPlan_build (services : PlanServices) (scope : PlanExecutionScope)
    (plan : PlanRecord) (selfReview : SelfReviewLoop)
    (revision : PlanRevisionResult) (findings : ReviewFindings)
    (assurance : ReviewAssuranceState) :
    ReviewedPlan scope revision (selfReview.iteration + 1)
      (buildReviewedPlanState services scope plan selfReview revision findings assurance) := by
  refine ⟨⟨_, rfl, ?_⟩, rfl, rfl⟩
  cases hdiscarded : revision.discardedDraft with
  | true => simp [reviewedCompletion, hdiscarded]
  | false => simp [reviewedCompletion, hdiscarded]

theorem ReviewedPlan.persisted {revision : PlanRevisionResult} {iteration : Nat}
    {reviewed : SessionState} {write : PlanWrite}
    (hreviewed : ReviewedPlan scope revision iteration reviewed)
    (hpersisted : PersistedReview scope revision iteration reviewed write) :
    ReviewedPlan scope revision iteration write.state := by
  obtain ⟨⟨plan, hplan, hfacts⟩, hself, hmet⟩ := hreviewed
  obtain ⟨certificate, hcertified⟩ := hpersisted.plan
  refine ⟨⟨recertified certificate plan, ?_, hfacts⟩, hpersisted.selfReview ▸ hself, ?_⟩
  · rw [hcertified, hplan, Option.map_some]
  · rw [selfReviewMet_congr hpersisted.selfReview, hmet]

/-- How a verdict and its revision stand to the budget. -/
structure Verdict (plan : PlanRecord) (scope : PlanExecutionScope)
    (revision : PlanRevisionResult) (iteration : Nat) : Prop where
  /-- A review that is over leaves the plan as it was reviewed. -/
  kept : isReviewOver scope revision iteration = true →
    revision.currentPlan = plan.current ∧ revision.history = plan.history
  converged : isConverged iteration scope.maxPlanReviewIterations revision.revisionDelta
    revision.verdict = isReviewOver scope revision iteration
  over_of_accept : revision.verdict = .accept → isReviewOver scope revision iteration = true
  accepted : reviewedCompletion scope revision iteration = .reviewerAccepted ↔
    revision.verdict = .accept
  exhausted : reviewedCompletion scope revision iteration = .reviewExhausted ↔
    revision.verdict = .changesRequested ∧ isReviewOver scope revision iteration = true

theorem planReviewExhaustsBudget_iff {selfReview : SelfReviewLoop}
    (hloop : scope.state.selfReview = some selfReview) :
    planReviewExhaustsBudget scope = true ↔
      scope.args.reviewVerdict = some .changesRequested ∧
        scope.maxPlanReviewIterations ≤ selfReview.iteration + 1 := by
  rw [planReviewExhaustsBudget, reviewExhaustsBudget, hloop, Option.map_some, Option.getD_some,
    Bool.and_eq_true, beq_iff_eq, decide_eq_true_iff]

/-- Discarding the draft, the completion and the convergence of the machine agree on
when a review is over. -/
theorem verdict_of_revised {plan : PlanRecord} {selfReview : SelfReviewLoop}
    {verdict : LoopVerdict} {originating : Option String} {revision : PlanRevisionResult}
    (hloop : scope.state.selfReview = some selfReview)
    (hargs : scope.args.reviewVerdict = some verdict) (hverdict : verdict ≠ .unableToReview)
    (hrevised : Revised services scope plan originating verdict revision) :
    Verdict plan scope revision (selfReview.iteration + 1) := by
  have hbudget := planReviewExhaustsBudget_iff hloop
  rw [hargs] at hbudget
  cases hrevised with
  | kept hkept =>
      obtain rfl : verdict = .accept := by
        cases verdict with
        | accept => rfl
        | changesRequested => exact absurd rfl hkept
        | unableToReview => exact absurd rfl hverdict
      have hover : isReviewOver scope (keptRevision plan .accept) (selfReview.iteration + 1) =
          true := rfl
      constructor
      · exact fun _ => ⟨rfl, rfl⟩
      · rw [hover, isConverged]
        simp [keptRevision]
      · exact fun _ => hover
      · exact ⟨fun _ => rfl, fun _ => rfl⟩
      · constructor
        · intro hcompletion
          cases hcompletion
        · rintro ⟨hother, -⟩
          cases hother
  | discarded hexhausted =>
      have hmax := (hbudget.1 hexhausted).2
      have hover : isReviewOver scope (discardedRevision plan) (selfReview.iteration + 1) =
          true := by
        rw [isReviewOver, decide_eq_true hmax, Bool.or_true]
      constructor
      · exact fun _ => ⟨rfl, rfl⟩
      · rw [hover, isConverged, decide_eq_true hmax]
        rfl
      · exact fun _ => hover
      · constructor <;> intro hother <;> cases hother
      · exact ⟨fun _ => ⟨rfl, hover⟩, fun _ => rfl⟩
  | superseded hwithin =>
      have hmax : ¬ scope.maxPlanReviewIterations ≤ selfReview.iteration + 1 := by
        intro hle
        rw [hbudget.2 ⟨rfl, hle⟩] at hwithin
        cases hwithin
      have hover : ∀ revised, isReviewOver scope (supersedingRevision plan revised)
          (selfReview.iteration + 1) = false := by
        intro revised
        simp [isReviewOver, supersedingRevision, hmax]
      constructor
      · intro hend
        rw [hover] at hend
        cases hend
      · rw [hover, isConverged]
        simp [supersedingRevision, hmax]
      · intro hother
        cases hother
      · simp [reviewedCompletion, resolvePlanReviewCompletion, supersedingRevision, hmax]
      · rw [hover]
        simp [reviewedCompletion, resolvePlanReviewCompletion, supersedingRevision, hmax]

theorem Revised.verdict_eq {plan : PlanRecord} {verdict : LoopVerdict}
    {originating : Option String} {revision : PlanRevisionResult}
    (hrevised : Revised services scope plan originating verdict revision) :
    revision.verdict = verdict := by
  cases hrevised <;> rfl

/-- A verdict consumes the obligation it was given for. -/
theorem obligations_consumePlanObligation (services : PlanServices)
    (scope : PlanExecutionScope) {s : SessionState} {earlier : List ReviewObligation}
    {obligation : ReviewObligation} (invocationId : String)
    (heq : obligationsOfType .plan (obligationsOf s) = earlier ++ [obligation]) :
    (consumePlanObligation services scope (ensureReviewAssurance s.reviewAssurance)
        obligation.iteration obligation.planVersion invocationId).obligations =
      (obligationsOf s).map
        (consumedObligation obligation.obligationId (scope.readings 2)) := by
  rw [consumePlanObligation, ← obligationsOf, findLatestObligation_of_concat heq]
  rfl

/-- The plan at the gate is the one the last consumed review was about, and its
completion says what the reviewer said. -/
def ReviewedAtGate (services : PlanServices) (s next : SessionState) : Prop :=
  ∃ plan obligation findings, next.plan = some plan ∧
    lastConsumedObligation .plan (obligationsOf next) = some obligation ∧
    plan.current.digest = obligation.subjectDigest ∧
    (∃ pending ∈ obligationsOf s, pending.obligationId = obligation.obligationId ∧
      Captured services s pending findings) ∧
    (plan.reviewCompletion = .reviewerAccepted ↔ findings.overallVerdict = .accept) ∧
    (plan.reviewCompletion = .reviewExhausted ↔ findings.overallVerdict = .changesRequested)

section Persisted

variable {plan : PlanRecord} {revision : PlanRevisionResult} {iteration : Nat}
  {reviewed : SessionState} {write : PlanWrite}

/-- A review that is not accepted is not over by acceptance. -/
theorem not_accepted_of_continues (hfacts : Verdict plan scope revision iteration)
    (hbuilt : ReviewedPlan scope revision iteration reviewed)
    (hcontinues : isReviewOver scope revision iteration = false) (record : PlanRecord)
    (hrecord : reviewed.plan = some record) : record.reviewCompletion ≠ .reviewerAccepted := by
  obtain ⟨built, hplan, -, -, hcompletion⟩ := hbuilt.plan
  obtain rfl := Option.some_inj.1 (hrecord.symm.trans hplan)
  intro haccepted
  rw [hcompletion, hfacts.accepted] at haccepted
  rw [hfacts.over_of_accept haccepted] at hcontinues
  cases hcontinues

/-- The plan passes its gate only when the review is over. -/
theorem over_of_gate (hfacts : Verdict plan scope revision iteration)
    (hbuilt : ReviewedPlan scope revision iteration reviewed)
    (hpersisted : PersistedReview scope revision iteration reviewed write)
    {record : TransitionRecord} (hmem : record ∈ write.transitions)
    (hfrom : record.fromPhase = .plan) (hto : record.toPhase = .planReview) :
    isReviewOver scope revision iteration = true := by
  rcases hpersisted.gate record hmem hfrom hto with hmet | ⟨gated, hgated, haccepted⟩
  · rw [hbuilt.met, hfacts.converged] at hmet
    exact hmet
  · by_contra hcontinues
    exact not_accepted_of_continues hfacts hbuilt (Bool.eq_false_of_not_eq_true hcontinues)
      gated hgated haccepted

theorem invariant_of_persisted {earlier : List ReviewObligation} {last : ReviewObligation}
    (hfacts : Verdict plan scope revision iteration)
    (hbuilt : ReviewedPlan scope revision iteration reviewed)
    (hpersisted : PersistedReview scope revision iteration reviewed write)
    (hclosed : ∀ obligation ∈ earlier, isOpenReviewObligation obligation = false)
    (hgiven : VerdictGiven last)
    (heq : obligationsOfType .plan (obligationsOf reviewed) = earlier ++ [last])
    (hphase : reviewed.phase = .plan) (herror : reviewed.error = none)
    (hticket : reviewed.ticket.isSome = true) : PlanReviewInvariant write.state := by
  rcases hpersisted.obligations with hsettled | ⟨hcontinues, minted, hminted, happended⟩
  · rw [← hsettled] at heq
    exact .of_given hclosed hgiven heq
  · have hall : ∀ obligation ∈ obligationsOfType .plan (obligationsOf reviewed),
        isOpenReviewObligation obligation = false := by
      rw [heq]
      exact List.forall_mem_append.2 ⟨hclosed, List.forall_mem_singleton.2 hgiven.closed⟩
    obtain ⟨next, hnext, hcurrent, -, -⟩ := (hbuilt.persisted hpersisted).plan
    obtain ⟨built, hplan, -, -, -⟩ := hbuilt.plan
    have hmet := hbuilt.met
    rw [hfacts.converged, hcontinues] at hmet
    have hstays := hpersisted.phase hphase herror hticket (hplan ▸ rfl) hmet
      (not_accepted_of_continues hfacts hbuilt hcontinues)
    rw [← hcurrent] at hminted
    exact .of_minted hall hminted happended hstays (hbuilt.persisted hpersisted).selfReview hnext

theorem obligations_of_over (hpersisted : PersistedReview scope revision iteration reviewed write)
    (hover : isReviewOver scope revision iteration = true) :
    obligationsOf write.state = obligationsOf reviewed := by
  rcases hpersisted.obligations with hsettled | ⟨hcontinues, -⟩
  · exact hsettled
  · rw [hover] at hcontinues
    cases hcontinues

end Persisted

theorem reviewed_step {s : SessionState} {write : PlanWrite} {admitted : PlanExecutionScope}
    {plan : PlanRecord} {selfReview : SelfReviewLoop} {obligation : ReviewObligation}
    {findings : ReviewFindings} {invocationId : String} {revision : PlanRevisionResult}
    (hinv : PlanReviewInvariant s) (hstate : admitted.state = s)
    (hphase : s.phase = .ticket ∨ s.phase = .plan)
    (hticket : s.ticket.isSome = true) (hplan : s.plan = some plan)
    (hloop : s.selfReview = some selfReview)
    (hargs : admitted.args.reviewVerdict = some findings.overallVerdict)
    (hverdict : findings.overallVerdict ≠ .unableToReview)
    (hpending : lastOpenObligation .plan (obligationsOf s) = some obligation)
    (hcaptured : Captured services s obligation findings)
    (hrevision : applyPlanRevision services admitted plan findings.overallVerdict
      (some obligation.obligationId) = .ok revision)
    (hwrite : persistPlanReview services admitted revision selfReview
      (buildReviewedPlanState services admitted plan selfReview revision findings
        (consumePlanObligation services admitted (ensureReviewAssurance s.reviewAssurance)
          obligation.iteration obligation.planVersion invocationId)) = .ok write) :
    PlanReviewInvariant write.state ∧
      (∀ record ∈ write.transitions, record.fromPhase = .plan →
        record.toPhase = .planReview → ReviewedAtGate services s write.state) ∧
      (planReviewExhaustsBudget admitted = true → ∃ next, write.state.plan = some next ∧
        next.current = plan.current ∧ next.history = plan.history) := by
  subst hstate
  obtain ⟨earlier, heq⟩ := eq_concat_of_lastOpen hinv.onlyLast hpending
  have hlatest : lastObligation .plan (obligationsOf admitted.state) = some obligation := by
    rw [lastObligation_eq_getLast?, heq, List.getLast?_concat]
  have hreview : UnderReview admitted.state obligation := by
    rcases hinv.last obligation hlatest with hgiven | hreview
    · exact absurd (isOpen_of_lastOpen hpending) (Bool.not_eq_true _ ▸ hgiven.closed)
    · exact hreview
  obtain ⟨hreviewed, -, bound, hbound, hsubject⟩ := hreview.of_phase hphase
  obtain rfl := Option.some_inj.1 (hplan.symm.trans hbound)
  have hrevised := applyPlanRevision_ok services hrevision
  have hsame := hrevised.verdict_eq
  have hfacts := verdict_of_revised hloop hargs hverdict hrevised
  have hconsumed := obligations_consumePlanObligation services admitted invocationId heq
  obtain ⟨closed, hafter, hclosed, hlast⟩ :=
    consume_last (admitted.readings 2) hinv.onlyLast heq
  rw [← hconsumed] at hafter hlast
  generalize consumePlanObligation services admitted
    (ensureReviewAssurance admitted.state.reviewAssurance) obligation.iteration
    obligation.planVersion invocationId = consumed at hwrite hafter hlast
  have hbuilt := reviewedPlan_build services admitted plan selfReview revision findings consumed
  have hpersisted := persistPlanReview_ok hwrite
  obtain ⟨next, hnext, hcurrent, hhistory, hcompletion⟩ := (hbuilt.persisted hpersisted).plan
  refine ⟨invariant_of_persisted hfacts hbuilt hpersisted hclosed ⟨rfl, rfl⟩ hafter hreviewed
    rfl hticket, ?_, ?_⟩
  · intro record hmem hfrom hto
    have hover := over_of_gate hfacts hbuilt hpersisted hmem hfrom hto
    have hsettled := obligations_of_over hpersisted hover
    have hmember : obligation ∈ obligationsOfType .plan (obligationsOf admitted.state) :=
      heq ▸ List.mem_concat_self
    rw [ReviewedAtGate, hsettled]
    refine ⟨next, _, findings, hnext, hlast, ?_,
      ⟨obligation, List.mem_of_mem_filter hmember, rfl, hcaptured⟩, ?_, ?_⟩
    · rw [hcurrent, (hfacts.kept hover).1]
      exact hsubject
    · rw [hcompletion, hfacts.accepted, hsame]
    · rw [hcompletion, hfacts.exhausted, hsame, hover]
      exact and_iff_left rfl
  · intro hexhausts
    have hmax := (planReviewExhaustsBudget_iff hloop).1 hexhausts
    have hover : isReviewOver admitted revision (selfReview.iteration + 1) = true := by
      rw [isReviewOver, decide_eq_true hmax.2, Bool.or_true]
    obtain ⟨hkeptCurrent, hkeptHistory⟩ := hfacts.kept hover
    exact ⟨next, hnext, hcurrent.trans hkeptCurrent, hhistory.trans hkeptHistory⟩

/-! ### Runs -/

/-- How the review ledger may move an obligation between calls: what it froze stays, and
one that was consumed does not open again. -/
structure ObligationEvolves (before after : ReviewObligation) : Prop where
  obligationId : after.obligationId = before.obligationId
  obligationType : after.obligationType = before.obligationType
  iteration : after.iteration = before.iteration
  planVersion : after.planVersion = before.planVersion
  subjectDigest : after.subjectDigest = before.subjectDigest
  consumedAt : after.consumedAt = before.consumedAt
  closed : VerdictGiven before → isOpenReviewObligation after = false

instance (before after : ReviewObligation) : Decidable (ObligationEvolves before after) :=
  decidable_of_iff (after.obligationId = before.obligationId ∧
    after.obligationType = before.obligationType ∧ after.iteration = before.iteration ∧
    after.planVersion = before.planVersion ∧ after.subjectDigest = before.subjectDigest ∧
    after.consumedAt = before.consumedAt ∧
    (VerdictGiven before → isOpenReviewObligation after = false))
    ⟨fun ⟨h₁, h₂, h₃, h₄, h₅, h₆, h₇⟩ => ⟨h₁, h₂, h₃, h₄, h₅, h₆, h₇⟩,
      fun ⟨h₁, h₂, h₃, h₄, h₅, h₆, h₇⟩ => ⟨h₁, h₂, h₃, h₄, h₅, h₆, h₇⟩⟩

/-- Closed obligations stay closed. -/
def StaysClosed (before after : ReviewObligation) : Prop :=
  isOpenReviewObligation before = false → isOpenReviewObligation after = false

instance (before after : ReviewObligation) : Decidable (StaysClosed before after) :=
  inferInstanceAs (Decidable (_ → _))

/-- A step of the review ledger on the plan obligations: only the last one, whose review the
session is in, may be reopened. -/
structure LedgerStep (before after : List ReviewObligation) : Prop where
  evolves : List.Forall₂ ObligationEvolves before after
  earlier : List.Forall₂ StaysClosed before.dropLast after.dropLast

instance (before after : List ReviewObligation) : Decidable (LedgerStep before after) :=
  decidable_of_iff (List.Forall₂ ObligationEvolves before after ∧
    List.Forall₂ StaysClosed before.dropLast after.dropLast)
    ⟨fun ⟨h₁, h₂⟩ => ⟨h₁, h₂⟩, fun ⟨h₁, h₂⟩ => ⟨h₁, h₂⟩⟩

/-- What another command does to the plan reviews: the obligations stay, and while the
verdict of one is still to come the session keeps its review or ends. -/
structure SessionStep (before after : SessionState) : Prop where
  obligations : obligationsOfType .plan (obligationsOf after) =
    obligationsOfType .plan (obligationsOf before)
  review : (∀ last, lastObligation .plan (obligationsOf before) = some last →
      last.consumedAt.isSome = true) ∨ isTerminal after.phase = true ∨
    (after.phase = before.phase ∧ after.selfReview = before.selfReview ∧
      after.plan = before.plan)

/-- A call of the plan tool, a step of the review ledger (captures, re-arms, blocks), or
another command of the session. -/
inductive PlanAction
  | call (scope : PlanExecutionScope)
  | ledger (assurance : ReviewAssuranceState)
  | session (next : SessionState)

def PlanExecutionScope.inState (scope : PlanExecutionScope) (s : SessionState) :
    PlanExecutionScope :=
  { scope with state := s }

/-- One step; a refused call writes nothing. -/
def planStep (services : PlanServices) (s : SessionState) : PlanAction → Option SessionState
  | .call scope =>
      match planCall services (scope.inState s) with
      | .ok write => some write.state
      | .error _ => some s
  | .ledger assurance => some { s with reviewAssurance := some assurance }
  | .session next => some next

def PlanSurroundings (s : SessionState) : PlanAction → Prop
  | .call _ => True
  | .ledger assurance => LedgerStep
      (obligationsOfType .plan (obligationsOf s)) (obligationsOfType .plan assurance.obligations)
  | .session next => SessionStep s next

theorem ObligationEvolves.verdictGiven {before after : ReviewObligation}
    (hevolves : ObligationEvolves before after) (hgiven : VerdictGiven before) :
    VerdictGiven after :=
  ⟨hevolves.closed hgiven, hevolves.consumedAt ▸ hgiven.consumed⟩

theorem PlanReviewInvariant.ledger {s : SessionState} {assurance : ReviewAssuranceState}
    (hinv : PlanReviewInvariant s) (hstep : LedgerStep
      (obligationsOfType .plan (obligationsOf s))
      (obligationsOfType .plan assurance.obligations)) :
    PlanReviewInvariant { s with reviewAssurance := some assurance } := by
  obtain ⟨hevolves, hearlier⟩ := hstep
  refine ⟨forall_mem_of_forall₂ (fun hstays => hstays) hearlier hinv.onlyLast, ?_⟩
  intro last hlast
  have hbefore := hinv.last
  rw [lastObligation_eq_getLast?] at hlast
  change (obligationsOfType .plan assurance.obligations).getLast? = some last at hlast
  rcases List.eq_nil_or_concat' (obligationsOfType .plan (obligationsOf s)) with
    heq | ⟨earlier, previous, heq⟩
  · rw [heq, List.forall₂_nil_left_iff] at hevolves
    rw [hevolves] at hlast
    cases hlast
  · rw [heq] at hevolves
    obtain ⟨init, found, hafter, -, hfound⟩ := exists_of_forall₂_concat hevolves
    rw [hafter, List.getLast?_concat] at hlast
    obtain rfl := Option.some_inj.1 hlast
    rw [lastObligation_eq_getLast?, heq, List.getLast?_concat] at hbefore
    rcases hbefore previous rfl with hgiven | hreview
    · exact Or.inl (hfound.verdictGiven hgiven)
    · refine Or.inr ⟨hfound.consumedAt.trans hreview.unconsumed, ?_⟩
      rw [hfound.subjectDigest]
      exact hreview.current

theorem PlanReviewInvariant.session {s next : SessionState} (hinv : PlanReviewInvariant s)
    (hstep : SessionStep s next) : PlanReviewInvariant next := by
  obtain ⟨hsame, hkept⟩ := hstep
  refine ⟨by rw [OnlyLastOpen, hsame]; exact hinv.onlyLast, fun last hlast => ?_⟩
  rw [lastObligation_eq_getLast?, hsame, ← lastObligation_eq_getLast?] at hlast
  rcases hinv.last last hlast with hgiven | hreview
  · exact Or.inl hgiven
  · refine Or.inr ⟨hreview.unconsumed, ?_⟩
    rcases hkept with hsettled | hterminal | ⟨hphase, hself, hplan⟩
    · have hconsumed := hsettled last hlast
      rw [hreview.unconsumed] at hconsumed
      cases hconsumed
    · exact Or.inl hterminal
    · rw [hphase, hself, hplan]
      exact hreview.current

/-- A call keeps the invariant, and its plan passes the gate only as reviewed. -/
theorem planCall_step {s : SessionState} (hinv : PlanReviewInvariant s) {write : PlanWrite}
    (hcall : planCall services (scope.inState s) = .ok write) :
    PlanReviewInvariant write.state ∧
      (∀ record ∈ write.transitions, record.fromPhase = .plan →
        record.toPhase = .planReview → ReviewedAtGate services s write.state) ∧
      ∀ plan, s.plan = some plan → planReviewExhaustsBudget (scope.inState s) = true →
        ∃ next, write.state.plan = some next ∧ next.current = plan.current ∧
          next.history = plan.history := by
  cases planCall_ok hcall with
  | submitted admitted assurance hnone hstate hphase hticket hgate hattempt hwrite =>
      obtain ⟨hkept, hstays⟩ :=
        submitted_step hinv hstate hphase hticket hgate hattempt hwrite
      refine ⟨hkept, fun record hmem hfrom hto => absurd hto (hstays record hmem hfrom), ?_⟩
      intro plan hplan hexhausts
      rw [normalizeInitialPlanSubmissionArgs_of_plan (hplan ▸ rfl)] at hnone
      rw [planReviewExhaustsBudget, reviewExhaustsBudget, hnone] at hexhausts
      cases hexhausts
  | reviewed admitted plan selfReview obligation findings invocationId revision hstate hbudget
      hphase hticket hplan hloop hgiven hargs hverdict hpending hcaptured hrevision hwrite =>
      obtain ⟨hkept, hgate, hexhausted⟩ := reviewed_step hinv hstate hphase hticket hplan hloop hargs
        hverdict hpending hcaptured hrevision hwrite
      refine ⟨hkept, hgate, fun current hcurrent hexhausts => ?_⟩
      obtain rfl := Option.some_inj.1 (hplan.symm.trans hcurrent)
      apply hexhausted
      rw [normalizeInitialPlanSubmissionArgs_of_plan (hplan ▸ rfl)] at hgiven
      rw [← hexhausts, planReviewExhaustsBudget, planReviewExhaustsBudget, hargs, hstate,
        PlanExecutionScope.maxPlanReviewIterations, hbudget, ← hgiven]
      rfl

theorem planStep_keeps {s t : SessionState} {action : PlanAction}
    (hinv : PlanReviewInvariant s) (hallowed : PlanSurroundings s action)
    (hstep : planStep services s action = some t) : PlanReviewInvariant t := by
  cases action with
  | call scope =>
      rw [planStep] at hstep
      split at hstep
      · rename_i write hcall
        obtain rfl := Option.some_inj.1 hstep
        exact (planCall_step hinv hcall).1
      · obtain rfl := Option.some_inj.1 hstep
        exact hinv
  | ledger assurance =>
      obtain rfl := Option.some_inj.1 hstep
      exact hinv.ledger hallowed
  | session next =>
      obtain rfl := Option.some_inj.1 hstep
      exact hinv.session hallowed

/-- In every run, a plan that leaves `PLAN` for its gate is the one the last consumed
review was about, completed as that review said, and a revision that comes with the
exhausting verdict is neither the current plan nor in the history. -/
theorem plan_gate_shows_reviewed (services : PlanServices) {start s : SessionState}
    (hstart : obligationsOfType .plan (obligationsOf start) = [])
    (hreaches : Reaches (planStep services) PlanSurroundings start s)
    (scope : PlanExecutionScope) {write : PlanWrite}
    (hcall : planCall services (scope.inState s) = .ok write) :
    (∀ record ∈ write.transitions, record.fromPhase = .plan →
        record.toPhase = .planReview → ReviewedAtGate services s write.state) ∧
      ∀ plan, s.plan = some plan → planReviewExhaustsBudget (scope.inState s) = true →
        ∃ next, write.state.plan = some next ∧ next.current = plan.current ∧
          next.history = plan.history := by
  have hkeeps : ∀ {s t : SessionState} {action : PlanAction}, PlanReviewInvariant s →
      PlanSurroundings s action → planStep services s action = some t →
        PlanReviewInvariant t := fun hinv hallowed hstep => planStep_keeps hinv hallowed hstep
  have hinv := hreaches.invariant hkeeps (.of_none hstart)
  exact (planCall_step hinv hcall).2

end Services

/-! ### An exhausting run -/

/-- Services that answer as the real ones do for a plan without claims. -/
def sampleServices : PlanServices :=
  { env := { Environment.plain with
      hashing := { Hashing.transparent with claimDeclarations := fun _ => "[]" } }
    projectMarkdownHeadings := fun _ => []
    mintProofGraphClaimId := fun statement _ => statement
    classifyProofClaimContract := fun _ _ => ⟨none, [], []⟩
    appendReviewFindings := fun findings _ => findings
    appendClaimSubmission := fun history _ _ => history
    freezeReviewContext := fun _ _ _ => .ok ""
    appendInitialAttempt := fun other _ => other
    evaluateStructuredInvocation := fun _ _ invocation =>
      if invocation.capturedVerdict == some "changes_requested" then
        .resolved ⟨.changesRequested, ""⟩
      else .skip
    hasCapturedFindings := (·.capturedVerdict.isSome)
    markConsumed := fun _ other => other }

def sampleSession : SessionState :=
  { sessionAt .ticket true with
    ticket := some ⟨"Add a cache", "t1", "2024-05-01T08:30:00.000Z", .absent, ""⟩ }

/-- A call under a budget of one iteration. -/
def sampleCall (planText : String) (verdict : Option LoopVerdict) : PlanExecutionScope :=
  { state := sampleSession
    args := ⟨some planText, some [], verdict, false⟩
    policy := ⟨true, true, .bestEffort⟩
    budget := ⟨1, Nat.one_pos⟩
    now := fun _ => "2024-05-01T09:00:00.000Z"
    readings := fun _ => "2024-05-01T09:00:00.000Z"
    claimSubmissionDiagnostics := none
    revisionId := "9b2e6c1a-1111-4d2e-8f0a-6c8f5d2f8a11"
    obligationId := "9b2e6c1a-2222-4d2e-8f0a-6c8f5d2f8a11" }

def submittedSession : SessionState :=
  (planStep sampleServices sampleSession (.call (sampleCall "Plan A" none))).getD sampleSession

def fulfilledBy (invocationId : String) (obligation : ReviewObligation) : ReviewObligation :=
  { obligation with status := .fulfilled, invocationId := some invocationId }

/-- The ledger with the captured verdict of the reviewer. -/
def capturedAssurance : ReviewAssuranceState :=
  { obligations := (obligationsOf submittedSession).map (fulfilledBy "i1")
    invocations :=
      [{ invocationId := "i1"
         obligationId := "9b2e6c1a-2222-4d2e-8f0a-6c8f5d2f8a11"
         obligationType := .plan
         transportVersion := some 6
         invocationMode := some "native_subagent_message_json"
         nativeProvenance := some ""
         findingsHash := "f1"
         capturedVerdict := some "changes_requested"
         other := "" }]
    other := "" }

def capturedSession : SessionState :=
  { submittedSession with reviewAssurance := some capturedAssurance }

def exhaustingCall : PlanExecutionScope := sampleCall "Plan B" (some .changesRequested)

theorem evolves_fulfilledBy {invocationId : String} {obligation : ReviewObligation}
    (hopen : isOpenReviewObligation obligation = true) :
    ObligationEvolves obligation (fulfilledBy invocationId obligation) := by
  refine ⟨rfl, rfl, rfl, rfl, rfl, rfl, fun hgiven => ?_⟩
  rw [hgiven.closed] at hopen
  cases hopen

theorem sampleSession_reaches :
    Reaches (planStep sampleServices) PlanSurroundings sampleSession capturedSession := by
  have hsome : (planStep sampleServices sampleSession
      (.call (sampleCall "Plan A" none))).isSome = true := by decide +kernel
  have hstep : planStep sampleServices sampleSession (.call (sampleCall "Plan A" none)) =
      some submittedSession := by
    obtain ⟨next, hnext⟩ := Option.isSome_iff_exists.1 hsome
    rw [submittedSession, hnext, Option.getD_some]
  have hsubmitted : Reaches (planStep sampleServices) PlanSurroundings sampleSession
      submittedSession :=
    @Reaches.tail _ _ _ PlanSurroundings _ _ _ (.call (sampleCall "Plan A" none))
      (.refl sampleSession) trivial hstep
  have hopen : ∀ obligation ∈ obligationsOfType .plan (obligationsOf submittedSession),
      isOpenReviewObligation obligation = true := by decide +kernel
  have hnone : (obligationsOfType .plan (obligationsOf submittedSession)).dropLast = [] := by
    decide +kernel
  have hevolves : LedgerStep (obligationsOfType .plan (obligationsOf submittedSession))
      (obligationsOfType .plan ((obligationsOf submittedSession).map (fulfilledBy "i1"))) := by
    rw [@obligationsOfType_map .plan (fulfilledBy "i1") fun _ => rfl]
    constructor
    · rw [List.forall₂_map_right_iff, List.forall₂_same]
      exact fun obligation hmem => evolves_fulfilledBy (hopen obligation hmem)
    · rw [← List.map_dropLast, hnone]
      exact .nil
  exact @Reaches.tail _ _ _ PlanSurroundings _ _ _ (.ledger capturedAssurance) hsubmitted
    hevolves rfl

/-- The draft of the exhausting verdict is dropped, and the reviewed plan is at its gate. -/
theorem plan_gate_shows_reviewed_exhausted :
    ∃ write, planCall sampleServices (exhaustingCall.inState capturedSession) = .ok write ∧
      write.state.phase = .planReview ∧
      ReviewedAtGate sampleServices capturedSession write.state ∧
      write.state.plan.map (·.current) = capturedSession.plan.map (·.current) := by
  have hanswer : (planCall sampleServices
      (exhaustingCall.inState capturedSession)).toOption.map
        (fun write => (write.state.phase, write.transitions.map
          fun record => (record.fromPhase, record.toPhase))) =
      some (.planReview, [(.plan, .planReview)]) := by decide +kernel
  have hexhausts : planReviewExhaustsBudget (exhaustingCall.inState capturedSession) = true := by
    decide +kernel
  have hplan : capturedSession.plan.isSome = true := by decide +kernel
  obtain ⟨plan, hplan⟩ := Option.isSome_iff_exists.1 hplan
  cases hcall : planCall sampleServices (exhaustingCall.inState capturedSession) with
  | error code =>
      rw [hcall] at hanswer
      cases hanswer
  | ok write =>
      rw [hcall] at hanswer
      obtain ⟨hphase, hrecords⟩ := Prod.mk.inj (Option.some_inj.1 hanswer)
      have hstart : obligationsOfType .plan (obligationsOf sampleSession) = [] := rfl
      obtain ⟨hgate, hkept⟩ := plan_gate_shows_reviewed sampleServices hstart
        sampleSession_reaches exhaustingCall hcall
      obtain ⟨next, hnext, hcurrent, -⟩ := hkept plan hplan hexhausts
      have hmem : (Phase.plan, Phase.planReview) ∈ write.transitions.map
          fun record => (record.fromPhase, record.toPhase) :=
        hrecords ▸ List.mem_singleton_self _
      obtain ⟨record, hrecord, heq⟩ := List.mem_map.1 hmem
      obtain ⟨hfrom, hto⟩ := Prod.mk.inj heq
      refine ⟨write, rfl, hphase, hgate record hrecord hfrom hto, ?_⟩
      rw [hnext, hplan, Option.map_some, Option.map_some, hcurrent]

end GovernedRuntime.Tools
