/-
The versions of a plan: what each writing call does to the chain of its revisions.
-/
import GovernedRuntime.Tools.PlanGate

namespace GovernedRuntime.Tools

open GovernedRuntime.State

/-- One more version, before which all stays as it was. -/
structure Supersedes (plan next : PlanRecord) : Prop where
  history : next.history = plan.current :: plan.history
  planVersion : next.current.planVersion = plan.current.planVersion + 1

/-- The same versions. -/
structure KeepsVersions (plan next : PlanRecord) : Prop where
  current : next.current = plan.current
  history : next.history = plan.history

theorem KeepsVersions.headsChain {hashText : String → String} {plan next : PlanRecord}
    (hkept : KeepsVersions plan next) (hheads : HeadsChain hashText plan) :
    HeadsChain hashText next := by
  obtain ⟨hcurrent, hhistory⟩ := hkept
  rw [HeadsChain, hcurrent, hhistory]
  exact hheads

section Services

variable {services : PlanServices} {scope : PlanExecutionScope}

/-- A revision that is built on the head of a chain heads the chain with one more version. -/
theorem headsChain_of_built {plan next : PlanRecord} {body : String} {lineage : RevisionLineage}
    (hheads : HeadsChain services.env.hashing.hashText plan)
    (hhistory : next.history = plan.current :: plan.history)
    (hcurrent : next.current = buildPlanEvidence services body scope lineage)
    (hversion : lineage.planVersion = plan.current.planVersion + 1)
    (hsupersedes : lineage.supersedesRecordDigest = some plan.current.recordDigest) :
    HeadsChain services.env.hashing.hashText next ∧ Supersedes plan next := by
  obtain ⟨hdigest, hrecord⟩ := buildPlanEvidence_digests services body scope lineage
  have hnext : next.current.planVersion = plan.current.planVersion + 1 := by
    rw [hcurrent]
    exact hversion
  refine ⟨hheads.extend _ hhistory ?_ ?_ hnext ?_, hhistory, hnext⟩
  · rw [hcurrent]
    exact hdigest
  · rw [hcurrent]
    exact hrecord
  · rw [hcurrent]
    exact hsupersedes

/-- The plan of a submission: a first version, or one more. -/
theorem submission_revises (scope : PlanExecutionScope) (version : Nat)
    (assurance : ReviewAssuranceState) :
    ∃ next, (buildPlanSubmissionState services scope (submittedPlanEvidence services scope)
        version assurance).plan = some next ∧
      (scope.state.plan = none → HeadsChain services.env.hashing.hashText next ∧
        next.history = [] ∧ next.current.planVersion = 1) ∧
      ∀ plan, scope.state.plan = some plan → HeadsChain services.env.hashing.hashText plan →
        HeadsChain services.env.hashing.hashText next ∧ Supersedes plan next := by
  refine ⟨_, rfl, ?_, ?_⟩
  · intro hnone
    obtain ⟨hdigest, hrecord⟩ := buildPlanEvidence_digests services
      (normalizeReviewArtifactText (scope.args.planText.getD "")) scope
      { originatingReviewObligationId := originatingPlanReviewObligationId scope }
    refine ⟨headsChain_of_initial _ ?_ ?_, ?_, ?_⟩
    · rw [hnone]
      rfl
    · rw [submittedPlanEvidence, hnone]
      exact ⟨hdigest, hrecord, rfl, rfl, rfl⟩
    · rw [hnone]
      rfl
    · rw [submittedPlanEvidence, hnone]
      rfl
  · intro plan hplan hheads
    apply headsChain_of_built hheads
    · rw [hplan]
      rfl
    · rfl
    · rw [hplan]
      rfl
    · rw [hplan]
      rfl

/-- A verdict keeps the versions, or adds one when it asks for changes within the budget. -/
theorem review_revises {plan next : PlanRecord} {verdict : LoopVerdict}
    {originating : Option String} {revision : PlanRevisionResult}
    (hheads : HeadsChain services.env.hashing.hashText plan)
    (hrevised : Revised services scope plan originating verdict revision)
    (hcurrent : next.current = revision.currentPlan) (hhistory : next.history = revision.history) :
    HeadsChain services.env.hashing.hashText next ∧
      if verdict = .changesRequested ∧ planReviewExhaustsBudget scope = false then
        Supersedes plan next
      else KeepsVersions plan next := by
  induction hrevised with
  | kept hverdict =>
      rw [if_neg fun hwithin => hverdict hwithin.1]
      have hkept : KeepsVersions plan next := ⟨hcurrent, hhistory⟩
      exact ⟨hkept.headsChain hheads, hkept⟩
  | discarded hbudget =>
      rw [if_neg fun hwithin => Bool.noConfusion (hbudget.symm.trans hwithin.2)]
      have hkept : KeepsVersions plan next := ⟨hcurrent, hhistory⟩
      exact ⟨hkept.headsChain hheads, hkept⟩
  | superseded hbudget =>
      rw [if_pos ⟨rfl, hbudget⟩]
      exact headsChain_of_built hheads hhistory hcurrent rfl rfl

/-- Whether a call on an existing plan submits a version of it. -/
def SubmitsVersion (scope : PlanExecutionScope) : Prop :=
  scope.args.reviewVerdict = none ∨
    (scope.args.reviewVerdict = some .changesRequested ∧
      planReviewExhaustsBudget scope = false)

instance (scope : PlanExecutionScope) : Decidable (SubmitsVersion scope) :=
  inferInstanceAs (Decidable (_ ∨ _))

/-- Plans the refinement of the plan record accepts. -/
def PlanAccepted (services : PlanServices) (plan : PlanRecord) : Prop :=
  planRecordIssue services.env.hashing.hashText planLineageText plan = none

/-- What a written call makes of the plan record. -/
structure RevisesPlan (services : PlanServices) (scope : PlanExecutionScope)
    (next : PlanRecord) : Prop where
  initial : scope.state.plan = none →
    PlanAccepted services next ∧ next.history = [] ∧ next.current.planVersion = 1
  later : ∀ plan, scope.state.plan = some plan → PlanAccepted services plan →
    PlanAccepted services next ∧
      if SubmitsVersion scope then Supersedes plan next else KeepsVersions plan next

theorem planAccepted_iff {plan : PlanRecord} :
    PlanAccepted services plan ↔ HeadsChain services.env.hashing.hashText plan :=
  planRecordIssue_eq_none_iff _ plan

/-- Every call that writes revises the plan record. -/
theorem revisesPlan_of_planCall {write : PlanWrite}
    (hcall : planCall services scope = .ok write) :
    ∃ next, write.state.plan = some next ∧ RevisesPlan services scope next := by
  cases planCall_ok hcall with
  | submitted admitted assurance hnone hstate hphase hticket hgate hattempt hwrite =>
      obtain ⟨next, hnext, hinitial, hlater⟩ := @submission_revises services admitted
        (submittedPlanEvidence services admitted).planVersion assurance
      rw [hstate] at hinitial hlater
      refine ⟨next, (planAdvance_of_ok hwrite).plan.trans hnext, ?_, ?_⟩
      · intro hplan
        rw [planAccepted_iff]
        exact hinitial hplan
      · intro plan hplan haccepted
        rw [normalizeInitialPlanSubmissionArgs_of_plan (hplan ▸ rfl)] at hnone
        have hsubmits : SubmitsVersion scope := Or.inl hnone
        rw [if_pos hsubmits, planAccepted_iff]
        exact hlater plan hplan (planAccepted_iff.1 haccepted)
  | reviewed admitted plan selfReview obligation findings invocationId revision hstate hbudget
      hphase hticket hplan hloop hgiven hargs hverdict hpending hcaptured hrevision hwrite =>
      have hbuilt := reviewedPlan_build services admitted plan selfReview revision findings
        (consumePlanObligation services admitted (ensureReviewAssurance scope.state.reviewAssurance)
          obligation.iteration obligation.planVersion invocationId)
      obtain ⟨next, hnext, hcurrent, hhistory, -⟩ :=
        (hbuilt.persisted (persistPlanReview_ok hwrite)).plan
      refine ⟨next, hnext, ?_, ?_⟩
      · intro hnone
        rw [hplan] at hnone
        cases hnone
      · intro before hbefore haccepted
        obtain rfl := Option.some_inj.1 (hplan.symm.trans hbefore)
        rw [normalizeInitialPlanSubmissionArgs_of_plan (hplan ▸ rfl)] at hgiven
        have hexhausts : planReviewExhaustsBudget admitted = planReviewExhaustsBudget scope := by
          rw [planReviewExhaustsBudget, planReviewExhaustsBudget, hargs, ← hgiven, hstate,
            PlanExecutionScope.maxPlanReviewIterations, hbudget]
          rfl
        have hsubmits : SubmitsVersion scope ↔ findings.overallVerdict = .changesRequested ∧
            planReviewExhaustsBudget admitted = false := by
          rw [SubmitsVersion, hgiven, hexhausts, Option.some_inj]
          exact or_iff_right (Option.some_ne_none _)
        rw [planAccepted_iff, if_congr hsubmits rfl rfl]
        exact review_revises (planAccepted_iff.1 haccepted) (applyPlanRevision_ok services hrevision)
          hcurrent hhistory

/-- The lineage law of plans: accepted records are the versions `1..N` of one chain with
the current revision as version `N`, every call that writes keeps them so and adds at most
one version, and the current record digest commits to every version. -/
theorem plan_lineage (services : PlanServices) :
    (∀ plan, PlanAccepted services plan ↔ HeadsChain services.env.hashing.hashText plan) ∧
      (∀ scope write, planCall services scope = .ok write →
        ∃ next, write.state.plan = some next ∧ RevisesPlan services scope next) ∧
      (Function.Injective services.env.hashing.hashText → ∀ plan plan',
        PlanAccepted services plan → PlanAccepted services plan' →
        plan.current.recordDigest = plan'.current.recordDigest →
        plan.history.length = plan'.history.length ∧
          ∀ revision ∈ plan.history ++ [plan.current],
            ∀ revision' ∈ plan'.history ++ [plan'.current],
              revision.planVersion = revision'.planVersion →
                revision.digest = revision'.digest ∧
                revision.revisionReason = revision'.revisionReason ∧
                revision.originatingReviewObligationId =
                  revision'.originatingReviewObligationId) := by
  refine ⟨fun _ => planAccepted_iff, fun _ _ hcall => revisesPlan_of_planCall hcall, ?_⟩
  intro hinjective plan plan' haccepted haccepted' hsame
  rw [planAccepted_iff] at haccepted haccepted'
  constructor
  · have hversion := haccepted.planVersion_eq hinjective haccepted' hsame
    rw [haccepted.planVersion, haccepted'.planVersion] at hversion
    exact Nat.succ_injective hversion
  · intro revision hmem revision' hmem' hversion
    have hlineage := haccepted.lineage_eq hinjective haccepted' hsame hmem hmem' hversion
    exact ⟨congrArg PlanLineage.contentDigest hlineage,
      congrArg PlanLineage.revisionReason hlineage,
      congrArg PlanLineage.originatingReviewObligationId hlineage⟩

end Services

/-- The call of `exhaustingCall` with one more iteration left. -/
def revisingCall : PlanExecutionScope :=
  { exhaustingCall with budget := ⟨2, Nat.two_pos⟩ }.inState capturedSession

theorem plan_lineage_revised :
    ∃ write plan, planCall sampleServices revisingCall = .ok write ∧
      write.state.plan = some plan ∧ PlanAccepted sampleServices plan ∧
      plan.current.planVersion = 2 ∧
      ∀ revision ∈ plan.history ++ [plan.current], ∀ revision' ∈ plan.history ++ [plan.current],
        revision.planVersion = revision'.planVersion → revision.digest = revision'.digest := by
  obtain ⟨-, hrevises, hcommits⟩ := plan_lineage sampleServices
  have hanswer : (planCall sampleServices revisingCall).isOk = true := by decide +kernel
  have hsome : revisingCall.state.plan.isSome = true := by decide +kernel
  obtain ⟨plan, hplan⟩ := Option.isSome_iff_exists.1 hsome
  have haccepted : PlanAccepted sampleServices plan := by
    have hchecked : revisingCall.state.plan.all (fun plan =>
        (planRecordIssue sampleServices.env.hashing.hashText planLineageText plan).isNone) =
          true := by decide +kernel
    rw [hplan] at hchecked
    exact Option.isNone_iff_eq_none.1 hchecked
  have hsubmits : SubmitsVersion revisingCall := by decide +kernel
  have hfirst : (revisingCall.state.plan.map (·.current.planVersion)) = some 1 := by decide +kernel
  cases hcall : planCall sampleServices revisingCall with
  | error code =>
      rw [hcall] at hanswer
      cases hanswer
  | ok write =>
      obtain ⟨next, hnext, hrevised⟩ := hrevises _ _ hcall
      obtain ⟨hkept, hversion⟩ := hrevised.later plan hplan haccepted
      rw [if_pos hsubmits] at hversion
      rw [hplan, Option.map_some, Option.some_inj] at hfirst
      have hinjective : Function.Injective sampleServices.env.hashing.hashText := fun _ _ heq => heq
      refine ⟨write, next, rfl, hnext, hkept, ?_, ?_⟩
      · rw [hversion.planVersion, hfirst]
      · intro revision hmem revision' hmem' heq
        exact ((hcommits hinjective next next hkept hkept rfl).2 revision hmem revision' hmem'
          heq).1

end GovernedRuntime.Tools
