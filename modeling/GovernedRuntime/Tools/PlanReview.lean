/-
Reviewer verdicts on a plan: which findings count, what a verdict does to the plan
record, and the reviewed state (`src/integration/tools/plan/plan-review-state.ts`).
-/
import GovernedRuntime.Tools.PlanSubmission

namespace GovernedRuntime.Tools

open GovernedRuntime.State
open GovernedRuntime.Machine
open GovernedRuntime.Rails

/-! ### Budget -/

/-- A `changes_requested` verdict that consumes the last iteration. -/
def reviewExhaustsBudget (verdict : Option LoopVerdict) (iteration maxIterations : Nat) : Bool :=
  verdict == some .changesRequested && maxIterations ≤ iteration + 1

def resolvePlanReviewCompletion (iteration maxIterations : Nat)
    (revisionDelta : RevisionDelta) (verdict : LoopVerdict) : ReviewCompletion :=
  if verdict == .unableToReview then .pending
  else if revisionDelta == .none && verdict == .accept then .reviewerAccepted
  else if maxIterations ≤ iteration then .reviewExhausted
  else .pending

def planReviewExhaustsBudget (scope : PlanExecutionScope) : Bool :=
  reviewExhaustsBudget scope.args.reviewVerdict
    ((scope.state.selfReview.map (·.iteration)).getD 0) scope.maxPlanReviewIterations

/-! ### Revision -/

structure PlanRevisionResult where
  currentPlan : PlanEvidence
  history : List PlanEvidence
  revisionDelta : RevisionDelta
  prevDigest : String
  verdict : LoopVerdict
  /-- The submitted revision was not adopted. -/
  discardedDraft : Bool

section Services

variable (services : PlanServices)

/-- The plan stays as it is. -/
def keptRevision (plan : PlanRecord) (verdict : LoopVerdict) : PlanRevisionResult :=
  { currentPlan := plan.current
    history := plan.history
    revisionDelta := .none
    prevDigest := plan.current.digest
    verdict := verdict
    discardedDraft := false }

/-- The draft was never reviewed: it does not replace the reviewed plan. -/
def discardedRevision (plan : PlanRecord) : PlanRevisionResult :=
  { keptRevision plan .changesRequested with discardedDraft := true }

def revisedPlanBody (scope : PlanExecutionScope) : String :=
  normalizeReviewArtifactText (scope.args.planText.getD "")

def revisedPlanEvidence (scope : PlanExecutionScope) (plan : PlanRecord)
    (originatingReviewObligationId : Option String) : PlanEvidence :=
  buildPlanEvidence services (revisedPlanBody scope) scope
    { planVersion := plan.current.planVersion + 1
      supersedesRecordDigest := some plan.current.recordDigest
      originatingReviewObligationId := originatingReviewObligationId
      revisionReason := some "Review requested changes" }

/-- The revision supersedes the plan. -/
def supersedingRevision (plan : PlanRecord) (revised : PlanEvidence) : PlanRevisionResult :=
  { currentPlan := revised
    history := plan.current :: plan.history
    revisionDelta := if revised.digest == plan.current.digest then .none else .minor
    prevDigest := plan.current.digest
    verdict := .changesRequested
    discardedDraft := false }

/-- What a verdict does to a plan. -/
def applyPlanRevision (scope : PlanExecutionScope) (plan : PlanRecord) (verdict : LoopVerdict)
    (originatingReviewObligationId : Option String) : Except String PlanRevisionResult :=
  if verdict != .changesRequested then .ok (keptRevision plan verdict)
  else if revisedPlanBody scope == "" then .error "REVISED_PLAN_REQUIRED"
  else if scope.args.claims.isNone then .error "REVISED_PLAN_CLAIMS_REQUIRED"
  else if planReviewExhaustsBudget scope then .ok (discardedRevision plan)
  else .ok (supersedingRevision plan
    (revisedPlanEvidence services scope plan originatingReviewObligationId))

/-- A verdict keeps the plan, or puts one successor in its place. -/
inductive Revised (scope : PlanExecutionScope) (plan : PlanRecord)
    (originatingReviewObligationId : Option String) : LoopVerdict → PlanRevisionResult → Prop
  | kept {verdict : LoopVerdict} (hverdict : verdict ≠ .changesRequested) :
      Revised scope plan originatingReviewObligationId verdict (keptRevision plan verdict)
  | discarded (hbudget : planReviewExhaustsBudget scope = true) :
      Revised scope plan originatingReviewObligationId .changesRequested
        (discardedRevision plan)
  | superseded (hbudget : planReviewExhaustsBudget scope = false) :
      Revised scope plan originatingReviewObligationId .changesRequested
        (supersedingRevision plan
          (revisedPlanEvidence services scope plan originatingReviewObligationId))

theorem applyPlanRevision_ok {scope : PlanExecutionScope} {plan : PlanRecord}
    {verdict : LoopVerdict} {originating : Option String} {revision : PlanRevisionResult}
    (hrevision : applyPlanRevision services scope plan verdict originating = .ok revision) :
    Revised services scope plan originating verdict revision := by
  rw [applyPlanRevision] at hrevision
  split_ifs at hrevision with hverdict hbody hclaims hbudget
  · obtain rfl := Except.ok.inj hrevision
    exact .kept (bne_iff_ne.1 hverdict)
  · rw [bne_iff_ne, ne_eq, Decidable.not_not] at hverdict
    subst hverdict
    obtain rfl := Except.ok.inj hrevision
    exact .discarded hbudget
  · rw [bne_iff_ne, ne_eq, Decidable.not_not] at hverdict
    subst hverdict
    obtain rfl := Except.ok.inj hrevision
    exact .superseded (Bool.eq_false_of_not_eq_true hbudget)

/-! ### The reviewed state -/

def buildReviewedPlanState (scope : PlanExecutionScope) (plan : PlanRecord)
    (selfReview : SelfReviewLoop) (revision : PlanRevisionResult)
    (effectiveFindings : ReviewFindings) (consumedAssurance : ReviewAssuranceState) :
    SessionState :=
  let newReviewFindings := services.appendReviewFindings plan.reviewFindings effectiveFindings
  let nextIteration := selfReview.iteration + 1
  { scope.state with
    plan := some
      (if revision.discardedDraft then
        { current := revision.currentPlan
          history := revision.history
          reviewFindings := newReviewFindings
          claimDeclarations := plan.claimDeclarations
          claimSubmissionDiagnostics := plan.claimSubmissionDiagnostics
          claimSubmissionHistory := plan.claimSubmissionHistory
          approvalCertificate := none
          reviewCompletion := .reviewExhausted }
      else
        { current := revision.currentPlan
          history := revision.history
          reviewFindings := newReviewFindings
          claimDeclarations := submittedPlanClaimDeclarations services scope
          claimSubmissionDiagnostics := currentClaimSubmissionDiagnostics scope
          claimSubmissionHistory := some
            (appendClaimSubmissionHistory services scope revision.currentPlan.planVersion)
          approvalCertificate := none
          reviewCompletion := resolvePlanReviewCompletion nextIteration
            scope.maxPlanReviewIterations revision.revisionDelta revision.verdict })
    selfReview := some
      { iteration := nextIteration
        reviewCycle := scope.state.reviewCycles.plan
        maxIterations := scope.maxPlanReviewIterations
        prevDigest := some revision.prevDigest
        currDigest := revision.currentPlan.digest
        revisionDelta := revision.revisionDelta
        verdict := revision.verdict }
    reviewAssurance := some consumedAssurance
    error := none }

end Services

end GovernedRuntime.Tools
