/-
No route enters `EXPORT_READY` without an admitted approval: neither the explicit
decision nor the automatic approval inside an advance.
-/
import GovernedRuntime.Rails.ReviewDecision

namespace GovernedRuntime.Rails

open GovernedRuntime.Library
open GovernedRuntime.State
open GovernedRuntime.Machine
open GovernedRuntime.ProofGraph

section Environment

variable (env : Environment)

/-! ### Admitted approvals -/

/-- An admission bound to an approved state, its transition and its evidence, and
to the evidence of its predecessor. -/
structure AdmissionRecord.BoundTo (hashing : Hashing) (record : AdmissionRecord)
    (before after : SessionState) : Prop where
  session : record.flowguardSessionId = after.flowguardSessionId
  binding : record.bindingDigest = evidenceApprovalBindingDigest hashing after
  basis : record.basisDigest = evidenceApprovalBasisDigest hashing after
  source : record.sourceBasisDigest = evidenceApprovalSourceBasisDigest hashing before
  transition : record.transitionDigest = appliedTransitionDigest hashing after

/-- The approval changes nothing the evidence basis consists of. -/
theorem issueEvidenceApprovalAdmission_boundTo (hashing : Hashing)
    (before : SessionState) (atTime : Timestamp) :
    (issueEvidenceApprovalAdmission hashing (applyTransitionUnchecked before
      .evidenceReview .exportReady .approve atTime)).BoundTo hashing before
        (applyTransitionUnchecked before .evidenceReview .exportReady .approve atTime) :=
  ⟨rfl, rfl, rfl, rfl, rfl⟩

/-- The protected edge, taken from a cleared state and admitted. -/
structure AdmittedExport (before after : SessionState)
    (admission : Option AdmissionRecord) : Prop where
  cleared : ApprovalCleared env before
  applied : ∃ atTime, after =
    applyTransitionUnchecked before .evidenceReview .exportReady .approve atTime
  admitted : ∃ record, admission = some record ∧
    record.BoundTo env.hashing before after

theorem admittedExport_of_cleared {before : SessionState}
    (hcleared : ApprovalCleared env before) (atTime : Timestamp) :
    AdmittedExport env before
      (applyTransitionUnchecked before .evidenceReview .exportReady .approve atTime)
      (some (issueEvidenceApprovalAdmission env.hashing (applyTransitionUnchecked before
        .evidenceReview .exportReady .approve atTime))) :=
  ⟨hcleared, ⟨atTime, rfl⟩, _, rfl,
    issueEvidenceApprovalAdmission_boundTo env.hashing before atTime⟩

/-! ### The automatic route -/

/-- A turn into `EXPORT_READY` is an admitted export. -/
theorem Advanced.admittedExport {evalFn : SessionState → EvalResult}
    {now : Nat → Timestamp} {loop next : AdvanceLoop}
    (hadvanced : Advanced env evalFn now loop next)
    (hexport : next.current.phase = .exportReady) :
    AdmittedExport env loop.current next.current next.approvalAdmission := by
  cases hadvanced with
  | generic event target hresult hleaves hopen hnext =>
      subst hnext
      exact absurd hexport hopen
  | approved event approved hresult hcleared happroved hnext =>
      subst hnext
      subst happroved
      exact admittedExport_of_cleared env hcleared _

/-- Turns into `EXPORT_READY` end with an admitted export. -/
theorem admittedExport_of_turns {s : SessionState} {evalFn : SessionState → EvalResult}
    {now : Nat → Timestamp} {n : Nat} {loop : AdvanceLoop}
    (hturns : Turns (advanceStep env evalFn now) n (advanceStart evalFn s) loop)
    (hstart : s.phase ≠ .exportReady) (hexport : loop.current.phase = .exportReady) :
    ∃ before, Turns (advanceStep env evalFn now) (n - 1) (advanceStart evalFn s) before ∧
      AdmittedExport env before.current loop.current loop.approvalAdmission := by
  cases n with
  | zero =>
      cases hturns
      exact absurd hexport hstart
  | succ n =>
      obtain ⟨before, hbefore, hlast⟩ := hturns.last
      exact ⟨before, hbefore,
        ((advanceStep_next_iff env).1 hlast).admittedExport env hexport⟩

/-- A reached gate that asks for the export and is not cleared blocks the whole
advance. -/
theorem autoAdvance_blocks {s : SessionState} {evalFn : SessionState → EvalResult}
    {ctx : RailContext} {n : Nat} {loop : AdvanceLoop} {event : Event}
    (hturns : Turns (advanceStep env evalFn ctx.now) n (advanceStart evalFn s) loop)
    (hbudget : n < maxAutoAdvanceSteps) (hphase : loop.current.phase = .evidenceReview)
    (hresult : loop.result = .transition event .exportReady)
    (hrefused : ¬ ApprovalCleared env loop.current) :
    ∃ block, autoAdvance env s evalFn ctx =
      .ok (.blocked ⟨.evidenceReview, block⟩) := by
  have hblocks : ∃ block, applyEvidenceApprovalTransition env loop.current
      (ctx.now loop.transitions.length) = .ok (.blocked block) :=
    (applyEvidenceApproval_blocked_iff env hphase).2 hrefused
  obtain ⟨block, hblocked⟩ := hblocks
  have hfail : advanceStep env evalFn ctx.now loop =
      .fail (.blocked ⟨.evidenceReview, block⟩) := by
    simp [advanceStep, hresult, hphase, hblocked]
  refine ⟨block, ?_⟩
  rw [autoAdvance, boundedLoop_of_fail hturns hbudget hfail]

/-! ### The explicit route -/

/-- An accepted decision into `EXPORT_READY` is an admitted export. -/
theorem executeReviewDecision_admittedExport {s : SessionState}
    {input : ReviewDecisionInput} {ctx : RailContext} {result : RailOk}
    (hdecided : executeReviewDecision env s input ctx = .ok (.ok result))
    (hexport : result.state.phase = .exportReady) :
    AdmittedExport env (decidedState env s input ctx) result.state
      result.approvalAdmission := by
  obtain ⟨target, hdecision⟩ := executeReviewDecision_ok env hdecided
  have happlied := hdecision.applied
  rw [← decidedState_phase env s input ctx] at happlied
  rcases applyDecisionTransition_applied env happlied with
    ⟨hopen, hstate, _⟩ | ⟨_, hcleared, hstate, hadmission⟩
  · rw [hstate] at hexport
    exact absurd hexport hopen
  · rw [hadmission, hstate]
    exact admittedExport_of_cleared env hcleared _

/-- An approval of a candidate that is not cleared is blocked. -/
theorem executeReviewDecision_blocks {s : SessionState} {input : ReviewDecisionInput}
    {ctx : RailContext} (hphase : s.phase = .evidenceReview)
    (happroval : isApprovalVerdict input.verdict = true)
    (hrefused : ¬ ApprovalCleared env (decidedState env s input ctx)) :
    ∃ block, executeReviewDecision env s input ctx = .ok (.blocked block) := by
  obtain ⟨answer, hanswer⟩ := executeReviewDecision_total env s input ctx
  cases answer with
  | blocked block => exact ⟨block, hanswer⟩
  | ok result =>
      exfalso
      obtain ⟨target, hdecision⟩ := executeReviewDecision_ok env hanswer
      have hedge := hdecision.edge
      have happrove : verdictToEvent input.verdict = .approve := by
        revert happroval
        cases input.verdict <;> simp [isApprovalVerdict, verdictToEvent]
      rw [hphase, happrove] at hedge
      have htarget : target = .exportReady :=
        (Option.some.inj hedge).symm
      have happlied := hdecision.applied
      rw [← decidedState_phase env s input ctx] at happlied
      rcases applyDecisionTransition_applied env happlied with
        ⟨hopen, _⟩ | ⟨_, hcleared, _⟩
      · exact hopen htarget
      · exact hrefused hcleared

/-- Every entry into `EXPORT_READY` is an admitted export of a cleared state, and
an approval that is not cleared is blocked. -/
theorem exports_admitted (s : SessionState) (ctx : RailContext) :
    (∀ evalFn result, autoAdvance env s evalFn ctx = .ok (.advanced result) →
      s.phase ≠ .exportReady → result.state.phase = .exportReady →
        ∃ n before, Turns (advanceStep env evalFn ctx.now) n (advanceStart evalFn s)
            before ∧
          AdmittedExport env before.current result.state result.approvalAdmission) ∧
      (∀ input result, executeReviewDecision env s input ctx = .ok (.ok result) →
        s.phase ≠ .exportReady → result.state.phase = .exportReady →
          AdmittedExport env (decidedState env s input ctx) result.state
            result.approvalAdmission) ∧
      (∀ evalFn n loop event,
        Turns (advanceStep env evalFn ctx.now) n (advanceStart evalFn s) loop →
          n < maxAutoAdvanceSteps → loop.current.phase = .evidenceReview →
          loop.result = .transition event .exportReady →
          ¬ ApprovalCleared env loop.current →
            ∃ block, autoAdvance env s evalFn ctx =
              .ok (.blocked ⟨.evidenceReview, block⟩)) ∧
      ∀ input, s.phase = .evidenceReview → isApprovalVerdict input.verdict = true →
        ¬ ApprovalCleared env (decidedState env s input ctx) →
          ∃ block, executeReviewDecision env s input ctx = .ok (.blocked block) := by
  refine ⟨?_, ?_, ?_, ?_⟩
  · intro evalFn result hadvance hstart hexport
    obtain ⟨n, _, hturns, _⟩ := autoAdvance_advanced env hadvance
    obtain ⟨before, hbefore, hadmitted⟩ :=
      admittedExport_of_turns env hturns hstart hexport
    exact ⟨_, before, hbefore, hadmitted⟩
  · intro input result hdecided _ hexport
    exact executeReviewDecision_admittedExport env hdecided hexport
  · intro evalFn n loop event hturns hbudget hphase hresult hrefused
    exact autoAdvance_blocks env hturns hbudget hphase hresult hrefused
  · intro input hphase happroval hrefused
    exact executeReviewDecision_blocks env hphase happroval hrefused

end Environment

def soloApproval : ReviewDecisionInput :=
  { verdict := .approve
    rationale := ""
    decisionIdentity :=
      { actorId := "dev"
        actorEmail := none
        actorDisplayName := none
        actorSource := .git
        actorAssurance := .bestEffort }
    subjectAttestation := none }

/-- The reviewed solo session before its risk assessment is bound. -/
def unassessedSession : SessionState :=
  { reviewedSession false with implementationRiskAssessment := none }

/-- The reviewed session is exported on both routes, and refused on both without its risk
assessment. -/
theorem exports_admitted_solo :
    (∃ result n before, autoAdvance .plain (reviewedSession false)
        (evaluate .plain · (some soloPolicy.gate)) (stillContext soloPolicy) =
          .ok (.advanced result) ∧
      Turns (advanceStep .plain (evaluate .plain · (some soloPolicy.gate))
        (stillContext soloPolicy).now) n
        (advanceStart (evaluate .plain · (some soloPolicy.gate)) (reviewedSession false))
        before ∧
      AdmittedExport .plain before.current result.state result.approvalAdmission) ∧
    (∃ result, executeReviewDecision .plain (reviewedSession false) soloApproval
        (stillContext soloPolicy) = .ok (.ok result) ∧
      AdmittedExport .plain (decidedState .plain (reviewedSession false) soloApproval
        (stillContext soloPolicy)) result.state result.approvalAdmission) ∧
    (∃ block, autoAdvance .plain unassessedSession
        (evaluate .plain · (some soloPolicy.gate)) (stillContext soloPolicy) =
          .ok (.blocked ⟨.evidenceReview, block⟩)) ∧
    ∃ block, executeReviewDecision .plain unassessedSession soloApproval
      (stillContext soloPolicy) = .ok (.blocked block) := by
  have hreviewed := exports_admitted .plain (reviewedSession false) (stillContext soloPolicy)
  have hunassessed := exports_admitted .plain unassessedSession (stillContext soloPolicy)
  refine ⟨?_, ?_, ?_, ?_⟩
  · have happrove : evaluate .plain (reviewedSession false) (some soloPolicy.gate) =
        .transition .approve .exportReady := rfl
    have hadvance : autoAdvance .plain (reviewedSession false)
        (evaluate .plain · (some soloPolicy.gate)) (stillContext soloPolicy) = _ :=
      autoAdvance_of_cleared .plain reviewedSession_cleared happrove rfl
    obtain ⟨n, before, hturns, hadmitted⟩ := hreviewed.1 _ _ hadvance (by decide) rfl
    exact ⟨_, n, before, hadvance, hturns, hadmitted⟩
  · have hdecided : executeReviewDecision .plain (reviewedSession false) soloApproval
        (stillContext soloPolicy) = .ok (.ok _) := rfl
    exact ⟨_, hdecided, hreviewed.2.1 _ _ hdecided (by decide) rfl⟩
  · exact hunassessed.2.2.1 _ 0 _ .approve (.none _) (by decide) rfl rfl
      fun hcleared => absurd hcleared.preflight (by decide)
  · exact hunassessed.2.2.2 _ rfl rfl fun hcleared => absurd hcleared.preflight (by decide)

end GovernedRuntime.Rails
