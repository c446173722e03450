/-
The identity of plan and ADR revisions (`src/shared/review-artifact-text.ts`): over every
run of both artifact tools a revision is its trimmed text, and the routes of a review under
way tell revisions apart by it.
-/
import GovernedRuntime.Tools.ArchitectureGate

namespace GovernedRuntime.Tools

open GovernedRuntime.Library
open GovernedRuntime.State
open GovernedRuntime.Machine
open GovernedRuntime.Rails

/-! ### Revisions -/

inductive ReviewArtifact
  | plan
  | architecture
deriving DecidableEq, Repr

structure ArtifactRevision where
  text : String
  digest : String
deriving DecidableEq, Repr

namespace ReviewArtifact

def obligationType : ReviewArtifact → ReviewObligationType
  | .plan => .plan
  | .architecture => .architecture

/-- The current revision of an artifact. -/
def revision (s : SessionState) : ReviewArtifact → Option ArtifactRevision
  | .plan => s.plan.map fun plan => ⟨plan.current.body, plan.current.digest⟩
  | .architecture =>
      s.architecture.map fun architecture => ⟨architecture.adrText, architecture.digest⟩

/-- The subjects of the obligations for an artifact, in the order of their minting. -/
def subjects (obligations : List ReviewObligation) (artifact : ReviewArtifact) : List String :=
  (obligationsOfType artifact.obligationType obligations).map (·.subjectDigest)

end ReviewArtifact

/-- The current revision is identified by its trimmed text, and the latest obligation for
the artifact asks about it. -/
def Identified (hashText : String → String) (artifact : ReviewArtifact) (s : SessionState) :
    Prop :=
  ∀ revision, artifact.revision s = some revision →
    revision.digest = hashText (normalizeReviewArtifactText revision.text) ∧
      (artifact.subjects (obligationsOf s)).getLast? = some revision.digest

/-- The artifact keeps its revision, or has none any more. -/
structure KeepsRevision (artifact : ReviewArtifact) (s t : SessionState) : Prop where
  revision : artifact.revision t = artifact.revision s ∨ artifact.revision t = none
  subjects : artifact.subjects (obligationsOf t) = artifact.subjects (obligationsOf s)

/-- The artifact has an obligation more, for the revision that is current afterwards. -/
structure MintsRevision (hashText : String → String) (artifact : ReviewArtifact)
    (s t : SessionState) (text : String) : Prop where
  revision : artifact.revision t =
    some ⟨text, hashText (normalizeReviewArtifactText text)⟩
  subjects : artifact.subjects (obligationsOf t) =
    artifact.subjects (obligationsOf s) ++ [hashText (normalizeReviewArtifactText text)]

section Steps

variable {hashText : String → String} {artifact : ReviewArtifact} {s t : SessionState}

theorem KeepsRevision.of_same (hrevision : artifact.revision t = artifact.revision s)
    (hassurance : t.reviewAssurance = s.reviewAssurance) : KeepsRevision artifact s t :=
  ⟨Or.inl hrevision, by rw [obligationsOf, hassurance, ← obligationsOf]⟩

theorem KeepsRevision.refl (artifact : ReviewArtifact) (s : SessionState) :
    KeepsRevision artifact s s := .of_same rfl rfl

theorem KeepsRevision.identified (hkeeps : KeepsRevision artifact s t)
    (hidentified : Identified hashText artifact s) : Identified hashText artifact t := by
  intro revision hrevision
  rw [hkeeps.subjects]
  rcases hkeeps.revision with hsame | hnone
  · exact hidentified revision (hsame.symm.trans hrevision)
  · rw [hnone] at hrevision
    cases hrevision

theorem MintsRevision.identified {text : String}
    (hmints : MintsRevision hashText artifact s t text) : Identified hashText artifact t := by
  intro revision hrevision
  rw [hmints.revision, Option.some_inj] at hrevision
  subst hrevision
  exact ⟨rfl, by rw [hmints.subjects, List.getLast?_concat]⟩

/-- What keeps the type and the subject of every obligation keeps the subjects. -/
theorem subjects_map {f : ReviewObligation → ReviewObligation}
    (htype : ∀ obligation, (f obligation).obligationType = obligation.obligationType)
    (hsubject : ∀ obligation, (f obligation).subjectDigest = obligation.subjectDigest)
    (artifact : ReviewArtifact) (obligations : List ReviewObligation) :
    artifact.subjects (obligations.map f) = artifact.subjects obligations := by
  rw [ReviewArtifact.subjects, obligationsOfType_map htype, List.map_map]
  exact List.map_congr_left fun obligation _ => hsubject obligation

theorem subjects_append {obligation : ReviewObligation}
    (htype : obligation.obligationType = artifact.obligationType)
    (obligations : List ReviewObligation) :
    artifact.subjects (obligations ++ [obligation]) =
      artifact.subjects obligations ++ [obligation.subjectDigest] := by
  rw [ReviewArtifact.subjects, obligationsOfType_append obligations obligation htype,
    List.map_append]
  rfl

theorem subjects_append_other {obligation : ReviewObligation}
    (htype : obligation.obligationType ≠ artifact.obligationType)
    (obligations : List ReviewObligation) :
    artifact.subjects (obligations ++ [obligation]) = artifact.subjects obligations := by
  simp [ReviewArtifact.subjects, obligationsOfType, htype]

theorem subjects_consumed (artifact : ReviewArtifact) (obligationId : String) (now : Timestamp)
    (obligations : List ReviewObligation) :
    artifact.subjects (obligations.map (consumedObligation obligationId now)) =
      artifact.subjects obligations :=
  subjects_map (consumedObligation_type obligationId now)
    (fun obligation => by rw [consumedObligation]; split_ifs <;> rfl) artifact obligations

theorem subjects_consumeReviewObligation (artifact : ReviewArtifact)
    (markConsumed : String → CanonicalText → CanonicalText) (assurance : ReviewAssuranceState)
    (obligation : Option ReviewObligation) (now : Timestamp) (accepted : Option String) :
    artifact.subjects
        (consumeReviewObligation markConsumed assurance obligation now accepted).obligations =
      artifact.subjects assurance.obligations := by
  cases obligation with
  | none => rfl
  | some obligation => exact subjects_consumed artifact obligation.obligationId now _

end Steps

/-! ### A review under way -/

section Routes

variable {services : ArtifactServices} {s : SessionState}

theorem subjects_blocked (artifact : ReviewArtifact) (obligationId code : String)
    (obligations : List ReviewObligation) :
    artifact.subjects (obligations.map (blockedObligation obligationId code)) =
      artifact.subjects obligations :=
  subjects_map (blockedObligation_type obligationId code)
    (fun obligation => by rw [blockedObligation]; split_ifs <;> rfl) artifact obligations

theorem keepsRevision_blocked (artifact : ReviewArtifact) (s : SessionState)
    (obligation : ReviewObligation) (code : String) :
    KeepsRevision artifact s (blockObligation s obligation.obligationId code) := by
  cases artifact <;> exact ⟨Or.inl rfl, subjects_blocked _ _ _ _⟩

theorem keepsRevision_rearmed (artifact : ReviewArtifact) (s : SessionState)
    (other : CanonicalText) :
    KeepsRevision artifact s { s with
      reviewAssurance := some
        { ensureReviewAssurance s.reviewAssurance with other := other } } := by
  cases artifact <;> exact ⟨Or.inl rfl, rfl⟩

theorem rearmInterruptedDispatch_keeps (artifact : ReviewArtifact) (s : SessionState)
    (obligation : ReviewObligation) (now : Timestamp) :
    KeepsRevision artifact s
      ((rearmInterruptedDispatch services s obligation now).stateAfter s) := by
  rw [rearmInterruptedDispatch]
  split
  · exact keepsRevision_rearmed artifact s _
  · exact keepsRevision_blocked artifact s obligation _
  · exact .refl artifact s

/-- A route of a review under way mints nothing and revises nothing. -/
theorem routePendingObligation_keeps (artifact : ReviewArtifact) (s : SessionState)
    (text : Option String) (now : Timestamp) (obligation : ReviewObligation)
    (continuation : PendingContinuation) :
    KeepsRevision artifact s
      ((routePendingObligation services s text now obligation continuation).stateAfter s) := by
  cases continuation with
  | awaitingTask =>
      rw [routePendingObligation]
      split
      · exact .refl artifact s
      · split_ifs <;> exact .refl artifact s
  | interruptedDispatch =>
      rw [routePendingObligation]
      split
      · exact .refl artifact s
      · exact rearmInterruptedDispatch_keeps artifact s obligation now
  | integrityBlocked code => exact .refl artifact s
  | missingAttempt => exact keepsRevision_blocked artifact s obligation _

/-- A re-arm never reports a changed subject. -/
theorem rearmInterruptedDispatch_ne_changed (s : SessionState) (obligation : ReviewObligation)
    (now : Timestamp) : rearmInterruptedDispatch services s obligation now ≠
      .refused "REVIEW_SUBJECT_CHANGED_WHILE_PENDING" := by
  rw [rearmInterruptedDispatch]
  split
  · exact fun hsame => by cases hsame
  · exact fun hsame => by cases hsame
  · rw [ne_eq, ArtifactAnswer.refused.injEq]
    decide

/-- A pending review answers a text as changed exactly when it is trimmed to another one. -/
theorem routePendingObligation_changed
    (hinjective : Function.Injective services.env.hashing.hashText) {current text : String}
    {now : Timestamp} {obligation : ReviewObligation} {continuation : PendingContinuation}
    (hsubject : obligation.subjectDigest =
      services.env.hashing.hashText (normalizeReviewArtifactText current))
    (htext : hasText (some text) = true)
    (hroute : continuation = .awaitingTask ∨ continuation = .interruptedDispatch) :
    routePendingObligation services s (some text) now obligation continuation =
        .refused "REVIEW_SUBJECT_CHANGED_WHILE_PENDING" ↔
      normalizeReviewArtifactText text ≠ normalizeReviewArtifactText current := by
  have hchanged : changedSubject services (some text) obligation =
      if normalizeReviewArtifactText text = normalizeReviewArtifactText current then none
      else some "REVIEW_SUBJECT_CHANGED_WHILE_PENDING" := by
    rw [changedSubject, htext, hsubject, if_neg (by decide)]
    simp only [Option.getD_some, beq_iff_eq, hinjective.eq_iff]
  by_cases hsame : normalizeReviewArtifactText text = normalizeReviewArtifactText current
  · rw [if_pos hsame] at hchanged
    refine iff_of_false ?_ (fun hother => hother hsame)
    rcases hroute with rfl | rfl
    · rw [routePendingObligation, hchanged]
      dsimp only
      split_ifs
      · exact fun hanswer => by cases hanswer
      · rw [ArtifactAnswer.refused.injEq]
        decide
    · rw [routePendingObligation, hchanged]
      exact rearmInterruptedDispatch_ne_changed s obligation now
  · rw [if_neg hsame] at hchanged
    refine iff_of_true ?_ hsame
    rcases hroute with rfl | rfl <;> rw [routePendingObligation, hchanged]

end Routes

/-! ### Plan calls -/

section PlanCalls

variable {services : PlanServices} {scope : PlanExecutionScope} {s : SessionState}

/-- The text of a built revision is trimmed. -/
theorem normalize_buildPlanEvidence (planBody : String) (lineage : RevisionLineage) :
    normalizeReviewArtifactText (buildPlanEvidence services planBody scope lineage).body =
      (buildPlanEvidence services planBody scope lineage).body := by
  simp only [buildPlanEvidence, normalizeReviewArtifactText, Activation.trim_trim]

theorem revision_of_current {plan : PlanRecord} (hplan : s.plan = some plan) :
    ReviewArtifact.plan.revision s = some ⟨plan.current.body, plan.current.digest⟩ := by
  rw [ReviewArtifact.revision, hplan, Option.map_some]

/-- The plan of a state is one that was just built, with an obligation for it. -/
theorem mintsRevision_of_built {t : SessionState} {plan : PlanRecord} {planBody : String}
    {lineage : RevisionLineage} {obligation : ReviewObligation}
    (hplan : t.plan = some plan)
    (hcurrent : plan.current = buildPlanEvidence services planBody scope lineage)
    (hminted : Minted plan.current obligation) (hobligations :
      ReviewArtifact.plan.subjects (obligationsOf t) =
        ReviewArtifact.plan.subjects (obligationsOf s ++ [obligation])) :
    MintsRevision services.env.hashing.hashText .plan s t plan.current.body := by
  have hdigest : plan.current.digest =
      services.env.hashing.hashText (normalizeReviewArtifactText plan.current.body) := by
    rw [hcurrent, normalize_buildPlanEvidence]
    rfl
  constructor
  · rw [revision_of_current hplan, hdigest]
  · rw [hobligations, subjects_append hminted.type, hminted.subjectDigest, hdigest]

theorem architecture_of_advancePlanState {next : SessionState} {write : PlanWrite}
    (hadvance : advancePlanState services scope next = .ok write) :
    write.state.architecture = next.architecture := by
  rw [advancePlanState] at hadvance
  split at hadvance
  · cases hadvance
  · cases hadvance
  · cases hadvance
  · rename_i result hresult
    obtain rfl := Except.ok.inj hadvance
    exact @autoAdvance_keeps services.env _ (·.architecture) (fun _ _ _ _ _ => rfl) _ _ _ _
      hresult

theorem architecture_of_persistPlanReview {revision : PlanRevisionResult}
    {selfReview : SelfReviewLoop} {reviewed : SessionState} {write : PlanWrite}
    (hpersist : persistPlanReview services scope revision selfReview reviewed = .ok write) :
    write.state.architecture = reviewed.architecture := by
  unfold persistPlanReview at hpersist
  split at hpersist
  · obtain rfl := Except.ok.inj hpersist
    rw [persistBlockedAutomaticPlanApproval]
    split_ifs <;> rfl
  · rename_i next hprepare
    obtain ⟨certificate, rfl⟩ := prepareAutomaticPlanApproval_ok hprepare
    split at hpersist
    · cases hpersist
    · rename_i advanced hadvance
      have hkept := architecture_of_advancePlanState hadvance
      dsimp only at hpersist
      split_ifs at hpersist
      · obtain rfl := Except.ok.inj hpersist
        exact hkept
      · rw [persistNonConvergedPlanReview] at hpersist
        cases hmint : mintPlanRevisionAttempt services scope advanced.state revision
            (selfReview.iteration + 1) with
        | error code =>
            rw [hmint] at hpersist
            cases hpersist
        | ok assurance =>
            rw [hmint] at hpersist
            obtain rfl := Except.ok.inj hpersist
            exact hkept

/-- A review that goes on has an obligation for its next iteration. -/
theorem minted_of_continues {revision : PlanRevisionResult} {selfReview : SelfReviewLoop}
    {reviewed : SessionState} {write : PlanWrite}
    (hpersist : persistPlanReview services scope revision selfReview reviewed = .ok write)
    (hcontinues : isReviewOver scope revision (selfReview.iteration + 1) = false)
    (hopen : ∀ plan, reviewed.plan = some plan → plan.reviewCompletion ≠ .reviewerAccepted) :
    ∃ obligation, Minted revision.currentPlan obligation ∧
      obligationsOf write.state = obligationsOf reviewed ++ [obligation] := by
  unfold persistPlanReview at hpersist
  split at hpersist
  · rename_i block hprepare
    obtain ⟨plan, hplan, hcompletion⟩ := prepareAutomaticPlanApproval_error hprepare
    exact absurd hcompletion (hopen plan hplan)
  · rename_i next hprepare
    obtain ⟨certificate, rfl⟩ := prepareAutomaticPlanApproval_ok hprepare
    split at hpersist
    · cases hpersist
    · rename_i advanced hadvance
      have hframe := planAdvance_of_ok hadvance
      dsimp only at hpersist
      rw [isReviewOver] at hcontinues
      rw [if_neg (by rw [hcontinues]; exact Bool.false_ne_true),
        persistNonConvergedPlanReview] at hpersist
      cases hmint : mintPlanRevisionAttempt services scope advanced.state revision
          (selfReview.iteration + 1) with
      | error code =>
          rw [hmint] at hpersist
          cases hpersist
      | ok assurance =>
          rw [hmint] at hpersist
          obtain rfl := Except.ok.inj hpersist
          obtain ⟨obligation, hminted, happended⟩ := minted_of_map hmint
          refine ⟨obligation, hminted, ?_⟩
          rw [← obligationsOf, obligationsOf, hframe.reviewAssurance] at happended
          exact happended

/-- A submission is the plan its obligation asks about. -/
theorem submitted_mints {write : PlanWrite} {assurance : ReviewAssuranceState}
    (hattempt : createPlanReviewAttempt services scope (submittedPlanEvidence services scope)
      (submittedPlanEvidence services scope).planVersion = .ok assurance)
    (hwrite : advancePlanState services scope (buildPlanSubmissionState services scope
      (submittedPlanEvidence services scope) (submittedPlanEvidence services scope).planVersion
      assurance) = .ok write) :
    (∃ text, MintsRevision services.env.hashing.hashText .plan scope.state write.state text) ∧
      KeepsRevision .architecture scope.state write.state := by
  have hframe := planAdvance_of_ok hwrite
  obtain ⟨obligation, hminted, happended⟩ := minted_of_map hattempt
  have hobligations : obligationsOf write.state = obligationsOf scope.state ++ [obligation] := by
    rw [obligationsOf, hframe.reviewAssurance]
    exact happended
  refine ⟨⟨_, mintsRevision_of_built hframe.plan rfl hminted (by rw [hobligations])⟩, ?_, ?_⟩
  · rw [ReviewArtifact.revision, architecture_of_advancePlanState hwrite]
    exact Or.inl rfl
  · rw [hobligations, subjects_append_other (by rw [hminted.type]; decide)]

/-- A plan that stays is still the one the latest obligation asks about. -/
theorem identified_of_kept {hashText : String → String} {t : SessionState} {plan next : PlanRecord}
    (hidentified : Identified hashText .plan s) (hplan : s.plan = some plan)
    (hnext : t.plan = some next) (hcurrent : next.current = plan.current)
    (hobligations : ReviewArtifact.plan.subjects (obligationsOf t) =
        ReviewArtifact.plan.subjects (obligationsOf s) ∨
      ∃ obligation, Minted plan.current obligation ∧
        ReviewArtifact.plan.subjects (obligationsOf t) =
          ReviewArtifact.plan.subjects (obligationsOf s ++ [obligation])) :
    Identified hashText .plan t := by
  obtain ⟨hdigest, hlatest⟩ := hidentified _ (revision_of_current hplan)
  intro revision hrevision
  rw [revision_of_current hnext, hcurrent, Option.some_inj] at hrevision
  subst hrevision
  refine ⟨hdigest, ?_⟩
  rcases hobligations with hsame | ⟨obligation, hminted, happended⟩
  · rw [hsame, hlatest]
  · rw [happended, subjects_append hminted.type, List.getLast?_concat, hminted.subjectDigest]

theorem reviewed_revises {write : PlanWrite} {plan : PlanRecord} {selfReview : SelfReviewLoop}
    {obligation : ReviewObligation} {findings : ReviewFindings} {invocationId : String}
    {revision : PlanRevisionResult}
    (hplan : scope.state.plan = some plan) (hloop : scope.state.selfReview = some selfReview)
    (hargs : scope.args.reviewVerdict = some findings.overallVerdict)
    (hverdict : findings.overallVerdict ≠ .unableToReview)
    (hrevision : applyPlanRevision services scope plan findings.overallVerdict
      (some obligation.obligationId) = .ok revision)
    (hwrite : persistPlanReview services scope revision selfReview
      (buildReviewedPlanState services scope plan selfReview revision findings
        (consumePlanObligation services scope
          (ensureReviewAssurance scope.state.reviewAssurance) obligation.iteration
          obligation.planVersion invocationId)) = .ok write) :
    (Identified services.env.hashing.hashText .plan scope.state →
        Identified services.env.hashing.hashText .plan write.state) ∧
      KeepsRevision .architecture scope.state write.state := by
  have hpersisted := persistPlanReview_ok hwrite
  have hadr := architecture_of_persistPlanReview hwrite
  have hcontinued := @minted_of_continues services scope revision selfReview _ write hwrite
  have hrevised := applyPlanRevision_ok services hrevision
  have hfacts := verdict_of_revised hloop hargs hverdict hrevised
  have hconsumed : ∀ artifact : ReviewArtifact, artifact.subjects (consumePlanObligation services
      scope (ensureReviewAssurance scope.state.reviewAssurance) obligation.iteration
      obligation.planVersion invocationId).obligations =
        artifact.subjects (obligationsOf scope.state) :=
    fun artifact => subjects_consumeReviewObligation artifact _ _ _ _ _
  generalize consumePlanObligation services scope
    (ensureReviewAssurance scope.state.reviewAssurance) obligation.iteration
    obligation.planVersion invocationId = consumed at hwrite hpersisted hadr hcontinued hconsumed
  have hbuilt := reviewedPlan_build services scope plan selfReview revision findings consumed
  obtain ⟨next, hnext, hcurrent, -, -⟩ := (hbuilt.persisted hpersisted).plan
  have hobligations := hpersisted.obligations
  constructor
  · intro hidentified
    have hkept : revision.currentPlan = plan.current →
        Identified services.env.hashing.hashText .plan write.state := by
      intro hsame
      refine identified_of_kept hidentified hplan hnext (hcurrent.trans hsame) ?_
      rcases hobligations with hsettled | ⟨-, minted, hminted, happended⟩
      · rw [hsettled]
        exact Or.inl (hconsumed .plan)
      · refine Or.inr ⟨minted, hsame ▸ hminted, ?_⟩
        rw [happended, subjects_append hminted.type, subjects_append hminted.type]
        exact congrArg (· ++ _) (hconsumed .plan)
    generalize findings.overallVerdict = verdict at hrevised
    cases hrevised with
    | kept => exact hkept rfl
    | discarded => exact hkept rfl
    | superseded =>
        have hcontinues : isReviewOver scope (supersedingRevision plan
            (revisedPlanEvidence services scope plan (some obligation.obligationId)))
            (selfReview.iteration + 1) = false := by
          by_contra hover
          have hhistory := (hfacts.kept (Bool.eq_true_of_not_eq_false hover)).2
          exact List.cons_ne_self _ _ hhistory
        obtain ⟨minted, hminted, happended⟩ := hcontinued hcontinues
          (not_accepted_of_continues hfacts hbuilt hcontinues)
        have hsubjects : ReviewArtifact.plan.subjects (obligationsOf write.state) =
            ReviewArtifact.plan.subjects (obligationsOf scope.state ++ [minted]) := by
          rw [happended, subjects_append hminted.type, subjects_append hminted.type]
          exact congrArg (· ++ _) (hconsumed .plan)
        exact (mintsRevision_of_built hnext hcurrent (hcurrent ▸ hminted) hsubjects).identified
  · constructor
    · rw [ReviewArtifact.revision, hadr]
      exact Or.inl rfl
    · rcases hobligations with hsettled | ⟨-, minted, hminted, happended⟩
      · rw [hsettled]
        exact hconsumed .architecture
      · rw [happended, subjects_append_other (by rw [hminted.type]; decide)]
        exact hconsumed .architecture

theorem planCall_revises {write : PlanWrite}
    (hcall : planCall services scope = .ok write) :
    (Identified services.env.hashing.hashText .plan scope.state →
        Identified services.env.hashing.hashText .plan write.state) ∧
      KeepsRevision .architecture scope.state write.state := by
  cases planCall_ok hcall with
  | submitted admitted assurance hnone hstate hphase hticket hgate hattempt hwrite =>
      obtain ⟨⟨text, hmints⟩, hkeeps⟩ := submitted_mints hattempt hwrite
      exact ⟨fun _ => hmints.identified, hstate ▸ hkeeps⟩
  | reviewed admitted plan selfReview obligation findings invocationId revision hstate hbudget
      hphase hticket hplan hloop hgiven hargs hverdict hpending hcaptured hrevision hwrite =>
      rw [← hstate] at hplan hloop hwrite ⊢
      exact reviewed_revises hplan hloop hargs hverdict hrevision hwrite

end PlanCalls

/-! ### Architecture calls -/

section ArchitectureCalls

variable {services : ArtifactServices} {session : ArchitectureSession} {s : SessionState}

/-- The text of a restart after a blocked review is submitted trimmed. -/
def RestartsTrimmed (session : ArchitectureSession) : Prop :=
  ∀ predecessor selfReview, session.state.phase = .architecture →
    session.args.reviewVerdict = none → hasText session.args.adrText = true →
    lastObligation .architecture (obligationsOf session.state) = some predecessor →
    predecessor.status = .blocked → session.state.selfReview = some selfReview →
    predecessor.iteration = selfReview.iteration → blockedArchitectureReviews session.state < 3 →
    normalizeReviewArtifactText (session.args.adrText.getD "") = session.args.adrText.getD ""

theorem revision_of_adr {architecture : ArchitectureDecision}
    (hadr : s.architecture = some architecture) :
    ReviewArtifact.architecture.revision s = some ⟨architecture.adrText, architecture.digest⟩ := by
  rw [ReviewArtifact.revision, hadr, Option.map_some]

/-- The ADR of a state is trimmed, with an obligation for it. -/
theorem mintsRevision_of_adr {t : SessionState} {architecture : ArchitectureDecision}
    {obligation : ReviewObligation} (hadr : t.architecture = some architecture)
    (hdigest : architecture.digest =
      services.env.hashing.hashText (normalizeReviewArtifactText architecture.adrText))
    (hminted : MintedFor architecture obligation) (hobligations :
      ReviewArtifact.architecture.subjects (obligationsOf t) =
        ReviewArtifact.architecture.subjects (obligationsOf s ++ [obligation])) :
    MintsRevision services.env.hashing.hashText .architecture s t architecture.adrText := by
  constructor
  · rw [revision_of_adr hadr, hdigest]
  · rw [hobligations, subjects_append hminted.type, hminted.subjectDigest, hdigest]

theorem rearmInterruptedDispatch_ne_restarted {obligation : ReviewObligation}
    {now : Timestamp} {state : SessionState} {same : Bool} :
    rearmInterruptedDispatch services s obligation now ≠ .restarted state same := by
  rw [rearmInterruptedDispatch]
  split <;> exact fun hsame => by cases hsame

theorem routePendingObligation_ne_restarted {text : Option String} {now : Timestamp}
    {obligation : ReviewObligation} {continuation : PendingContinuation} {state : SessionState}
    {same : Bool} :
    routePendingObligation services s text now obligation continuation ≠
      .restarted state same := by
  cases continuation with
  | awaitingTask =>
      rw [routePendingObligation]
      split
      · exact fun hsame => by cases hsame
      · split_ifs <;> exact fun hsame => by cases hsame
  | interruptedDispatch =>
      rw [routePendingObligation]
      split
      · exact fun hsame => by cases hsame
      · exact rearmInterruptedDispatch_ne_restarted
  | integrityBlocked code => exact fun hsame => by cases hsame
  | missingAttempt => exact fun hsame => by cases hsame

/-- What a restart has passed, and what it writes. -/
structure Restarted (services : ArtifactServices) (session : ArchitectureSession)
    (state : SessionState) (same : Bool) (architecture : ArchitectureDecision) : Prop where
  noVerdict : session.args.reviewVerdict = none
  submitted : hasText session.args.adrText = true
  adr : session.state.architecture = some architecture
  same_eq : same = (restartDigest services session == architecture.digest)
  cycle : ∃ predecessor selfReview, session.state.phase = .architecture ∧
    lastObligation .architecture (obligationsOf session.state) = some predecessor ∧
    predecessor.status = .blocked ∧ session.state.selfReview = some selfReview ∧
    predecessor.iteration = selfReview.iteration ∧ blockedArchitectureReviews session.state < 3
  written : ∃ next obligation, state.architecture = some next ∧
    next.id = architecture.id ∧ MintedFor next obligation ∧
    obligationsOf state = obligationsOf session.state ++ [obligation] ∧
    state.plan = session.state.plan ∧
    (same = true → next.adrText = architecture.adrText ∧ next.digest = architecture.digest) ∧
    (same = false → next.adrText = session.args.adrText.getD "" ∧
      next.digest = restartDigest services session)

theorem resolveRestartRevision_ok {architecture next : ArchitectureDecision} {digest : String}
    {same : Bool} {delta : RevisionDelta}
    (hrevision : resolveRestartRevision services session architecture digest same =
      .ok (next, delta)) :
    next.id = architecture.id ∧
      (same = true → next.adrText = architecture.adrText ∧ next.digest = architecture.digest) ∧
      (same = false → next.adrText = session.args.adrText.getD "" ∧ next.digest = digest) := by
  unfold resolveRestartRevision at hrevision
  split at hrevision
  · cases hrevision
  · dsimp only at hrevision
    split at hrevision
    · rename_i hsame
      obtain ⟨rfl, -⟩ := Prod.mk.inj (Except.ok.inj hrevision)
      exact ⟨rfl, fun _ => ⟨rfl, rfl⟩, fun hother => by rw [hsame] at hother; cases hother⟩
    · rename_i hother
      split at hrevision
      · cases hrevision
      · obtain ⟨rfl, -⟩ := Prod.mk.inj (Except.ok.inj hrevision)
        exact ⟨rfl, fun hsame => absurd hsame hother, fun _ => ⟨rfl, rfl⟩⟩

theorem restarted_of_restart {predecessor : ReviewObligation} {state : SessionState} {same : Bool}
    (hverdict : session.args.reviewVerdict = none) (hphase : session.state.phase = .architecture)
    (hlast : lastObligation .architecture (obligationsOf session.state) = some predecessor)
    (hblocked : predecessor.status = .blocked)
    (hrestart : restartArchitectureReview services session predecessor =
      some (.restarted state same)) :
    ∃ architecture, Restarted services session state same architecture := by
  unfold restartArchitectureReview at hrestart
  dsimp only at hrestart
  split at hrestart
  · rename_i architecture selfReview hadr hloop
    split_ifs at hrestart with htext hiteration hcount
    · cases hrestart
    · cases hrestart
    split at hrestart
    · cases hrestart
    · rename_i next delta hrevision
      split at hrestart
      · cases hrestart
      · rename_i assurance hmint
        cases hrestart
        obtain ⟨obligation, hminted, happended, -⟩ := mintArchitectureObligation_ok hmint
        obtain ⟨hid, hsame, hother⟩ := resolveRestartRevision_ok hrevision
        rw [bne_iff_ne, ne_eq, Decidable.not_not] at hiteration
        rw [Bool.not_eq_true', Bool.not_eq_false] at htext
        exact ⟨architecture, hverdict, htext, hadr, rfl,
          ⟨predecessor, selfReview, hphase, hlast, hblocked, hloop, hiteration, not_le.1 hcount⟩,
          next, obligation, rfl, hid, hminted, happended, rfl, hsame, hother⟩
  · cases hrestart

theorem restarted_of_call {state : SessionState} {same : Bool}
    (hcall : architectureCall services session = .restarted state same) :
    ∃ architecture, Restarted services session state same architecture := by
  have hwrite : ∀ written : Except String PlanWrite,
      ArtifactAnswer.ofWrite written ≠ .restarted state same := by
    intro written hsame
    cases written <;> cases hsame
  unfold architectureCall at hcall
  split at hcall
  · cases hcall
  split at hcall
  · exact absurd hcall (hwrite _)
  rename_i hverdict
  split at hcall
  · rename_i answer hroute
    subst hcall
    unfold routeArchitectureInitialSubmission at hroute
    dsimp only at hroute
    split at hroute
    · cases hroute
    rename_i hentered
    simp only [Bool.or_eq_true, bne_iff_ne, ne_eq, not_or, Decidable.not_not] at hentered
    split at hroute
    · exact absurd (Option.some_inj.1 hroute) routePendingObligation_ne_restarted
    · rename_i obligation hcontinuation
      obtain ⟨hlast, hblocked⟩ := resolveReviewContinuation_blocked hcontinuation
      exact restarted_of_restart hverdict hentered.1.1 hlast hblocked hroute
    · cases hroute
    · cases hroute
  · split at hcall
    · cases hcall
    · exact absurd hcall (hwrite _)

/-- A fresh obligation for the ADR leaves the plan alone. -/
theorem keepsPlan_of_minted {t : SessionState} {architecture : ArchitectureDecision}
    {obligation : ReviewObligation} {obligations : List ReviewObligation}
    (hplan : t.plan = s.plan) (hminted : MintedFor architecture obligation)
    (happended : obligationsOf t = obligations ++ [obligation])
    (hsubjects : ReviewArtifact.plan.subjects obligations =
      ReviewArtifact.plan.subjects (obligationsOf s)) : KeepsRevision .plan s t := by
  constructor
  · rw [ReviewArtifact.revision, hplan]
    exact Or.inl rfl
  · rw [happended, subjects_append_other (by rw [hminted.type]; decide), hsubjects]

theorem restarted_revises {state : SessionState} {same : Bool}
    {architecture : ArchitectureDecision} (htrimmed : RestartsTrimmed session)
    (hrestarted : Restarted services session state same architecture) :
    (Identified services.env.hashing.hashText .architecture session.state →
        Identified services.env.hashing.hashText .architecture state) ∧
      KeepsRevision .plan session.state state := by
  obtain ⟨next, obligation, hadr, -, hminted, happended, hplan, hsame, hother⟩ :=
    hrestarted.written
  refine ⟨fun hidentified => ?_, keepsPlan_of_minted hplan hminted happended rfl⟩
  have hdigest : next.digest =
      services.env.hashing.hashText (normalizeReviewArtifactText next.adrText) := by
    cases same with
    | true =>
        obtain ⟨htext, hkept⟩ := hsame rfl
        rw [htext, hkept]
        exact (hidentified _ (revision_of_adr hrestarted.adr)).1
    | false =>
        obtain ⟨htext, hdigest⟩ := hother rfl
        obtain ⟨predecessor, selfReview, hphase, hlast, hblocked, hloop, hcycle, hcount⟩ :=
          hrestarted.cycle
        rw [htext, hdigest, htrimmed predecessor selfReview hphase hrestarted.noVerdict
          hrestarted.submitted hlast hblocked hloop hcycle hcount]
        rfl
  have hmints := @mintsRevision_of_adr services session.state state next obligation hadr hdigest
    hminted (by rw [happended])
  exact hmints.identified

/-- The obligation of a verdict is consumed, and keeps its subject. -/
theorem subjects_reviewedAdrState (artifact : ReviewArtifact) (selfReview : SelfReviewLoop)
    (obligation : ReviewObligation) (invocationId : String) (findings : ReviewFindings)
    (revision : AdrRevision) :
    artifact.subjects (obligationsOf (reviewedAdrState services session selfReview obligation
      invocationId findings revision)) = artifact.subjects (obligationsOf session.state) :=
  subjects_consumeReviewObligation artifact _ _ _ _ _

theorem architectureCall_revises (services : ArtifactServices)
    (htrimmed : RestartsTrimmed session) :
    (Identified services.env.hashing.hashText .architecture session.state →
        Identified services.env.hashing.hashText .architecture
          ((architectureCall services session).stateAfter session.state)) ∧
      KeepsRevision .plan session.state
        ((architectureCall services session).stateAfter session.state) := by
  have hmove := architectureCall_moves services session
  have hrestart := @restarted_of_call services session
  generalize architectureCall services session = answer at hmove hrestart ⊢
  cases hmove with
  | refused code => exact ⟨id, .refl _ _⟩
  | instructed => exact ⟨id, .refl _ _⟩
  | rearmed other =>
      exact ⟨(keepsRevision_rearmed .architecture session.state other).identified,
        keepsRevision_rearmed .plan session.state other⟩
  | closed obligation code =>
      exact ⟨(keepsRevision_blocked .architecture session.state obligation code).identified,
        keepsRevision_blocked .plan session.state obligation code⟩
  | restarted architecture nextAdr selfReview predecessor revisionDelta assurance hphase hadr
      hloop hlast hblocked hrevision hmint =>
      obtain ⟨architecture, hrestarted⟩ := hrestart rfl
      exact restarted_revises htrimmed hrestarted
  | submitted title claims assurance records hphase hgate hmint hrecords =>
      obtain ⟨obligation, hminted, happended, -⟩ := mintArchitectureObligation_ok hmint
      have hsame : obligationsOf (submittedArchitectureState session
          (submittedAdr services session title claims)) = obligationsOf session.state := by
        rw [obligationsOf, submittedArchitectureState, selectArchitectureFlow]
        split_ifs <;> rfl
      rw [hsame] at happended
      have hdigest : (submittedAdr services session title claims).digest =
          services.env.hashing.hashText
            (normalizeReviewArtifactText (submittedAdr services session title claims).adrText) := by
        simp only [submittedAdr, normalizeReviewArtifactText, Activation.trim_trim]
        rfl
      have hplan : (submittedAdrState services session title claims assurance).plan =
          session.state.plan := by
        rw [submittedAdrState, submittedArchitectureState, selectArchitectureFlow]
        split_ifs <;> rfl
      have hmints := @mintsRevision_of_adr services session.state
        (submittedAdrState services session title claims assurance) _ obligation rfl hdigest
        hminted (by rw [← happended]; rfl)
      exact ⟨fun _ => hmints.identified, keepsPlan_of_minted hplan hminted happended rfl⟩
  | settled architecture selfReview obligation findings invocationId discarded hcall hverdict
      hbudget =>
      have hsubjects := fun artifact => @subjects_reviewedAdrState services session artifact
        selfReview obligation invocationId findings (keptAdr architecture discarded)
      refine ⟨KeepsRevision.identified ⟨Or.inl ?_, hsubjects .architecture⟩, Or.inl rfl,
        hsubjects .plan⟩
      rw [revision_of_adr hcall.architecture]
      rfl
  | revised architecture revised selfReview obligation findings invocationId claims assurance
      hcall hverdict hbudget hrevised hmint =>
      obtain ⟨minted, hminted, happended, -⟩ := mintArchitectureObligation_ok hmint
      have hsubjects := fun artifact => @subjects_reviewedAdrState services session artifact
        selfReview obligation invocationId findings (supersedingAdr services architecture
          (normalizeReviewArtifactText (session.args.adrText.getD "")) claims)
      have hdigest : revised.digest =
          services.env.hashing.hashText (normalizeReviewArtifactText revised.adrText) := by
        obtain rfl := Option.some_inj.1 hrevised
        simp only [supersedingAdr, normalizeReviewArtifactText, Activation.trim_trim]
      have hadded : ReviewArtifact.architecture.subjects assurance.obligations =
          ReviewArtifact.architecture.subjects (obligationsOf session.state ++ [minted]) := by
        rw [happended, subjects_append hminted.type, subjects_append hminted.type,
          hsubjects .architecture]
      refine ⟨fun _ => ?_, keepsPlan_of_minted rfl hminted happended (hsubjects .plan)⟩
      have hmints := @mintsRevision_of_adr services session.state
        { reviewedAdrState services session selfReview obligation invocationId findings
            (supersedingAdr services architecture
              (normalizeReviewArtifactText (session.args.adrText.getD "")) claims) with
          reviewAssurance := some assurance } revised minted hrevised hdigest hminted hadded
      exact hmints.identified

end ArchitectureCalls

/-! ### Runs -/

/-- A call of either tool, a human decision, an advance of the machine, a step of the review
ledger, or another command of the session. -/
inductive ArtifactAction
  | plan (scope : PlanExecutionScope)
  | architecture (session : ArchitectureSession)
  | decide (input : ReviewDecisionInput) (ctx : RailContext)
  | advance (evalFn : SessionState → EvalResult) (ctx : RailContext)
  | ledger (assurance : ReviewAssuranceState)
  | session (next : SessionState)

/-- One step; what is refused writes nothing. -/
def artifactStep (services : ArtifactServices) (s : SessionState) :
    ArtifactAction → Option SessionState
  | .plan scope => some ((routedPlanCall services (scope.inState s)).stateAfter s)
  | .architecture session => some ((architectureCall services (session.inState s)).stateAfter s)
  | .decide input ctx =>
      match executeReviewDecision services.env s input ctx with
      | .ok (.ok result) => some result.state
      | _ => some s
  | .advance evalFn ctx =>
      match autoAdvance services.env s evalFn ctx with
      | .ok (.advanced result) => some result.state
      | _ => some s
  | .ledger assurance => some { s with reviewAssurance := some assurance }
  | .session next => some next

/-- The ledger mints no obligation for an artifact, and no other command revises one. -/
def ArtifactSurroundings (s : SessionState) : ArtifactAction → Prop
  | .ledger assurance => ∀ artifact : ReviewArtifact,
      artifact.subjects assurance.obligations = artifact.subjects (obligationsOf s)
  | .session next => ∀ artifact : ReviewArtifact, KeepsRevision artifact s next
  | _ => True

/-- Every restart on the way is submitted trimmed. -/
def TrimmedSurroundings (s : SessionState) (action : ArtifactAction) : Prop :=
  ArtifactSurroundings s action ∧
    ∀ session, action = .architecture session → RestartsTrimmed (session.inState s)

section Runs

variable {services : ArtifactServices} {s t : SessionState}

theorem routedPlanCall_revises {scope : PlanExecutionScope} (services : ArtifactServices) :
    (Identified services.env.hashing.hashText .plan scope.state →
        Identified services.env.hashing.hashText .plan
          ((routedPlanCall services scope).stateAfter scope.state)) ∧
      KeepsRevision .architecture scope.state
        ((routedPlanCall services scope).stateAfter scope.state) := by
  have hrefused : (Identified services.env.hashing.hashText .plan scope.state →
      Identified services.env.hashing.hashText .plan scope.state) ∧
        KeepsRevision .architecture scope.state scope.state := ⟨id, .refl _ _⟩
  have hcalled : ∀ args, (Identified services.env.hashing.hashText .plan scope.state →
      Identified services.env.hashing.hashText .plan
        ((ArtifactAnswer.ofWrite (planCall services.toPlanServices
          { scope with args := args })).stateAfter scope.state)) ∧
      KeepsRevision .architecture scope.state
        ((ArtifactAnswer.ofWrite (planCall services.toPlanServices
          { scope with args := args })).stateAfter scope.state) := by
    intro args
    cases hcall : planCall services.toPlanServices { scope with args := args } with
    | error code => exact hrefused
    | ok write =>
        exact @planCall_revises services.toPlanServices { scope with args := args } write hcall
  unfold routedPlanCall
  dsimp only
  split
  · exact hrefused
  · split
    · exact hcalled _
    · split
      · rename_i answer hroute
        have hkeeps : ∀ artifact, KeepsRevision artifact scope.state
            (answer.stateAfter scope.state) := by
          intro artifact
          unfold routePlanInitialSubmission at hroute
          dsimp only at hroute
          split at hroute
          · cases hroute
          · split at hroute
            · obtain rfl := Option.some_inj.1 hroute
              exact routePendingObligation_keeps artifact _ _ _ _ _
            · cases hroute
            · cases hroute
            · cases hroute
        exact ⟨(hkeeps .plan).identified, hkeeps .architecture⟩
      · exact hcalled _

/-- A verdict clears no revision. -/
theorem clearing_revision (artifact : ReviewArtifact) (s : SessionState)
    (verdict : ReviewVerdict) :
    artifact.revision (applyStateClearingPattern s verdict) = artifact.revision s := by
  have hmapped : ∀ f : ArchitectureDecision → ArchitectureDecision,
      (∀ adr, (f adr).adrText = adr.adrText ∧ (f adr).digest = adr.digest) →
      artifact.revision { s with architecture := s.architecture.map f } =
        artifact.revision s := by
    intro f hf
    cases artifact with
    | plan => rfl
    | architecture =>
        rw [ReviewArtifact.revision, ReviewArtifact.revision, Option.map_map]
        refine congrArg (Option.map · s.architecture) (funext fun adr => ?_)
        rw [Function.comp_apply, (hf adr).1, (hf adr).2]
  unfold applyStateClearingPattern
  split_ifs
  · exact hmapped _ fun adr => ⟨rfl, rfl⟩
  · rfl
  · rfl
  · split
    · cases artifact <;> rfl
    · cases artifact <;> rfl
    · exact hmapped (fun adr => { adr with
        reviewCompletion := .pending, approvalCertificate := none }) fun adr => ⟨rfl, rfl⟩
    · rfl

/-- A certificate is added to the revision it certifies. -/
theorem certificate_revision {env : Environment} (artifact : ReviewArtifact) (s : SessionState)
    (input : ReviewDecisionInput) (decision : ReviewDecision) (ctx : RailContext)
    (binding : Option ReviewBinding) (evidence : Option ResolvedBoundReviewEvidence) :
    artifact.revision (approvalCertificatePatch env s input decision ctx binding evidence) =
      artifact.revision s := by
  unfold approvalCertificatePatch
  split_ifs
  · rfl
  · cases artifact with
    | plan =>
        rw [ReviewArtifact.revision, ReviewArtifact.revision, planCertificatePatch]
        cases hplan : s.plan with
        | none => rfl
        | some plan =>
            dsimp only
            split_ifs
            · rfl
            · split <;> rfl
    | architecture =>
        unfold ReviewArtifact.revision architectureCertificatePatch
        dsimp only
        split
        · rename_i adr _ hadr
          rw [hadr]
          split_ifs <;> rfl
        · rfl

theorem decision_keeps {env : Environment} {input : ReviewDecisionInput} {ctx : RailContext}
    {result : RailOk} (hdecided : executeReviewDecision env s input ctx = .ok (.ok result))
    (artifact : ReviewArtifact) : KeepsRevision artifact s result.state := by
  have hassurance := (executeReviewDecision_keeps hdecided).2
  obtain ⟨target, hdecision⟩ := executeReviewDecision_ok env hdecided
  have happlied := hdecision.applied
  rw [← decidedState_phase env s input ctx] at happlied
  refine .of_same ?_ hassurance
  have hkept : artifact.revision (decidedState env s input ctx) = artifact.revision s := by
    rw [decidedState, clearing_revision, ← certificate_revision artifact s input
      (decisionOf input ctx) ctx _ (enforceApprovalPreconditions env s input ctx).planEvidence]
    cases artifact <;> rfl
  rw [← hkept]
  rcases applyDecisionTransition_applied env happlied with
    ⟨-, hstate, -⟩ | ⟨-, -, hstate, -⟩ <;>
  · rw [hstate]
    cases artifact <;> rfl

theorem advance_keeps {env : Environment} {evalFn : SessionState → EvalResult}
    {ctx : RailContext} {result : AutoAdvanceAdvanced}
    (hadvance : autoAdvance env s evalFn ctx = .ok (.advanced result))
    (artifact : ReviewArtifact) : KeepsRevision artifact s result.state := by
  refine .of_same ?_ (@autoAdvance_keeps env _ (·.reviewAssurance) (fun _ _ _ _ _ => rfl) _ _ _ _
    hadvance)
  refine @autoAdvance_keeps env _ artifact.revision (fun _ _ _ _ _ => ?_) _ _ _ _ hadvance
  cases artifact <;> rfl

theorem artifactStep_keeps {action : ArtifactAction} (hallowed : TrimmedSurroundings s action)
    (hstep : artifactStep services s action = some t)
    (hidentified : ∀ artifact, Identified services.env.hashing.hashText artifact s) :
    ∀ artifact, Identified services.env.hashing.hashText artifact t := by
  intro artifact
  obtain ⟨hsurroundings, htrimmed⟩ := hallowed
  cases action with
  | plan scope =>
      obtain rfl := Option.some_inj.1 hstep
      obtain ⟨hplan, hadr⟩ := @routedPlanCall_revises (scope.inState s) services
      cases artifact with
      | plan => exact hplan (hidentified .plan)
      | architecture => exact hadr.identified (hidentified .architecture)
  | architecture session =>
      obtain rfl := Option.some_inj.1 hstep
      obtain ⟨hadr, hplan⟩ := architectureCall_revises services (htrimmed session rfl)
      cases artifact with
      | plan => exact hplan.identified (hidentified .plan)
      | architecture => exact hadr (hidentified .architecture)
  | decide input ctx =>
      rw [artifactStep] at hstep
      split at hstep
      · rename_i result hdecided
        obtain rfl := Option.some_inj.1 hstep
        exact (decision_keeps hdecided artifact).identified (hidentified artifact)
      · obtain rfl := Option.some_inj.1 hstep
        exact hidentified artifact
  | advance evalFn ctx =>
      rw [artifactStep] at hstep
      split at hstep
      · rename_i result hadvance
        obtain rfl := Option.some_inj.1 hstep
        exact (advance_keeps hadvance artifact).identified (hidentified artifact)
      · obtain rfl := Option.some_inj.1 hstep
        exact hidentified artifact
  | ledger assurance =>
      obtain rfl := Option.some_inj.1 hstep
      have hkeeps : KeepsRevision artifact s { s with reviewAssurance := some assurance } := by
        refine ⟨?_, hsurroundings artifact⟩
        cases artifact <;> exact Or.inl rfl
      exact hkeeps.identified (hidentified artifact)
  | session next =>
      obtain rfl := Option.some_inj.1 hstep
      exact (hsurroundings artifact).identified (hidentified artifact)

/-! ### How a session tells revisions apart -/

/-- A text is submitted to the tool of an artifact while its review is under way. -/
inductive Resubmits (services : ArtifactServices) (s : SessionState) (text : String) :
    ReviewArtifact → ArtifactAnswer → Prop
  | plan (scope : PlanExecutionScope) (htext : scope.args.planText = some text)
      (hverdict : scope.args.reviewVerdict = none)
      (hshape : validatePlanCallShape (scope.inState s) = none) (hphase : s.phase = .plan)
      (hself : s.selfReview.isSome = true) :
      Resubmits services s text .plan (routedPlanCall services (scope.inState s))
  | architecture (session : ArchitectureSession) (htext : session.args.adrText = some text)
      (hverdict : session.args.reviewVerdict = none)
      (hshape : validateArchitectureCallShape session.args = none)
      (hphase : s.phase = .architecture) (hself : s.selfReview.isSome = true) :
      Resubmits services s text .architecture (architectureCall services (session.inState s))

/-- A text is told from the current revision by its trimmed form: on the routes of a pending
review, which mint nothing, and by a restart after a blocked one. -/
structure TellsRevisions (services : ArtifactServices) (s : SessionState) : Prop where
  pending : ∀ {artifact text answer current obligation continuation},
    Resubmits services s text artifact answer → hasText (some text) = true →
    artifact.revision s = some current →
    resolveReviewContinuation services s.reviewAssurance artifact.obligationType =
      .pending obligation continuation →
    continuation = .awaitingTask ∨ continuation = .interruptedDispatch →
    (answer = .refused "REVIEW_SUBJECT_CHANGED_WHILE_PENDING" ↔
      normalizeReviewArtifactText text ≠ normalizeReviewArtifactText current.text) ∧
    ∀ other, KeepsRevision other s (answer.stateAfter s)
  restart : ∀ {session : ArchitectureSession} {state same current},
    RestartsTrimmed (session.inState s) →
    architectureCall services (session.inState s) = .restarted state same →
    ReviewArtifact.architecture.revision s = some current →
    (same = true ↔ normalizeReviewArtifactText (session.args.adrText.getD "") =
      normalizeReviewArtifactText current.text) ∧
    (same = true → ReviewArtifact.architecture.revision state = some current)

/-- A pending review is the one the latest obligation asks for. -/
theorem subject_of_pending {hashText : String → String} {artifact : ReviewArtifact}
    {current : ArtifactRevision} {obligation : ReviewObligation}
    {continuation : PendingContinuation} (hidentified : Identified hashText artifact s)
    (hcurrent : artifact.revision s = some current)
    (hpending : resolveReviewContinuation services s.reviewAssurance artifact.obligationType =
      .pending obligation continuation) :
    obligation.subjectDigest = hashText (normalizeReviewArtifactText current.text) := by
  obtain ⟨hdigest, hlatest⟩ := hidentified current hcurrent
  rw [resolveReviewContinuation] at hpending
  split at hpending
  · cases hpending
  · rename_i last hlast
    split at hpending <;> cases hpending
    rw [ReviewArtifact.subjects, List.getLast?_map, ← lastObligation_eq_getLast?] at hlatest
    rw [← obligationsOf] at hlast
    rw [hlast, Option.map_some, Option.some_inj] at hlatest
    exact hlatest.trans hdigest

/-- A resubmission while the review is pending is answered by its route. -/
theorem resubmits_pending {artifact : ReviewArtifact} {text : String} {answer : ArtifactAnswer}
    {current : ArtifactRevision} {obligation : ReviewObligation}
    {continuation : PendingContinuation} (hresubmits : Resubmits services s text artifact answer)
    (hcurrent : artifact.revision s = some current)
    (hpending : resolveReviewContinuation services s.reviewAssurance artifact.obligationType =
      .pending obligation continuation) :
    ∃ now, answer = routePendingObligation services s (some text) now obligation continuation := by
  cases hresubmits with
  | plan scope htext hverdict hshape hphase hself =>
      have hplan : s.plan.isSome = true := by
        rw [ReviewArtifact.revision, Option.map_eq_some_iff] at hcurrent
        obtain ⟨plan, hplan, -⟩ := hcurrent
        rw [hplan]
        rfl
      refine ⟨scope.readings 5, ?_⟩
      have hargs : normalizeInitialPlanSubmissionArgs (scope.inState s).args
          (scope.inState s).state = (scope.inState s).args :=
        normalizeInitialPlanSubmissionArgs_of_plan hplan
      have hentered : (s.phase != .plan || s.plan.isNone || s.selfReview.isNone) = false := by
        simp [hphase, Option.isNone_eq_false_iff.2 hplan, Option.isNone_eq_false_iff.2 hself]
      have hroute : routePlanInitialSubmission services (scope.inState s) =
          some (routePendingObligation services s (some text) (scope.readings 5) obligation
            continuation) := by
        unfold routePlanInitialSubmission
        dsimp only [PlanExecutionScope.inState]
        rw [hentered, htext]
        have hcontinues : resolveReviewContinuation services s.reviewAssurance .plan =
            .pending obligation continuation := hpending
        rw [hcontinues]
        rfl
      unfold routedPlanCall
      rw [hargs]
      dsimp only
      rw [hshape]
      dsimp only
      rw [hroute, if_neg (by simp [PlanExecutionScope.inState, hverdict])]
  | architecture session htext hverdict hshape hphase hself =>
      have hadr : s.architecture.isSome = true := by
        rw [ReviewArtifact.revision, Option.map_eq_some_iff] at hcurrent
        obtain ⟨adr, hadr, -⟩ := hcurrent
        rw [hadr]
        rfl
      refine ⟨session.readings 3, ?_⟩
      have hentered : (s.phase != .architecture || s.architecture.isNone || s.selfReview.isNone) =
          false := by
        simp [hphase, Option.isNone_eq_false_iff.2 hadr, Option.isNone_eq_false_iff.2 hself]
      have hroute : routeArchitectureInitialSubmission services (session.inState s) =
          some (routePendingObligation services s (some text) (session.readings 3) obligation
            continuation) := by
        unfold routeArchitectureInitialSubmission
        dsimp only [ArchitectureSession.inState]
        have hcontinues : resolveReviewContinuation services s.reviewAssurance .architecture =
            .pending obligation continuation := hpending
        rw [hentered, htext, hcontinues]
        rfl
      unfold architectureCall
      dsimp only [ArchitectureSession.inState] at hroute ⊢
      rw [hshape, hverdict, hroute]

theorem tellsRevisions_of_identified
    (hinjective : Function.Injective services.env.hashing.hashText)
    (hidentified : ∀ artifact, Identified services.env.hashing.hashText artifact s) :
    TellsRevisions services s := by
  constructor
  · intro artifact text answer current obligation continuation hresubmits htext hcurrent hpending
      hroute
    obtain ⟨now, rfl⟩ := resubmits_pending hresubmits hcurrent hpending
    exact ⟨routePendingObligation_changed hinjective
      (subject_of_pending (hidentified artifact) hcurrent hpending) htext hroute,
      fun other => routePendingObligation_keeps other s _ _ _ _⟩
  · intro session state same current htrimmed hcall hcurrent
    obtain ⟨architecture, hrestarted⟩ := restarted_of_call hcall
    obtain ⟨predecessor, selfReview, hphase, hlast, hblocked, hloop, hcycle, hcount⟩ :=
      hrestarted.cycle
    have htext := htrimmed predecessor selfReview hphase hrestarted.noVerdict
      hrestarted.submitted hlast hblocked hloop hcycle hcount
    have hadr : s.architecture = some architecture := hrestarted.adr
    rw [revision_of_adr hadr, Option.some_inj] at hcurrent
    subst hcurrent
    have hdigest := (hidentified .architecture _ (revision_of_adr hadr)).1
    dsimp only at hdigest
    constructor
    · rw [hrestarted.same_eq, beq_iff_eq, hdigest, restartDigest]
      change services.env.hashing.hashText (session.args.adrText.getD "") = _ ↔ _
      rw [hinjective.eq_iff]
      change normalizeReviewArtifactText (session.args.adrText.getD "") =
        session.args.adrText.getD "" at htext
      rw [htext]
    · intro hsame
      obtain ⟨next, obligation, hnext, -, -, -, -, hkept, -⟩ := hrestarted.written
      obtain ⟨hkeptText, hkeptDigest⟩ := hkept hsame
      rw [revision_of_adr hnext, hkeptText, hkeptDigest]

end Runs

/-- In every run whose restarts are submitted trimmed, the current plan and ADR are
identified by their trimmed texts, and texts are told from them by their trimmed forms. -/
theorem revisions_identified_by_trimmed_text (services : ArtifactServices)
    (hinjective : Function.Injective services.env.hashing.hashText) {start s : SessionState}
    (hplan : start.plan = none) (hadr : start.architecture = none)
    (hreaches : Reaches (artifactStep services) TrimmedSurroundings start s) :
    (∀ artifact, Identified services.env.hashing.hashText artifact s) ∧
      TellsRevisions services s := by
  have hstart : ∀ artifact, Identified services.env.hashing.hashText artifact start := by
    intro artifact revision hrevision
    cases artifact with
    | plan =>
        rw [ReviewArtifact.revision, hplan] at hrevision
        cases hrevision
    | architecture =>
        rw [ReviewArtifact.revision, hadr] at hrevision
        cases hrevision
  have hkeeps : ∀ {s t : SessionState} {action : ArtifactAction},
      (∀ artifact, Identified services.env.hashing.hashText artifact s) →
      TrimmedSurroundings s action → artifactStep services s action = some t →
      ∀ artifact, Identified services.env.hashing.hashText artifact t :=
    fun hidentified hallowed hstep => artifactStep_keeps hallowed hstep hidentified
  have hidentified := hreaches.invariant hkeeps hstart
  exact ⟨hidentified, tellsRevisions_of_identified hinjective hidentified⟩

/-! ### A restart with a trailing line break -/

/-- Which actions of a schedule are admitted: trimmed calls, and steps of the ledger. -/
def admitsTrimmed (s : SessionState) : ArtifactAction → Bool
  | .architecture session =>
      normalizeReviewArtifactText (session.args.adrText.getD "") == session.args.adrText.getD ""
  | .ledger assurance => [ReviewArtifact.plan, .architecture].all fun artifact =>
      artifact.subjects assurance.obligations == artifact.subjects (obligationsOf s)
  | _ => false

theorem trimmed_of_admits (s : SessionState) (action : ArtifactAction)
    (hadmits : admitsTrimmed s action = true) : TrimmedSurroundings s action := by
  cases action with
  | architecture session =>
      refine ⟨trivial, fun other hother => ?_⟩
      obtain rfl := ArtifactAction.architecture.inj hother
      exact fun _ _ _ _ _ _ _ _ _ _ => beq_iff_eq.1 hadmits
  | ledger assurance =>
      refine ⟨fun artifact => ?_, fun _ hother => by cases hother⟩
      have hall := List.all_eq_true.1 hadmits artifact (by cases artifact <;> decide)
      exact beq_iff_eq.1 hall
  | _ => cases hadmits

/-- The state an admitted schedule reaches. -/
def artifactsAfter (actions : List ArtifactAction) : SessionState :=
  (runSchedule (fun s action => if admitsTrimmed s action then artifactStep adrServices s action
    else none) (sessionAt .ready true) actions).getD (sessionAt .ready true)

theorem reaches_artifactsAfter (actions : List ArtifactAction) :
    Reaches (artifactStep adrServices) TrimmedSurroundings (sessionAt .ready true)
      (artifactsAfter actions) := by
  rw [artifactsAfter]
  cases hruns : runSchedule (fun s action => if admitsTrimmed s action then
      artifactStep adrServices s action else none) (sessionAt .ready true) actions with
  | none => exact .refl _
  | some s => exact reaches_of_runSchedule trimmed_of_admits hruns

def adrSubmissionOf (obligationId : String) (title : Option String) (text : String) :
    ArchitectureSession :=
  adrCall obligationId "2024-05-01T09:00:00.000Z" title (some text) none

def firstAdr : String := adrText "Cache all."

def submitFirstAdr : ArtifactAction :=
  .architecture (adrSubmissionOf "o1" (some "Cache") firstAdr)

/-- The review of the ADR is blocked. -/
def blockFirstReview : ArtifactAction :=
  .ledger (ensureReviewAssurance (blockObligation (artifactsAfter [submitFirstAdr]) "o1"
    "REVIEW_ATTEMPT_UNAVAILABLE").reviewAssurance)

def blockedAdr : SessionState := artifactsAfter [submitFirstAdr, blockFirstReview]

theorem injective_adrServices : Function.Injective adrServices.env.hashing.hashText :=
  fun _ _ hsame => hsame

/-- The ADR is restarted with another text. -/
theorem revisions_identified_by_trimmed_text_restarted :
    let s := artifactsAfter [submitFirstAdr, blockFirstReview,
      .architecture (adrSubmissionOf "o2" none (adrText "Cache reads."))]
    ReviewArtifact.architecture.revision s =
        some ⟨adrText "Cache reads.", adrText "Cache reads."⟩ ∧
      (∀ artifact, Identified adrServices.env.hashing.hashText artifact s) ∧
      TellsRevisions adrServices s :=
  ⟨by decide +kernel, revisions_identified_by_trimmed_text adrServices injective_adrServices rfl
    rfl (reaches_artifactsAfter _)⟩

/-- A restart with a line break at the end of the same text is taken for another revision,
and the digest of the ADR is no longer that of its trimmed text. -/
theorem restart_distinguishes_whitespace :
    let restart := adrSubmissionOf "o2" none (firstAdr ++ "\n")
    Function.Injective adrServices.env.hashing.hashText ∧
      Reaches (artifactStep adrServices) ArtifactSurroundings (sessionAt .ready true)
        blockedAdr ∧
      ReviewArtifact.architecture.revision blockedAdr = some ⟨firstAdr, firstAdr⟩ ∧
      normalizeReviewArtifactText (firstAdr ++ "\n") = normalizeReviewArtifactText firstAdr ∧
      ∃ next, architectureCall adrServices (restart.inState blockedAdr) = .restarted next false ∧
        ReviewArtifact.architecture.revision next =
          some ⟨firstAdr ++ "\n", firstAdr ++ "\n"⟩ ∧
        ¬ Identified adrServices.env.hashing.hashText .architecture next := by
  have hanswer : (match architectureCall adrServices
      ((adrSubmissionOf "o2" none (firstAdr ++ "\n")).inState blockedAdr) with
    | .restarted next same => some (same, ReviewArtifact.architecture.revision next)
    | _ => none) = some (false, some ⟨firstAdr ++ "\n", firstAdr ++ "\n"⟩) := by decide +kernel
  refine ⟨injective_adrServices, (reaches_artifactsAfter _).mono fun _ _ hallowed => hallowed.1,
    by decide +kernel, by decide +kernel, ?_⟩
  generalize architectureCall adrServices
    ((adrSubmissionOf "o2" none (firstAdr ++ "\n")).inState blockedAdr) = answer at hanswer ⊢
  cases answer with
  | restarted next same =>
      obtain ⟨rfl, hrevision⟩ := Prod.mk.inj (Option.some_inj.1 hanswer)
      refine ⟨next, rfl, hrevision, fun hidentified => ?_⟩
      have hdigest := (hidentified _ hrevision).1
      have hkept : firstAdr ++ "\n" ≠ normalizeReviewArtifactText (firstAdr ++ "\n") := by
        decide +kernel
      exact hkept hdigest
  | _ => cases hanswer

end GovernedRuntime.Tools
