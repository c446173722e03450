/-
What a call of the architecture tool writes: one case for each way it changes the
session, and nothing else.
-/
import GovernedRuntime.Tools.ArchitectureTool
import GovernedRuntime.Tools.PlanGate

namespace GovernedRuntime.Tools

open GovernedRuntime.Library
open GovernedRuntime.State
open GovernedRuntime.Machine
open GovernedRuntime.Rails

/-! ### Advancing an ADR -/

theorem evaluate_architecture (env : Environment) {s : SessionState}
    (policy : Option GatePolicy) (hphase : s.phase = .architecture) :
    evaluate env s policy =
      if hasError s then .transition .error .architecture
      else if selfReviewMet s then .transition .selfReviewMet .archReview
      else if selfReviewPending s then .transition .selfReviewPending .architecture
      else .pending .architecture none := by
  rw [evaluate, hphase]
  simp only [guards, firedEvent_cons, firedEvent_nil]
  split_ifs <;> first | rfl | contradiction

/-- One open edge to a settled state is all there is to an advance. -/
theorem autoAdvance_of_edge (env : Environment) {s : SessionState}
    {evalFn : SessionState → EvalResult} {ctx : RailContext} {event : Event} {target : Phase}
    (hresult : evalFn s = .transition event target) (hleaves : target ≠ s.phase)
    (hopen : target ≠ .exportReady)
    (hsettled : (evalFn (applyTransitionUnchecked s s.phase target event
      (ctx.now 0))).leaves target = false) :
    autoAdvance env s evalFn ctx = .ok (.advanced
      ⟨applyTransitionUnchecked s s.phase target event (ctx.now 0),
        evalFn (applyTransitionUnchecked s s.phase target event (ctx.now 0)),
        [⟨s.phase, target, event, ctx.now 0⟩], none⟩) := by
  have hturn : advanceStep env evalFn ctx.now (advanceStart evalFn s) = .next _ :=
    (advanceStep_next_iff env).2 (.generic event target hresult hleaves hopen rfl)
  exact autoAdvance_of_turns env (.turn hturn (.none _)) (by decide) hsettled

section Services

variable {services : ArtifactServices} {session : ArchitectureSession}

/-- While its review is open an ADR stays in `ARCHITECTURE`. -/
theorem advanceArchitectureState_of_open {next : SessionState}
    (hphase : next.phase = .architecture) (herror : next.error = none)
    (hmet : selfReviewMet next = false) :
    advanceArchitectureState services session next = .ok ⟨next, [], none⟩ := by
  have hstays : (createPolicyEvalFn services.env (session.ctx services) next).leaves
      next.phase = false := by
    rw [createPolicyEvalFn, evaluate_architecture services.env _ hphase, hasError, herror, hmet,
      hphase]
    cases selfReviewPending next <;> rfl
  rw [advanceArchitectureState, autoAdvance_of_settled services.env _ hstays]

/-- The record of a settled ADR review. -/
def archReviewRecord (session : ArchitectureSession) : TransitionRecord :=
  ⟨.architecture, .archReview, .selfReviewMet, session.now 0⟩

/-- A settled review leads to the gate and waits there for a human. -/
theorem advanceArchitectureState_of_met {next : SessionState}
    (hphase : next.phase = .architecture) (herror : next.error = none)
    (hmet : selfReviewMet next = true) :
    advanceArchitectureState services session next = .ok
      ⟨applyTransitionUnchecked next .architecture .archReview .selfReviewMet (session.now 0),
        [archReviewRecord session], none⟩ := by
  have hresult : createPolicyEvalFn services.env (session.ctx services) next =
      .transition .selfReviewMet .archReview := by
    rw [createPolicyEvalFn, evaluate_architecture services.env _ hphase, hasError, herror, hmet]
    rfl
  have hleaves : Phase.archReview ≠ next.phase := by
    rw [hphase]
    decide
  have hwaits : ∀ s : SessionState, s.phase = .archReview →
      (createPolicyEvalFn services.env (session.ctx services) s).leaves .archReview =
        false := by
    intro s hgate
    rw [createPolicyEvalFn, evaluate_of_userGate services.env (by rw [hgate]; rfl),
      evaluateUserGate, autoApproves, hgate]
    rfl
  rw [advanceArchitectureState, autoAdvance_of_edge services.env hresult hleaves (by decide)
    (hwaits _ rfl), hphase]
  rfl

/-! ### The cases -/

section Cases

variable (services : ArtifactServices) (session : ArchitectureSession)

/-- The state a submission leaves, with the obligation of its review. -/
def submittedAdrState (title : String) (claims : Option CanonicalText)
    (assurance : ReviewAssuranceState) : SessionState :=
  { submittedArchitectureState session (submittedAdr services session title claims) with
    reviewAssurance := some assurance }

/-- The state a verdict leaves before the machine looks at it. -/
def reviewedAdrState (selfReview : SelfReviewLoop) (obligation : ReviewObligation)
    (invocationId : String) (findings : ReviewFindings) (revision : AdrRevision) :
    SessionState :=
  buildReviewedAdrState services session selfReview revision findings findings.overallVerdict
    (consumeArchitectureObligation services session
      (ensureReviewAssurance session.state.reviewAssurance) obligation.iteration
      obligation.planVersion invocationId)

/-- A verdict that counts: the captured one of the open obligation. -/
structure VerdictCall (architecture : ArchitectureDecision) (selfReview : SelfReviewLoop)
    (obligation : ReviewObligation) (findings : ReviewFindings) : Prop where
  phase : session.state.phase = .architecture
  architecture : session.state.architecture = some architecture
  selfReview : session.state.selfReview = some selfReview
  verdict : session.args.reviewVerdict = some findings.overallVerdict
  pending : lastOpenObligation .architecture (obligationsOf session.state) = some obligation
  captured : Captured services.toPlanServices session.state obligation findings

inductive ArchitectureMove : ArtifactAnswer → Prop
  | refused (code : String) : ArchitectureMove (.refused code)
  | instructed : ArchitectureMove .instructed
  | rearmed (other : CanonicalText) : ArchitectureMove (.rearmed
      { session.state with
        reviewAssurance := some
          { ensureReviewAssurance session.state.reviewAssurance with other := other } })
  | closed (obligation : ReviewObligation) (code : String) :
      ArchitectureMove
        (.closed (blockObligation session.state obligation.obligationId code) code)
  | restarted (architecture nextAdr : ArchitectureDecision) (selfReview : SelfReviewLoop)
      (predecessor : ReviewObligation) (revisionDelta : RevisionDelta)
      (assurance : ReviewAssuranceState)
      (hphase : session.state.phase = .architecture)
      (hadr : session.state.architecture = some architecture)
      (hloop : session.state.selfReview = some selfReview)
      (hlast : lastObligation .architecture (obligationsOf session.state) = some predecessor)
      (hblocked : predecessor.status = .blocked)
      (hrevision : resolveRestartRevision services session architecture
        (restartDigest services session) (restartDigest services session == architecture.digest) =
          .ok (nextAdr, revisionDelta))
      (hmint : mintArchitectureObligation services session session.state nextAdr
        selfReview.iteration predecessor.planVersion = .ok assurance) :
      ArchitectureMove (.restarted
        (buildRestartedState session.state architecture selfReview nextAdr
          (restartDigest services session == architecture.digest) revisionDelta assurance)
        (restartDigest services session == architecture.digest))
  | submitted (title : String) (claims : Option CanonicalText)
      (assurance : ReviewAssuranceState) (records : List TransitionRecord)
      (hphase : session.state.phase = .ready ∨ session.state.phase = .architecture)
      (hgate : session.state.phase = .architecture → session.state.selfReview.isSome = true →
        (lastObligation .architecture (obligationsOf session.state)).map (·.status) =
          some .blocked)
      (hmint : mintArchitectureObligation services session
        (submittedArchitectureState session (submittedAdr services session title claims))
        (submittedAdr services session title claims) 0 1 = .ok assurance)
      (hrecords : ∀ record ∈ records, record.fromPhase = .ready) :
      ArchitectureMove (.written
        ⟨submittedAdrState services session title claims assurance, records, none⟩)
  | settled (architecture : ArchitectureDecision) (selfReview : SelfReviewLoop)
      (obligation : ReviewObligation) (findings : ReviewFindings) (invocationId : String)
      (discarded : Bool)
      (hcall : VerdictCall services session architecture selfReview obligation findings)
      (hverdict : findings.overallVerdict = if discarded then .changesRequested else .accept)
      (hbudget : discarded = true → session.budget.iterations ≤ selfReview.iteration + 1) :
      ArchitectureMove (.written
        ⟨applyTransitionUnchecked (reviewedAdrState services session selfReview obligation
            invocationId findings (keptAdr architecture discarded)) .architecture .archReview
            .selfReviewMet (session.now 0), [archReviewRecord session], none⟩)
  | revised (architecture revised : ArchitectureDecision) (selfReview : SelfReviewLoop)
      (obligation : ReviewObligation) (findings : ReviewFindings) (invocationId : String)
      (claims : Option CanonicalText) (assurance : ReviewAssuranceState)
      (hcall : VerdictCall services session architecture selfReview obligation findings)
      (hverdict : findings.overallVerdict = .changesRequested)
      (hbudget : selfReview.iteration + 1 < session.budget.iterations)
      (hrevised : (reviewedAdrState services session selfReview obligation invocationId findings
        (supersedingAdr services architecture
          (normalizeReviewArtifactText (session.args.adrText.getD "")) claims)).architecture =
            some revised)
      (hmint : mintArchitectureObligation services session
        (reviewedAdrState services session selfReview obligation invocationId findings
          (supersedingAdr services architecture
            (normalizeReviewArtifactText (session.args.adrText.getD "")) claims)) revised
        (selfReview.iteration + 1) obligation.planVersion = .ok assurance) :
      ArchitectureMove (.written
        ⟨{ reviewedAdrState services session selfReview obligation invocationId findings
            (supersedingAdr services architecture
              (normalizeReviewArtifactText (session.args.adrText.getD "")) claims) with
            reviewAssurance := some assurance }, [], none⟩)

end Cases

/-! ### Submission -/

theorem selectArchitectureFlow_phase
    (hphase : session.state.phase = .ready ∨ session.state.phase = .architecture) :
    (selectArchitectureFlow session).phase = .architecture := by
  rw [selectArchitectureFlow]
  rcases hphase with hphase | hphase
  · rw [hphase, beq_self_eq_true, if_pos rfl]
  · rw [hphase, if_neg (by decide), hphase]

/-- A fresh review loop has not converged: its budget is positive. -/
theorem selfReviewMet_submittedAdr (adr : ArchitectureDecision) :
    selfReviewMet (submittedArchitectureState session adr) = false := by
  have hbudget : ¬ session.budget.iterations ≤ 0 := not_le.2 session.budget.positive
  simp [selfReviewMet, submittedArchitectureState, isConverged, hbudget]

theorem isCommandAllowed_architecture {phase : Phase}
    (hallowed : isCommandAllowed phase .architecture = true) :
    phase = .ready ∨ phase = .architecture := by
  revert hallowed
  cases phase <;> simp [isCommandAllowed, commandPolicy]

theorem executeArchitecture_ok {title : String} {claims : Option CanonicalText}
    {write : PlanWrite}
    (hexecute : executeArchitecture services session title claims = .ok write) :
    (session.state.phase = .ready ∨ session.state.phase = .architecture) ∧
      hasText (some title) = true ∧
      normalizeReviewArtifactText (session.args.adrText.getD "") ≠ "" ∧
      ∃ records : List TransitionRecord, (∀ record ∈ records, record.fromPhase = .ready) ∧
        write = ⟨submittedArchitectureState session (submittedAdr services session title claims),
          records, none⟩ := by
  unfold executeArchitecture at hexecute
  dsimp only at hexecute
  split at hexecute
  · cases hexecute
  rename_i hallowed
  split at hexecute
  · cases hexecute
  rename_i htitle
  split at hexecute
  · cases hexecute
  rename_i htext
  split at hexecute
  · cases hexecute
  rw [Bool.not_eq_true, Bool.not_eq_false'] at hallowed
  have hphase := isCommandAllowed_architecture hallowed
  have hadvance := @advanceArchitectureState_of_open services session
    (submittedArchitectureState session (submittedAdr services session title claims))
    (selectArchitectureFlow_phase hphase) rfl (selfReviewMet_submittedAdr _)
  rw [hadvance] at hexecute
  obtain rfl := Except.ok.inj hexecute
  refine ⟨hphase, ?_, fun hempty => htext (beq_iff_eq.2 hempty), ?_⟩
  · rw [hasText, Option.any_some, bne, Bool.eq_false_of_not_eq_true htitle]
    rfl
  · dsimp only
    split
    · exact ⟨_, List.forall_mem_singleton.2 rfl, rfl⟩
    · exact ⟨[], fun _ hmem => absurd hmem List.not_mem_nil, rfl⟩

theorem submitted_of_handleAdrSubmission {write : PlanWrite}
    (hgate : validateInitialSubmissionGate session.args session.state = none)
    (hverdict : session.args.reviewVerdict = none)
    (hsubmit : handleAdrSubmission services session = .ok write) :
    ArchitectureMove services session (.written write) := by
  unfold handleAdrSubmission at hsubmit
  split at hsubmit
  · cases hsubmit
  · cases hsubmit
  · rename_i title text htitle htext
    split at hsubmit
    · cases hsubmit
    · rename_i claims hclaims
      split at hsubmit
      · cases hsubmit
      · rename_i executed hexecute
        obtain ⟨hphase, hhas, -, records, hrecords, rfl⟩ := executeArchitecture_ok hexecute
        dsimp only [submittedArchitectureState] at hsubmit
        cases hmint : mintArchitectureObligation services session
            (submittedArchitectureState session (submittedAdr services session title claims))
            (submittedAdr services session title claims) 0 1 with
        | error code =>
            rw [submittedArchitectureState] at hmint
            rw [hmint] at hsubmit
            cases hsubmit
        | ok assurance =>
            have hminted := hmint
            rw [submittedArchitectureState] at hminted
            rw [hminted] at hsubmit
            obtain rfl := Except.ok.inj hsubmit
            refine .submitted title claims assurance records hphase ?_ hmint hrecords
            intro harchitecture hself
            rw [validateInitialSubmissionGate, hverdict, harchitecture] at hgate
            have hsome : hasText session.args.title = true := by
              rw [truthy, Option.filter_eq_some_iff] at htitle
              rw [htitle.1, hhas]
            rw [hsome, Option.isNone_eq_false_iff.2 hself] at hgate
            simp only [Option.isSome_none, Bool.not_true, Bool.false_and, Bool.or_self, bne_self_eq_false,
              Bool.false_eq_true, if_false] at hgate
            split_ifs at hgate with hblocked
            rwa [bne_iff_ne, ne_eq, Decidable.not_not] at hblocked

/-! ### Routes -/

theorem resolveReviewContinuation_blocked {reviewAssurance : Option ReviewAssuranceState}
    {obligationType : ReviewObligationType} {obligation : ReviewObligation}
    (hcontinuation : resolveReviewContinuation services reviewAssurance obligationType =
      .blocked obligation) :
    lastObligation obligationType (ensureReviewAssurance reviewAssurance).obligations =
        some obligation ∧ obligation.status = .blocked := by
  rw [resolveReviewContinuation] at hcontinuation
  split at hcontinuation
  · cases hcontinuation
  · rename_i last hlast
    split at hcontinuation <;> cases hcontinuation
    rename_i hstatus
    exact ⟨hlast, hstatus⟩

/-- A pending review is emitted, re-armed or closed, and nothing else. -/
theorem move_of_routePendingObligation (text : Option String) (now : Timestamp)
    (obligation : ReviewObligation) (continuation : PendingContinuation) :
    ArchitectureMove services session
      (routePendingObligation services session.state text now obligation continuation) := by
  have hrearm : ArchitectureMove services session
      (rearmInterruptedDispatch services session.state obligation now) := by
    rw [rearmInterruptedDispatch]
    split
    · exact .rearmed _
    · exact .closed obligation _
    · exact .refused _
  cases continuation with
  | awaitingTask =>
      rw [routePendingObligation]
      split
      · exact .refused _
      · split_ifs
        · exact .instructed
        · exact .refused _
  | interruptedDispatch =>
      rw [routePendingObligation]
      split
      · exact .refused _
      · exact hrearm
  | integrityBlocked code => exact .refused code
  | missingAttempt => exact .closed obligation _

theorem move_of_restart {predecessor : ReviewObligation} {answer : ArtifactAnswer}
    (hphase : session.state.phase = .architecture)
    (hlast : lastObligation .architecture (obligationsOf session.state) = some predecessor)
    (hblocked : predecessor.status = .blocked)
    (hrestart : restartArchitectureReview services session predecessor = some answer) :
    ArchitectureMove services session answer := by
  unfold restartArchitectureReview at hrestart
  dsimp only at hrestart
  split at hrestart
  · rename_i architecture selfReview hadr hloop
    split_ifs at hrestart
    · obtain rfl := Option.some_inj.1 hrestart
      exact .refused _
    · obtain rfl := Option.some_inj.1 hrestart
      exact .refused _
    · split at hrestart
      · obtain rfl := Option.some_inj.1 hrestart
        exact .refused _
      · rename_i nextAdr revisionDelta hrevision
        split at hrestart
        · obtain rfl := Option.some_inj.1 hrestart
          exact .refused _
        · rename_i assurance hmint
          obtain rfl := Option.some_inj.1 hrestart
          exact .restarted architecture nextAdr selfReview predecessor revisionDelta assurance
            hphase hadr hloop hlast hblocked hrevision hmint
  · cases hrestart

theorem move_of_route {answer : ArtifactAnswer}
    (hroute : routeArchitectureInitialSubmission services session = some answer) :
    ArchitectureMove services session answer := by
  unfold routeArchitectureInitialSubmission at hroute
  dsimp only at hroute
  split at hroute
  · cases hroute
  · rename_i hentered
    simp only [Bool.or_eq_true, bne_iff_ne, ne_eq, not_or, Decidable.not_not] at hentered
    split at hroute
    · obtain rfl := Option.some_inj.1 hroute
      exact move_of_routePendingObligation _ _ _ _
    · rename_i obligation hcontinuation
      obtain ⟨hlast, hblocked⟩ := resolveReviewContinuation_blocked hcontinuation
      exact move_of_restart hentered.1.1 hlast hblocked hroute
    · cases hroute
    · cases hroute

/-! ### Verdicts -/

/-- What a verdict makes of the ADR. -/
theorem applyAdrRevision_ok {architecture : ArchitectureDecision} {selfReview : SelfReviewLoop}
    {verdict : LoopVerdict} {revision : AdrRevision}
    (hloop : session.state.selfReview = some selfReview)
    (hgiven : session.args.reviewVerdict = some verdict) (hable : verdict ≠ .unableToReview)
    (hrevision : applyAdrRevision services session architecture verdict = .ok revision) :
    (∃ discarded, revision = keptAdr architecture discarded ∧
        (verdict = if discarded then .changesRequested else .accept) ∧
        (discarded = true → session.budget.iterations ≤ selfReview.iteration + 1)) ∨
      (verdict = .changesRequested ∧ selfReview.iteration + 1 < session.budget.iterations ∧
        ∃ claims, revision = supersedingAdr services architecture
          (normalizeReviewArtifactText (session.args.adrText.getD "")) claims) := by
  have hbudget : adrReviewExhaustsBudget session = true ↔
      verdict = .changesRequested ∧ session.budget.iterations ≤ selfReview.iteration + 1 := by
    simp only [adrReviewExhaustsBudget, hloop, hgiven, reviewExhaustsBudget, Bool.and_eq_true,
      beq_iff_eq, decide_eq_true_iff, Option.some_inj]
  rw [applyAdrRevision] at hrevision
  dsimp only at hrevision
  split_ifs at hrevision with hother hempty hsections hexhausts
  · obtain rfl := Except.ok.inj hrevision
    refine Or.inl ⟨false, rfl, ?_, fun hfalse => absurd hfalse Bool.false_ne_true⟩
    cases verdict with
    | accept => rfl
    | changesRequested => cases hother
    | unableToReview => exact absurd rfl hable
  · obtain rfl := Except.ok.inj hrevision
    exact Or.inl ⟨true, rfl, (hbudget.1 hexhausts).1, fun _ => (hbudget.1 hexhausts).2⟩
  · rw [bne_iff_ne, ne_eq, Decidable.not_not] at hother
    refine Or.inr ⟨hother, ?_, ?_⟩
    · by_contra hmax
      exact hexhausts (hbudget.2 ⟨hother, not_lt.1 hmax⟩)
    · cases hclaims : parseArchitectureClaimsInput services session.args.claims with
      | error code =>
          rw [hclaims] at hrevision
          cases hrevision
      | ok claims =>
          rw [hclaims] at hrevision
          exact ⟨claims, (Except.ok.inj hrevision).symm⟩

section Verdict

variable {selfReview : SelfReviewLoop} {obligation : ReviewObligation} {invocationId : String}
  {findings : ReviewFindings} {architecture : ArchitectureDecision}

/-- A verdict that keeps the ADR is the last of its loop. -/
theorem settled_of_kept {discarded : Bool}
    (hverdict : findings.overallVerdict = if discarded then .changesRequested else .accept)
    (hbudget : discarded = true → session.budget.iterations ≤ selfReview.iteration + 1) :
    selfReviewMet (reviewedAdrState services session selfReview obligation invocationId findings
      (keptAdr architecture discarded)) = true := by
  cases discarded with
  | true =>
      simp [selfReviewMet, reviewedAdrState, buildReviewedAdrState, isConverged, hbudget,
        hverdict]
  | false =>
      simp [selfReviewMet, reviewedAdrState, buildReviewedAdrState, isConverged, keptAdr,
        hverdict]

/-- The completion of a kept ADR says which verdict it was. -/
theorem adrReviewCompletion_kept {discarded : Bool} {verdict : LoopVerdict} {iteration : Nat}
    (hverdict : verdict = if discarded then .changesRequested else .accept) :
    adrReviewCompletion session (keptAdr architecture discarded) iteration verdict =
      if discarded then .reviewExhausted else .reviewerAccepted := by
  subst hverdict
  cases discarded <;> rfl

/-- A revision is reviewed in the next iteration. -/
theorem open_of_superseding {revisedText : String} {claims : Option CanonicalText}
    (hverdict : findings.overallVerdict = .changesRequested)
    (hbudget : selfReview.iteration + 1 < session.budget.iterations) :
    selfReviewMet (reviewedAdrState services session selfReview obligation invocationId findings
      (supersedingAdr services architecture revisedText claims)) = false := by
  simp [selfReviewMet, reviewedAdrState, buildReviewedAdrState, isConverged, hverdict, hbudget]

theorem adrReviewCompletion_superseding {revisedText : String} {claims : Option CanonicalText}
    {verdict : LoopVerdict} (hverdict : verdict = .changesRequested)
    (hbudget : selfReview.iteration + 1 < session.budget.iterations) :
    adrReviewCompletion session (supersedingAdr services architecture revisedText claims)
      (selfReview.iteration + 1) verdict = .pending := by
  subst hverdict
  simp [adrReviewCompletion, supersedingAdr, resolveArchitectureReviewCompletion, hbudget]

theorem persistAdrReview_settled {iteration planVersion : Nat} {write : PlanWrite}
    {settled : ArchitectureDecision} (hadr : write.state.architecture = some settled)
    (hcompletion : settled.reviewCompletion ≠ .pending) :
    persistAdrReview services session iteration planVersion write = .ok write := by
  rw [persistAdrReview, hadr]
  dsimp only
  split
  · rfl
  · rfl
  · rename_i hpending
    exact absurd hpending hcompletion

/-- A verdict that counts settles the review or revises the ADR. -/
theorem move_of_verdict {revision : AdrRevision} {write written : PlanWrite}
    (hcall : VerdictCall services session architecture selfReview obligation findings)
    (hable : findings.overallVerdict ≠ .unableToReview)
    (hrevision : applyAdrRevision services session architecture findings.overallVerdict =
      .ok revision)
    (hadvance : advanceArchitectureState services session
      (reviewedAdrState services session selfReview obligation invocationId findings revision) =
        .ok write)
    (hpersist : persistAdrReview services session (selfReview.iteration + 1)
      obligation.planVersion write = .ok written) :
    ArchitectureMove services session (.written written) := by
  rcases applyAdrRevision_ok hcall.selfReview hcall.verdict hable hrevision with
    ⟨discarded, rfl, hverdict, hbudget⟩ | ⟨hverdict, hbudget, claims, rfl⟩
  · have hmet := @settled_of_kept services session selfReview obligation invocationId findings
      architecture discarded hverdict hbudget
    have hphase : (reviewedAdrState services session selfReview obligation invocationId findings
        (keptAdr architecture discarded)).phase = .architecture := hcall.phase
    rw [advanceArchitectureState_of_met hphase rfl hmet] at hadvance
    obtain rfl := Except.ok.inj hadvance
    have hsettled : adrReviewCompletion session (keptAdr architecture discarded)
        (selfReview.iteration + 1) findings.overallVerdict ≠ .pending := by
      rw [adrReviewCompletion_kept hverdict]
      cases discarded <;> decide
    rw [@persistAdrReview_settled services session _ _ _ _ rfl hsettled] at hpersist
    obtain rfl := Except.ok.inj hpersist
    exact .settled architecture selfReview obligation findings invocationId discarded hcall
      hverdict hbudget
  · have hopen := @open_of_superseding services session selfReview obligation invocationId
      findings architecture (normalizeReviewArtifactText (session.args.adrText.getD "")) claims
      hverdict hbudget
    have hphase : (reviewedAdrState services session selfReview obligation invocationId findings
        (supersedingAdr services architecture
          (normalizeReviewArtifactText (session.args.adrText.getD "")) claims)).phase =
            .architecture := hcall.phase
    rw [advanceArchitectureState_of_open hphase rfl hopen] at hadvance
    obtain rfl := Except.ok.inj hadvance
    unfold persistAdrReview at hpersist
    split at hpersist
    · cases hpersist
    · rename_i revised hrevised
      have hpending : revised.reviewCompletion = .pending := by
        obtain rfl := Option.some_inj.1 hrevised
        exact adrReviewCompletion_superseding hverdict hbudget
      rw [hpending] at hpersist
      cases hmint : mintArchitectureObligation services session
          (reviewedAdrState services session selfReview obligation invocationId findings
            (supersedingAdr services architecture
              (normalizeReviewArtifactText (session.args.adrText.getD "")) claims)) revised
          (selfReview.iteration + 1) obligation.planVersion with
      | error code =>
          rw [hmint] at hpersist
          cases hpersist
      | ok assurance =>
          rw [hmint] at hpersist
          obtain rfl := Except.ok.inj hpersist
          exact .revised architecture revised selfReview obligation findings invocationId claims
            assurance hcall hverdict hbudget hrevised hmint

end Verdict

theorem resolveArchitectureReview_ok {pending : Option ReviewObligation}
    {findings : ReviewFindings} {invocationId : String}
    (hresolve : resolveArchitectureReview services session pending =
      .ok (findings, invocationId)) :
    ∃ obligation, pending = some obligation ∧
      Captured services.toPlanServices session.state obligation findings := by
  rw [resolveArchitectureReview] at hresolve
  split_ifs at hresolve
  exact captured_of_structured hresolve

theorem validateResolvedFindings_none {findings : ReviewFindings} {verdict : LoopVerdict}
    (hnone : validateResolvedFindings findings verdict = none) :
    findings.overallVerdict ≠ .unableToReview ∧ findings.overallVerdict = verdict := by
  rw [validateResolvedFindings] at hnone
  split_ifs at hnone with hunable hsame
  rw [beq_iff_eq] at hunable
  rw [bne_iff_ne, ne_eq, Decidable.not_not] at hsame
  exact ⟨hunable, hsame⟩

theorem move_of_handleAdrReview {verdict : LoopVerdict} {written : PlanWrite}
    (hgiven : session.args.reviewVerdict = some verdict)
    (hreview : handleAdrReview services session verdict = .ok written) :
    ArchitectureMove services session (.written written) := by
  unfold handleAdrReview at hreview
  split at hreview
  · cases hreview
  rename_i hphase
  rw [bne_iff_ne, ne_eq, Decidable.not_not] at hphase
  split at hreview
  · cases hreview
  · cases hreview
  · rename_i architecture selfReview hadr hloop
    dsimp only at hreview
    split at hreview
    · cases hreview
    · rename_i findings invocationId hresolve
      obtain ⟨obligation, hpending, hcaptured⟩ := resolveArchitectureReview_ok hresolve
      rw [hpending] at hreview
      split at hreview
      · cases hreview
      · rename_i hnone
        obtain ⟨hable, rfl⟩ := validateResolvedFindings_none hnone
        split at hreview
        · cases hreview
        · rename_i revision hrevision
          split at hreview
          · cases hreview
          · rename_i write hadvance
            exact move_of_verdict
              ⟨hphase, hadr, hloop, hgiven, hpending, hcaptured⟩ hable hrevision hadvance hreview

/-- A call of the architecture tool changes the session in one of these ways. -/
theorem architectureCall_moves (services : ArtifactServices) (session : ArchitectureSession) :
    ArchitectureMove services session (architectureCall services session) := by
  rw [architectureCall]
  split
  · exact .refused _
  · split
    · rename_i verdict hgiven
      cases hreview : handleAdrReview services session verdict with
      | error code => exact .refused code
      | ok written => exact move_of_handleAdrReview hgiven hreview
    · rename_i hverdict
      split
      · rename_i answer hroute
        exact move_of_route hroute
      · split
        · exact .refused _
        · rename_i hgate
          cases hsubmit : handleAdrSubmission services session with
          | error code => exact .refused code
          | ok write => exact submitted_of_handleAdrSubmission hgate hverdict hsubmit

/-! ### Minted obligations -/

/-- A fresh obligation for an ADR. -/
structure MintedFor (architecture : ArchitectureDecision) (obligation : ReviewObligation) :
    Prop where
  type : obligation.obligationType = .architecture
  subjectDigest : obligation.subjectDigest = architecture.digest
  status : obligation.status = .pending
  consumedAt : obligation.consumedAt = none

theorem mintArchitectureObligation_ok {state : SessionState}
    {architecture : ArchitectureDecision} {iteration planVersion : Nat}
    {assurance : ReviewAssuranceState}
    (hmint : mintArchitectureObligation services session state architecture iteration
      planVersion = .ok assurance) :
    ∃ obligation, MintedFor architecture obligation ∧
      assurance.obligations = obligationsOf state ++ [obligation] ∧
      assurance.invocations =
        (ensureReviewAssurance state.reviewAssurance).invocations := by
  rw [mintArchitectureObligation, createArchitectureObligation] at hmint
  split_ifs at hmint
  · cases hmint
  · cases hfreeze : services.freezeArchitectureContext state architecture with
    | error code =>
        rw [hfreeze] at hmint
        cases hmint
    | ok other =>
        rw [hfreeze] at hmint
        obtain rfl := Except.ok.inj hmint
        exact ⟨_, ⟨rfl, rfl, rfl, rfl⟩, rfl, rfl⟩

/-- A verdict consumes the obligation it was given for. -/
theorem consumeArchitectureObligation_eq {s : SessionState} {earlier : List ReviewObligation}
    {obligation : ReviewObligation} (invocationId : String)
    (heq : obligationsOfType .architecture (obligationsOf s) = earlier ++ [obligation]) :
    consumeArchitectureObligation services session (ensureReviewAssurance s.reviewAssurance)
        obligation.iteration obligation.planVersion invocationId =
      consumeReviewObligation services.markConsumed (ensureReviewAssurance s.reviewAssurance)
        (some obligation) (session.readings 4) (some invocationId) := by
  rw [consumeArchitectureObligation, ← obligationsOf, findLatestObligation_of_concat heq]

end Services

end GovernedRuntime.Tools
