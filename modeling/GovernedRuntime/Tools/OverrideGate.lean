/-
What a governance override at the evidence gate is about: over runs of the
implementation loop, the exhausted marker belongs to the revision at the gate, unless the
reduced ceremony brought another revision there.
-/
import GovernedRuntime.Rails.ApprovalFence
import GovernedRuntime.Risk.ReducedCeremony
import GovernedRuntime.Tools.Implementation

namespace GovernedRuntime.Tools

open GovernedRuntime.Library
open GovernedRuntime.State
open GovernedRuntime.Machine
open GovernedRuntime.Rails

/-! ### The law -/

/-- An override at the evidence gate concerns the current implementation. -/
def OverrideConcernsCurrent (s : SessionState) : Prop :=
  s.phase = .evidenceReview → requiresGovernanceOverride s = true →
    ∃ rework implementation, s.implementationRework = some rework ∧
      s.implementation = some implementation ∧ rework.rejectedDigest = implementation.digest

/-- The marker of an exhausted review is set. -/
def reviewExhausted (s : SessionState) : Bool :=
  s.implementationRework.any (·.exhausted)

/-- The reduced ceremony does not skip a review that an exhausted one asks for. -/
def CeremonyLeavesReview (env : Environment) (s : SessionState) : Prop :=
  reviewExhausted s = true → reducedCeremonyReady env s = false

/-- What a run keeps: the marker is closed in `IMPL_REVIEW`. -/
structure OverrideInvariant (s : SessionState) : Prop where
  implReview : s.phase = .implReview → s.implementationRework = none
  gate : OverrideConcernsCurrent s

theorem requiresGovernanceOverride_of_evidenceReview {s : SessionState}
    (hphase : s.phase = .evidenceReview) :
    requiresGovernanceOverride s = reviewExhausted s := by
  rw [requiresGovernanceOverride, hphase]
  rfl

/-- Outside the implementation review and its gate there is nothing to keep. -/
theorem OverrideInvariant.of_phase {s : SessionState} (hreview : s.phase ≠ .implReview)
    (hgate : s.phase ≠ .evidenceReview) : OverrideInvariant s :=
  ⟨fun hphase => absurd hphase hreview, fun hphase => absurd hphase hgate⟩

/-- A closed marker asks for no override. -/
theorem OverrideInvariant.of_not_exhausted {s : SessionState} (hreview : s.phase ≠ .implReview)
    (hopen : reviewExhausted s = false) : OverrideInvariant s := by
  refine ⟨fun hphase => absurd hphase hreview, fun hphase hrequired => ?_⟩
  rw [requiresGovernanceOverride_of_evidenceReview hphase, hopen] at hrequired
  cases hrequired

/-- What an invariant state shares with another one. -/
theorem OverrideInvariant.congr {s t : SessionState} (hinv : OverrideInvariant s)
    (hphase : t.phase = s.phase) (hrework : t.implementationRework = s.implementationRework)
    (himplementation : t.phase = .evidenceReview → t.implementation = s.implementation) :
    OverrideInvariant t := by
  constructor
  · intro hreview
    rw [hrework]
    exact hinv.implReview (hphase ▸ hreview)
  · intro hgate hrequired
    rw [himplementation hgate, hrework]
    apply hinv.gate (hphase ▸ hgate)
    rw [requiresGovernanceOverride_of_evidenceReview hgate, reviewExhausted, hrework] at hrequired
    rwa [requiresGovernanceOverride_of_evidenceReview (hphase ▸ hgate), reviewExhausted]

section Environment

variable {env : Environment} {policy : Option GatePolicy} {now : Nat → Timestamp}
  {loop next : AdvanceLoop}

/-! ### Auto-advance -/

/-- What the loop keeps. -/
structure CeremonyLoop (env : Environment) (policy : Option GatePolicy) (loop : AdvanceLoop) :
    Prop where
  result : loop.result = evaluate env loop.current policy
  invariant : OverrideInvariant loop.current
  ceremony : CeremonyLeavesReview env loop.current

theorem implementationRework_applied (s : SessionState) (fromPhase toPhase : Phase)
    (event : Event) (atTime : Timestamp) :
    (applyTransitionUnchecked s fromPhase toPhase event atTime).implementationRework =
      if fromPhase == .implValidation && toPhase == .implReview then none
      else s.implementationRework := rfl

theorem reviewExhausted_applied {s : SessionState} {fromPhase toPhase : Phase} {event : Event}
    {atTime : Timestamp}
    (hexhausted : reviewExhausted (applyTransitionUnchecked s fromPhase toPhase event atTime) =
      true) : reviewExhausted s = true := by
  rw [reviewExhausted, implementationRework_applied] at hexhausted
  split_ifs at hexhausted
  · cases hexhausted
  · exact hexhausted

theorem CeremonyLeavesReview.applied {s : SessionState} {fromPhase toPhase : Phase}
    {event : Event} {atTime : Timestamp} (hceremony : CeremonyLeavesReview env s) :
    CeremonyLeavesReview env (applyTransitionUnchecked s fromPhase toPhase event atTime) :=
  fun hexhausted => hceremony (reviewExhausted_applied hexhausted)

theorem resolveTransition_evidenceReview {phase : Phase} {event : Event}
    (hedge : resolveTransition phase event = some .evidenceReview) :
    phase = .implReview ∨ phase = .implValidation := by
  revert hedge
  cases phase <;> cases event <;> decide

/-- The two guards that lead to the evidence gate. -/
theorem evaluate_evidenceReview {s : SessionState} {event : Event}
    (hresult : evaluate env s policy = .transition event .evidenceReview) :
    s.phase = .implReview ∨
      (s.phase = .implValidation ∧ reducedCeremonyReady env s = true) := by
  rcases resolveTransition_evidenceReview (evaluate_edge env hresult) with hphase | hphase
  · exact Or.inl hphase
  · refine Or.inr ⟨hphase, ?_⟩
    rw [evaluate_implValidation env policy hphase] at hresult
    split_ifs at hresult with herror herrored hready hpassed hfailed
    all_goals first | exact hready | cases hresult

theorem resolveTransition_implReview {phase : Phase} {event : Event}
    (hedge : resolveTransition phase event = some .implReview) (hleaves : phase ≠ .implReview) :
    phase = .implValidation := by
  revert hedge hleaves
  cases phase <;> cases event <;> decide

/-- An applied transition of the machine keeps the invariant. -/
theorem OverrideInvariant.applied {s : SessionState} {event : Event} {target : Phase}
    (atTime : Timestamp) (hinv : OverrideInvariant s) (hceremony : CeremonyLeavesReview env s)
    (hresult : evaluate env s policy = .transition event target) (hleaves : target ≠ s.phase) :
    OverrideInvariant (applyTransitionUnchecked s s.phase target event atTime) := by
  by_cases hreview : target = .implReview
  · subst hreview
    have hphase := resolveTransition_implReview (evaluate_edge env hresult) hleaves.symm
    refine ⟨fun _ => ?_, fun hgate => absurd hgate Phase.noConfusion⟩
    rw [applyTransitionUnchecked, hphase]
    rfl
  · by_cases hgate : target = .evidenceReview
    · subst hgate
      apply OverrideInvariant.of_not_exhausted hreview
      by_contra hexhausted
      have hmarked := reviewExhausted_applied (Bool.eq_true_of_not_eq_false hexhausted)
      rcases evaluate_evidenceReview hresult with hphase | ⟨-, hready⟩
      · rw [reviewExhausted, hinv.implReview hphase] at hmarked
        cases hmarked
      · rw [hceremony hmarked] at hready
        cases hready
    · exact .of_phase hreview hgate

theorem CeremonyLoop.step (hloop : CeremonyLoop env policy loop)
    (hstep : advanceStep env (evaluate env · policy) now loop = .next next) :
    CeremonyLoop env policy next := by
  obtain ⟨hresult, hinv, hceremony⟩ := hloop
  cases (advanceStep_next_iff env).1 hstep with
  | generic event target htarget hleaves hopen hnext =>
      subst hnext
      exact ⟨rfl, hinv.applied _ hceremony (hresult ▸ htarget) hleaves, hceremony.applied⟩
  | approved event approved htarget hcleared happroved hnext =>
      subst hnext happroved
      exact ⟨rfl, .of_phase Phase.noConfusion Phase.noConfusion, hceremony.applied⟩

/-- Auto-advance keeps the invariant. -/
theorem overrideInvariant_of_autoAdvance {s : SessionState} {ctx : RailContext}
    {result : AutoAdvanceAdvanced} (hinv : OverrideInvariant s)
    (hceremony : CeremonyLeavesReview env s)
    (hadvance : autoAdvance env s (createPolicyEvalFn env ctx) ctx = .ok (.advanced result)) :
    OverrideInvariant result.state := by
  obtain ⟨n, -, hturns, -⟩ := autoAdvance_advanced env hadvance
  have hloop : CeremonyLoop env (ctx.policy.map (·.gate))
      (advanceStart (evaluate env · (ctx.policy.map (·.gate))) s) := ⟨rfl, hinv, hceremony⟩
  exact (hturns.invariant (fun _ _ hloop hstep => hloop.step hstep) hloop).invariant

end Environment

/-! ### What the calls write -/

section Services

variable {services : ImplementServices} {ctx : RailContext} {s : SessionState}
  {write : ImplementWrite}

/-- A minted obligation changes the assurance alone. -/
theorem OverrideInvariant.activated {activated : SessionState} {iteration : Nat}
    (hinv : OverrideInvariant s)
    (hactivate : activateImplementationReviewObligation services s iteration = .ok activated) :
    OverrideInvariant activated := by
  unfold activateImplementationReviewObligation at hactivate
  split_ifs at hactivate
  · obtain rfl := Except.ok.inj hactivate
    exact hinv
  · cases hbuild : services.buildReviewObligation s iteration with
    | error code =>
        rw [hbuild] at hactivate
        cases hactivate
    | ok obligation =>
        rw [hbuild] at hactivate
        obtain rfl := Except.ok.inj hactivate
        exact hinv.congr rfl rfl fun _ => rfl

/-- What materializing a contract leaves of a state. -/
structure SameLoop (env : Environment) (s t : SessionState) : Prop where
  phase : t.phase = s.phase
  rework : t.implementationRework = s.implementationRework
  implementation : t.implementation = s.implementation
  ceremony : reducedCeremonyReady env t = reducedCeremonyReady env s

theorem sameLoop_materialize (s : SessionState) (entryPhase : Phase) :
    SameLoop services.env s (materializePostValidationContract services s entryPhase) := by
  rw [materializePostValidationContract]
  dsimp only
  split_ifs
  · exact ⟨rfl, rfl, rfl, rfl⟩
  · exact ⟨rfl, rfl, rfl, rfl⟩
  · exact ⟨rfl, rfl, rfl, rfl⟩

theorem sameLoop_stateForAdvance (s : SessionState) :
    SameLoop services.env s (stateForAdvance services ctx s) := by
  rw [stateForAdvance]
  split
  · exact sameLoop_materialize s _
  · exact sameLoop_materialize s _
  · exact ⟨rfl, rfl, rfl, rfl⟩

theorem SameLoop.invariant {env : Environment} {t : SessionState} (hsame : SameLoop env s t)
    (hinv : OverrideInvariant s) : OverrideInvariant t :=
  hinv.congr hsame.phase hsame.rework fun _ => hsame.implementation

theorem SameLoop.leavesReview {env : Environment} {t : SessionState} (hsame : SameLoop env s t)
    (hceremony : CeremonyLeavesReview env s) : CeremonyLeavesReview env t := by
  intro hexhausted
  rw [reviewExhausted, hsame.rework] at hexhausted
  rw [hsame.ceremony]
  exact hceremony hexhausted

theorem advanceImplementation_ok {next : SessionState} {advanced : AutoAdvanceAdvanced}
    (hadvance : advanceImplementation services ctx next = .ok advanced) :
    autoAdvance services.env next (createPolicyEvalFn services.env ctx) ctx =
      .ok (.advanced advanced) := by
  rw [advanceImplementation] at hadvance
  split at hadvance
  · cases hadvance
  · cases hadvance
  · cases hadvance
  · rename_i result hresult
    obtain rfl := Except.ok.inj hadvance
    exact hresult

theorem overrideInvariant_of_advance {next : SessionState} {advanced : AutoAdvanceAdvanced}
    (hinv : OverrideInvariant next) (hceremony : CeremonyLeavesReview services.env next)
    (hadvance : advanceImplementation services ctx next = .ok advanced) :
    OverrideInvariant advanced.state :=
  overrideInvariant_of_autoAdvance hinv hceremony (advanceImplementation_ok hadvance)

/-- A fresh record has no ceremony decision. -/
theorem leavesReview_recordedState (s : SessionState) (evidence : ImplEvidence) :
    CeremonyLeavesReview services.env (recordedState services s evidence) :=
  fun _ => rfl

/-- Implementations are recorded before the gate. -/
theorem phase_of_validateImplRecordPrerequisites
    (hadmitted : validateImplRecordPrerequisites s = none) : s.phase ≠ .evidenceReview := by
  intro hphase
  rw [validateImplRecordPrerequisites, hphase] at hadmitted
  simp [isCommandAllowed, commandPolicy, blockedImplRecovery, hphase] at hadmitted

theorem overrideInvariant_of_record {evidence : ImplEvidence} (hinv : OverrideInvariant s)
    (hrecord : handleImplRecord services s ctx evidence = .ok write) :
    OverrideInvariant write.state := by
  unfold handleImplRecord at hrecord
  split at hrecord
  · cases hrecord
  · rename_i hadmitted
    have hphase := phase_of_validateImplRecordPrerequisites hadmitted
    have hrecorded : OverrideInvariant (recordedState services s evidence) :=
      hinv.congr rfl rfl fun hgate => absurd hgate hphase
    split at hrecord
    · cases hrecord
    · split at hrecord
      · cases hrecord
      · dsimp only at hrecord
        split at hrecord
        · cases hrecord
        · rename_i advanced hadvance
          have hadvanced := overrideInvariant_of_advance hrecorded
            (leavesReview_recordedState s evidence) hadvance
          split at hrecord
          · split at hrecord
            · obtain rfl := Except.ok.inj hrecord
              exact hrecorded
            · cases hrecord
          · rename_i activated hactivate
            obtain rfl := Except.ok.inj hrecord
            have hsame := @sameLoop_materialize services advanced.state
              advanced.state.phase
            exact (hsame.invariant hadvanced).activated hactivate

theorem decidePostCheckCeremony_some {env : Environment} {subjectUnchanged : Bool}
    {atTime : Timestamp} {next : SessionState}
    (hnext : decidePostCheckCeremony env s subjectUnchanged atTime = some next) :
    ∃ decision, next = { s with reducedCeremony := decision } := by
  unfold decidePostCheckCeremony at hnext
  split at hnext
  · obtain rfl := Option.some_inj.1 hnext
    exact ⟨s.reducedCeremony, rfl⟩
  · split at hnext
    · obtain rfl := Option.some_inj.1 hnext
      exact ⟨none, rfl⟩
    · dsimp only at hnext
      split_ifs at hnext <;> obtain rfl := Option.some_inj.1 hnext
      · exact ⟨none, rfl⟩
      · exact ⟨s.reducedCeremony, rfl⟩
      · exact ⟨none, rfl⟩
      · exact ⟨s.reducedCeremony, rfl⟩
      · exact ⟨_, rfl⟩

/-- A check leaves the phase it was run in. -/
theorem postCheckState_phase {check : CheckRun} {next : SessionState}
    (hnext : postCheckState services s check = some next) : next.phase = s.phase := by
  obtain ⟨decision, rfl⟩ := decidePostCheckCeremony_some hnext
  change (buildNextValidationState s _ _).phase = s.phase
  rw [buildNextValidationState]
  split_ifs <;> rfl

theorem phase_of_validateRunCheckRequest {result : ValidationResult}
    (hadmitted : validateRunCheckRequest s result = none) :
    s.phase ≠ .implReview ∧ s.phase ≠ .evidenceReview := by
  unfold validateRunCheckRequest at hadmitted
  split_ifs at hadmitted with hallowed
  constructor
  all_goals
    intro hphase
    rw [hphase] at hallowed
    exact absurd rfl hallowed

theorem overrideInvariant_of_check {check : CheckRun}
    (hceremony : ∀ next, postCheckState services s check = some next →
      CeremonyLeavesReview services.env next)
    (hrun : runCheck services s ctx check = .ok write) : OverrideInvariant write.state := by
  unfold runCheck at hrun
  split at hrun
  · cases hrun
  · rename_i hadmitted
    obtain ⟨hreview, hgate⟩ := phase_of_validateRunCheckRequest hadmitted
    split at hrun
    · cases hrun
    · split at hrun
      · cases hrun
      · rename_i next hnext
        have hphase := postCheckState_phase hnext
        have hinv : OverrideInvariant next :=
          .of_phase (hphase.trans_ne hreview) (hphase.trans_ne hgate)
        have hsame := @sameLoop_stateForAdvance services ctx next
        split at hrun
        · cases hrun
        · rename_i advanced hadvance
          have hadvanced := overrideInvariant_of_advance (hsame.invariant hinv)
            (hsame.leavesReview (hceremony next hnext)) hadvance
          split at hrun
          · obtain rfl := Except.ok.inj hrun
            exact hinv
          · rename_i activated hactivate
            obtain rfl := Except.ok.inj hrun
            exact hadvanced.activated hactivate

/-- A rejection in `IMPL_REVIEW` marks the revision it was given for. -/
theorem overrideInvariant_of_changesRequested {reviewed : SessionState}
    {implementation : ImplEvidence} {submitted : ImplVerdict} {iteration : Nat}
    (hphase : s.phase = .implReview) (hsame : reviewed.implementation = some implementation)
    (hchanges : handleChangesRequestedReview s reviewed implementation submitted iteration =
      .ok write) : OverrideInvariant write.state := by
  rw [handleChangesRequestedReview, hphase] at hchanges
  by_cases hexhausted : submitted.maxIterations ≤ iteration
  · rw [decide_eq_true hexhausted] at hchanges
    have hedge : evaluateWithEvent .implReview .reviewExhausted = some .evidenceReview := rfl
    simp only [if_true, hedge] at hchanges
    rw [applyTransition_of_ne Phase.noConfusion] at hchanges
    obtain rfl := Except.ok.inj hchanges
    exact ⟨fun hreview => absurd hreview Phase.noConfusion,
      fun _ _ => ⟨_, implementation, rfl, hsame, rfl⟩⟩
  · rw [decide_eq_false hexhausted] at hchanges
    have hedge : evaluateWithEvent .implReview .changesRequested = some .implementation := rfl
    simp only [Bool.false_eq_true, if_false, hedge] at hchanges
    rw [applyTransition_of_ne Phase.noConfusion] at hchanges
    obtain rfl := Except.ok.inj hchanges
    exact .of_phase Phase.noConfusion Phase.noConfusion

/-- An acceptance reaches the gate without a marker. -/
theorem overrideInvariant_of_approved {reviewed : SessionState} {submitted : ImplVerdict}
    (hphase : reviewed.phase = .implReview) (hrework : reviewed.implementationRework = none)
    (happroved : handleApprovedReview services reviewed ctx submitted = .ok write) :
    OverrideInvariant write.state := by
  have hinv : OverrideInvariant (applyTransitionUnchecked reviewed .implReview .evidenceReview
      .reviewMet (submitted.readings 2)) := by
    apply OverrideInvariant.of_not_exhausted Phase.noConfusion
    rw [reviewExhausted, implementationRework_applied, hrework]
    rfl
  have hopen : (Phase.implReview == Phase.evidenceReview) = false := rfl
  simp only [handleApprovedReview, hphase, hopen, Bool.false_eq_true, if_false] at happroved
  rw [applyTransition_of_ne Phase.noConfusion] at happroved
  simp only [Except.map] at happroved
  generalize applyTransitionUnchecked reviewed .implReview .evidenceReview .reviewMet
    (submitted.readings 2) = gateState at happroved hinv
  split_ifs at happroved
  · obtain rfl := Except.ok.inj happroved
    exact hinv
  · obtain rfl := Except.ok.inj happroved
    exact hinv
  · obtain rfl := Except.ok.inj happroved
    exact hinv
  · split at happroved
    · cases happroved
    · obtain rfl := Except.ok.inj happroved
      exact hinv
    · rename_i approved admission happlied
      obtain rfl := Except.ok.inj happroved
      obtain ⟨-, rfl, -⟩ := (applyEvidenceApproval_applied_iff services.env).1 happlied
      exact .of_phase Phase.noConfusion Phase.noConfusion

theorem overrideInvariant_of_unable {reviewed : SessionState} {submitted : ImplVerdict}
    (hinv : OverrideInvariant reviewed)
    (hunable : handleUnableToReviewSubmission services s reviewed submitted = .ok write) :
    OverrideInvariant write.state := by
  unfold handleUnableToReviewSubmission at hunable
  split_ifs at hunable
  split at hunable
  · cases hunable
  · obtain rfl := Except.ok.inj hunable
    exact hinv.congr rfl rfl fun _ => rfl

theorem overrideInvariant_of_verdict {submitted : ImplVerdict} (hinv : OverrideInvariant s)
    (hverdict : handleImplReview services s ctx submitted = .ok write) :
    OverrideInvariant write.state := by
  unfold handleImplReview at hverdict
  split at hverdict
  · cases hverdict
  · rename_i implementation himplementation
    split at hverdict
    · cases hverdict
    · rename_i hother
      rw [bne_iff_ne, ne_eq, Decidable.not_not] at hother
      have hrework := hinv.implReview hother
      split at hverdict
      · cases hverdict
      · split at hverdict
        · cases hverdict
        · rename_i findings invocationId hresolve
          have hreviewed : OverrideInvariant (appendImplReviewState services s implementation
              submitted findings invocationId) := hinv.congr rfl rfl fun _ => rfl
          have hsame : (appendImplReviewState services s implementation submitted findings
              invocationId).implementation = some implementation := himplementation
          have hreview : (appendImplReviewState services s implementation submitted findings
              invocationId).phase = .implReview := hother
          have hmarker : (appendImplReviewState services s implementation submitted findings
              invocationId).implementationRework = none := hrework
          dsimp only at hverdict
          split_ifs at hverdict
          · exact overrideInvariant_of_unable hreviewed hverdict
          · exact overrideInvariant_of_changesRequested hother hsame hverdict
          · split at hverdict
            · cases hverdict
            · exact overrideInvariant_of_approved hreview hmarker hverdict

/-- A human decision leads neither into the implementation review nor to its gate. -/
theorem overrideInvariant_of_decision {env : Environment} {input : ReviewDecisionInput}
    {result : RailOk} (hdecided : executeReviewDecision env s input ctx = .ok (.ok result)) :
    OverrideInvariant result.state := by
  obtain ⟨target, hdecision⟩ := executeReviewDecision_ok env hdecided
  have hphase : result.state.phase = target := by
    have happlied := hdecision.applied
    rw [← decidedState_phase env s input ctx] at happlied
    rcases applyDecisionTransition_applied env happlied with
      ⟨-, hfinal, -⟩ | ⟨htarget, -, hfinal, -⟩
    · rw [hfinal, applyTransitionUnchecked_phase]
    · rw [hfinal, applyTransitionUnchecked_phase, htarget]
  have hedges : ∀ phase event, isUserGate phase = true →
      resolveTransition phase event ≠ some .implReview ∧
        resolveTransition phase event ≠ some .evidenceReview := by
    intro phase event
    cases phase <;> cases event <;> decide
  obtain ⟨hreview, hgate⟩ := hedges _ (verdictToEvent input.verdict) hdecision.gate
  rw [hdecision.edge] at hreview hgate
  rw [← hphase] at hreview hgate
  exact .of_phase (fun h => hreview (congrArg some h)) fun h => hgate (congrArg some h)

/-! ### Runs -/

/-- A call of an implementation tool, a human decision, or an automatic advance. -/
inductive ImplementationAction
  | record (ctx : RailContext) (evidence : ImplEvidence)
  | check (ctx : RailContext) (check : CheckRun)
  | verdict (ctx : RailContext) (submitted : ImplVerdict)
  | decision (ctx : RailContext) (input : ReviewDecisionInput)
  | advance (ctx : RailContext)

/-- A refused call writes nothing. -/
def writtenState (s : SessionState) : Except String ImplementWrite → SessionState
  | .ok write => write.state
  | .error _ => s

def decidedSession (s : SessionState) : Except ProtectedTransitionError RailResult → SessionState
  | .ok (.ok result) => result.state
  | _ => s

def implementationStep (services : ImplementServices) (s : SessionState) :
    ImplementationAction → Option SessionState
  | .record ctx evidence => some (writtenState s (handleImplRecord services s ctx evidence))
  | .check ctx check => some (writtenState s (runCheck services s ctx check))
  | .verdict ctx submitted => some (writtenState s (handleImplReview services s ctx submitted))
  | .decision ctx input =>
      some (decidedSession s (executeReviewDecision services.env s input ctx))
  | .advance ctx => some
      (((advanceImplementation services ctx s).map (·.state)).toOption.getD s)

/-- While the marker of an exhausted review is set, no step finds the reduced ceremony
ready to fire. -/
def LeavesReview (services : ImplementServices) (s : SessionState) :
    ImplementationAction → Prop
  | .check _ check => ∀ next, postCheckState services s check = some next →
      CeremonyLeavesReview services.env next
  | .advance _ => CeremonyLeavesReview services.env s
  | _ => True

theorem overrideInvariant_of_written {call : Except String ImplementWrite}
    (hinv : OverrideInvariant s)
    (hwrite : ∀ write, call = .ok write → OverrideInvariant write.state) :
    OverrideInvariant (writtenState s call) := by
  cases call with
  | error code => exact hinv
  | ok write => exact hwrite write rfl

theorem implementationStep_keeps {t : SessionState} {action : ImplementationAction}
    (hinv : OverrideInvariant s) (hallowed : LeavesReview services s action)
    (hstep : implementationStep services s action = some t) : OverrideInvariant t := by
  cases action with
  | record ctx evidence =>
      obtain rfl := Option.some_inj.1 hstep
      exact overrideInvariant_of_written hinv fun _ => overrideInvariant_of_record hinv
  | check ctx check =>
      obtain rfl := Option.some_inj.1 hstep
      exact overrideInvariant_of_written hinv fun _ => overrideInvariant_of_check hallowed
  | verdict ctx submitted =>
      obtain rfl := Option.some_inj.1 hstep
      exact overrideInvariant_of_written hinv fun _ => overrideInvariant_of_verdict hinv
  | decision ctx input =>
      obtain rfl := Option.some_inj.1 hstep
      cases hdecided : executeReviewDecision services.env s input ctx with
      | error error => exact hinv
      | ok answer =>
          cases answer with
          | blocked block => exact hinv
          | ok result => exact overrideInvariant_of_decision hdecided
  | advance ctx =>
      obtain rfl := Option.some_inj.1 hstep
      cases hadvance : advanceImplementation services ctx s with
      | error code => exact hinv
      | ok advanced => exact overrideInvariant_of_advance hinv hallowed hadvance

/-- In a run without a reduced ceremony over an exhausted review, an override at the
evidence gate is about the implementation at the gate. -/
theorem override_concerns_current (services : ImplementServices) {start s : SessionState}
    (hstart : start.implementationRework = none)
    (hreaches : Reaches (implementationStep services) (LeavesReview services) start s) :
    OverrideConcernsCurrent s := by
  have hinit : OverrideInvariant start := by
    refine ⟨fun _ => hstart, fun hphase hrequired => ?_⟩
    rw [requiresGovernanceOverride_of_evidenceReview hphase, reviewExhausted, hstart] at hrequired
    cases hrequired
  have hkeeps : ∀ {s t : SessionState} {action : ImplementationAction}, OverrideInvariant s →
      LeavesReview services s action → implementationStep services s action = some t →
        OverrideInvariant t :=
    fun hinv hallowed hstep => implementationStep_keeps hinv hallowed hstep
  exact (hreaches.invariant hkeeps hinit).gate

end Services

/-! ### The run that skips the review -/

/-- Services that answer as the real ones do for a plan without claims. -/
def ceremonyServices : ImplementServices :=
  { env := Risk.riskEnvironment Risk.textHashing
    historicallyRejected := fun s =>
      -- the only findings of the run reject the first revision
      if s.implReviewFindings == "[]" then [] else ["d1"]
    materializedContract := fun _ => (⟨[]⟩, "[]")
    buildReviewObligation := fun s iteration => .ok
      { obligationId := "9b2e6c1a-2222-4d2e-8f0a-6c8f5d2f8a11"
        obligationType := .implement
        iteration := iteration
        planVersion := 1
        createdAt := "2024-05-01T10:00:00.000Z"
        status := .pending
        invocationId := none
        blockedCode := none
        consumedAt := none
        subjectDigest := (s.implementation.map (·.digest)).getD ""
        claimDeclarationsDigest := none
        other := "" }
    appendInitialAttempt := fun other _ => other
    resolveFindings := fun _ obligation verdict =>
      if obligation.isSome then .ok (⟨verdict, ""⟩, "i1") else .error "SUBAGENT_EVIDENCE_MISSING"
    appendReviewFindings := fun findings _ => findings ++ "1"
    latestFindingsIteration := fun findings => if findings == "[]" then 0 else 1
    markConsumed := fun _ other => other }

/-- An approved plan, with the implementation still to be done. -/
def implementationSession : SessionState :=
  { Risk.documentSession with
    phase := .implementation
    plan := some
      { current :=
          { body := "Plan A"
            digest := "Plan A"
            sections := []
            createdAt := "2024-05-01T08:30:00.000Z"
            revisionId := "9b2e6c1a-1111-4d2e-8f0a-6c8f5d2f8a11"
            recordDigest := ""
            planVersion := 1
            supersedesRecordDigest := none
            originatingReviewObligationId := none
            revisionReason := none }
        history := []
        reviewFindings := "[]"
        claimDeclarations := some []
        claimSubmissionDiagnostics := none
        claimSubmissionHistory := none
        approvalCertificate := none
        reviewCompletion := .reviewerAccepted }
    implementation := none
    implementationRiskAssessment := none
    reducedCeremony := none
    implValidation := []
    validationAttempts := [] }

def teamContext : RailContext := stillContext ⟨true, true, .bestEffort⟩

def recordOf (implementationId digest file : String) : ImplementationAction :=
  .record teamContext
    { implementationId := implementationId
      changedFiles := [file]
      domainFiles := []
      digest := digest
      diffDigest := none
      executedAt := "2024-05-01T09:00:00.000Z" }

def lintOf (attemptId implementationId digest : String) : ImplementationAction :=
  .check teamContext
    { subject := .implementation implementationId digest
      attemptId := attemptId
      executionObservation := ""
      result := Risk.lintResult
      subjectUnchanged := true
      decidedAt := "2024-05-01T11:00:00.000Z" }

/-- A code change is rejected on the last iteration, the human asks for changes, and the
next record is a document only. -/
def ceremonyRun : List ImplementationAction :=
  [recordOf "impl-1" "d1" "src/app.ts", lintOf "attempt-1" "impl-1" "d1",
    .verdict teamContext ⟨.changesRequested, 1, true, fun _ => "2024-05-01T12:00:00.000Z"⟩,
    .decision teamContext { soloApproval with verdict := .changesRequested },
    recordOf "impl-2" "d2" "README.md", lintOf "attempt-2" "impl-2" "d2"]

/-- The override that the last gate of the run asks for is about `d1`, while `d2` is the
implementation there. -/
theorem override_concerns_current_counterexample :
    ∃ s, Reaches (implementationStep ceremonyServices) (fun _ _ => True)
        implementationSession s ∧
      s.phase = .evidenceReview ∧ requiresGovernanceOverride s = true ∧
      s.implementationRework.map (·.rejectedDigest) = some "d1" ∧
      s.implementation.map (·.digest) = some "d2" ∧ ¬ OverrideConcernsCurrent s := by
  have hgate :
      (runSchedule (implementationStep ceremonyServices) implementationSession
        ceremonyRun).map (fun s => (s.phase, requiresGovernanceOverride s,
          s.implementationRework.map (·.rejectedDigest), s.implementation.map (·.digest)))
      = some (.evidenceReview, true, some "d1", some "d2") := by
    decide +kernel
  obtain ⟨s, hrun, hgate⟩ := Option.map_eq_some_iff.1 hgate
  simp only [Prod.mk.injEq] at hgate
  obtain ⟨hphase, hrequired, hrejected, hcurrent⟩ := hgate
  refine ⟨s, reaches_of_schedule hrun, hphase, hrequired, hrejected, hcurrent, ?_⟩
  intro hconcerns
  obtain ⟨rework, implementation, hrework, himplementation, hsame⟩ :=
    hconcerns hphase hrequired
  rw [hrework] at hrejected
  rw [himplementation] at hcurrent
  have hdigests : some "d1" = some "d2" :=
    hrejected.symm.trans ((congrArg some hsame).trans hcurrent)
  exact absurd hdigests (by decide)

/-- What `LeavesReview` asks of a step, as a test. -/
def leavesReview (services : ImplementServices) (s : SessionState) :
    ImplementationAction → Bool
  | .check _ check => (postCheckState services s check).all fun next =>
      !(reviewExhausted next && reducedCeremonyReady services.env next)
  | .advance _ => !(reviewExhausted s && reducedCeremonyReady services.env s)
  | _ => true

theorem ceremonyLeavesReview_iff (env : Environment) (s : SessionState) :
    (!(reviewExhausted s && reducedCeremonyReady env s)) = true ↔ CeremonyLeavesReview env s := by
  simp [CeremonyLeavesReview, imp_iff_not_or]

theorem leavesReview_iff (services : ImplementServices) (s : SessionState)
    (action : ImplementationAction) :
    leavesReview services s action = true ↔ LeavesReview services s action := by
  cases action with
  | check ctx check =>
      rw [leavesReview, Option.all_eq_true]
      exact forall₂_congr fun next _ => ceremonyLeavesReview_iff services.env next
  | advance ctx => exact ceremonyLeavesReview_iff services.env s
  | record ctx evidence => simp [leavesReview, LeavesReview]
  | verdict ctx submitted => simp [leavesReview, LeavesReview]
  | decision ctx input => simp [leavesReview, LeavesReview]

/-- The gate the first three steps of the run reach is about `d1`. -/
theorem override_concerns_current_rejected :
    ∃ s, s.phase = .evidenceReview ∧ requiresGovernanceOverride s = true ∧
      OverrideConcernsCurrent s := by
  have hgate :
      (runSchedule (fun s action =>
          if leavesReview ceremonyServices s action then
            implementationStep ceremonyServices s action
          else none) implementationSession (ceremonyRun.take 3)).any
        (fun s => s.phase == .evidenceReview && requiresGovernanceOverride s) = true := by
    decide +kernel
  obtain ⟨s, hrun, hreached⟩ := Option.any_eq_true .. |>.1 hgate
  obtain ⟨hphase, hrequired⟩ := Bool.and_eq_true .. ▸ hreached
  exact ⟨s, beq_iff_eq.1 hphase, hrequired, override_concerns_current ceremonyServices rfl
    (reaches_of_runSchedule (fun s action => (leavesReview_iff ceremonyServices s action).1) hrun)⟩

end GovernedRuntime.Tools
