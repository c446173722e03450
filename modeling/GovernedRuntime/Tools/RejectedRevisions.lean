/-
Implementation revisions that an independent reviewer has rejected
(`src/integration/tools/implementation/`): over every run of the session, none of them
is recorded again.
-/
import GovernedRuntime.Tools.ReviewRecords

namespace GovernedRuntime.Tools

open GovernedRuntime.Library
open GovernedRuntime.State
open GovernedRuntime.Machine
open GovernedRuntime.Rails

/-! ### Services over the records -/

/-- What the checks of a capture say, apart from its findings. -/
inductive CaptureOutcome
  | skip
  | usable
  | rejected (code : String)
  | deferred
deriving DecidableEq, Repr

structure RevisionServices where
  slots : RecordSlots
  implement : ImplementServices
  plan : PlanServices
  /-- The contract, lineage, hash and coherence checks of `evaluateStructuredInvocation`. -/
  checkCapture : SessionState → ReviewObligation → ReviewInvocation → CaptureOutcome

namespace RevisionServices

variable (services : RevisionServices)

/-- The findings of a capture are the ones it was bound with. -/
def evaluateStructuredInvocation (state : SessionState) (obligation : ReviewObligation)
    (invocation : ReviewInvocation) : StructuredEvaluation :=
  match services.slots.capturedFindings invocation.other with
  | none => .skip
  | some findings =>
      match services.checkCapture state obligation invocation with
      | .skip => .skip
      | .usable => .resolved findings
      | .rejected code => .rejected code
      | .deferred => .deferred

def planTool : PlanServices :=
  { services.plan with
    evaluateStructuredInvocation := services.evaluateStructuredInvocation
    hasCapturedFindings := fun invocation =>
      (services.slots.capturedFindings invocation.other).isSome
    markConsumed := services.slots.markConsumed }

def implementTool : ImplementServices :=
  { services.implement with
    historicallyRejected := services.slots.collectHistoricallyRejectedImplementationDigests
    resolveFindings := fun state obligation _ =>
      resolveStructuredFindings services.planTool state obligation
    appendReviewFindings := services.slots.appendFindings
    markConsumed := services.slots.markConsumed }

end RevisionServices

section Calls

variable {services : RevisionServices} {ctx : RailContext} {s t : SessionState}
  {write : ImplementWrite}

/-! ### The implementation tools -/

theorem keepsRecords_activated {tool : ImplementServices} {slots : RecordSlots}
    {iteration : Nat}
    (hactivate : activateImplementationReviewObligation tool s iteration = .ok t) :
    KeepsRecords slots s t := by
  unfold activateImplementationReviewObligation at hactivate
  split_ifs at hactivate
  · obtain rfl := Except.ok.inj hactivate
    exact .refl s
  · cases hbuild : tool.buildReviewObligation s iteration with
    | error code =>
        rw [hbuild] at hactivate
        cases hactivate
    | ok obligation =>
        rw [hbuild] at hactivate
        obtain rfl := Except.ok.inj hactivate
        exact .of_appended [obligation] rfl rfl rfl rfl

theorem sameRecords_materialize (tool : ImplementServices) (s : SessionState)
    (entryPhase : Phase) :
    SameRecords s (materializePostValidationContract tool s entryPhase) := by
  rw [materializePostValidationContract]
  dsimp only
  split_ifs <;> exact ⟨rfl, rfl⟩

theorem sameRecords_stateForAdvance (tool : ImplementServices) (s : SessionState) :
    SameRecords s (stateForAdvance tool ctx s) := by
  rw [stateForAdvance]
  split
  · exact sameRecords_materialize tool s _
  · exact sameRecords_materialize tool s _
  · exact .refl s

theorem sameRecords_advance {tool : ImplementServices} {advanced : AutoAdvanceAdvanced}
    (hadvance : advanceImplementation tool ctx s = .ok advanced) :
    SameRecords s advanced.state :=
  sameRecords_autoAdvance (advanceImplementation_ok hadvance)

theorem sameRecords_recordedState (tool : ImplementServices) (s : SessionState)
    (evidence : ImplEvidence) : SameRecords s (recordedState tool s evidence) :=
  ⟨rfl, rfl⟩

theorem keepsRecords_record {tool : ImplementServices} {slots : RecordSlots}
    {evidence : ImplEvidence} (hrecord : handleImplRecord tool s ctx evidence = .ok write) :
    KeepsRecords slots s write.state := by
  unfold handleImplRecord at hrecord
  split at hrecord
  · cases hrecord
  · split at hrecord
    · cases hrecord
    · split at hrecord
      · cases hrecord
      · dsimp only at hrecord
        split at hrecord
        · cases hrecord
        · rename_i advanced hadvance
          have hrecorded := sameRecords_recordedState tool s evidence
          have hadvanced := hrecorded.trans (sameRecords_advance hadvance)
          split at hrecord
          · split at hrecord
            · obtain rfl := Except.ok.inj hrecord
              exact hrecorded.keeps
            · cases hrecord
          · rename_i activated hactivate
            obtain rfl := Except.ok.inj hrecord
            have hsame := hadvanced.trans
              (sameRecords_materialize tool advanced.state advanced.state.phase)
            exact hsame.keeps.trans (keepsRecords_activated hactivate)

theorem sameRecords_postCheckState {tool : ImplementServices} {check : CheckRun}
    (hnext : postCheckState tool s check = some t) : SameRecords s t := by
  obtain ⟨decision, rfl⟩ := decidePostCheckCeremony_some hnext
  unfold buildNextValidationState
  constructor <;> (dsimp only; split_ifs <;> rfl)

theorem keepsRecords_check {tool : ImplementServices} {slots : RecordSlots} {check : CheckRun}
    (hrun : runCheck tool s ctx check = .ok write) : KeepsRecords slots s write.state := by
  unfold runCheck at hrun
  split at hrun
  · cases hrun
  · split at hrun
    · cases hrun
    · split at hrun
      · cases hrun
      · rename_i next hnext
        have hchecked := sameRecords_postCheckState hnext
        split at hrun
        · cases hrun
        · rename_i advanced hadvance
          have hadvanced := (hchecked.trans (sameRecords_stateForAdvance tool next)).trans
            (sameRecords_advance hadvance)
          split at hrun
          · obtain rfl := Except.ok.inj hrun
            exact hchecked.keeps
          · rename_i activated hactivate
            obtain rfl := Except.ok.inj hrun
            exact hadvanced.keeps.trans (keepsRecords_activated hactivate)

/-! ### Verdicts -/

theorem keepsRecords_appended {implementation : ImplEvidence} {submitted : ImplVerdict}
    {findings : ReviewFindings} {invocationId : String} :
    KeepsRecords services.slots s (appendImplReviewState services.implementTool s implementation
      submitted findings invocationId) := by
  refine .of_consumed ?_ rfl
  change _ <+: services.slots.findings (services.slots.appendFindings _ findings)
  rw [services.slots.findings_append]
  exact List.prefix_append _ _

theorem sameRecords_changesRequested {reviewed : SessionState} {implementation : ImplEvidence}
    {submitted : ImplVerdict} {iteration : Nat}
    (hchanges : handleChangesRequestedReview s reviewed implementation submitted iteration =
      .ok write) : SameRecords reviewed write.state := by
  unfold handleChangesRequestedReview at hchanges
  dsimp only at hchanges
  split at hchanges
  · cases hchanges
  · split at hchanges
    · cases hchanges
    · rename_i finalState happly
      obtain rfl := Except.ok.inj hchanges
      refine .trans ?_ (sameRecords_applyTransition happly)
      split_ifs <;> exact ⟨rfl, rfl⟩

theorem sameRecords_approved {tool : ImplementServices} {reviewed : SessionState}
    {submitted : ImplVerdict}
    (happroved : handleApprovedReview tool reviewed ctx submitted = .ok write) :
    SameRecords reviewed write.state := by
  unfold handleApprovedReview at happroved
  dsimp only at happroved
  split at happroved
  · cases happroved
  · rename_i gateState transitions hgate
    have hsame : SameRecords reviewed gateState := by
      split_ifs at hgate
      · cases hgate
        exact .refl reviewed
      · cases happly : applyTransition reviewed reviewed.phase .evidenceReview .reviewMet
            (submitted.readings 2) with
        | error error =>
            rw [happly] at hgate
            cases hgate
        | ok applied =>
            rw [happly] at hgate
            cases hgate
            exact sameRecords_applyTransition happly
    split_ifs at happroved
    · obtain rfl := Except.ok.inj happroved
      exact hsame
    · obtain rfl := Except.ok.inj happroved
      exact hsame
    · obtain rfl := Except.ok.inj happroved
      exact hsame
    · split at happroved
      · cases happroved
      · obtain rfl := Except.ok.inj happroved
        exact hsame
      · rename_i approved admission happlied
        obtain rfl := Except.ok.inj happroved
        obtain ⟨-, rfl, -⟩ := (applyEvidenceApproval_applied_iff tool.env).1 happlied
        exact hsame.trans (sameRecords_applied _ _ _ _ _)

theorem keepsRecords_unable {tool : ImplementServices} {slots : RecordSlots}
    {reviewed : SessionState} {submitted : ImplVerdict}
    (hunable : handleUnableToReviewSubmission tool s reviewed submitted = .ok write) :
    KeepsRecords slots reviewed write.state := by
  unfold handleUnableToReviewSubmission at hunable
  split_ifs at hunable
  split at hunable
  · cases hunable
  · obtain rfl := Except.ok.inj hunable
    exact .of_appended [_] rfl rfl rfl rfl

/-- What a verdict that is written went through. -/
structure VerdictWritten (services : RevisionServices) (s : SessionState) (ctx : RailContext)
    (submitted : ImplVerdict) (write : ImplementWrite) (implementation : ImplEvidence)
    (findings : ReviewFindings) (invocationId : String) : Prop where
  current : s.implementation = some implementation
  resolved : resolveStructuredFindings services.planTool s (findOpenImplObligation s) =
    .ok (findings, invocationId)
  verdict : findings.overallVerdict = submitted.verdict
  keeps : KeepsRecords services.slots (appendImplReviewState services.implementTool s
    implementation submitted findings invocationId) write.state

theorem verdictWritten_of_ok {submitted : ImplVerdict}
    (hverdict : handleImplReview services.implementTool s ctx submitted = .ok write) :
    ∃ implementation findings invocationId,
      VerdictWritten services s ctx submitted write implementation findings invocationId := by
  unfold handleImplReview at hverdict
  split at hverdict
  · cases hverdict
  · rename_i implementation himplementation
    split at hverdict
    · cases hverdict
    · split at hverdict
      · cases hverdict
      · split at hverdict
        · cases hverdict
        · rename_i findings invocationId hresolved
          dsimp only at hverdict
          split_ifs at hverdict with hunable hmismatch hchanges
          · rw [beq_iff_eq] at hunable
            refine ⟨implementation, findings, invocationId, himplementation, hresolved, ?_,
              keepsRecords_unable hverdict⟩
            unfold handleUnableToReviewSubmission at hverdict
            split_ifs at hverdict with hother
            rw [bne_iff_ne, ne_eq, Decidable.not_not] at hother
            rw [hunable, hother]
          · rw [bne_iff_ne, ne_eq, Decidable.not_not] at hmismatch
            exact ⟨implementation, findings, invocationId, himplementation, hresolved, hmismatch,
              (sameRecords_changesRequested hverdict).keeps⟩
          · rw [bne_iff_ne, ne_eq, Decidable.not_not] at hmismatch
            split at hverdict
            · cases hverdict
            · exact ⟨implementation, findings, invocationId, himplementation, hresolved, hmismatch,
                (sameRecords_approved hverdict).keeps⟩

theorem keepsRecords_verdict {submitted : ImplVerdict}
    (hverdict : handleImplReview services.implementTool s ctx submitted = .ok write) :
    KeepsRecords services.slots s write.state := by
  obtain ⟨implementation, findings, invocationId, hwritten⟩ := verdictWritten_of_ok hverdict
  exact keepsRecords_appended.trans hwritten.keeps

/-! ### Plans -/

theorem sameRecords_advancePlanState {tool : PlanServices} {scope : PlanExecutionScope}
    {written : PlanWrite} (hadvance : advancePlanState tool scope s = .ok written) :
    SameRecords s written.state := by
  unfold advancePlanState at hadvance
  split at hadvance
  · cases hadvance
  · cases hadvance
  · cases hadvance
  · rename_i result hresult
    obtain rfl := Except.ok.inj hadvance
    exact sameRecords_autoAdvance hresult

theorem keepsRecords_mintedPlan {tool : PlanServices} {slots : RecordSlots}
    {minted : Except String ReviewObligation} {assurance : ReviewAssuranceState}
    (hmint : minted.map (appendObligationAndInitialAttempt tool s.reviewAssurance) =
      .ok assurance) (hfindings : t.implReviewFindings = s.implReviewFindings)
    (hassurance : t.reviewAssurance = some assurance) : KeepsRecords slots s t := by
  cases minted with
  | error code => cases hmint
  | ok obligation =>
      obtain rfl := Except.ok.inj hmint
      exact .of_appended [obligation] hfindings hassurance rfl rfl

theorem keepsRecords_persistPlanReview {tool : PlanServices} {slots : RecordSlots}
    {scope : PlanExecutionScope} {revision : PlanRevisionResult} {selfReview : SelfReviewLoop}
    {written : PlanWrite}
    (hpersist : persistPlanReview tool scope revision selfReview s = .ok written) :
    KeepsRecords slots s written.state := by
  unfold persistPlanReview at hpersist
  split at hpersist
  · obtain rfl := Except.ok.inj hpersist
    rw [persistBlockedAutomaticPlanApproval]
    split_ifs
    · exact .refl s
    · exact (sameRecords_applied s _ _ _ _).keeps
  · rename_i next hprepare
    obtain ⟨certificate, rfl⟩ := prepareAutomaticPlanApproval_ok hprepare
    split at hpersist
    · cases hpersist
    · rename_i advanced hadvance
      have hsame := sameRecords_advancePlanState hadvance
      have hadvanced : SameRecords s advanced.state := ⟨hsame.findings, hsame.assurance⟩
      dsimp only at hpersist
      split_ifs at hpersist
      · obtain rfl := Except.ok.inj hpersist
        exact hadvanced.keeps
      · rw [persistNonConvergedPlanReview] at hpersist
        cases hmint : mintPlanRevisionAttempt tool scope advanced.state revision
            (selfReview.iteration + 1) with
        | error code =>
            rw [hmint] at hpersist
            cases hpersist
        | ok assurance =>
            rw [hmint] at hpersist
            obtain rfl := Except.ok.inj hpersist
            exact hadvanced.keeps.trans (keepsRecords_mintedPlan hmint rfl rfl)

theorem keepsRecords_planCall {scope : PlanExecutionScope} {written : PlanWrite}
    (hcall : planCall services.planTool scope = .ok written) :
    KeepsRecords services.slots scope.state written.state := by
  cases planCall_ok hcall with
  | submitted admitted assurance hnone hstate hphase hticket hgate hattempt hwrite =>
      rw [← hstate]
      refine .trans (keepsRecords_mintedPlan hattempt ?_ ?_)
        (sameRecords_advancePlanState hwrite).keeps
      · rfl
      · rfl
  | reviewed admitted plan selfReview obligation findings invocationId revision hstate hbudget
      hphase hticket hplan hloop hgiven hargs hverdict hpending hcaptured hrevision hwrite =>
      rw [← hstate] at hwrite ⊢
      refine .trans (.of_consumed ?_ rfl) (keepsRecords_persistPlanReview hwrite)
      exact List.prefix_rfl

/-! ### Captures -/

/-- What the host observed of a reviewer, with the ledger slots it settles. -/
structure HostCapture where
  obligationId : String
  invocation : ReviewInvocation
  status : ReviewObligationStatus
  blockedCode : Option String
  /-- The attempts and dispatches after the capture. -/
  ledger : CanonicalText

def HostCapture.settle (capture : HostCapture) (obligation : ReviewObligation) :
    ReviewObligation :=
  if obligation.obligationId != capture.obligationId then obligation
  else
    { obligation with
      status := capture.status
      blockedCode := capture.blockedCode
      invocationId := some capture.invocation.invocationId }

/-- Bind a capture to its obligation, when it attests it. -/
def bindCapture (slots : RecordSlots) (state : SessionState) (capture : HostCapture) :
    SessionState :=
  match (obligationsOf state).find? (·.obligationId == capture.obligationId),
      slots.capturedFindings capture.invocation.other with
  | some obligation, some findings =>
      if slots.validatePipelineAttestation obligation findings then
        { state with
          reviewAssurance := some
            { obligations := (obligationsOf state).map capture.settle
              invocations := invocationsOf state ++
                [{ capture.invocation with
                    obligationId := obligation.obligationId
                    obligationType := obligation.obligationType }]
              other := capture.ledger } }
      else state
  | _, _ => state

theorem keepsRecords_bindCapture {slots : RecordSlots} {capture : HostCapture} :
    KeepsRecords slots s (bindCapture slots s capture) := by
  unfold bindCapture
  split
  · rename_i obligation findings hobligation hfindings
    split_ifs with hvalid
    · constructor
      · exact List.prefix_rfl
      · intro before hbefore
        refine ⟨_, List.mem_map_of_mem hbefore, ?_⟩
        unfold HostCapture.settle
        split_ifs <;> exact ⟨rfl, rfl, rfl⟩
      · intro after hafter
        rcases List.mem_append.1 hafter with hafter | hafter
        · exact .inl ⟨after, hafter, rfl, rfl⟩
        · obtain rfl := List.mem_singleton.1 hafter
          refine .inr fun captured hcaptured => ?_
          cases hfindings.symm.trans hcaptured
          unfold RecordSlots.validatePipelineAttestation at hvalid
          split at hvalid
          · cases hvalid
          · rename_i attestation hattestation
            simp only [Bool.and_eq_true, beq_iff_eq] at hvalid
            rw [hattestation, Option.map_some, hvalid.1.1.1]
    · exact .refl s
  · exact .refl s

end Calls

/-! ### Runs -/

/-- A call of an implementation tool, a human decision or an advance; a call of the plan
tool; a capture of the host; or another write of the session. -/
inductive RevisionAction
  | tool (action : ImplementationAction)
  | plan (scope : PlanExecutionScope)
  | capture (capture : HostCapture)
  | other (next : SessionState)

/-- The state schema: obligations have ids, and no two of them have the same
(`refineAssuranceIdentityUniqueness`). -/
structure DistinctObligations (s : SessionState) : Prop where
  nodup : ((obligationsOf s).map (·.obligationId)).Nodup
  named : ∀ obligation ∈ obligationsOf s, obligation.obligationId ≠ ""

instance (s : SessionState) : Decidable (DistinctObligations s) :=
  decidable_of_iff (((obligationsOf s).map (·.obligationId)).Nodup ∧
      ∀ obligation ∈ obligationsOf s, obligation.obligationId ≠ "")
    ⟨fun h => ⟨h.1, h.2⟩, fun h => ⟨h.nodup, h.named⟩⟩

/-- A write that the schema refuses leaves the session as it is. -/
def writeRevision (s next : SessionState) : SessionState :=
  if DistinctObligations next then next else s

def revisionStep (services : RevisionServices) (s : SessionState) :
    RevisionAction → Option SessionState
  | .tool action => (implementationStep services.implementTool s action).map (writeRevision s)
  | .plan scope => (planStep services.planTool s (.call scope)).map (writeRevision s)
  | .capture capture => some (writeRevision s (bindCapture services.slots s capture))
  | .other next => some (writeRevision s next)

/-- Other writes record no findings and bind no captures, and keep the obligations. -/
structure LeavesRecords (slots : RecordSlots) (s t : SessionState) : Prop where
  findings : t.implReviewFindings = s.implReviewFindings
  obligations : ∀ before ∈ obligationsOf s, ∃ after ∈ obligationsOf t,
    SameObligation slots before after
  captures : ∀ after ∈ invocationsOf t, ∃ before ∈ invocationsOf s,
    SameCapture slots before after

/-- What the steps of a run take for granted. -/
def RevisionSurroundings (services : RevisionServices) (s : SessionState) :
    RevisionAction → Prop
  | .other next => LeavesRecords services.slots s next
  | _ => True

section Runs

variable {services : RevisionServices} {s t u : SessionState} {action : RevisionAction}

theorem LeavesRecords.keeps {slots : RecordSlots} (hleaves : LeavesRecords slots s t) :
    KeepsRecords slots s t where
  findings := hleaves.findings ▸ List.prefix_rfl
  obligations := hleaves.obligations
  captures after hafter := .inl (hleaves.captures after hafter)

theorem keepsRecords_implementationStep {action : ImplementationAction}
    (hstep : implementationStep services.implementTool s action = some t) :
    KeepsRecords services.slots s t := by
  cases action with
  | record ctx evidence =>
      obtain rfl := Option.some_inj.1 hstep
      cases hrecord : handleImplRecord services.implementTool s ctx evidence with
      | error code => exact .refl s
      | ok write => exact keepsRecords_record hrecord
  | check ctx check =>
      obtain rfl := Option.some_inj.1 hstep
      cases hrun : runCheck services.implementTool s ctx check with
      | error code => exact .refl s
      | ok write => exact keepsRecords_check hrun
  | verdict ctx submitted =>
      obtain rfl := Option.some_inj.1 hstep
      cases hverdict : handleImplReview services.implementTool s ctx submitted with
      | error code => exact .refl s
      | ok write => exact keepsRecords_verdict hverdict
  | decision ctx input =>
      obtain rfl := Option.some_inj.1 hstep
      cases hdecided : executeReviewDecision services.implementTool.env s input ctx with
      | error error => exact .refl s
      | ok answer =>
          cases answer with
          | blocked block => exact .refl s
          | ok result => exact (sameRecords_decision hdecided).keeps
  | advance ctx =>
      obtain rfl := Option.some_inj.1 hstep
      cases hadvance : advanceImplementation services.implementTool ctx s with
      | error code => exact .refl s
      | ok advanced => exact (sameRecords_advance hadvance).keeps

theorem keepsRecords_writeRevision {slots : RecordSlots} {next : SessionState}
    (hkeeps : KeepsRecords slots s next) : KeepsRecords slots s (writeRevision s next) := by
  unfold writeRevision
  split_ifs
  · exact hkeeps
  · exact .refl s

theorem keepsRecords_planStep {scope : PlanExecutionScope}
    (hstep : planStep services.planTool s (.call scope) = some t) :
    KeepsRecords services.slots s t := by
  rw [planStep] at hstep
  cases hcall : planCall services.planTool (scope.inState s) with
  | error code =>
      rw [hcall] at hstep
      obtain rfl := Option.some_inj.1 hstep
      exact .refl s
  | ok written =>
      rw [hcall] at hstep
      obtain rfl := Option.some_inj.1 hstep
      exact keepsRecords_planCall hcall

/-- No step loses a record. -/
theorem keepsRecords_step (hsurroundings : RevisionSurroundings services s action)
    (hstep : revisionStep services s action = some t) : KeepsRecords services.slots s t := by
  cases action with
  | tool action =>
      obtain ⟨next, hnext, rfl⟩ := Option.map_eq_some_iff.1 hstep
      exact keepsRecords_writeRevision (keepsRecords_implementationStep hnext)
  | plan scope =>
      obtain ⟨next, hnext, rfl⟩ := Option.map_eq_some_iff.1 hstep
      exact keepsRecords_writeRevision (keepsRecords_planStep hnext)
  | capture capture =>
      obtain rfl := Option.some_inj.1 hstep
      exact keepsRecords_writeRevision keepsRecords_bindCapture
  | other next =>
      obtain rfl := Option.some_inj.1 hstep
      exact keepsRecords_writeRevision (LeavesRecords.keeps hsurroundings)

theorem distinct_writeRevision {next : SessionState} (hs : DistinctObligations s) :
    DistinctObligations (writeRevision s next) := by
  unfold writeRevision
  split_ifs with hnext
  · exact hnext
  · exact hs

theorem distinct_step (hs : DistinctObligations s)
    (hstep : revisionStep services s action = some t) : DistinctObligations t := by
  cases action with
  | tool action =>
      obtain ⟨next, -, rfl⟩ := Option.map_eq_some_iff.1 hstep
      exact distinct_writeRevision hs
  | plan scope =>
      obtain ⟨next, -, rfl⟩ := Option.map_eq_some_iff.1 hstep
      exact distinct_writeRevision hs
  | capture capture =>
      obtain rfl := Option.some_inj.1 hstep
      exact distinct_writeRevision hs
  | other next =>
      obtain rfl := Option.some_inj.1 hstep
      exact distinct_writeRevision hs

/-- What every reachable state has. -/
structure RecordsSound (slots : RecordSlots) (s : SessionState) : Prop where
  distinct : DistinctObligations s
  attested : ∀ invocation ∈ invocationsOf s, Attested slots invocation

theorem recordsSound_step (hsound : RecordsSound services.slots s)
    (hsurroundings : RevisionSurroundings services s action)
    (hstep : revisionStep services s action = some t) : RecordsSound services.slots t where
  distinct := distinct_step hsound.distinct hstep
  attested := (keepsRecords_step hsurroundings hstep).attested hsound.attested

theorem recordsSound_of_reaches (hs : RecordsSound services.slots s)
    (hreaches : Reaches (revisionStep services) (RevisionSurroundings services) s t) :
    RecordsSound services.slots t := by
  induction hreaches with
  | refl => exact hs
  | tail _ hallowed hstep ih => exact recordsSound_step ih hallowed hstep

theorem recordsSound_hydrated (slots : RecordSlots) (input : HydrateInput) :
    RecordsSound slots (buildNewHydrateState input) where
  distinct := ⟨List.nodup_nil, fun _ hmem => absurd hmem List.not_mem_nil⟩
  attested _ hmem := absurd hmem List.not_mem_nil

/-! ### Rejected digests -/

theorem find?_of_distinct (hdistinct : DistinctObligations s) {obligation : ReviewObligation}
    (hmem : obligation ∈ obligationsOf s) :
    (obligationsOf s).reverse.find? (·.obligationId == obligation.obligationId) =
      some obligation := by
  cases hfind : (obligationsOf s).reverse.find? (·.obligationId == obligation.obligationId) with
  | none =>
      have hnone := List.find?_eq_none.1 hfind obligation (List.mem_reverse.2 hmem)
      exact absurd (beq_self_eq_true _) hnone
  | some other =>
      have hother := List.mem_reverse.1 (List.mem_of_find?_eq_some hfind)
      have hid : (other.obligationId == obligation.obligationId) = true :=
        @List.find?_some _ (fun item : ReviewObligation => item.obligationId == _) _ _ hfind
      rw [List.inj_on_of_nodup_map hdistinct.nodup hother hmem (beq_iff_eq.1 hid)]

/-- The digest that a finding rejects is the one that its obligation froze. -/
theorem rejectedDigest_eq_some_iff {slots : RecordSlots} (hdistinct : DistinctObligations s)
    {finding : ReviewFindings} {digest : String} :
    slots.rejectedDigest (obligationsOf s) finding = some digest ↔
      finding.overallVerdict = .changesRequested ∧
      ∃ obligation ∈ obligationsOf s,
        (slots.attestation finding).map (·.toolObligationId) = some obligation.obligationId ∧
        obligation.obligationType = .implement ∧
        slots.implementationScope obligation.other = some digest := by
  unfold RecordSlots.rejectedDigest
  constructor
  · intro hdigest
    split_ifs at hdigest with hverdict
    rw [bne_iff_ne, ne_eq, Decidable.not_not] at hverdict
    split at hdigest
    · cases hdigest
    · rename_i obligationId hattested
      split at hdigest
      · cases hdigest
      · rename_i obligation hfind
        split_ifs at hdigest with htype
        rw [bne_iff_ne, ne_eq, Decidable.not_not] at htype
        have hid : (obligation.obligationId == obligationId) = true :=
          @List.find?_some _ (fun item : ReviewObligation => item.obligationId == _) _ _ hfind
        refine ⟨hverdict, obligation, List.mem_reverse.1 (List.mem_of_find?_eq_some hfind), ?_,
          htype, hdigest⟩
        rw [beq_iff_eq.1 hid]
        exact (Option.filter_eq_some_iff.1 hattested).1
  · rintro ⟨hverdict, obligation, hmem, hattested, htype, hscope⟩
    have hnamed : truthy (some obligation.obligationId) = some obligation.obligationId :=
      Option.filter_eq_some_iff.2 ⟨rfl, bne_iff_ne.2 (hdistinct.named obligation hmem)⟩
    rw [if_neg (by simp [hverdict]), hattested, hnamed]
    dsimp only
    rw [find?_of_distinct hdistinct hmem]
    dsimp only
    rw [if_neg (by simp [htype]), hscope]

theorem mem_rejected_of_keeps {slots : RecordSlots} (hs : DistinctObligations s)
    (ht : DistinctObligations t) (hkeeps : KeepsRecords slots s t) {digest : String}
    (hrejected : digest ∈ slots.collectHistoricallyRejectedImplementationDigests s) :
    digest ∈ slots.collectHistoricallyRejectedImplementationDigests t := by
  obtain ⟨finding, hfinding, hdigest⟩ := List.mem_filterMap.1 hrejected
  rw [rejectedDigest_eq_some_iff hs] at hdigest
  obtain ⟨hverdict, obligation, hobligation, hattested, htype, hscope⟩ := hdigest
  obtain ⟨after, hafter, hsame⟩ := hkeeps.obligations obligation hobligation
  refine List.mem_filterMap.2 ⟨finding, hkeeps.findings.subset hfinding, ?_⟩
  rw [rejectedDigest_eq_some_iff ht]
  exact ⟨hverdict, after, hafter, hattested.trans (congrArg some hsame.obligationId.symm),
    hsame.obligationType.trans htype, hsame.scope.trans hscope⟩

/-- A rejected digest stays rejected. -/
theorem mem_rejected_of_reaches (hs : RecordsSound services.slots s) {digest : String}
    (hrejected : digest ∈ services.slots.collectHistoricallyRejectedImplementationDigests s)
    (hreaches : Reaches (revisionStep services) (RevisionSurroundings services) s t) :
    digest ∈ services.slots.collectHistoricallyRejectedImplementationDigests t := by
  induction hreaches with
  | refl => exact hrejected
  | tail hreaches hallowed hstep ih =>
      have hsound := recordsSound_of_reaches hs hreaches
      exact mem_rejected_of_keeps hsound.distinct
        (recordsSound_step hsound hallowed hstep).distinct (keepsRecords_step hallowed hstep) ih

/-! ### Verdicts and recordings -/

/-- Findings that resolve were captured for the obligation, and attest it. -/
theorem attested_of_resolve {obligation : ReviewObligation} {findings : ReviewFindings}
    {invocationId : String}
    (hattested : ∀ invocation ∈ invocationsOf s, Attested services.slots invocation)
    (hresolve : resolveStructuredFindings services.planTool s (some obligation) =
      .ok (findings, invocationId)) :
    (services.slots.attestation findings).map (·.toolObligationId) =
      some obligation.obligationId := by
  unfold resolveStructuredFindings at hresolve
  split at hresolve
  · rename_i pending assurance hpending hassurance
    obtain rfl := Option.some_inj.1 hpending
    split at hresolve
    · cases hresolve
    · obtain ⟨invocation, hmem, hevaluate⟩ := resolveFromStructuredInvocations_ok hresolve
      rw [List.mem_filter, Bool.and_eq_true, Bool.and_eq_true, beq_iff_eq] at hmem
      obtain ⟨hinvocation, ⟨hid, -⟩, -⟩ := hmem
      have hin : invocation ∈ invocationsOf s := by
        rwa [invocationsOf, hassurance]
      have hcaptured : services.slots.capturedFindings invocation.other = some findings := by
        change services.evaluateStructuredInvocation s obligation invocation = _ at hevaluate
        unfold RevisionServices.evaluateStructuredInvocation at hevaluate
        split at hevaluate
        · cases hevaluate
        · rename_i captured hcaptured
          split at hevaluate
          · cases hevaluate
          · cases hevaluate
            exact hcaptured
          · cases hevaluate
          · cases hevaluate
      rw [← hid]
      exact hattested invocation hin findings hcaptured
  · cases hresolve

/-- A rejection that is written counts from then on. -/
theorem mem_rejected_of_verdict {ctx : RailContext} {submitted : ImplVerdict}
    {write : ImplementWrite} {obligation : ReviewObligation} {digest : String}
    (hs : RecordsSound services.slots s)
    (hverdict : handleImplReview services.implementTool s ctx submitted = .ok write)
    (hchanges : submitted.verdict = .changesRequested)
    (hobligation : findOpenImplObligation s = some obligation)
    (hscope : services.slots.implementationScope obligation.other = some digest)
    (hwrite : DistinctObligations write.state) :
    digest ∈ services.slots.collectHistoricallyRejectedImplementationDigests write.state := by
  obtain ⟨implementation, findings, invocationId, hwritten⟩ := verdictWritten_of_ok hverdict
  have hresolved := hwritten.resolved
  rw [hobligation] at hresolved
  have hattested := attested_of_resolve hs.attested hresolved
  have hrecorded : findings ∈ services.slots.findings write.state.implReviewFindings := by
    refine hwritten.keeps.findings.subset ?_
    change findings ∈ services.slots.findings
      (services.slots.appendFindings s.implReviewFindings findings)
    rw [services.slots.findings_append]
    exact List.mem_append_right _ List.mem_cons_self
  have hopen : obligation ∈ obligationsOf s :=
    List.mem_reverse.1 (List.mem_of_find?_eq_some hobligation)
  have htype : obligation.obligationType = .implement := by
    have htest := @List.find?_some _ (fun item : ReviewObligation =>
      item.obligationType == .implement && isOpenReviewObligation item) _ _ hobligation
    rw [Bool.and_eq_true, beq_iff_eq] at htest
    exact htest.1
  obtain ⟨after, hafter, hsame⟩ := (keepsRecords_verdict hverdict).obligations obligation hopen
  refine List.mem_filterMap.2 ⟨findings, hrecorded, ?_⟩
  rw [rejectedDigest_eq_some_iff hwrite]
  exact ⟨hwritten.verdict.trans hchanges, after, hafter,
    hattested.trans (congrArg some hsame.obligationId.symm),
    hsame.obligationType.trans htype, hsame.scope.trans hscope⟩

/-- A recording passes the check of the rejected digests. -/
theorem not_mem_rejected_of_record {ctx : RailContext} {evidence : ImplEvidence}
    {write : ImplementWrite}
    (hrecord : handleImplRecord services.implementTool s ctx evidence = .ok write) :
    evidence.digest ∉
      services.slots.collectHistoricallyRejectedImplementationDigests s := by
  intro hrejected
  have hblock : reworkBlock services.implementTool s evidence.digest =
      some "IMPLEMENTATION_REWORK_REQUIRED" := by
    unfold reworkBlock
    rw [if_pos]
    rw [Bool.or_eq_true]
    exact .inl (List.contains_iff_mem.2 hrejected)
  unfold handleImplRecord at hrecord
  rw [hblock, Option.some_or] at hrecord
  split at hrecord
  · cases hrecord
  · split at hrecord <;> cases hrecord

/-- A digest that a reviewer has rejected is not recorded again in any later state of the
session. -/
theorem rejected_digest_never_recorded (services : RevisionServices) (input : HydrateInput)
    {s t : SessionState} {ctx : RailContext} {submitted : ImplVerdict} {write : ImplementWrite}
    {obligation : ReviewObligation} {digest : String}
    (hbefore : Reaches (revisionStep services) (RevisionSurroundings services)
      (buildNewHydrateState input) s)
    (hverdict : handleImplReview services.implementTool s ctx submitted = .ok write)
    (hchanges : submitted.verdict = .changesRequested)
    (hobligation : findOpenImplObligation s = some obligation)
    (hscope : services.slots.implementationScope obligation.other = some digest)
    (hwritten : DistinctObligations write.state)
    (hafter : Reaches (revisionStep services) (RevisionSurroundings services) write.state t)
    {recordCtx : RailContext} {evidence : ImplEvidence} {recorded : ImplementWrite}
    (hrecord : handleImplRecord services.implementTool t recordCtx evidence = .ok recorded) :
    evidence.digest ≠ digest := by
  rintro rfl
  have hs := recordsSound_of_reaches (recordsSound_hydrated services.slots input) hbefore
  have hrejected := mem_rejected_of_verdict hs hverdict hchanges hobligation hscope hwritten
  have hsound : RecordsSound services.slots write.state :=
    ⟨hwritten, (keepsRecords_verdict hverdict).attested hs.attested⟩
  exact not_mem_rejected_of_record hrecord (mem_rejected_of_reaches hsound hrejected hafter)

end Runs

/-! ### A rejection -/

def verdictTexts : List (LoopVerdict × String) :=
  [(.accept, "accept"), (.changesRequested, "changes_requested"),
    (.unableToReview, "unable_to_review")]

def findingsValue (entry : ReviewFindings) : Json Nat :=
  .array [.string ((verdictTexts.lookup entry.overallVerdict).getD ""), .string entry.other]

def readFindings : Json Nat → Option ReviewFindings
  | .array [.string verdict, .string other] =>
      (verdictTexts.find? (·.2 == verdict)).map fun found => ⟨found.1, other⟩
  | _ => none

def readFindingsText (text : CanonicalText) : List ReviewFindings :=
  match (Json.parse text : Option (Json Nat)) with
  | some (.array items) => items.filterMap readFindings
  | _ => []

def findingsText (entries : List ReviewFindings) : CanonicalText :=
  (Json.array (entries.map findingsValue)).stringify

theorem readFindings_value (entry : ReviewFindings) :
    readFindings (findingsValue entry) = some entry := by
  obtain ⟨verdict, other⟩ := entry
  cases verdict <;> rfl

theorem readFindingsText_text (entries : List ReviewFindings) :
    readFindingsText (findingsText entries) = entries := by
  have hdistinct : (Json.array (entries.map findingsValue)).distinct = true := by
    rw [Json.distinct_array, List.forall_mem_map]
    exact fun _ _ => rfl
  have hprinted : (Json.array (entries.map findingsValue)).printed =
      .array (entries.map findingsValue) := by
    rw [Json.printed_array, List.map_map]
    rfl
  have hread : readFindings ∘ findingsValue = some := funext readFindings_value
  rw [readFindingsText, findingsText, Json.parse_stringify hdistinct, hprinted]
  dsimp only
  rw [List.filterMap_map, hread, List.filterMap_some]

/-- Findings as JSON; a capture is the id that its findings attest, and an obligation the
digest it froze. -/
def sampleSlots : RecordSlots where
  findings := readFindingsText
  appendFindings text entry := findingsText (readFindingsText text ++ [entry])
  findings_append _ _ := readFindingsText_text _
  attestation entry := (truthy (some entry.other)).map fun obligationId =>
    ⟨obligationId, 1, 1, ""⟩
  implementationScope other := truthy (some other)
  mandate _ := ""
  capturedFindings other := (truthy (some other)).map fun obligationId =>
    ⟨.changesRequested, obligationId⟩
  markConsumed _ other := other
  capturedFindings_markConsumed _ _ := rfl

def sampleRevisions : RevisionServices where
  slots := sampleSlots
  implement := ceremonyServices
  plan := sampleServices
  checkCapture _ _ _ := .usable

def revisionEvidence (digest : String) : ImplEvidence :=
  { implementationId := digest
    changedFiles := ["src/app.ts"]
    domainFiles := []
    digest := digest
    diffDigest := none
    executedAt := "2024-05-01T09:00:00.000Z" }

def hydratedRevision : HydrateInput :=
  { sessionId := "s1"
    binding := ""
    now := "2024-05-01T08:00:00.000Z"
    policySnapshot := implementationSession.policySnapshot
    activeChecks := []
    claimedTaskClass := none
    initiatedBy := "alice"
    initiatedByIdentity := none
    actorInfo := none
    discoveryDigest := none
    discoverySummary := none
    detectedStack := none
    verificationCandidates := []
    executionSubjectInputsByCandidateId := "{}" }

/-- `d1` under review. -/
def reviewingRevision : SessionState :=
  { implementationSession with
    phase := .implReview
    implementation := some (revisionEvidence "d1")
    reviewAssurance := some
      { obligations :=
          [{ obligationId := "9b2e6c1a-2222-4d2e-8f0a-6c8f5d2f8a11"
             obligationType := .implement
             iteration := 1
             planVersion := 1
             createdAt := "2024-05-01T10:00:00.000Z"
             status := .pending
             invocationId := none
             blockedCode := none
             consumedAt := none
             subjectDigest := "d1"
             claimDeclarationsDigest := none
             other := "d1" }]
        invocations := []
        other := "" } }

def rejectingCapture : HostCapture :=
  { obligationId := "9b2e6c1a-2222-4d2e-8f0a-6c8f5d2f8a11"
    invocation :=
      { invocationId := "i1"
        obligationId := "9b2e6c1a-2222-4d2e-8f0a-6c8f5d2f8a11"
        obligationType := .implement
        transportVersion := some 6
        invocationMode := some "native_subagent_message_json"
        nativeProvenance := some ""
        findingsHash := "f1"
        capturedVerdict := some "changes_requested"
        other := "9b2e6c1a-2222-4d2e-8f0a-6c8f5d2f8a11" }
    status := .fulfilled
    blockedCode := none
    ledger := "" }

def capturedRevision : SessionState :=
  writeRevision reviewingRevision (bindCapture sampleSlots reviewingRevision rejectingCapture)

def rejection : ImplVerdict := ⟨.changesRequested, 3, true, fun _ => "2024-05-01T12:00:00.000Z"⟩

theorem capturedRevision_reaches :
    Reaches (revisionStep sampleRevisions) (RevisionSurroundings sampleRevisions)
      (buildNewHydrateState hydratedRevision) capturedRevision := by
  have hother : LeavesRecords sampleSlots (buildNewHydrateState hydratedRevision)
      reviewingRevision :=
    ⟨rfl, fun _ hmem => absurd hmem List.not_mem_nil, fun _ hmem => absurd hmem List.not_mem_nil⟩
  have hwritten : DistinctObligations reviewingRevision := by decide
  have hreview : Reaches (revisionStep sampleRevisions) (RevisionSurroundings sampleRevisions)
      (buildNewHydrateState hydratedRevision) reviewingRevision :=
    @Reaches.tail _ _ _ (RevisionSurroundings sampleRevisions) _ _ _ (.other reviewingRevision)
      (.refl _) hother (congrArg some (if_pos hwritten))
  exact @Reaches.tail _ _ _ (RevisionSurroundings sampleRevisions) _ _ _
    (.capture rejectingCapture) hreview trivial rfl

/-- After the rejection of `d1` the session records `d2`. -/
theorem rejected_digest_never_recorded_next :
    ∃ write recorded,
      handleImplReview sampleRevisions.implementTool capturedRevision teamContext rejection =
        .ok write ∧
      handleImplRecord sampleRevisions.implementTool write.state teamContext
        (revisionEvidence "d2") = .ok recorded ∧
      (revisionEvidence "d2").digest ≠ "d1" := by
  have hanswer :
      ((handleImplReview sampleRevisions.implementTool capturedRevision teamContext
        rejection).toOption.map fun write =>
          (decide (DistinctObligations write.state),
            (handleImplRecord sampleRevisions.implementTool write.state teamContext
              (revisionEvidence "d2")).isOk)) = some (true, true) := by decide +kernel
  have hopen : (findOpenImplObligation capturedRevision).map (·.other) = some "d1" := by
    decide +kernel
  obtain ⟨obligation, hobligation, hscope⟩ := Option.map_eq_some_iff.1 hopen
  have hfrozen : sampleSlots.implementationScope obligation.other = some "d1" := by
    rw [hscope]
    decide
  cases hverdict : handleImplReview sampleRevisions.implementTool capturedRevision teamContext
      rejection with
  | error code =>
      rw [hverdict] at hanswer
      cases hanswer
  | ok write =>
      rw [hverdict] at hanswer
      obtain ⟨hwritten, hok⟩ := Prod.mk.inj (Option.some_inj.1 hanswer)
      cases hrecord : handleImplRecord sampleRevisions.implementTool write.state teamContext
          (revisionEvidence "d2") with
      | error code =>
          rw [hrecord] at hok
          cases hok
      | ok recorded =>
          exact ⟨write, recorded, rfl, hrecord, rejected_digest_never_recorded sampleRevisions
            hydratedRevision capturedRevision_reaches hverdict rfl hobligation hfrozen
            (of_decide_eq_true hwritten) (.refl _) hrecord⟩

end GovernedRuntime.Tools
