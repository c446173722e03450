/-
The review records of a session that outlive every review round: the findings that were
recorded, the obligations with what they froze, and the captures
(`src/integration/review/evidence/rejected-digests.ts`,
`src/integration/review/dispatch/native-review-findings.ts`).
-/
import GovernedRuntime.Tools.OverrideGate
import GovernedRuntime.Tools.PlanGate

namespace GovernedRuntime.Tools

open GovernedRuntime.Library
open GovernedRuntime.State
open GovernedRuntime.Machine
open GovernedRuntime.Rails

structure ReviewAttestation where
  toolObligationId : String
  iteration : Nat
  planVersion : Nat
  /-- The mandate, the criteria version, the reviewer and the mode of the review. -/
  mandate : CanonicalText
deriving DecidableEq, Repr

/-- How the texts that hold review records are read and extended. -/
structure RecordSlots where
  /-- `implReviewFindings`. -/
  findings : CanonicalText → List ReviewFindings
  appendFindings : CanonicalText → ReviewFindings → CanonicalText
  findings_append : ∀ text entry, findings (appendFindings text entry) = findings text ++ [entry]
  attestation : ReviewFindings → Option ReviewAttestation
  /-- The digest of a `reviewSubjectScope` of kind `implementation`. -/
  implementationScope : CanonicalText → Option String
  /-- The mandate that an obligation asks its reviewer to attest. -/
  mandate : CanonicalText → CanonicalText
  /-- `capturedRawFindings` of an invocation, parsed. -/
  capturedFindings : CanonicalText → Option ReviewFindings
  markConsumed : String → CanonicalText → CanonicalText
  capturedFindings_markConsumed : ∀ obligationId text,
    capturedFindings (markConsumed obligationId text) = capturedFindings text

namespace RecordSlots

variable (slots : RecordSlots)

/-- `validatePipelineAttestation`. -/
def validatePipelineAttestation (obligation : ReviewObligation) (findings : ReviewFindings) :
    Bool :=
  match slots.attestation findings with
  | none => false
  | some attestation =>
      attestation.toolObligationId == obligation.obligationId &&
        attestation.iteration == obligation.iteration &&
        attestation.planVersion == obligation.planVersion &&
        attestation.mandate == slots.mandate obligation.other

/-- The digest that a recorded rejection is about. -/
def rejectedDigest (obligations : List ReviewObligation) (finding : ReviewFindings) :
    Option String :=
  if finding.overallVerdict != .changesRequested then none
  else
    match truthy ((slots.attestation finding).map (·.toolObligationId)) with
    | none => none
    | some obligationId =>
        -- of two obligations with one id, the map keeps the later one
        match obligations.reverse.find? (·.obligationId == obligationId) with
        | none => none
        | some obligation =>
            if obligation.obligationType != .implement then none
            else slots.implementationScope obligation.other

def collectHistoricallyRejectedImplementationDigests (state : SessionState) : List String :=
  (slots.findings state.implReviewFindings).filterMap (slots.rejectedDigest (obligationsOf state))

end RecordSlots

/-! ### What a write leaves of the records -/

section Records

variable {slots : RecordSlots} {s t u : SessionState}

/-- What identifies an obligation, and what it froze. -/
structure SameObligation (slots : RecordSlots) (before after : ReviewObligation) : Prop where
  obligationId : after.obligationId = before.obligationId
  obligationType : after.obligationType = before.obligationType
  scope : slots.implementationScope after.other = slots.implementationScope before.other

structure SameCapture (slots : RecordSlots) (before after : ReviewInvocation) : Prop where
  obligationId : after.obligationId = before.obligationId
  captured : slots.capturedFindings after.other = slots.capturedFindings before.other

/-- A capture says which obligation it is for. -/
def Attested (slots : RecordSlots) (invocation : ReviewInvocation) : Prop :=
  ∀ findings, slots.capturedFindings invocation.other = some findings →
    (slots.attestation findings).map (·.toolObligationId) = some invocation.obligationId

/-- Findings and obligations are only added, and new captures are attested. -/
structure KeepsRecords (slots : RecordSlots) (s t : SessionState) : Prop where
  findings : slots.findings s.implReviewFindings <+: slots.findings t.implReviewFindings
  obligations : ∀ before ∈ obligationsOf s, ∃ after ∈ obligationsOf t,
    SameObligation slots before after
  captures : ∀ after ∈ invocationsOf t,
    (∃ before ∈ invocationsOf s, SameCapture slots before after) ∨ Attested slots after

theorem SameObligation.refl (obligation : ReviewObligation) :
    SameObligation slots obligation obligation :=
  ⟨rfl, rfl, rfl⟩

theorem KeepsRecords.of_same (hfindings : t.implReviewFindings = s.implReviewFindings)
    (hassurance : t.reviewAssurance = s.reviewAssurance) : KeepsRecords slots s t where
  findings := hfindings ▸ List.prefix_rfl
  obligations before hbefore := by
    refine ⟨before, ?_, .refl before⟩
    rwa [obligationsOf, hassurance]
  captures after hafter := by
    rw [invocationsOf, hassurance] at hafter
    exact .inl ⟨after, hafter, rfl, rfl⟩

theorem KeepsRecords.refl (s : SessionState) : KeepsRecords slots s s := .of_same rfl rfl

theorem KeepsRecords.trans (hfirst : KeepsRecords slots s t) (hsecond : KeepsRecords slots t u) :
    KeepsRecords slots s u where
  findings := hfirst.findings.trans hsecond.findings
  obligations before hbefore := by
    obtain ⟨middle, hmiddle, hsame⟩ := hfirst.obligations before hbefore
    obtain ⟨after, hafter, hsame'⟩ := hsecond.obligations middle hmiddle
    exact ⟨after, hafter, hsame'.obligationId.trans hsame.obligationId,
      hsame'.obligationType.trans hsame.obligationType, hsame'.scope.trans hsame.scope⟩
  captures after hafter := by
    rcases hsecond.captures after hafter with ⟨middle, hmiddle, hsame⟩ | hattested
    · rcases hfirst.captures middle hmiddle with ⟨before, hbefore, hsame'⟩ | hattested
      · exact .inl ⟨before, hbefore, hsame.obligationId.trans hsame'.obligationId,
          hsame.captured.trans hsame'.captured⟩
      · refine .inr fun findings hfindings => ?_
        rw [hsame.obligationId]
        exact hattested findings (hsame.captured ▸ hfindings)
    · exact .inr hattested

theorem KeepsRecords.attested (hkeeps : KeepsRecords slots s t)
    (hattested : ∀ invocation ∈ invocationsOf s, Attested slots invocation) :
    ∀ invocation ∈ invocationsOf t, Attested slots invocation := by
  intro after hafter
  rcases hkeeps.captures after hafter with ⟨before, hbefore, hsame⟩ | hnew
  · intro findings hfindings
    rw [hsame.obligationId]
    exact hattested before hbefore findings (hsame.captured ▸ hfindings)
  · exact hnew

/-- Minted obligations come after the others. -/
theorem KeepsRecords.of_appended {assurance : ReviewAssuranceState}
    (minted : List ReviewObligation) (hfindings : t.implReviewFindings = s.implReviewFindings)
    (hassurance : t.reviewAssurance = some assurance)
    (hobligations : assurance.obligations = obligationsOf s ++ minted)
    (hinvocations : assurance.invocations = invocationsOf s) : KeepsRecords slots s t where
  findings := hfindings ▸ List.prefix_rfl
  obligations before hbefore := by
    refine ⟨before, ?_, .refl before⟩
    rw [obligationsOf, hassurance, ensureReviewAssurance, Option.getD_some, hobligations]
    exact List.mem_append_left _ hbefore
  captures after hafter := by
    rw [invocationsOf, hassurance, ensureReviewAssurance, Option.getD_some, hinvocations] at hafter
    exact .inl ⟨after, hafter, rfl, rfl⟩

theorem sameObligation_consumed (obligationId : String) (now : Timestamp)
    (obligation : ReviewObligation) :
    SameObligation slots obligation (consumedObligation obligationId now obligation) := by
  unfold consumedObligation
  split_ifs <;> exact ⟨rfl, rfl, rfl⟩

/-- Consuming an obligation changes the status of records alone. -/
theorem KeepsRecords.of_consumed {obligation : Option ReviewObligation} {now : Timestamp}
    {invocationId : Option String}
    (hfindings : slots.findings s.implReviewFindings <+: slots.findings t.implReviewFindings)
    (hassurance : t.reviewAssurance = some (consumeReviewObligation slots.markConsumed
      (ensureReviewAssurance s.reviewAssurance) obligation now invocationId)) :
    KeepsRecords slots s t where
  findings := hfindings
  obligations before hbefore := by
    rw [obligationsOf, hassurance, ensureReviewAssurance, Option.getD_some]
    cases obligation with
    | none => exact ⟨before, hbefore, .refl before⟩
    | some consumed =>
        exact ⟨_, List.mem_map_of_mem hbefore, sameObligation_consumed _ _ before⟩
  captures after hafter := by
    rw [invocationsOf, hassurance, ensureReviewAssurance, Option.getD_some] at hafter
    refine .inl ?_
    cases obligation with
    | none => exact ⟨after, hafter, rfl, rfl⟩
    | some consumed =>
        obtain ⟨before, hbefore, rfl⟩ := List.mem_map.1 hafter
        refine ⟨before, hbefore, ?_⟩
        split_ifs
        · exact ⟨rfl, slots.capturedFindings_markConsumed _ _⟩
        · exact ⟨rfl, rfl⟩

end Records

/-! ### The rails and the loops around them -/

/-- Nothing is written to the review records. -/
structure SameRecords (s t : SessionState) : Prop where
  findings : t.implReviewFindings = s.implReviewFindings
  assurance : t.reviewAssurance = s.reviewAssurance

section Rails

variable {slots : RecordSlots} {s t u : SessionState} {env : Environment} {ctx : RailContext}

theorem SameRecords.refl (s : SessionState) : SameRecords s s := ⟨rfl, rfl⟩

theorem SameRecords.trans (hfirst : SameRecords s t) (hsecond : SameRecords t u) :
    SameRecords s u :=
  ⟨hsecond.findings.trans hfirst.findings, hsecond.assurance.trans hfirst.assurance⟩

theorem SameRecords.keeps (hsame : SameRecords s t) : KeepsRecords slots s t :=
  .of_same hsame.findings hsame.assurance

theorem sameRecords_applied (s : SessionState) (fromPhase toPhase : Phase) (event : Event)
    (atTime : Timestamp) :
    SameRecords s (applyTransitionUnchecked s fromPhase toPhase event atTime) :=
  ⟨rfl, rfl⟩

theorem sameRecords_autoAdvance {evalFn : SessionState → EvalResult}
    {result : AutoAdvanceAdvanced}
    (hadvance : autoAdvance env s evalFn ctx = .ok (.advanced result)) :
    SameRecords s result.state where
  findings := @autoAdvance_keeps env _ (·.implReviewFindings) (fun _ _ _ _ _ => rfl) _ _ _ _ hadvance
  assurance := @autoAdvance_keeps env _ (·.reviewAssurance) (fun _ _ _ _ _ => rfl) _ _ _ _ hadvance

theorem sameRecords_applyTransition {fromPhase toPhase : Phase} {event : Event}
    {atTime : Timestamp} (happly : applyTransition s fromPhase toPhase event atTime = .ok t) :
    SameRecords s t := by
  unfold applyTransition at happly
  split_ifs at happly
  obtain rfl := Except.ok.inj happly
  exact sameRecords_applied s fromPhase toPhase event atTime

theorem sameRecords_clearing (s : SessionState) (verdict : ReviewVerdict) :
    SameRecords s (applyStateClearingPattern s verdict) := by
  unfold applyStateClearingPattern
  split_ifs
  · exact ⟨rfl, rfl⟩
  · exact .refl s
  · exact .refl s
  · split <;> exact ⟨rfl, rfl⟩

theorem sameRecords_decided (s : SessionState) (input : ReviewDecisionInput) :
    SameRecords s (decidedState env s input ctx) := by
  refine .trans ?_ (sameRecords_clearing _ _)
  constructor
  · change (approvalCertificatePatch env s input _ ctx _ _).implReviewFindings = _
    unfold approvalCertificatePatch
    split_ifs <;> rfl
  · change (approvalCertificatePatch env s input _ ctx _ _).reviewAssurance = _
    unfold approvalCertificatePatch
    split_ifs <;> rfl

theorem sameRecords_decision {input : ReviewDecisionInput} {result : RailOk}
    (hdecided : executeReviewDecision env s input ctx = .ok (.ok result)) :
    SameRecords s result.state := by
  obtain ⟨target, hdecision⟩ := executeReviewDecision_ok env hdecided
  have happlied := hdecision.applied
  rw [← decidedState_phase env s input ctx] at happlied
  rcases applyDecisionTransition_applied env happlied with ⟨-, hfinal, -⟩ | ⟨-, -, hfinal, -⟩
  · exact hfinal ▸ (sameRecords_decided s input).trans (sameRecords_applied _ _ _ _ _)
  · exact hfinal ▸ (sameRecords_decided s input).trans (sameRecords_applied _ _ _ _ _)

end Rails

end GovernedRuntime.Tools
