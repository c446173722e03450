/-
What stands at the architecture gate: over every run of ADR submissions, verdicts,
restarts and human decisions, the ADR that leaves `ARCHITECTURE` for `ARCH_REVIEW` is the
reviewed one, and which review the gate resolves for it.
-/
import GovernedRuntime.Rails.ReviewDecision
import GovernedRuntime.Tools.ArchitectureMoves

namespace GovernedRuntime.Tools

open GovernedRuntime.Library
open GovernedRuntime.State
open GovernedRuntime.Machine
open GovernedRuntime.Rails

/-! ### A review loop -/

/-- At most the last obligation of a type is open; it has its verdict, or its subject is
still under review. -/
structure ReviewLoopInvariant (obligationType : ReviewObligationType)
    (underReview : String → Prop) (obligations : List ReviewObligation) : Prop where
  onlyLast : OnlyLastOpen obligationType obligations
  last : ∀ last, lastObligation obligationType obligations = some last →
    VerdictGiven last ∨ (last.consumedAt = none ∧ underReview last.subjectDigest)

namespace ReviewLoopInvariant

variable {obligationType : ReviewObligationType} {underReview : String → Prop}
  {obligations : List ReviewObligation}

theorem of_none (hnone : obligationsOfType obligationType obligations = []) :
    ReviewLoopInvariant obligationType underReview obligations := by
  constructor
  · rw [OnlyLastOpen, hnone]
    exact fun _ hmem => absurd hmem List.not_mem_nil
  · intro last hlast
    rw [lastObligation_eq_getLast?, hnone] at hlast
    cases hlast

/-- The last obligation of the type is as the invariant has it, the others are closed. -/
theorem of_concat {earlier : List ReviewObligation} {last : ReviewObligation}
    (hclosed : ∀ obligation ∈ earlier, isOpenReviewObligation obligation = false)
    (hlast : VerdictGiven last ∨ (last.consumedAt = none ∧ underReview last.subjectDigest))
    (heq : obligationsOfType obligationType obligations = earlier ++ [last]) :
    ReviewLoopInvariant obligationType underReview obligations := by
  constructor
  · rw [OnlyLastOpen, heq, List.dropLast_concat]
    exact hclosed
  · intro found hfound
    rw [lastObligation_eq_getLast?, heq, List.getLast?_concat] at hfound
    obtain rfl := Option.some_inj.1 hfound
    exact hlast

/-- Only what is under review matters of the session. -/
theorem mono {other : String → Prop} (hinv : ReviewLoopInvariant obligationType underReview
      obligations) (hmono : ∀ last, lastObligation obligationType obligations = some last →
      last.consumedAt = none → underReview last.subjectDigest → other last.subjectDigest) :
    ReviewLoopInvariant obligationType other obligations :=
  ⟨hinv.onlyLast, fun last hlast => (hinv.last last hlast).imp_right fun hreview =>
    ⟨hreview.1, hmono last hlast hreview.1 hreview.2⟩⟩

/-- The ledger keeps the invariant. -/
theorem ledger {after : List ReviewObligation}
    (hinv : ReviewLoopInvariant obligationType underReview obligations)
    (hstep : LedgerStep (obligationsOfType obligationType obligations)
      (obligationsOfType obligationType after)) :
    ReviewLoopInvariant obligationType underReview after := by
  obtain ⟨hevolves, hearlier⟩ := hstep
  refine ⟨forall_mem_of_forall₂ (fun hstays => hstays) hearlier hinv.onlyLast, ?_⟩
  intro last hlast
  have hbefore := hinv.last
  rw [lastObligation_eq_getLast?] at hlast
  rcases List.eq_nil_or_concat' (obligationsOfType obligationType obligations) with
    heq | ⟨earlier, previous, heq⟩
  · rw [heq, List.forall₂_nil_left_iff] at hevolves
    rw [hevolves] at hlast
    cases hlast
  · rw [heq] at hevolves
    obtain ⟨init, found, hafter, -, hfound⟩ := exists_of_forall₂_concat hevolves
    rw [hafter, List.getLast?_concat] at hlast
    obtain rfl := Option.some_inj.1 hlast
    rw [lastObligation_eq_getLast?, heq, List.getLast?_concat] at hbefore
    rcases hbefore previous rfl with hgiven | ⟨hunconsumed, hreview⟩
    · exact Or.inl (hfound.verdictGiven hgiven)
    · exact Or.inr ⟨hfound.consumedAt.trans hunconsumed, hfound.subjectDigest ▸ hreview⟩

/-- A fresh obligation comes when no other is open. -/
theorem minted {obligation : ReviewObligation}
    (hclosed : ∀ other ∈ obligationsOfType obligationType obligations,
      isOpenReviewObligation other = false)
    (htype : obligation.obligationType = obligationType) (hfresh : obligation.consumedAt = none)
    (hreview : underReview obligation.subjectDigest) :
    ReviewLoopInvariant obligationType underReview (obligations ++ [obligation]) :=
  of_concat hclosed (Or.inr ⟨hfresh, hreview⟩)
    (obligationsOfType_append obligations obligation htype)

/-- An open obligation is the last one, and its subject is under review. -/
theorem opened (hinv : ReviewLoopInvariant obligationType underReview obligations)
    {obligation : ReviewObligation}
    (hopen : lastOpenObligation obligationType obligations = some obligation) :
    (∃ earlier, obligationsOfType obligationType obligations = earlier ++ [obligation]) ∧
      underReview obligation.subjectDigest := by
  obtain ⟨earlier, heq⟩ := eq_concat_of_lastOpen hinv.onlyLast hopen
  refine ⟨⟨earlier, heq⟩, ?_⟩
  have hlast : lastObligation obligationType obligations = some obligation := by
    rw [lastObligation_eq_getLast?, heq, List.getLast?_concat]
  rcases hinv.last obligation hlast with hgiven | hreview
  · exact absurd (isOpen_of_lastOpen hopen) (Bool.not_eq_true _ ▸ hgiven.closed)
  · exact hreview.2

/-- No obligation is open when the last one is closed. -/
theorem closed (hinv : ReviewLoopInvariant obligationType underReview obligations)
    (hlast : ∀ last, lastObligation obligationType obligations = some last →
      isOpenReviewObligation last = false) :
    ∀ obligation ∈ obligationsOfType obligationType obligations,
      isOpenReviewObligation obligation = false := by
  have honly := hinv.onlyLast
  rcases List.eq_nil_or_concat' (obligationsOfType obligationType obligations) with
    heq | ⟨earlier, last, heq⟩
  · intro obligation hmem
    rw [heq] at hmem
    exact absurd hmem List.not_mem_nil
  · rw [OnlyLastOpen, heq, List.dropLast_concat] at honly
    have hend : isOpenReviewObligation last = false := hlast last (by
      rw [lastObligation_eq_getLast?, heq, List.getLast?_concat])
    rw [heq]
    exact List.forall_mem_append.2 ⟨honly, List.forall_mem_singleton.2 hend⟩

end ReviewLoopInvariant

/-! ### Runs of the architecture flow -/

/-- The digest of an ADR whose review is open, in a session that ended or that is in
`ARCHITECTURE`. -/
def AdrUnderReview (s : SessionState) (digest : String) : Prop :=
  isTerminal s.phase = true ∨ (s.phase = .architecture ∧ s.selfReview.isSome = true ∧
    ∃ architecture, s.architecture = some architecture ∧ architecture.digest = digest)

def ArchitectureReviewInvariant (s : SessionState) : Prop :=
  ReviewLoopInvariant .architecture (AdrUnderReview s) (obligationsOf s)

/-- What another command does to the ADR reviews: the obligations stay, and while the
verdict of one is still to come the session keeps its review or ends. -/
structure ArchitectureSessionStep (before after : SessionState) : Prop where
  obligations : obligationsOfType .architecture (obligationsOf after) =
    obligationsOfType .architecture (obligationsOf before)
  review : (∀ last, lastObligation .architecture (obligationsOf before) = some last →
      last.consumedAt.isSome = true) ∨ isTerminal after.phase = true ∨
    (after.phase = before.phase ∧ after.selfReview = before.selfReview ∧
      after.architecture = before.architecture)

/-- A call of the architecture tool, a human decision, a step of the review ledger
(captures, re-arms, blocks), or another command of the session. -/
inductive ArchitectureAction
  | call (session : ArchitectureSession)
  | decide (input : ReviewDecisionInput) (ctx : RailContext)
  | ledger (assurance : ReviewAssuranceState)
  | session (next : SessionState)

def ArchitectureSession.inState (session : ArchitectureSession) (s : SessionState) :
    ArchitectureSession :=
  { session with state := s }

/-- One step; a refused call or decision writes nothing. -/
def architectureStep (services : ArtifactServices) (s : SessionState) :
    ArchitectureAction → Option SessionState
  | .call session => some ((architectureCall services (session.inState s)).stateAfter s)
  | .decide input ctx =>
      match executeReviewDecision services.env s input ctx with
      | .ok (.ok result) => some result.state
      | _ => some s
  | .ledger assurance => some { s with reviewAssurance := some assurance }
  | .session next => some next

def ArchitectureSurroundings (s : SessionState) : ArchitectureAction → Prop
  | .call _ => True
  | .decide _ _ => True
  | .ledger assurance => LedgerStep (obligationsOfType .architecture (obligationsOf s))
      (obligationsOfType .architecture assurance.obligations)
  | .session next => ArchitectureSessionStep s next

section Invariant

variable {services : ArtifactServices} {session : ArchitectureSession}

/-- While the tool is admitted, an open review is one of the current ADR. -/
theorem AdrUnderReview.current {s : SessionState} {digest : String}
    (hreview : AdrUnderReview s digest) (hphase : s.phase = .ready ∨ s.phase = .architecture) :
    s.phase = .architecture ∧ s.selfReview.isSome = true ∧
      ∃ architecture, s.architecture = some architecture ∧ architecture.digest = digest := by
  rcases hreview with hterminal | hcurrent
  · rcases hphase with hphase | hphase <;> rw [hphase] at hterminal <;> cases hterminal
  · exact hcurrent

theorem blockedObligation_type (obligationId code : String) (obligation : ReviewObligation) :
    (blockedObligation obligationId code obligation).obligationType =
      obligation.obligationType := by
  rw [blockedObligation]
  split_ifs <;> rfl

/-- Blocking an obligation is a step of the ledger. -/
theorem ledgerStep_blockObligation (obligationType : ReviewObligationType)
    (obligationId code : String) (obligations : List ReviewObligation) :
    LedgerStep (obligationsOfType obligationType obligations)
      (obligationsOfType obligationType
        (obligations.map (blockedObligation obligationId code))) := by
  have hstays : ∀ obligation, StaysClosed obligation
      (blockedObligation obligationId code obligation) := by
    intro obligation hclosed
    rw [blockedObligation]
    split_ifs
    · exact hclosed
    · rfl
  rw [obligationsOfType_map (blockedObligation_type _ _)]
  constructor
  · rw [List.forall₂_map_right_iff, List.forall₂_same]
    intro obligation _
    rw [blockedObligation]
    split_ifs
    · exact ⟨rfl, rfl, rfl, rfl, rfl, rfl, VerdictGiven.closed⟩
    · exact ⟨rfl, rfl, rfl, rfl, rfl, rfl, fun _ => rfl⟩
  · rw [← List.map_dropLast, List.forall₂_map_right_iff, List.forall₂_same]
    exact fun obligation _ => hstays obligation

theorem obligationsOf_reviewedAdrState {s : SessionState} {earlier : List ReviewObligation}
    {selfReview : SelfReviewLoop} {obligation : ReviewObligation} {invocationId : String}
    {findings : ReviewFindings} {revision : AdrRevision} (hstate : session.state = s)
    (heq : obligationsOfType .architecture (obligationsOf s) = earlier ++ [obligation]) :
    obligationsOf (reviewedAdrState services session selfReview obligation invocationId findings
        revision) =
      (obligationsOf s).map (consumedObligation obligation.obligationId (session.readings 4)) := by
  subst hstate
  rw [obligationsOf, reviewedAdrState, buildReviewedAdrState,
    consumeArchitectureObligation_eq invocationId heq]
  rfl

/-- A verdict that counts was asked for the current ADR. -/
theorem VerdictCall.subject {architecture : ArchitectureDecision} {selfReview : SelfReviewLoop}
    {obligation : ReviewObligation} {findings : ReviewFindings}
    (hcall : VerdictCall services session architecture selfReview obligation findings)
    (hinv : ArchitectureReviewInvariant session.state) :
    (∃ earlier, obligationsOfType .architecture (obligationsOf session.state) =
        earlier ++ [obligation]) ∧ architecture.digest = obligation.subjectDigest := by
  obtain ⟨hlast, hreview⟩ := ReviewLoopInvariant.opened hinv hcall.pending
  obtain ⟨-, -, current, hcurrent, hdigest⟩ := hreview.current (Or.inr hcall.phase)
  obtain rfl := Option.some_inj.1 (hcall.architecture.symm.trans hcurrent)
  exact ⟨hlast, hdigest⟩

/-- No review is open where a submission or a restart is admitted. -/
theorem noOpen_of_admitted {s : SessionState} (hinv : ArchitectureReviewInvariant s)
    (hphase : s.phase = .ready ∨ s.phase = .architecture)
    (hgate : s.phase = .architecture → s.selfReview.isSome = true →
      (lastObligation .architecture (obligationsOf s)).map (·.status) = some .blocked) :
    ∀ obligation ∈ obligationsOfType .architecture (obligationsOf s),
      isOpenReviewObligation obligation = false := by
  apply ReviewLoopInvariant.closed hinv
  intro last hlast
  rcases hinv.last last hlast with hgiven | ⟨-, hreview⟩
  · exact hgiven.closed
  · obtain ⟨harchitecture, hself, -⟩ := hreview.current hphase
    have hblocked := hgate harchitecture hself
    rw [hlast, Option.map_some, Option.some_inj] at hblocked
    rw [isOpenReviewObligation, hblocked]
    rfl

/-- A review that is opened for the ADR of a state in `ARCHITECTURE`. -/
theorem minted_invariant {t : SessionState} {obligations : List ReviewObligation}
    {architecture : ArchitectureDecision} {obligation : ReviewObligation}
    (hclosed : ∀ other ∈ obligationsOfType .architecture obligations,
      isOpenReviewObligation other = false)
    (hminted : MintedFor architecture obligation)
    (happended : obligationsOf t = obligations ++ [obligation]) (hphase : t.phase = .architecture)
    (hself : t.selfReview.isSome = true) (hadr : t.architecture = some architecture) :
    ArchitectureReviewInvariant t := by
  rw [ArchitectureReviewInvariant, happended]
  exact ReviewLoopInvariant.minted hclosed hminted.type hminted.consumedAt
    (Or.inr ⟨hphase, hself, architecture, hadr, hminted.subjectDigest.symm⟩)

theorem architectureMove_keeps {answer : ArtifactAnswer}
    (hinv : ArchitectureReviewInvariant session.state)
    (hmove : ArchitectureMove services session answer) :
    ArchitectureReviewInvariant (answer.stateAfter session.state) := by
  cases hmove with
  | refused code => exact hinv
  | instructed => exact hinv
  | rearmed other => exact hinv
  | closed obligation code =>
      exact ReviewLoopInvariant.ledger hinv
        (ledgerStep_blockObligation .architecture obligation.obligationId code _)
  | restarted architecture nextAdr selfReview predecessor revisionDelta assurance hphase hadr
      hloop hlast hblocked hrevision hmint =>
      obtain ⟨obligation, hminted, happended, -⟩ := mintArchitectureObligation_ok hmint
      have hclosed := noOpen_of_admitted hinv (Or.inr hphase) fun _ _ => by
        rw [hlast, Option.map_some, hblocked]
      exact minted_invariant hclosed hminted happended hphase rfl rfl
  | submitted title claims assurance records hphase hgate hmint hrecords =>
      obtain ⟨obligation, hminted, happended, -⟩ := mintArchitectureObligation_ok hmint
      have hclosed := noOpen_of_admitted hinv hphase hgate
      have hsame : obligationsOf (submittedArchitectureState session
          (submittedAdr services session title claims)) = obligationsOf session.state := by
        rw [obligationsOf, submittedArchitectureState, selectArchitectureFlow]
        split_ifs <;> rfl
      rw [hsame] at happended
      exact minted_invariant hclosed hminted happended (selectArchitectureFlow_phase hphase)
        rfl rfl
  | settled architecture selfReview obligation findings invocationId discarded hcall hverdict
      hbudget =>
      obtain ⟨⟨earlier, heq⟩, -⟩ := hcall.subject hinv
      obtain ⟨closed, hafter, hclosed, -⟩ :=
        consume_last (session.readings 4) hinv.onlyLast heq
      rw [← @obligationsOf_reviewedAdrState services session _ earlier selfReview obligation
        invocationId findings (keptAdr architecture discarded) rfl heq] at hafter
      exact ReviewLoopInvariant.of_concat hclosed (Or.inl ⟨rfl, rfl⟩) hafter
  | revised architecture revised selfReview obligation findings invocationId claims assurance
      hcall hverdict hbudget hrevised hmint =>
      obtain ⟨⟨earlier, heq⟩, -⟩ := hcall.subject hinv
      obtain ⟨closed, hafter, hclosed, -⟩ :=
        consume_last (session.readings 4) hinv.onlyLast heq
      rw [← @obligationsOf_reviewedAdrState services session _ earlier selfReview obligation
        invocationId findings (supersedingAdr services architecture
          (normalizeReviewArtifactText (session.args.adrText.getD "")) claims) rfl heq] at hafter
      obtain ⟨fresh, hminted, happended, -⟩ := mintArchitectureObligation_ok hmint
      refine minted_invariant ?_ hminted happended hcall.phase rfl hrevised
      rw [hafter]
      exact List.forall_mem_append.2 ⟨hclosed, List.forall_mem_singleton.2 rfl⟩

theorem not_terminal_of_gate {phase : Phase} (hgate : isUserGate phase = true) :
    isTerminal phase = false := by
  revert hgate
  cases phase <;> decide

theorem decidedState_reviewAssurance (env : Environment) (s : SessionState)
    (input : ReviewDecisionInput) (ctx : RailContext) :
    (decidedState env s input ctx).reviewAssurance = s.reviewAssurance := by
  have hcleared : ∀ t verdict,
      (applyStateClearingPattern t verdict).reviewAssurance = t.reviewAssurance := by
    intro t verdict
    rw [applyStateClearingPattern]
    split_ifs
    · rfl
    · rfl
    · rfl
    · split <;> rfl
  rw [decidedState, hcleared, approvalCertificatePatch]
  split_ifs <;> rfl

/-- A decision is taken at a gate and leaves the review ledger alone. -/
theorem executeReviewDecision_keeps {env : Environment} {s : SessionState}
    {input : ReviewDecisionInput} {ctx : RailContext} {result : RailOk}
    (hdecided : executeReviewDecision env s input ctx = .ok (.ok result)) :
    isUserGate s.phase = true ∧ result.state.reviewAssurance = s.reviewAssurance := by
  obtain ⟨target, hdecided⟩ := executeReviewDecision_ok env hdecided
  have happlied := hdecided.applied
  rw [← decidedState_phase env s input ctx] at happlied
  refine ⟨hdecided.gate, ?_⟩
  rcases applyDecisionTransition_applied env happlied with
    ⟨-, hstate, -⟩ | ⟨-, -, hstate, -⟩ <;>
  · rw [hstate]
    exact decidedState_reviewAssurance env s input ctx

theorem architectureStep_keeps {s t : SessionState} {action : ArchitectureAction}
    (hinv : ArchitectureReviewInvariant s) (hallowed : ArchitectureSurroundings s action)
    (hstep : architectureStep services s action = some t) : ArchitectureReviewInvariant t := by
  cases action with
  | call session =>
      obtain rfl := Option.some_inj.1 hstep
      exact @architectureMove_keeps services (session.inState s) _ hinv
        (architectureCall_moves services (session.inState s))
  | decide input ctx =>
      rw [architectureStep] at hstep
      split at hstep
      · rename_i result hdecided
        obtain rfl := Option.some_inj.1 hstep
        obtain ⟨hgate, hassurance⟩ := executeReviewDecision_keeps hdecided
        rw [ArchitectureReviewInvariant, obligationsOf, hassurance]
        refine ReviewLoopInvariant.mono hinv fun last _ _ hreview => ?_
        -- at a human gate no ADR is under review
        rcases hreview with hterminal | ⟨hphase, -⟩
        · rw [not_terminal_of_gate hgate] at hterminal
          cases hterminal
        · rw [hphase] at hgate
          cases hgate
      · obtain rfl := Option.some_inj.1 hstep
        exact hinv
  | ledger assurance =>
      obtain rfl := Option.some_inj.1 hstep
      exact ReviewLoopInvariant.ledger hinv hallowed
  | session next =>
      obtain rfl := Option.some_inj.1 hstep
      obtain ⟨hsame, hkept⟩ := hallowed
      refine ⟨by rw [OnlyLastOpen, hsame]; exact hinv.onlyLast, fun last hlast => ?_⟩
      rw [lastObligation_eq_getLast?, hsame, ← lastObligation_eq_getLast?] at hlast
      rcases hinv.last last hlast with hgiven | ⟨hunconsumed, hreview⟩
      · exact Or.inl hgiven
      · refine Or.inr ⟨hunconsumed, ?_⟩
        rcases hkept with hsettled | hterminal | ⟨hphase, hself, hadr⟩
        · have hconsumed := hsettled last hlast
          rw [hunconsumed] at hconsumed
          cases hconsumed
        · exact Or.inl hterminal
        · rw [AdrUnderReview, hphase, hself, hadr]
          exact hreview

end Invariant

/-! ### Which review the gate resolves -/

section Lists

variable {α β : Type} {r : α → α → Prop} {f : α → Option β} {items : List α}

/-- A sorted search stops at an item with a value that no other one with a value comes
before. -/
theorem findSome?_of_pairwise {item : α} {value : β} (hsorted : items.Pairwise r)
    (hmem : item ∈ items) (hvalue : f item = some value)
    (hfirst : ∀ other ∈ items, other ≠ item → (f other).isSome = true → ¬ r other item) :
    items.findSome? f = some value := by
  induction items with
  | nil => exact absurd hmem List.not_mem_nil
  | cons head rest ih =>
      rw [List.pairwise_cons] at hsorted
      rw [List.findSome?_cons]
      by_cases hhead : head = item
      · rw [hhead, hvalue]
      · have hrest : item ∈ rest := (List.mem_cons.1 hmem).resolve_left (Ne.symm hhead)
        have hnone : f head = none := by
          rw [← Option.not_isSome_iff_eq_none]
          exact fun hsome =>
            hfirst head List.mem_cons_self hhead hsome (hsorted.1 item hrest)
        rw [hnone]
        exact ih hsorted.2 hrest fun other hother => hfirst other (List.mem_cons_of_mem _ hother)

end Lists

instance : Std.Total latestBoundFirst where
  total a b := by
    rcases lt_trichotomy a.iteration b.iteration with hlt | heq | hlt
    · exact Or.inr (Or.inl hlt)
    · exact (String.le_total b.createdAt a.createdAt).imp (fun hle => Or.inr ⟨heq, hle⟩)
        (fun hle => Or.inr ⟨heq.symm, hle⟩)
    · exact Or.inl (Or.inl hlt)

instance : IsTrans ReviewObligation latestBoundFirst where
  trans a b c := by
    rintro (hab | ⟨hab, hat⟩) (hbc | ⟨hbc, hbt⟩)
    · exact Or.inl (hbc.trans hab)
    · exact Or.inl (hbc ▸ hab)
    · exact Or.inl (hab ▸ hbc)
    · exact Or.inr ⟨hab.trans hbc, String.le_trans hbt hat⟩

/-- What a capture records of a verdict. -/
def capturedVerdictName : LoopVerdict → String
  | .accept => "accept"
  | .changesRequested => "changes_requested"
  | .unableToReview => "unable_to_review"

/-- What the review ledger records: identities do not repeat, and the findings an open
obligation resolves come from the invocation that fulfilled it, with their verdict. -/
structure EvidenceRecorded (services : ArtifactServices) (s : SessionState) : Prop where
  obligationIds : ((obligationsOf s).map (·.obligationId)).Nodup
  invocationIds : ((invocationsOf s).map (·.invocationId)).Nodup
  identified : ∀ invocation ∈ invocationsOf s, invocation.invocationId ≠ ""
  linked : ∀ obligation ∈ obligationsOf s, isOpenReviewObligation obligation = true →
    ∀ invocation ∈ invocationsOf s, ∀ findings,
      services.evaluateStructuredInvocation s obligation invocation = .resolved findings →
      isLinkedInvocation obligation invocation = true ∧
        invocation.capturedVerdict = some (capturedVerdictName findings.overallVerdict)

/-- Every other settled review of an ADR that the gate may resolve precedes the open one:
on an accepting verdict those of the same subject, otherwise all of them. -/
def ReviewComesLast (s : SessionState) (verdict : Option LoopVerdict) : Prop :=
  ∀ obligation, lastOpenObligation .architecture (obligationsOf s) = some obligation →
    ∀ other ∈ obligationsOf s, other.obligationId ≠ obligation.obligationId →
      isSettledObligation .architecture other = true →
      (verdict = some .accept → other.subjectDigest = obligation.subjectDigest) →
      (resolveEvidenceForObligation s other).isSome = true →
      ¬ latestBoundFirst other obligation

instance (s : SessionState) (verdict : Option LoopVerdict) :
    Decidable (ReviewComesLast s verdict) :=
  inferInstanceAs (Decidable (∀ obligation ∈ lastOpenObligation .architecture (obligationsOf s),
    ∀ other ∈ obligationsOf s, other.obligationId ≠ obligation.obligationId →
      isSettledObligation .architecture other = true →
      (verdict = some .accept → other.subjectDigest = obligation.subjectDigest) →
      (resolveEvidenceForObligation s other).isSome = true →
      ¬ latestBoundFirst other obligation))

/-- The obligation a binding names. -/
def boundObligationId : ReviewBinding → String
  | .currentReview reviewObligationId _ _ => reviewObligationId
  | .reviewExhaustedOverride lastReviewObligationId _ _ _ => lastReviewObligationId

/-- The completion that a captured verdict gives. -/
def CompletedBy (completion : ReviewCompletion) (capturedVerdict : Option String) : Prop :=
  (completion = .reviewerAccepted ∧ capturedVerdict = some "accept") ∨
    (completion = .reviewExhausted ∧ capturedVerdict = some "changes_requested")

/-- The ADR at the gate is the one the last consumed review was about, its completion says
what that review captured, and the gate resolves that review. -/
def CertifiesReview (next : SessionState) : Prop :=
  ∃ architecture obligation invocation, next.architecture = some architecture ∧
    lastConsumedObligation .architecture (obligationsOf next) = some obligation ∧
    architecture.digest = obligation.subjectDigest ∧
    invocation ∈ invocationsOf next ∧ isLinkedInvocation obligation invocation = true ∧
    CompletedBy architecture.reviewCompletion invocation.capturedVerdict ∧
    ∃ binding, resolveArchitectureReviewEvidence next architecture = .bound binding ∧
      boundObligationId binding = obligation.obligationId

/-- The obligation the gate resolves the review of. -/
def resolvedObligationId (s : SessionState) : Option String :=
  s.architecture.bind fun architecture =>
    match resolveArchitectureReviewEvidence s architecture with
    | .bound binding => some (boundObligationId binding)
    | _ => none

theorem CertifiesReview.resolved {next : SessionState} (hcertifies : CertifiesReview next) :
    resolvedObligationId next =
      (lastConsumedObligation .architecture (obligationsOf next)).map (·.obligationId) := by
  obtain ⟨architecture, obligation, invocation, hadr, hlast, -, -, -, -, binding, hbound,
    hnamed⟩ := hcertifies
  rw [resolvedObligationId, hadr, Option.bind_some, hbound, hlast, Option.map_some]
  exact congrArg some hnamed

section Evidence

variable {s next : SessionState} {assurance : ReviewAssuranceState}
  {obligation : ReviewObligation} {now : Timestamp} {acceptedInvocationId : Option String}
  {markConsumed : String → CanonicalText → CanonicalText}

/-- Consumption changes no link between obligations and invocations. -/
theorem resolveEvidenceForObligation_consumed (hassurance : s.reviewAssurance = some assurance)
    (hnext : next.reviewAssurance = some
      (consumeReviewObligation markConsumed assurance (some obligation) now
        acceptedInvocationId)) (other : ReviewObligation) :
    resolveEvidenceForObligation next other = resolveEvidenceForObligation s other := by
  rw [resolveEvidenceForObligation, resolveEvidenceForObligation, hassurance, hnext]
  cases truthy other.invocationId with
  | none => rfl
  | some invocationId =>
      simp only [consumeReviewObligation, List.find?_map, Option.map_map]
      generalize truthy (acceptedInvocationId.or obligation.invocationId) = accepted
      have hlink : (isLinkedInvocation other ∘ fun invocation : ReviewInvocation =>
          if (some invocation.invocationId == accepted) = true then
            { invocation with other := markConsumed obligation.obligationId invocation.other }
          else invocation) = isLinkedInvocation other := by
        funext invocation
        rw [Function.comp_apply]
        split_ifs <;> rfl
      rw [hlink]
      congr 1
      funext invocation
      rw [Function.comp_apply]
      split_ifs <;> rfl

/-- The obligation as its verdict leaves it. -/
def verdictGiven (obligation : ReviewObligation) (now : Timestamp) : ReviewObligation :=
  { obligation with status := .consumed, consumedAt := some now }

/-- An obligation linked to a capture resolves to that capture. -/
theorem resolveEvidence_of_linked {services : ArtifactServices} {invocation : ReviewInvocation}
    (hassurance : s.reviewAssurance = some assurance) (hrecorded : EvidenceRecorded services s)
    (hmem : invocation ∈ assurance.invocations)
    (hlinked : isLinkedInvocation obligation invocation = true) :
    resolveEvidenceForObligation s (verdictGiven obligation now) = some
      { obligationId := obligation.obligationId
        invocationId := invocation.invocationId
        findingsHash := invocation.findingsHash
        subjectDigest := obligation.subjectDigest
        claimDeclarationsDigest := truthy obligation.claimDeclarationsDigest
        reviewerVerdict := truthy invocation.capturedVerdict } := by
  have hids := hrecorded.invocationIds
  have hidentified := hrecorded.identified
  rw [invocationsOf, hassurance] at hids hidentified
  have hnamed : ∀ other, isLinkedInvocation obligation other = true →
      obligation.invocationId = some other.invocationId := by
    intro other hother
    simp only [isLinkedInvocation, Bool.and_eq_true, beq_iff_eq] at hother
    exact hother.1.1.1.1.symm
  have hid := hnamed invocation hlinked
  have hfound : assurance.invocations.find? (isLinkedInvocation obligation) =
      some invocation := by
    cases hfind : assurance.invocations.find? (isLinkedInvocation obligation) with
    | none => exact absurd hlinked (List.find?_eq_none.1 hfind invocation hmem)
    | some found =>
        have hsame := hnamed found (@List.find?_some _ (isLinkedInvocation obligation) _ _ hfind)
        rw [hid, Option.some_inj] at hsame
        exact congrArg some (List.inj_on_of_nodup_map hids (List.mem_of_find?_eq_some hfind)
          hmem hsame.symm)
  have hnonempty : truthy obligation.invocationId = some invocation.invocationId := by
    rw [hid, truthy, Option.filter_eq_some_iff]
    exact ⟨rfl, bne_iff_ne.2 (hidentified invocation hmem)⟩
  have hsame : isLinkedInvocation (verdictGiven obligation now) =
      isLinkedInvocation obligation := rfl
  rw [resolveEvidenceForObligation, hassurance]
  simp only [verdictGiven, hnonempty]
  rw [← verdictGiven, hsame, hfound]
  rfl

/-- The search for the review of an ADR stops at the one that was just consumed. -/
theorem resolveLatestMatching_consumed {matchesSubject : ReviewObligation → Bool}
    {evidence : ResolvedBoundReviewEvidence}
    (hassurance : s.reviewAssurance = some assurance)
    (hnext : next.reviewAssurance = some
      (consumeReviewObligation markConsumed assurance (some obligation) now
        acceptedInvocationId))
    (hids : (assurance.obligations.map (·.obligationId)).Nodup)
    (hmem : obligation ∈ assurance.obligations)
    (htype : obligation.obligationType = .architecture)
    (hmatches : matchesSubject (verdictGiven obligation now) = true)
    (hevidence : resolveEvidenceForObligation s (verdictGiven obligation now) = some evidence)
    (hlast : ∀ other ∈ assurance.obligations, other.obligationId ≠ obligation.obligationId →
      isSettledObligation .architecture other = true → matchesSubject other = true →
      (resolveEvidenceForObligation s other).isSome = true →
      ¬ latestBoundFirst other obligation) :
    resolveLatestMatching next .architecture matchesSubject = some evidence := by
  have hkept := resolveEvidenceForObligation_consumed hassurance hnext
  rw [resolveLatestMatching, hnext]
  refine findSome?_of_pairwise (List.pairwise_insertionSort latestBoundFirst _)
    ((List.mem_insertionSort latestBoundFirst).2 (List.mem_filter.2 ⟨?_, ?_⟩))
    ((hkept _).trans hevidence) ?_
  · exact List.mem_map.2 ⟨obligation, hmem, consumedObligation_self obligation now⟩
  · rw [Bool.and_eq_true, hmatches, isSettledObligation, verdictGiven, htype]
    exact ⟨rfl, rfl⟩
  · intro other hother hdiffers hsome
    obtain ⟨hconsumed, hfilter⟩ :=
      List.mem_filter.1 ((List.mem_insertionSort latestBoundFirst).1 hother)
    obtain ⟨hsettled, hmatched⟩ := Bool.and_eq_true _ _ ▸ hfilter
    obtain ⟨before, hbefore, hbecame⟩ := List.mem_map.1 hconsumed
    by_cases hid : before.obligationId = obligation.obligationId
    · obtain rfl := List.inj_on_of_nodup_map hids hbefore hmem hid
      exact absurd (hbecame.symm.trans (consumedObligation_self before now)) hdiffers
    · rw [consumedObligation, if_pos (bne_iff_ne.2 hid)] at hbecame
      subst hbecame
      rw [hkept] at hsome
      exact hlast before hbefore hid hsettled hmatched hsome

end Evidence

section Certification

variable {services : ArtifactServices} {session : ArchitectureSession}
  {architecture : ArchitectureDecision} {selfReview : SelfReviewLoop}
  {obligation : ReviewObligation} {findings : ReviewFindings} {invocationId : String}
  {discarded : Bool}

/-- The state a settled review is written in. -/
def settledAdrState (services : ArtifactServices) (session : ArchitectureSession)
    (architecture : ArchitectureDecision) (selfReview : SelfReviewLoop)
    (obligation : ReviewObligation) (findings : ReviewFindings) (invocationId : String)
    (discarded : Bool) : SessionState :=
  applyTransitionUnchecked (reviewedAdrState services session selfReview obligation invocationId
    findings (keptAdr architecture discarded)) .architecture .archReview .selfReviewMet
    (session.now 0)

/-- The gate resolves the review that was just settled. -/
theorem resolves_of_settled {next : SessionState} {settled : ArchitectureDecision}
    {evidence : ResolvedBoundReviewEvidence}
    (hcompletion : settled.reviewCompletion =
      if discarded then .reviewExhausted else .reviewerAccepted)
    (hdigest : settled.digest = obligation.subjectDigest)
    (hverdict : evidence.reviewerVerdict =
      some (if discarded then "changes_requested" else "accept"))
    (hnamed : evidence.obligationId = obligation.obligationId)
    (hresolved : ∀ matchesSubject : ReviewObligation → Bool,
      matchesSubject obligation = true →
      (discarded = false → ∀ other, matchesSubject other = true →
        other.subjectDigest = obligation.subjectDigest) →
      resolveLatestMatching next .architecture matchesSubject = some evidence) :
    ∃ binding, resolveArchitectureReviewEvidence next settled = .bound binding ∧
      boundObligationId binding = obligation.obligationId := by
  cases discarded with
  | true =>
      have hlatest := hresolved (fun _ => true) rfl fun hfalse => absurd hfalse (by decide)
      rw [resolveArchitectureReviewEvidence, hcompletion, resolveLatestBoundReviewEvidence,
        if_pos rfl]
      simp only [hlatest, hverdict, if_pos]
      exact ⟨_, rfl, hnamed⟩
  | false =>
      have hexact := hresolved (·.subjectDigest == settled.digest)
        (beq_iff_eq.2 hdigest.symm) fun _ other hother => (beq_iff_eq.1 hother).trans hdigest
      rw [resolveArchitectureReviewEvidence, hcompletion,
        resolveBoundReviewEvidenceForSubject, if_neg (by decide)]
      simp only [hexact, hverdict]
      exact ⟨_, rfl, hnamed⟩

/-- A settled review consumed its obligation and nothing else. -/
theorem reviewAssurance_settled {assurance : ReviewAssuranceState}
    {earlier : List ReviewObligation} (hassurance : session.state.reviewAssurance = some assurance)
    (heq : obligationsOfType .architecture (obligationsOf session.state) =
      earlier ++ [obligation]) :
    (settledAdrState services session architecture selfReview obligation findings invocationId
      discarded).reviewAssurance = some
        (consumeReviewObligation services.markConsumed assurance (some obligation)
          (session.readings 4) (some invocationId)) := by
  have hconsumed := @consumeArchitectureObligation_eq services session session.state earlier
    obligation invocationId heq
  rw [hassurance] at hconsumed
  rw [settledAdrState, applyTransitionUnchecked, reviewedAdrState, buildReviewedAdrState,
    hassurance, hconsumed]
  rfl

/-- The capture of a settled review is still there, linked to its obligation. -/
theorem linked_of_settled {assurance : ReviewAssuranceState} {invocation : ReviewInvocation}
    (hmem : invocation ∈ assurance.invocations)
    (hlinked : isLinkedInvocation obligation invocation = true) {now : Timestamp}
    {accepted : Option String} {markConsumed : String → CanonicalText → CanonicalText} :
    ∃ found ∈ (consumeReviewObligation markConsumed assurance (some obligation) now
        accepted).invocations, isLinkedInvocation (verdictGiven obligation now) found = true ∧
      found.capturedVerdict = invocation.capturedVerdict := by
  refine ⟨_, List.mem_map_of_mem hmem, ?_⟩
  split_ifs
  · exact ⟨hlinked, rfl⟩
  · exact ⟨hlinked, rfl⟩

theorem settled_certifies
    (hinv : ArchitectureReviewInvariant session.state)
    (hrecorded : EvidenceRecorded services session.state)
    (hcall : VerdictCall services session architecture selfReview obligation findings)
    (hverdict : findings.overallVerdict = if discarded then .changesRequested else .accept)
    (hlatest : ReviewComesLast session.state session.args.reviewVerdict) :
    CertifiesReview (settledAdrState services session architecture selfReview obligation findings
      invocationId discarded) := by
  obtain ⟨⟨earlier, heq⟩, hdigest⟩ := hcall.subject hinv
  obtain ⟨assurance, hassurance, invocation, hmem, -, hevaluate⟩ := hcall.captured
  have hobligations : obligationsOf session.state = assurance.obligations := by
    rw [obligationsOf, hassurance]
    rfl
  have hinvocations : invocationsOf session.state = assurance.invocations := by
    rw [invocationsOf, hassurance]
    rfl
  have hopen : obligation ∈ obligationsOfType .architecture (obligationsOf session.state) :=
    heq ▸ List.mem_concat_self
  obtain ⟨hmember, htype⟩ := List.mem_filter.1 hopen
  obtain ⟨hlinked, hcaptured⟩ := hrecorded.linked obligation hmember
    (isOpen_of_lastOpen hcall.pending) invocation (hinvocations ▸ hmem) findings hevaluate
  have hnext := @reviewAssurance_settled services session architecture selfReview obligation
    findings invocationId discarded assurance earlier hassurance heq
  obtain ⟨closed, -, -, hlast⟩ := consume_last (session.readings 4) hinv.onlyLast heq
  have hname : invocation.capturedVerdict =
      some (if discarded then "changes_requested" else "accept") := by
    rw [hcaptured, hverdict]
    cases discarded <;> rfl
  obtain ⟨evidence, hevidence, hnamed, hreviewed⟩ : ∃ evidence,
      resolveEvidenceForObligation session.state (verdictGiven obligation (session.readings 4)) =
        some evidence ∧ evidence.obligationId = obligation.obligationId ∧
      evidence.reviewerVerdict =
        some (if discarded then "changes_requested" else "accept") := by
    refine ⟨_, resolveEvidence_of_linked hassurance hrecorded hmem hlinked, rfl, ?_⟩
    rw [hname]
    cases discarded <;> rfl
  have hresolved : ∀ matchesSubject : ReviewObligation → Bool,
      matchesSubject (verdictGiven obligation (session.readings 4)) = true →
      (discarded = false → ∀ other, matchesSubject other = true →
        other.subjectDigest = obligation.subjectDigest) →
      resolveLatestMatching (settledAdrState services session architecture selfReview obligation
        findings invocationId discarded) .architecture matchesSubject = some evidence := by
    intro matchesSubject hmatches hsubject
    refine resolveLatestMatching_consumed hassurance hnext (hobligations ▸ hrecorded.obligationIds)
      (hobligations ▸ hmember) (beq_iff_eq.1 htype) hmatches hevidence ?_
    intro other hother hid hsettled hmatched hsome
    refine hlatest obligation hcall.pending other (hobligations ▸ hother) hid hsettled ?_ hsome
    intro haccept
    refine hsubject ?_ other hmatched
    rw [hcall.verdict, hverdict, Option.some_inj] at haccept
    cases discarded with
    | true => cases haccept
    | false => rfl
  have hcompletion := @adrReviewCompletion_kept session architecture discarded
    findings.overallVerdict (selfReview.iteration + 1) hverdict
  obtain ⟨found, hfound, hlink, hsame⟩ := @linked_of_settled obligation assurance invocation hmem
    hlinked (session.readings 4) (some invocationId) services.markConsumed
  obtain ⟨settled, hsettled⟩ : ∃ settled, (settledAdrState services session architecture
      selfReview obligation findings invocationId discarded).architecture = some settled :=
    ⟨_, rfl⟩
  have hcompleted : settled.reviewCompletion =
      if discarded then .reviewExhausted else .reviewerAccepted := by
    obtain rfl := Option.some_inj.1 hsettled
    exact hcompletion
  have hsubject : settled.digest = obligation.subjectDigest := by
    obtain rfl := Option.some_inj.1 hsettled
    exact hdigest
  obtain ⟨binding, hbound, hbinding⟩ := @resolves_of_settled
    (verdictGiven obligation (session.readings 4)) discarded _ settled evidence hcompleted hsubject
    hreviewed hnamed hresolved
  refine ⟨settled, verdictGiven obligation (session.readings 4), found, hsettled, ?_, hsubject,
    ?_, hlink, ?_, binding, hbound, hbinding⟩
  · rw [obligationsOf, hnext]
    rw [hobligations] at hlast
    exact hlast
  · rw [invocationsOf, hnext]
    exact hfound
  · rw [CompletedBy, hsame, hname]
    cases discarded with
    | true => exact Or.inr ⟨hcompleted, rfl⟩
    | false => exact Or.inl ⟨hcompleted, rfl⟩

end Certification

/-- In every run, an ADR that leaves `ARCHITECTURE` for its gate is the one the last consumed
review was about, completed as that review said, and the gate resolves that review, when no
other settled review comes before it. -/
theorem architecture_gate_certifies_review (services : ArtifactServices)
    {start s : SessionState}
    (hstart : obligationsOfType .architecture (obligationsOf start) = [])
    (hreaches : Reaches (architectureStep services) ArchitectureSurroundings start s)
    (hrecorded : EvidenceRecorded services s) (session : ArchitectureSession)
    (hlatest : ReviewComesLast s session.args.reviewVerdict) {write : PlanWrite}
    (hcall : architectureCall services (session.inState s) = .written write) :
    ∀ record ∈ write.transitions, record.fromPhase = .architecture →
      record.toPhase = .archReview → CertifiesReview write.state := by
  have hkeeps : ∀ {s t : SessionState} {action : ArchitectureAction},
      ArchitectureReviewInvariant s → ArchitectureSurroundings s action →
      architectureStep services s action = some t → ArchitectureReviewInvariant t :=
    fun hinv hallowed hstep => architectureStep_keeps hinv hallowed hstep
  have hinv : ArchitectureReviewInvariant s := hreaches.invariant hkeeps (.of_none hstart)
  have hmove := architectureCall_moves services (session.inState s)
  rw [hcall] at hmove
  intro record hmem hfrom hto
  cases hmove with
  | submitted title claims assurance records hphase hgate hmint hrecords =>
      have hready := hrecords record hmem
      rw [hfrom] at hready
      cases hready
  | settled architecture selfReview obligation findings invocationId discarded hverdictCall
      hverdict hbudget =>
      exact settled_certifies hinv hrecorded hverdictCall hverdict hlatest
  | revised => exact absurd hmem List.not_mem_nil

/-! ### A second review cycle -/

/-- Services that answer as the real ones do for an ADR without claims: findings come from
the invocation that is linked to the obligation. -/
def adrServices : ArtifactServices :=
  { sampleServices with
    evaluateStructuredInvocation := fun _ obligation invocation =>
      if !isLinkedInvocation obligation invocation then .skip
      else if invocation.capturedVerdict == some "accept" then .resolved ⟨.accept, ""⟩
      else if invocation.capturedVerdict == some "changes_requested" then
        .resolved ⟨.changesRequested, ""⟩
      else .skip
    pendingContinuation := fun _ _ => .awaitingTask
    buildInterruptedDispatchRearm := fun _ _ _ => .refused
    dispatchAuthorized := fun _ _ => true
    parseArchitectureClaims := .ok
    freezeArchitectureContext := fun _ _ => .ok "" }

def adrText (decision : String) : String :=
  "## Context\n\n## Decision\n" ++ decision ++ "\n## Consequences"

/-- A call under a budget of three iterations. -/
def adrCall (obligationId : String) (time : Timestamp) (title text : Option String)
    (verdict : Option LoopVerdict) : ArchitectureSession :=
  { state := sessionAt .ready true
    args := ⟨title, text, none, verdict, false⟩
    policy := ⟨true, true, .bestEffort⟩
    budget := ⟨3, by decide⟩
    now := fun _ => time
    readings := fun _ => time
    adrId := "ADR-001"
    obligationId := obligationId }

def fulfilledAs (invocationId : String) (obligation : ReviewObligation) : ReviewObligation :=
  if isOpenReviewObligation obligation then fulfilledBy invocationId obligation else obligation

/-- The ledger with the captured verdict on its open obligation. -/
def captureVerdict (obligationId invocationId verdict : String) (s : SessionState) :
    ReviewAssuranceState :=
  let assurance := ensureReviewAssurance s.reviewAssurance
  { assurance with
    obligations := assurance.obligations.map (fulfilledAs invocationId)
    invocations := assurance.invocations ++
      [{ invocationId := invocationId
         obligationId := obligationId
         obligationType := .architecture
         transportVersion := some 6
         invocationMode := some "native_subagent_message_json"
         nativeProvenance := some ""
         findingsHash := "f1"
         capturedVerdict := some verdict
         other := "" }] }

def adrSubmission : ArchitectureAction :=
  .call (adrCall "o1" "2024-05-01T09:00:00.000Z" (some "Cache") (some (adrText "Cache all."))
    none)

/-- Which actions of a schedule the surroundings admit. -/
def admitsAction (s : SessionState) : ArchitectureAction → Bool
  | .call _ => true
  | .decide _ _ => true
  | .ledger assurance => decide (LedgerStep (obligationsOfType .architecture (obligationsOf s))
      (obligationsOfType .architecture assurance.obligations))
  | .session _ => false

theorem surroundings_of_admits (s : SessionState) (action : ArchitectureAction)
    (hadmits : admitsAction s action = true) : ArchitectureSurroundings s action := by
  cases action with
  | call session => trivial
  | decide input ctx => trivial
  | ledger assurance =>
      rw [admitsAction, decide_eq_true_eq] at hadmits
      exact hadmits
  | session next => cases hadmits

/-- The state an admitted schedule reaches. -/
def adrAfter (actions : List ArchitectureAction) : SessionState :=
  (runSchedule (fun s action => if admitsAction s action then architectureStep adrServices s action
    else none) (sessionAt .ready true) actions).getD (sessionAt .ready true)

theorem reaches_adrAfter (actions : List ArchitectureAction) :
    Reaches (architectureStep adrServices) ArchitectureSurroundings (sessionAt .ready true)
      (adrAfter actions) := by
  rw [adrAfter]
  cases hruns : runSchedule (fun s action => if admitsAction s action then
      architectureStep adrServices s action else none) (sessionAt .ready true) actions with
  | none => exact .refl _
  | some s => exact reaches_of_runSchedule surroundings_of_admits hruns

def firstReview : List ArchitectureAction :=
  [adrSubmission, .ledger (captureVerdict "o1" "i1" "changes_requested" (adrAfter [adrSubmission])),
    .call (adrCall "o2" "2024-05-01T10:00:00.000Z" none (some (adrText "Cache reads."))
      (some .changesRequested))]

def capturedSecondReview : List ArchitectureAction :=
  firstReview ++ [.ledger (captureVerdict "o2" "i2" "accept" (adrAfter firstReview))]

def acceptance (time : Timestamp) : ArchitectureSession :=
  adrCall "" time none none (some .accept)

def requestedChanges : ReviewDecisionInput :=
  { verdict := .changesRequested
    rationale := "Name the owner."
    decisionIdentity :=
      { actorId := "dev"
        actorEmail := none
        actorDisplayName := none
        actorSource := .git
        actorAssurance := .bestEffort }
    subjectAttestation := none }

def secondCycle : List ArchitectureAction :=
  capturedSecondReview ++
    [.call (acceptance "2024-05-01T11:00:00.000Z"),
      .decide requestedChanges (stillContext soloPolicy),
      .call (adrCall "o3" "2024-05-01T12:00:00.000Z" (some "Cache")
        (some (adrText "Cache reads.")) none)]

/-- The ADR is changed once, accepted, sent back at its gate, submitted again and accepted. -/
def thirdReview : List ArchitectureAction :=
  secondCycle ++ [.ledger (captureVerdict "o3" "i3" "accept" (adrAfter secondCycle))]

theorem evidenceRecorded_adrServices {s : SessionState}
    (hobligations : ((obligationsOf s).map (·.obligationId)).Nodup)
    (hinvocations : ((invocationsOf s).map (·.invocationId)).Nodup)
    (hidentified : ∀ invocation ∈ invocationsOf s, invocation.invocationId ≠ "") :
    EvidenceRecorded adrServices s := by
  refine ⟨hobligations, hinvocations, hidentified, ?_⟩
  intro obligation _ _ invocation _ findings hresolved
  simp only [adrServices] at hresolved
  split_ifs at hresolved with hlinked haccept hchanges
  · obtain rfl := StructuredEvaluation.resolved.inj hresolved
    exact ⟨by simpa using hlinked, beq_iff_eq.1 haccept⟩
  · obtain rfl := StructuredEvaluation.resolved.inj hresolved
    exact ⟨by simpa using hlinked, beq_iff_eq.1 hchanges⟩

/-- The identities a ledger must keep apart, what a call writes (the edges it took and the
last review it consumed) and the review its gate resolves. -/
def gateOf (s : SessionState) (time : Timestamp) :
    Bool × Option (List (Phase × Phase) × Option String × Option String) :=
  (decide (((obligationsOf s).map (·.obligationId)).Nodup ∧
      ((invocationsOf s).map (·.invocationId)).Nodup) &&
    (invocationsOf s).all (·.invocationId != ""),
  match architectureCall adrServices ((acceptance time).inState s) with
  | .written write => some
      (write.transitions.map fun record => (record.fromPhase, record.toPhase),
        (lastConsumedObligation .architecture (obligationsOf write.state)).map (·.obligationId),
        resolvedObligationId write.state)
  | _ => none)

theorem gateOf_eq {s : SessionState} {time : Timestamp} {edges : List (Phase × Phase)}
    {consumed resolved : Option String}
    (hgate : gateOf s time = (true, some (edges, consumed, resolved))) :
    EvidenceRecorded adrServices s ∧ ∃ write,
      architectureCall adrServices ((acceptance time).inState s) = .written write ∧
      (write.transitions.map fun record => (record.fromPhase, record.toPhase)) = edges ∧
      (lastConsumedObligation .architecture (obligationsOf write.state)).map (·.obligationId) =
        consumed ∧ resolvedObligationId write.state = resolved := by
  obtain ⟨hids, hwrites⟩ := Prod.mk.inj hgate
  simp only [Bool.and_eq_true, decide_eq_true_eq, List.all_eq_true, bne_iff_ne] at hids
  refine ⟨evidenceRecorded_adrServices hids.1.1 hids.1.2 hids.2, ?_⟩
  generalize architectureCall adrServices ((acceptance time).inState s) = answer at hwrites ⊢
  cases answer with
  | written write =>
      simp only [Option.some_inj, Prod.mk.injEq] at hwrites
      exact ⟨write, rfl, hwrites⟩
  | _ => cases hwrites

/-- The second review, accepted, is the one its gate resolves. -/
theorem architecture_gate_certifies_second_review :
    ∃ write, architectureCall adrServices ((acceptance "2024-05-01T11:00:00.000Z").inState
        (adrAfter capturedSecondReview)) = .written write ∧
      CertifiesReview write.state := by
  have hgate : gateOf (adrAfter capturedSecondReview) "2024-05-01T11:00:00.000Z" =
      (true, some ([(.architecture, .archReview)], some "o2", some "o2")) := by decide +kernel
  have hlatest : ReviewComesLast (adrAfter capturedSecondReview) (some .accept) := by
    decide +kernel
  obtain ⟨hrecorded, write, hcall, hedges, -⟩ := gateOf_eq hgate
  have hmem : (Phase.architecture, Phase.archReview) ∈ write.transitions.map
      fun record => (record.fromPhase, record.toPhase) := hedges ▸ List.mem_singleton_self _
  obtain ⟨record, hrecord, hedge⟩ := List.mem_map.1 hmem
  obtain ⟨hfrom, hto⟩ := Prod.mk.inj hedge
  exact ⟨write, hcall, architecture_gate_certifies_review adrServices rfl
    (reaches_adrAfter capturedSecondReview) hrecorded (acceptance "2024-05-01T11:00:00.000Z")
    hlatest hcall record hrecord hfrom hto⟩

/-- After a decision for changes the review that was accepted in the earlier cycle comes
first: it had the higher iteration. -/
theorem architecture_gate_names_earlier_cycle :
    obligationsOfType .architecture (obligationsOf (sessionAt .ready true)) = [] ∧
      Reaches (architectureStep adrServices) ArchitectureSurroundings (sessionAt .ready true)
        (adrAfter thirdReview) ∧
      EvidenceRecorded adrServices (adrAfter thirdReview) ∧
      ∃ write, architectureCall adrServices ((acceptance "2024-05-01T13:00:00.000Z").inState
          (adrAfter thirdReview)) = .written write ∧
        (write.transitions.map fun record => (record.fromPhase, record.toPhase)) =
          [(.architecture, .archReview)] ∧
        ¬ CertifiesReview write.state := by
  have hgate : gateOf (adrAfter thirdReview) "2024-05-01T13:00:00.000Z" =
      (true, some ([(.architecture, .archReview)], some "o3", some "o2")) := by decide +kernel
  obtain ⟨hrecorded, write, hcall, hedges, hlast, hresolved⟩ := gateOf_eq hgate
  refine ⟨rfl, reaches_adrAfter thirdReview, hrecorded, write, hcall, hedges,
    fun hcertifies => ?_⟩
  have hsame := hcertifies.resolved
  rw [hlast, hresolved] at hsame
  exact absurd hsame (by decide)

end GovernedRuntime.Tools
