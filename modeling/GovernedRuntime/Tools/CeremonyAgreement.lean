/-
The authority that decides on the reduced ceremony (`src/integration/phase-tool-gate.ts`,
`src/integration/tools/validation/ceremony-decision.ts`) and the guard of the machine
that acts on it (`src/machine/guards.ts`): the one recomputes every fact, the other also
compares what was recorded with the implementation.
-/
import GovernedRuntime.Library.Lines
import GovernedRuntime.ProofGraph.Materialize
import GovernedRuntime.Tools.OverrideGate

namespace GovernedRuntime.Tools

open GovernedRuntime.Activation (isUuid colon_notMem_of_isUuid)
open GovernedRuntime.Library
open GovernedRuntime.State
open GovernedRuntime.Machine
open GovernedRuntime.ProofGraph.Canonical (candidateKindName)
open GovernedRuntime.Rails

/-! ### What the decision after a check answers -/

/-- The kinds of `PostCheckCeremonyOutcome`; a decision is the reduced profile or the
reason for the full one. -/
inductive PostCheckCeremonyOutcome
  | skipped (state : SessionState)
  | subjectChanged
  | decided (decision : Except String ReducedCeremonyDecision) (state : SessionState)

def PostCheckCeremonyOutcome.state? : PostCheckCeremonyOutcome → Option SessionState
  | .skipped state => some state
  | .subjectChanged => none
  | .decided _ state => some state

def postCheckCeremonyOutcome (env : Environment) (state : SessionState)
    (subjectUnchanged : Bool) (now : Timestamp) : PostCheckCeremonyOutcome :=
  if state.phase != .implValidation then .skipped state
  else
    match state.implementation with
    | none => .skipped { state with reducedCeremony := none }
    | some implementation =>
        let latest := state.activeChecks.map (latestResultFor state)
        let decisive := latest.reduceOption
        if state.activeChecks.isEmpty then .skipped { state with reducedCeremony := none }
        else if latest.any (·.isNone) then .skipped state
        else if decisive.any isTechnicalValidationBlock || !decisive.all (·.passed) then
          .skipped { state with reducedCeremony := none }
        else if !(evaluateImplValidationEvidence env state).satisfied then .skipped state
        else if (staticCeremonyIneligibilityReason env state
            implementation.changedFiles).isNone && !subjectUnchanged then .subjectChanged
        else
          let decision := resolveCeremonyProfile env state implementation now
          .decided decision { state with reducedCeremony := decision.toOption }

theorem decidePostCheckCeremony_eq (env : Environment) (state : SessionState)
    (subjectUnchanged : Bool) (now : Timestamp) :
    decidePostCheckCeremony env state subjectUnchanged now =
      (postCheckCeremonyOutcome env state subjectUnchanged now).state? := by
  rw [decidePostCheckCeremony, postCheckCeremonyOutcome]
  by_cases hphase : (state.phase != .implValidation) = true
  · rw [if_pos hphase, if_pos hphase]
    rfl
  · rw [if_neg hphase, if_neg hphase]
    cases himplementation : state.implementation with
    | none => rfl
    | some implementation =>
        dsimp only
        repeat rw [apply_ite PostCheckCeremonyOutcome.state?]
        rfl

/-- A decision is the resolved profile of the current implementation. -/
theorem resolved_of_decided {env : Environment} {s t : SessionState} {subjectUnchanged : Bool}
    {now : Timestamp} {decision : Except String ReducedCeremonyDecision}
    (hdecided : postCheckCeremonyOutcome env s subjectUnchanged now = .decided decision t) :
    ∃ implementation, s.implementation = some implementation ∧
      decision = resolveCeremonyProfile env s implementation now ∧
      t = { s with reducedCeremony := decision.toOption } := by
  rw [postCheckCeremonyOutcome] at hdecided
  by_cases hphase : (s.phase != .implValidation) = true
  · rw [if_pos hphase] at hdecided
    cases hdecided
  rw [if_neg hphase] at hdecided
  cases himplementation : s.implementation with
  | none =>
      rw [himplementation] at hdecided
      cases hdecided
  | some implementation =>
      rw [himplementation] at hdecided
      dsimp only at hdecided
      split_ifs at hdecided
      obtain ⟨rfl, rfl⟩ := PostCheckCeremonyOutcome.decided.inj hdecided
      exact ⟨implementation, rfl, rfl, by rw [← himplementation]⟩

/-- Without a decision an earlier one is kept or cleared. -/
theorem skipped_or {env : Environment} {s t : SessionState} {subjectUnchanged : Bool}
    {now : Timestamp}
    (hskipped : postCheckCeremonyOutcome env s subjectUnchanged now = .skipped t) :
    t = s ∨ t = { s with reducedCeremony := none } := by
  rw [postCheckCeremonyOutcome] at hskipped
  by_cases hphase : (s.phase != .implValidation) = true
  · rw [if_pos hphase] at hskipped
    exact Or.inl (PostCheckCeremonyOutcome.skipped.inj hskipped).symm
  rw [if_neg hphase] at hskipped
  cases himplementation : s.implementation with
  | none =>
      rw [himplementation] at hskipped
      obtain rfl := PostCheckCeremonyOutcome.skipped.inj hskipped
      exact Or.inr (by rw [← himplementation])
  | some implementation =>
      rw [himplementation] at hskipped
      dsimp only at hskipped
      split_ifs at hskipped <;> obtain rfl := PostCheckCeremonyOutcome.skipped.inj hskipped
      · exact Or.inr (by rw [← himplementation])
      · exact Or.inl rfl
      · exact Or.inr (by rw [← himplementation])
      · exact Or.inl rfl

/-! ### Hydrating an existing session -/

/-- A claim can raise what is persisted, never lower it. -/
def raisedTaskClass (persisted : Option TaskClass) (claim : TaskClass) : TaskClass :=
  match persisted with
  | none => claim
  | some held => maxTaskClass held claim

/-- A terminal session is only read; `none` for the sessions that are not terminal. -/
def resolveTerminalHydrate (env : Environment) (existingState : SessionState)
    (claim : Option TaskClass) (policy : Option GatePolicy) :
    Option (Except String (SessionState × EvalResult)) :=
  if !isTerminal existingState.phase then none
  else if !isCommandAllowed existingState.phase .hydrate then
    some (.error "COMMAND_NOT_ALLOWED")
  else if claim.any fun claim =>
      some (raisedTaskClass existingState.claimedTaskClass claim) !=
        existingState.claimedTaskClass then
    some (.error "TERMINAL_STATE_MUTATION_DENIED")
  else some (.ok (existingState, evaluate env existingState policy))

/-- `handleExistingState`: the loaded state with its claim raised, and its evaluation. -/
def handleExistingState (env : Environment) (existingState : SessionState)
    (claim : Option TaskClass) (policy : Option GatePolicy) :
    Except String (SessionState × EvalResult) :=
  match resolveTerminalHydrate env existingState claim policy with
  | some result => result
  | none =>
      let nextState :=
        match claim with
        | none => existingState
        | some claim =>
            { existingState with
              claimedTaskClass := some (raisedTaskClass existingState.claimedTaskClass claim) }
      .ok (nextState, evaluate env nextState policy)

/-- The claim of a session that was hydrated again. -/
theorem handleExistingState_ok {env : Environment} {s t : SessionState}
    {claim : Option TaskClass} {policy : Option GatePolicy} {result : EvalResult}
    (hhydrate : handleExistingState env s claim policy = .ok (t, result)) :
    t = s ∨ ∃ raised, claim = some raised ∧
      t = { s with claimedTaskClass := some (raisedTaskClass s.claimedTaskClass raised) } := by
  unfold handleExistingState resolveTerminalHydrate at hhydrate
  split_ifs at hhydrate
  · cases claim with
    | none =>
        obtain ⟨rfl, -⟩ := Prod.mk.inj (Except.ok.inj hhydrate)
        exact Or.inl rfl
    | some raised =>
        obtain ⟨rfl, -⟩ := Prod.mk.inj (Except.ok.inj hhydrate)
        exact Or.inr ⟨raised, rfl, rfl⟩
  · obtain ⟨rfl, -⟩ := Prod.mk.inj (Except.ok.inj hhydrate)
    exact Or.inl rfl

/-! ### The facts both sides read -/

/-- The risk gate as the authority tests it. -/
def riskGateBlocked (s : SessionState) : Bool :=
  s.riskGate.any fun
    | .blocked _ _ => true
    | _ => false

/-- The effective class of a list of files in a session. -/
def ceremonyEffectiveTaskClass (env : Environment) (s : SessionState)
    (changedFiles : List String) : TaskClass :=
  resolveEffectiveTaskClass
    (env.assessMinimumTaskClass changedFiles
      s.policySnapshot.riskTriggerPaths).minimumTaskClass
    (ticketRiskDeclarationOf s) s.claimedTaskClass

/-- A change that the reduced ceremony is open to, whatever its checks say. -/
structure StaticallyEligible (env : Environment) (s : SessionState)
    (changedFiles : List String) : Prop where
  allowed : s.policySnapshot.allowReducedCeremony = true
  humanGates : s.policySnapshot.requireHumanGates = true
  declaration : boundTicketDeclaration env s = some (ticketRiskDeclarationOf s)
  riskGate : riskGateBlocked s = false
  files : changedFiles ≠ []
  trivial : ceremonyEffectiveTaskClass env s changedFiles = .trivial
  surface : env.reducedCeremonyEligible changedFiles = true

/-- The authority refuses a declaration exactly where the guard has none. -/
theorem boundTicketDeclaration_eq_some_iff (env : Environment) (s : SessionState) :
    boundTicketDeclaration env s = some (ticketRiskDeclarationOf s) ↔
      ticketDeclarationGate env s = none ∧
        (ticketRiskDeclarationOf s).kind ≠ .conflict := by
  rw [boundTicketDeclaration, ticketDeclarationGate, ticketRiskDeclarationOf]
  cases s.ticket with
  | none => simp [TicketRiskDeclaration.kind]
  | some ticket =>
      by_cases hintegrity : verifyTicketRiskDeclarationIntegrity env ticket = true
      · cases hdeclaration : ticket.riskDeclaration <;>
          simp [hintegrity, hdeclaration, TicketRiskDeclaration.kind]
      · simp [hintegrity]

/-- The guard never binds another declaration than that of the ticket. -/
theorem eq_of_boundTicketDeclaration {env : Environment} {s : SessionState}
    {declaration : TicketRiskDeclaration}
    (hbound : boundTicketDeclaration env s = some declaration) :
    declaration = ticketRiskDeclarationOf s := by
  rw [boundTicketDeclaration] at hbound
  rw [ticketRiskDeclarationOf]
  cases hticket : s.ticket with
  | none =>
      rw [hticket] at hbound
      exact (Option.some.inj hbound).symm
  | some ticket =>
      rw [hticket] at hbound
      dsimp only at hbound
      split_ifs at hbound
      show declaration = ticket.riskDeclaration
      cases hdeclaration : ticket.riskDeclaration <;>
        rw [hdeclaration] at hbound <;> simp_all

theorem staticCeremonyIneligibilityReason_eq_none_iff (env : Environment) (s : SessionState)
    (changedFiles : List String) :
    staticCeremonyIneligibilityReason env s changedFiles = none ↔
      StaticallyEligible env s changedFiles := by
  have hbound := boundTicketDeclaration_eq_some_iff env s
  constructor
  · intro hreason
    cases hgate : ticketDeclarationGate env s with
    | some code =>
        simp only [staticCeremonyIneligibilityReason, hgate] at hreason
        split_ifs at hreason
    | none =>
        simp only [staticCeremonyIneligibilityReason, hgate] at hreason
        split_ifs at hreason with hallowed hgates hconflict hrisk hfiles htrivial hsurface
        exact
          { allowed := by simpa using hallowed
            humanGates := by simpa using hgates
            declaration := hbound.2 ⟨hgate, by simpa using hconflict⟩
            riskGate := Bool.eq_false_iff.2 hrisk
            files := by simpa using hfiles
            trivial := by simpa [ceremonyEffectiveTaskClass] using htrivial
            surface := by simpa using hsurface }
  · intro heligible
    obtain ⟨hgate, hconflict⟩ := hbound.1 heligible.declaration
    have hrisk := heligible.riskGate
    have htrivial := heligible.trivial
    rw [ceremonyEffectiveTaskClass] at htrivial
    simp only [staticCeremonyIneligibilityReason, heligible.allowed, heligible.humanGates, hgate,
      htrivial, heligible.surface]
    simp [hconflict, heligible.files]
    exact hrisk

/-! ### The authority -/

/-- Nothing but the static facts stands between a session and the reduced profile. -/
structure CeremonyOpen (env : Environment) (s : SessionState)
    (implementation : ImplEvidence) : Prop where
  eligible : StaticallyEligible env s implementation.changedFiles
  noIncident : hasUnresolvedIntegrityIncident s.reviewAssurance = false
  noObligation : hasOutstandingReviewObligation s.reviewAssurance = false
  satisfied : (evaluateImplValidationEvidence env s).satisfied = true

/-- The facts of a decision that are those of the session. -/
structure DecidesCurrent (env : Environment) (s : SessionState)
    (implementation : ImplEvidence) (decision : ReducedCeremonyDecision) : Prop where
  effective : decision.effectiveTaskClass =
    ceremonyEffectiveTaskClass env s implementation.changedFiles
  computed : decision.computedMinimumTaskClass =
    (env.assessMinimumTaskClass implementation.changedFiles
      s.policySnapshot.riskTriggerPaths).minimumTaskClass
  declared : decision.declaredTaskClass = ticketRiskDeclarationFloor (ticketRiskDeclarationOf s)
  kind : decision.declarationKind = (ticketRiskDeclarationOf s).kind
  ticketDigest : decision.ticketDigest = s.ticket.map (·.digest)
  escalated : decision.escalatedTaskClass = s.claimedTaskClass
  implementationId : decision.implementationId = implementation.implementationId
  implementationDigest : decision.implementationDigest = implementation.digest
  policyDigest : decision.policyDigest = s.policySnapshot.hash

theorem resolveCeremonyProfile_isOk {env : Environment} {s : SessionState}
    {implementation : ImplEvidence} (hopen : CeremonyOpen env s implementation)
    (now : Timestamp) :
    ∃ decision, resolveCeremonyProfile env s implementation now = .ok decision := by
  have hreason := (staticCeremonyIneligibilityReason_eq_none_iff env s _).2 hopen.eligible
  simp [resolveCeremonyProfile, hreason, hopen.noIncident, hopen.noObligation, hopen.satisfied]

theorem evidence_activeChecks (env : Environment) (s : SessionState) :
    (evaluateImplValidationEvidence env s).activeChecks = s.activeChecks := by
  rw [evaluateImplValidationEvidence]
  split_ifs
  · rfl
  · cases s.implementation <;> rfl

/-- What the authority decides is current in every fact. -/
theorem resolveCeremonyProfile_ok {env : Environment} {s : SessionState}
    {implementation : ImplEvidence} {now : Timestamp} {decision : ReducedCeremonyDecision}
    (hresolve : resolveCeremonyProfile env s implementation now = .ok decision) :
    CeremonyOpen env s implementation ∧ DecidesCurrent env s implementation decision ∧
      decision.touchedSurfaces = (env.assessMinimumTaskClass implementation.changedFiles
        s.policySnapshot.riskTriggerPaths).touchedSurfaces ∧
      decision.checkIds = s.activeChecks ∧
      decision.attempts = (evaluateImplValidationEvidence env s).basis := by
  cases hreason : staticCeremonyIneligibilityReason env s implementation.changedFiles with
  | some reason => simp [resolveCeremonyProfile, hreason] at hresolve
  | none =>
      simp only [resolveCeremonyProfile, hreason] at hresolve
      split_ifs at hresolve with hincident hobligation hsatisfied
      obtain rfl := Except.ok.inj hresolve
      have heligible := (staticCeremonyIneligibilityReason_eq_none_iff env s _).1 hreason
      refine ⟨⟨heligible, by simpa using hincident, by simpa using hobligation,
        by simpa using hsatisfied⟩, ?_, rfl, evidence_activeChecks env s, rfl⟩
      constructor <;> rfl

/-! ### The guard -/

/-- What the guard asks of a decision and of the assessment recorded with the
implementation. -/
structure GuardAccepts (env : Environment) (s : SessionState)
    (implementation : ImplEvidence) (assessment : ImplementationRiskAssessment)
    (decision : ReducedCeremonyDecision) : Prop where
  current : DecidesCurrent env s implementation decision
  allowed : s.policySnapshot.allowReducedCeremony = true
  humanGates : s.policySnapshot.requireHumanGates = true
  declaration : boundTicketDeclaration env s = some (ticketRiskDeclarationOf s)
  riskGate : riskGateBlocked s = false
  trivial : ceremonyEffectiveTaskClass env s implementation.changedFiles = .trivial
  surface : env.reducedCeremonyEligible implementation.changedFiles = true
  noIncident : hasUnresolvedIntegrityIncident s.reviewAssurance = false
  noObligation : hasOutstandingReviewObligation s.reviewAssurance = false
  assessed : { buildImplementationRiskAssessment env s implementation with
    touchedSurfaces := assessment.touchedSurfaces
    riskTriggers := assessment.riskTriggers } = assessment
  assessedSurfaces : samePathSet assessment.touchedSurfaces
    (env.assessMinimumTaskClass implementation.changedFiles
      s.policySnapshot.riskTriggerPaths).touchedSurfaces = true
  surfaces : samePathSet decision.touchedSurfaces
    (env.assessMinimumTaskClass implementation.changedFiles
      s.policySnapshot.riskTriggerPaths).touchedSurfaces = true
  satisfied : (evaluateImplValidationEvidence env s).satisfied = true
  basis : ceremonyBasisMatches decision (evaluateImplValidationEvidence env s) = true

theorem decisionBindsRiskAuthority_iff {env : Environment} {s : SessionState}
    {implementation : ImplEvidence} {assessment : ImplementationRiskAssessment}
    {declaration : TicketRiskDeclaration} (decision : ReducedCeremonyDecision)
    (hassessment : s.implementationRiskAssessment = some assessment)
    (hbound : boundTicketDeclaration env s = some declaration) :
    decisionBindsRiskAuthority env s decision implementation = true ↔
      assessment.implementationDigest = implementation.digest ∧
        decision.declarationKind = declaration.kind ∧
        decision.ticketDigest = s.ticket.map (·.digest) ∧
        decisionMatchesRiskFacts env s assessment decision declaration implementation = true ∧
        riskGateBlocked s = false := by
  unfold decisionBindsRiskAuthority riskGateBlocked
  rw [hassessment, hbound]
  cases s.riskGate with
  | none => simp [and_assoc]
  | some gate => cases gate <;> simp [and_assoc]

theorem reducedCeremonyReady_iff {env : Environment} {s : SessionState}
    {implementation : ImplEvidence} {assessment : ImplementationRiskAssessment}
    {decision : ReducedCeremonyDecision} (hdecision : s.reducedCeremony = some decision)
    (himplementation : s.implementation = some implementation)
    (hassessment : s.implementationRiskAssessment = some assessment) :
    reducedCeremonyReady env s = true ↔
      GuardAccepts env s implementation assessment decision := by
  simp only [reducedCeremonyReady, hdecision, ceremonyBindingMatches, himplementation,
    decisionBindsFrozenPolicy, Bool.and_eq_true, beq_iff_eq, Bool.not_eq_true']
  constructor
  · rintro ⟨⟨⟨⟨⟨⟨⟨hid, hdigest⟩, ⟨hallowed, hgates⟩, hpolicy⟩, hauthority⟩, hobligation⟩,
      hincident⟩, hsatisfied⟩, hbasis⟩
    cases hbound : boundTicketDeclaration env s with
    | none => simp [decisionBindsRiskAuthority, hassessment, hbound] at hauthority
    | some declaration =>
        obtain rfl := eq_of_boundTicketDeclaration hbound
        obtain ⟨hassessed, hkind, hticket, hfacts, hgate⟩ :=
          (decisionBindsRiskAuthority_iff decision hassessment hbound).1 hauthority
        simp only [decisionMatchesRiskFacts, assessmentMatchesImplementation,
          assessmentBindsTicketDeclaration, declaredDecisionMatches, Bool.and_eq_true,
          beq_iff_eq] at hfacts
        obtain ⟨⟨⟨⟨⟨⟨⟨⟨⟨⟨hcount, hclaimed⟩, hescalated⟩, ⟨hassessedTicket, hassessedKind⟩,
          hassessedDeclared⟩, hminimum⟩, hassessedSurfaces⟩, hsurfaces⟩, hassessedEffective⟩,
          htrivial⟩, heligible⟩, ⟨hdeclared, hcomputed⟩, heffective⟩ := hfacts
        exact
          { current := ⟨heffective, hcomputed, hdeclared, hkind, hticket, hescalated, hid,
              hdigest, hpolicy⟩
            allowed := hallowed
            humanGates := hgates
            declaration := hbound
            riskGate := hgate
            trivial := htrivial
            surface := heligible
            noIncident := hincident
            noObligation := hobligation
            assessed := by
              cases assessment
              simp only [buildImplementationRiskAssessment] at *
              subst_vars
              rfl
            assessedSurfaces := hassessedSurfaces
            surfaces := hsurfaces
            satisfied := hsatisfied
            basis := hbasis }
  · intro haccepts
    have hassessed := haccepts.assessed
    have hauthority : decisionBindsRiskAuthority env s decision implementation = true := by
      apply (decisionBindsRiskAuthority_iff decision hassessment haccepts.declaration).2
      refine ⟨by rw [← hassessed]; rfl, haccepts.current.kind, haccepts.current.ticketDigest,
        ?_, haccepts.riskGate⟩
      have hsurfaces := haccepts.assessedSurfaces
      rw [← hassessed]
      simp only [decisionMatchesRiskFacts, assessmentMatchesImplementation,
        assessmentBindsTicketDeclaration, declaredDecisionMatches, Bool.and_eq_true, beq_iff_eq,
        buildImplementationRiskAssessment, true_and, and_true]
      exact ⟨⟨⟨⟨⟨haccepts.current.escalated, hsurfaces⟩, haccepts.surfaces⟩, haccepts.trivial⟩,
        haccepts.surface⟩, ⟨haccepts.current.declared, haccepts.current.computed⟩,
        haccepts.current.effective⟩
    exact ⟨⟨⟨⟨⟨⟨⟨haccepts.current.implementationId, haccepts.current.implementationDigest⟩,
      ⟨haccepts.allowed, haccepts.humanGates⟩, haccepts.current.policyDigest⟩, hauthority⟩,
      haccepts.noObligation⟩, haccepts.noIncident⟩, haccepts.satisfied⟩, haccepts.basis⟩

/-! ### The basis of a decision -/

/-- One attempt for each active check, in their order, with identifiers that the
spelling of an entry keeps apart. -/
def BasisBy (activeChecks : List String) (attemptOf : String → VerificationAttemptRef)
    (attempts : List VerificationAttemptRef) : Prop :=
  attempts = activeChecks.map attemptOf ∧
    ∀ checkId ∈ activeChecks, ':' ∉ checkId.toList ∧ (attemptOf checkId).checkId = checkId ∧
      isUuid (attemptOf checkId).attemptId = true

/-- How the guard spells an entry. -/
def spelledAttempt (entry : VerificationAttemptRef) : String :=
  entry.checkId ++ ":" ++ entry.attemptId ++ ":" ++ entry.executedAt

theorem spelledAttempt_injective {entry other : VerificationAttemptRef}
    (hcheck : ':' ∉ entry.checkId.toList) (hcheck' : ':' ∉ other.checkId.toList)
    (huuid : isUuid entry.attemptId = true) (huuid' : isUuid other.attemptId = true)
    (hspelled : spelledAttempt entry = spelledAttempt other) : entry = other := by
  have htext := congrArg String.toList hspelled
  simp only [spelledAttempt, String.toList_append, List.append_assoc] at htext
  obtain ⟨hid, hrest⟩ := append_cons_injective_left hcheck hcheck' htext
  obtain ⟨hattempt, htime⟩ := append_cons_injective_left (colon_notMem_of_isUuid huuid)
    (colon_notMem_of_isUuid huuid') hrest
  cases entry
  cases other
  rw [VerificationAttemptRef.mk.injEq]
  exact ⟨String.toList_inj.1 hid, String.toList_inj.1 hattempt, String.toList_inj.1 htime⟩

/-- Bases of the same checks that agree as multisets of texts are one list. -/
theorem BasisBy.eq_of_perm {activeChecks : List String}
    {attemptOf attemptOf' : String → VerificationAttemptRef}
    {attempts attempts' : List VerificationAttemptRef}
    (hbasis : BasisBy activeChecks attemptOf attempts)
    (hbasis' : BasisBy activeChecks attemptOf' attempts')
    (hperm : (attempts.map spelledAttempt).Perm (attempts'.map spelledAttempt)) :
    attempts = attempts' := by
  obtain ⟨rfl, hplain⟩ := hbasis
  obtain ⟨rfl, hplain'⟩ := hbasis'
  apply List.map_congr_left
  intro checkId hmem
  obtain ⟨hcolon, hcheck, huuid⟩ := hplain checkId hmem
  have hspelled : spelledAttempt (attemptOf checkId) ∈
      (activeChecks.map attemptOf').map spelledAttempt :=
    hperm.subset (List.mem_map_of_mem (List.mem_map_of_mem hmem))
  obtain ⟨entry, hentry, heq⟩ := List.mem_map.1 hspelled
  obtain ⟨other, hother, rfl⟩ := List.mem_map.1 hentry
  obtain ⟨hcolon', hcheck', huuid'⟩ := hplain' other hother
  have hsame : attemptOf' other = attemptOf checkId :=
    spelledAttempt_injective (hcheck'.symm ▸ hcolon') (hcheck.symm ▸ hcolon) huuid' huuid heq
  have hid : other = checkId := by rw [← hcheck', hsame, hcheck]
  rw [← hsame, hid]

theorem mem_of_latestBy {α : Type} {key : α → String} {items : List α} {item : α}
    (hlatest : latestBy key items = some item) : item ∈ items := by
  obtain ⟨before, after, rfl, -, -⟩ := Risk.latestBy_eq_some hlatest
  exact List.mem_append_right _ List.mem_cons_self

/-- A satisfying attempt is recorded, and so is a result of its check. -/
theorem mem_of_satisfyingAttempt {env : Environment} {s : SessionState}
    {implementation : ImplEvidence} {checkId : String} {entry : VerificationAttemptRef}
    (hentry : satisfyingAttempt env s implementation checkId = some entry) :
    entry.checkId = checkId ∧
      (∃ attempt ∈ s.validationAttempts, attempt.attemptId = entry.attemptId) ∧
      ∃ result ∈ s.implValidation, result.checkId = checkId := by
  unfold satisfyingAttempt at hentry
  dsimp only at hentry
  split at hentry
  · rename_i result attempt hresult hattempt
    split_ifs at hentry
    obtain rfl := Option.some.inj hentry
    have hmem := List.mem_filter.1 (mem_of_latestBy hresult)
    have hrecorded := List.mem_filter.1 (mem_of_latestBy hattempt)
    exact ⟨rfl, ⟨attempt, hrecorded.1, rfl⟩, result, hmem.1, by simpa using hmem.2⟩
  · cases hentry

/-! ### What a record leaves behind -/

/-- The claim has only been raised. -/
def RaisedFrom (claim current : Option TaskClass) : Prop :=
  ∀ held ∈ claim, ∃ raised ∈ current, held.order ≤ raised.order

/-- What holds of the slots the agreement depends on, from the record of an
implementation on. -/
structure CeremonyFacts (env : Environment) (s : SessionState) : Prop where
  files : ∀ implementation ∈ s.implementation, implementation.changedFiles ≠ []
  assessed : ∀ implementation ∈ s.implementation, ∃ claim,
    s.implementationRiskAssessment = some
      (buildImplementationRiskAssessment env { s with claimedTaskClass := claim }
        implementation) ∧
      RaisedFrom claim s.claimedTaskClass
  uuid : ∀ attempt ∈ s.validationAttempts, isUuid attempt.attemptId = true
  named : ∀ result ∈ s.implValidation, ':' ∉ result.checkId.toList
  decided : ∀ decision ∈ s.reducedCeremony, decision.checkIds = s.activeChecks ∧
    ∃ attemptOf, BasisBy s.activeChecks attemptOf decision.attempts

theorem CeremonyFacts.basis {env : Environment} {s : SessionState}
    (hfacts : CeremonyFacts env s)
    (hsatisfied : (evaluateImplValidationEvidence env s).satisfied = true) :
    ∃ attemptOf, BasisBy s.activeChecks attemptOf
      (evaluateImplValidationEvidence env s).basis := by
  cases himplementation : s.implementation with
  | none =>
      rw [evaluateImplValidationEvidence, himplementation] at hsatisfied
      split_ifs at hsatisfied
  | some implementation =>
      by_cases hchecks : s.activeChecks.isEmpty = true
      · simp [evaluateImplValidationEvidence, hchecks] at hsatisfied
      have hevidence : (evaluateImplValidationEvidence env s).basis =
          s.activeChecks.filterMap (satisfyingAttempt env s implementation) := by
        simp [evaluateImplValidationEvidence, hchecks, himplementation]
      simp only [evaluateImplValidationEvidence, hchecks, himplementation] at hsatisfied
      have hall : ∀ checkId ∈ s.activeChecks, satisfyingAttempt env s implementation checkId =
          some ((satisfyingAttempt env s implementation checkId).getD ⟨"", "", ""⟩) := by
        intro checkId hmem
        cases hentry : satisfyingAttempt env s implementation checkId with
        | some entry => rfl
        | none =>
            have hmissing : checkId ∈ s.activeChecks.filter fun checkId =>
                (satisfyingAttempt env s implementation checkId).isNone :=
              List.mem_filter.2 ⟨hmem, Option.isNone_iff_eq_none.2 hentry⟩
            rw [List.isEmpty_iff.1 hsatisfied] at hmissing
            cases hmissing
      refine ⟨fun checkId =>
        (satisfyingAttempt env s implementation checkId).getD ⟨"", "", ""⟩, ?_, ?_⟩
      · rw [hevidence]
        exact List.filterMap_eq_map_iff_forall_eq_some.2 hall
      · intro checkId hmem
        obtain ⟨hcheck, ⟨attempt, hattempt, hid⟩, result, hresult, hnamed⟩ :=
          mem_of_satisfyingAttempt (hall checkId hmem)
        exact ⟨hnamed ▸ hfacts.named result hresult, hcheck, hid ▸ hfacts.uuid attempt hattempt⟩

/-! ### What the tools keep -/

/-- The slots of `CeremonyFacts`. -/
def ceremonyFields (s : SessionState) :=
  (s.implementation, s.implementationRiskAssessment, s.ticket, s.policySnapshot,
    s.claimedTaskClass, s.activeChecks, s.validationAttempts, s.implValidation,
    s.reducedCeremony)

/-- The assessment of an implementation depends on the ticket and the policy only. -/
theorem buildImplementationRiskAssessment_congr (env : Environment) {s t : SessionState}
    (hticket : t.ticket = s.ticket) (hpolicy : t.policySnapshot = s.policySnapshot)
    (claim : Option TaskClass) (implementation : ImplEvidence) :
    buildImplementationRiskAssessment env { t with claimedTaskClass := claim } implementation =
      buildImplementationRiskAssessment env { s with claimedTaskClass := claim }
        implementation := by
  simp only [buildImplementationRiskAssessment, ticketRiskDeclarationOf, hticket, hpolicy]

theorem CeremonyFacts.congr {env : Environment} {s t : SessionState}
    (hfacts : CeremonyFacts env s) (hfields : ceremonyFields t = ceremonyFields s) :
    CeremonyFacts env t := by
  simp only [ceremonyFields, Prod.mk.injEq] at hfields
  obtain ⟨himplementation, hassessment, hticket, hpolicy, hclaim, hchecks, hattempts, hresults,
    hdecision⟩ := hfields
  constructor
  · rw [himplementation]
    exact hfacts.files
  · intro implementation hmem
    rw [himplementation] at hmem
    obtain ⟨claim, hassessed, hraised⟩ := hfacts.assessed implementation hmem
    have hsame := buildImplementationRiskAssessment_congr env hticket hpolicy claim implementation
    exact ⟨claim, hassessment.trans (hassessed.trans (congrArg some hsame.symm)),
      hclaim ▸ hraised⟩
  · rw [hattempts]
    exact hfacts.uuid
  · rw [hresults]
    exact hfacts.named
  · rw [hdecision, hchecks]
    exact hfacts.decided

theorem order_le_raisedTaskClass {persisted : Option TaskClass} {held : TaskClass}
    (hheld : held ∈ persisted) (claim : TaskClass) :
    held.order ≤ (raisedTaskClass persisted claim).order := by
  obtain rfl := Option.mem_def.1 hheld
  rw [raisedTaskClass, maxTaskClass]
  split_ifs <;> omega

/-- A raise of the claim leaves the assessment behind. -/
theorem CeremonyFacts.raised {env : Environment} {s t : SessionState}
    {claim : Option TaskClass} {policy : Option GatePolicy} {result : EvalResult}
    (hfacts : CeremonyFacts env s)
    (hhydrate : handleExistingState env s claim policy = .ok (t, result)) :
    CeremonyFacts env t := by
  rcases handleExistingState_ok hhydrate with rfl | ⟨raised, -, rfl⟩
  · exact hfacts
  refine ⟨hfacts.files, ?_, hfacts.uuid, hfacts.named, hfacts.decided⟩
  intro implementation hmem
  obtain ⟨recorded, hassessed, hraised⟩ := hfacts.assessed implementation hmem
  refine ⟨recorded, hassessed, ?_⟩
  intro held hheld
  obtain ⟨current, hcurrent, hle⟩ := hraised held hheld
  exact ⟨_, rfl, hle.trans (order_le_raisedTaskClass hcurrent raised)⟩

/-- A check result as the tool makes one: its check is named by its kind, its attempt by
a fresh identifier. -/
structure CheckRun.FromTool (check : CheckRun) : Prop where
  named : check.result.checkId = candidateKindName check.result.kind
  uuid : isUuid check.attemptId = true

theorem colon_notMem_candidateKindName (kind : VerificationCandidateKind) :
    ':' ∉ (candidateKindName kind).toList := by
  cases kind <;> decide

/-- The state the decision is made on: the merged result of a check. -/
def mergedState (s : SessionState) (check : CheckRun) : SessionState :=
  buildNextValidationState s (mergeValidationResult s check.result)
    ⟨check.attemptId, check.subject, check.executionObservation, check.result⟩

theorem CeremonyFacts.merged {env : Environment} {s : SessionState} {check : CheckRun}
    (hfacts : CeremonyFacts env s) (htool : check.FromTool) :
    CeremonyFacts env (mergedState s check) := by
  have huuid : ∀ attempt ∈ s.validationAttempts ++
      [⟨check.attemptId, check.subject, check.executionObservation, check.result⟩],
      isUuid attempt.attemptId = true := by
    intro attempt hmem
    rcases List.mem_append.1 hmem with hold | hnew
    · exact hfacts.uuid attempt hold
    · rw [List.mem_singleton] at hnew
      subst hnew
      exact htool.uuid
  by_cases hphase : s.phase = .implValidation
  · have hnamed : ∀ result ∈ mergeValidationResult s check.result,
        ':' ∉ result.checkId.toList := by
      intro result hmem
      simp only [mergeValidationResult, hphase, beq_self_eq_true, if_true, List.mem_append,
        List.mem_filter, List.mem_singleton] at hmem
      rcases hmem with ⟨hold, -⟩ | rfl
      · exact hfacts.named result hold
      · rw [htool.named]
        exact colon_notMem_candidateKindName _
    simp only [mergedState, buildNextValidationState, hphase, beq_self_eq_true, if_true]
    split_ifs
    · refine ⟨?_, ?_, huuid, hnamed, hfacts.decided⟩ <;>
      · intro implementation hmem
        cases hmem
    · exact ⟨hfacts.files, hfacts.assessed, huuid, hnamed, hfacts.decided⟩
  · have hother : (s.phase == .implValidation) = false := by simpa using hphase
    simp only [mergedState, buildNextValidationState, hother]
    exact ⟨hfacts.files, hfacts.assessed, huuid, hfacts.named, hfacts.decided⟩

/-- A decision rests on the basis of its session. -/
theorem CeremonyFacts.decision {env : Environment} {s t : SessionState}
    {subjectUnchanged : Bool} {now : Timestamp} (hfacts : CeremonyFacts env s)
    (hdecided : decidePostCheckCeremony env s subjectUnchanged now = some t) :
    CeremonyFacts env t := by
  rw [decidePostCheckCeremony_eq] at hdecided
  cases houtcome : postCheckCeremonyOutcome env s subjectUnchanged now with
  | skipped state =>
      rw [houtcome] at hdecided
      obtain rfl := Option.some.inj hdecided
      rcases skipped_or houtcome with rfl | rfl
      · exact hfacts
      · refine ⟨hfacts.files, hfacts.assessed, hfacts.uuid, hfacts.named, ?_⟩
        intro decision hmem
        cases hmem
  | subjectChanged =>
      rw [houtcome] at hdecided
      cases hdecided
  | decided decision state =>
      rw [houtcome] at hdecided
      obtain rfl := Option.some.inj hdecided
      obtain ⟨implementation, -, hresolve, rfl⟩ := resolved_of_decided houtcome
      refine ⟨hfacts.files, hfacts.assessed, hfacts.uuid, hfacts.named, ?_⟩
      intro recorded hmem
      obtain rfl : decision = .ok recorded := by
        cases decision with
        | error reason => cases hmem
        | ok resolved => exact congrArg Except.ok (Option.some.inj hmem)
      obtain ⟨hopen, -, -, hchecks, hattempts⟩ := resolveCeremonyProfile_ok hresolve.symm
      obtain ⟨attemptOf, hbasis⟩ := hfacts.basis hopen.satisfied
      exact ⟨hchecks, attemptOf, hattempts ▸ hbasis⟩

section Services

variable {services : ImplementServices} {s t : SessionState} {ctx : RailContext}
  {write : ImplementWrite}

theorem ceremonyFields_activated {iteration : Nat}
    (hactivate : activateImplementationReviewObligation services s iteration = .ok t) :
    ceremonyFields t = ceremonyFields s := by
  unfold activateImplementationReviewObligation at hactivate
  split_ifs at hactivate
  · obtain rfl := Except.ok.inj hactivate
    rfl
  · cases hbuild : services.buildReviewObligation s iteration with
    | error code =>
        rw [hbuild] at hactivate
        cases hactivate
    | ok obligation =>
        rw [hbuild] at hactivate
        obtain rfl := Except.ok.inj hactivate
        rfl

theorem ceremonyFields_materialize (s : SessionState) (entryPhase : Phase) :
    ceremonyFields (materializePostValidationContract services s entryPhase) =
      ceremonyFields s := by
  rw [materializePostValidationContract]
  dsimp only
  split_ifs <;> rfl

theorem ceremonyFields_stateForAdvance (s : SessionState) :
    ceremonyFields (stateForAdvance services ctx s) = ceremonyFields s := by
  rw [stateForAdvance]
  split
  · exact ceremonyFields_materialize s _
  · exact ceremonyFields_materialize s _
  · rfl

theorem ceremonyFields_advance {advanced : AutoAdvanceAdvanced}
    (hadvance : advanceImplementation services ctx s = .ok advanced) :
    ceremonyFields advanced.state = ceremonyFields s :=
  autoAdvance_keeps services.env (fun _ _ _ _ _ => rfl) (advanceImplementation_ok hadvance)

/-- A record starts from nothing that was decided or checked before. -/
theorem ceremonyFacts_record {evidence : ImplEvidence}
    (huuid : ∀ attempt ∈ s.validationAttempts, isUuid attempt.attemptId = true)
    (hrecord : handleImplRecord services s ctx evidence = .ok write) :
    CeremonyFacts services.env write.state := by
  unfold handleImplRecord at hrecord
  split at hrecord
  · cases hrecord
  · split at hrecord
    · cases hrecord
    · rename_i hnonempty
      have hrecorded : CeremonyFacts services.env (recordedState services s evidence) := by
        constructor
        · intro implementation hmem
          obtain rfl := Option.some.inj hmem
          exact fun hnil => hnonempty (by rw [hnil]; rfl)
        · intro implementation hmem
          obtain rfl := Option.some.inj hmem
          exact ⟨s.claimedTaskClass, rfl, fun held hheld => ⟨held, hheld, Nat.le_refl _⟩⟩
        · exact huuid
        · intro result hmem
          cases hmem
        · intro decision hmem
          cases hmem
      split at hrecord
      · cases hrecord
      · dsimp only at hrecord
        split at hrecord
        · cases hrecord
        · rename_i advanced hadvance
          have hadvanced := hrecorded.congr (ceremonyFields_advance hadvance)
          split at hrecord
          · split at hrecord
            · obtain rfl := Except.ok.inj hrecord
              exact hrecorded
            · cases hrecord
          · rename_i activated hactivate
            obtain rfl := Except.ok.inj hrecord
            exact (hadvanced.congr (ceremonyFields_materialize _ _)).congr
              (ceremonyFields_activated hactivate)

theorem CeremonyFacts.checked {check : CheckRun} (hfacts : CeremonyFacts services.env s)
    (htool : check.FromTool) (hrun : runCheck services s ctx check = .ok write) :
    CeremonyFacts services.env write.state := by
  unfold runCheck at hrun
  split at hrun
  · cases hrun
  · split at hrun
    · cases hrun
    · split at hrun
      · cases hrun
      · rename_i next hnext
        have hdecided : CeremonyFacts services.env next :=
          (hfacts.merged htool).decision hnext
        split at hrun
        · cases hrun
        · rename_i advanced hadvance
          have hadvanced := hdecided.congr
            ((ceremonyFields_advance hadvance).trans (ceremonyFields_stateForAdvance next))
          split at hrun
          · obtain rfl := Except.ok.inj hrun
            exact hdecided
          · rename_i activated hactivate
            obtain rfl := Except.ok.inj hrun
            exact hadvanced.congr (ceremonyFields_activated hactivate)

end Services

/-! ### The agreement -/

/-- The sessions reached from the record of an implementation by raises of the claim and
by checks, with the merged states that the checks decide on.  Attempts carry the
identifiers their schema asks for. -/
inductive AfterRecord (services : ImplementServices) : SessionState → Prop
  | recorded {s : SessionState} {ctx : RailContext} {evidence : ImplEvidence}
      {write : ImplementWrite}
      (huuid : ∀ attempt ∈ s.validationAttempts, isUuid attempt.attemptId = true)
      (hrecord : handleImplRecord services s ctx evidence = .ok write) :
      AfterRecord services write.state
  | raised {s t : SessionState} {claim : Option TaskClass} {policy : Option GatePolicy}
      {result : EvalResult} (hs : AfterRecord services s)
      (hhydrate : handleExistingState services.env s claim policy = .ok (t, result)) :
      AfterRecord services t
  | merged {s : SessionState} {check : CheckRun} (hs : AfterRecord services s)
      (htool : check.FromTool) : AfterRecord services (mergedState s check)
  | checked {s : SessionState} {ctx : RailContext} {check : CheckRun} {write : ImplementWrite}
      (hs : AfterRecord services s) (htool : check.FromTool)
      (hrun : runCheck services s ctx check = .ok write) : AfterRecord services write.state

theorem AfterRecord.facts {services : ImplementServices} {s : SessionState}
    (hs : AfterRecord services s) : CeremonyFacts services.env s := by
  induction hs with
  | recorded huuid hrecord => exact ceremonyFacts_record huuid hrecord
  | raised _ hhydrate ih => exact ih.raised hhydrate
  | merged _ htool ih => exact ih.merged htool
  | checked _ htool hrun ih => exact ih.checked htool hrun

/-- The claim was set after the record, to the one class that raises nothing. -/
def ClaimedTrivialLater (s : SessionState) : Prop :=
  s.claimedTaskClass = some .trivial ∧
    ∀ assessment ∈ s.implementationRiskAssessment, assessment.escalatedTaskClass = none

theorem trivial_of_resolveEffectiveTaskClass {computed claim : TaskClass}
    {declaration : TicketRiskDeclaration}
    (htrivial : resolveEffectiveTaskClass computed declaration (some claim) = .trivial) :
    claim = .trivial := by
  rw [resolveEffectiveTaskClass] at htrivial
  exact (Risk.maxTaskClass_eq_trivial.1 htrivial).2

/-- Where the effective class is trivial, the claim is that of the record, or was set to
`TRIVIAL` since. -/
theorem RaisedFrom.eq_or {claim current : Option TaskClass} {computed : TaskClass}
    {declaration : TicketRiskDeclaration} (hraised : RaisedFrom claim current)
    (htrivial : resolveEffectiveTaskClass computed declaration current = .trivial) :
    claim = current ∨ (claim = none ∧ current = some .trivial) := by
  cases current with
  | none =>
      left
      cases claim with
      | none => rfl
      | some held =>
          obtain ⟨raised, hnone, -⟩ := hraised held rfl
          cases hnone
  | some raised =>
      obtain rfl := trivial_of_resolveEffectiveTaskClass htrivial
      cases claim with
      | none => exact Or.inr ⟨rfl, rfl⟩
      | some held =>
          obtain ⟨current, hcurrent, hle⟩ := hraised held rfl
          obtain rfl := Option.some.inj hcurrent
          left
          cases held with
          | trivial => rfl
          | standard => exact absurd hle (by decide)
          | highRisk => exact absurd hle (by decide)

theorem samePathSet_self (paths : List String) : samePathSet paths paths = true := by
  simp [samePathSet]

/-- The classes, the digests and the attempts of two decisions. -/
structure SameDecision (recorded resolved : ReducedCeremonyDecision) : Prop where
  effective : recorded.effectiveTaskClass = resolved.effectiveTaskClass
  computed : recorded.computedMinimumTaskClass = resolved.computedMinimumTaskClass
  declared : recorded.declaredTaskClass = resolved.declaredTaskClass
  kind : recorded.declarationKind = resolved.declarationKind
  escalated : recorded.escalatedTaskClass = resolved.escalatedTaskClass
  ticketDigest : recorded.ticketDigest = resolved.ticketDigest
  implementationId : recorded.implementationId = resolved.implementationId
  implementationDigest : recorded.implementationDigest = resolved.implementationDigest
  policyDigest : recorded.policyDigest = resolved.policyDigest
  checkIds : recorded.checkIds = resolved.checkIds
  attempts : recorded.attempts = resolved.attempts

structure CeremonyAgreement (env : Environment) (s : SessionState) : Prop where
  /-- What the authority records, the guard accepts. -/
  records : ∀ subjectUnchanged now decision t,
    postCheckCeremonyOutcome env s subjectUnchanged now = .decided (.ok decision) t →
      (reducedCeremonyReady env t = true ↔ ¬ ClaimedTrivialLater s)
  /-- What the guard accepts, the authority resolves again. -/
  resolves : reducedCeremonyReady env s = true → ∀ now,
    ∃ implementation recorded resolved, s.implementation = some implementation ∧
      s.reducedCeremony = some recorded ∧
      resolveCeremonyProfile env s implementation now = .ok resolved ∧
      SameDecision recorded resolved

section Agreement

variable {env : Environment} {s : SessionState}

theorem CeremonyFacts.records (hfacts : CeremonyFacts env s) {subjectUnchanged : Bool}
    {now : Timestamp} {decision : ReducedCeremonyDecision} {t : SessionState}
    (hdecided : postCheckCeremonyOutcome env s subjectUnchanged now = .decided (.ok decision) t) :
    reducedCeremonyReady env t = true ↔ ¬ ClaimedTrivialLater s := by
  obtain ⟨implementation, himplementation, hresolve, ht⟩ := resolved_of_decided hdecided
  obtain ⟨hopen, hcurrent, hsurfaces, hchecks, hattempts⟩ :=
    resolveCeremonyProfile_ok hresolve.symm
  obtain ⟨claim, hassessment, hraised⟩ := hfacts.assessed implementation himplementation
  have hdecision : t.reducedCeremony = some decision := by rw [ht]; rfl
  have himplementation' : t.implementation = some implementation := by rw [ht, himplementation]
  have hassessment' := (congrArg SessionState.implementationRiskAssessment ht).trans hassessment
  rw [reducedCeremonyReady_iff hdecision himplementation' hassessment']
  subst ht
  constructor
  · rintro haccepts ⟨hclaim, hunset⟩
    have hnone : claim = none := hunset _ hassessment
    have hsame : s.claimedTaskClass = claim :=
      congrArg ImplementationRiskAssessment.escalatedTaskClass haccepts.assessed
    rw [hclaim, hnone] at hsame
    cases hsame
  · intro hrecorded
    have hclaim : claim = s.claimedTaskClass := by
      rcases hraised.eq_or hopen.eligible.trivial with hsame | ⟨hnone, htrivial⟩
      · exact hsame
      · refine absurd ⟨htrivial, ?_⟩ hrecorded
        intro assessment hmem
        rw [hassessment, Option.mem_some_iff] at hmem
        rw [← hmem]
        exact hnone
    subst hclaim
    exact
      { current := ⟨hcurrent.effective, hcurrent.computed, hcurrent.declared, hcurrent.kind,
          hcurrent.ticketDigest, hcurrent.escalated, hcurrent.implementationId,
          hcurrent.implementationDigest, hcurrent.policyDigest⟩
        allowed := hopen.eligible.allowed
        humanGates := hopen.eligible.humanGates
        declaration := hopen.eligible.declaration
        riskGate := hopen.eligible.riskGate
        trivial := hopen.eligible.trivial
        surface := hopen.eligible.surface
        noIncident := hopen.noIncident
        noObligation := hopen.noObligation
        assessed := rfl
        assessedSurfaces := samePathSet_self _
        surfaces := hsurfaces ▸ samePathSet_self _
        satisfied := hopen.satisfied
        basis := by
          rw [ceremonyBasisMatches, hchecks, hattempts, Bool.and_eq_true, List.isPerm_iff,
            List.isPerm_iff]
          exact ⟨(evidence_activeChecks env s).symm ▸ .refl _, .refl _⟩ }

theorem CeremonyFacts.resolves (hfacts : CeremonyFacts env s)
    (hready : reducedCeremonyReady env s = true) (now : Timestamp) :
    ∃ implementation recorded resolved, s.implementation = some implementation ∧
      s.reducedCeremony = some recorded ∧
      resolveCeremonyProfile env s implementation now = .ok resolved ∧
      SameDecision recorded resolved := by
  cases hdecision : s.reducedCeremony with
  | none => simp [reducedCeremonyReady, hdecision] at hready
  | some recorded =>
      cases himplementation : s.implementation with
      | none => simp [reducedCeremonyReady, hdecision, ceremonyBindingMatches,
          himplementation] at hready
      | some implementation =>
          obtain ⟨claim, hassessment, -⟩ := hfacts.assessed implementation himplementation
          have haccepts :=
            (reducedCeremonyReady_iff hdecision himplementation hassessment).1 hready
          have hopen : CeremonyOpen env s implementation :=
            ⟨⟨haccepts.allowed, haccepts.humanGates, haccepts.declaration, haccepts.riskGate,
              hfacts.files implementation himplementation, haccepts.trivial, haccepts.surface⟩,
              haccepts.noIncident, haccepts.noObligation, haccepts.satisfied⟩
          obtain ⟨resolved, hresolve⟩ := resolveCeremonyProfile_isOk hopen now
          obtain ⟨-, hcurrent, -, hchecks, hattempts⟩ := resolveCeremonyProfile_ok hresolve
          -- both bases list the active checks, and the guard compared them as texts
          obtain ⟨hrecorded, attemptOf, hbasis⟩ := hfacts.decided recorded hdecision
          obtain ⟨attemptOf', hbasis'⟩ := hfacts.basis haccepts.satisfied
          have hmatches := haccepts.basis
          rw [ceremonyBasisMatches, Bool.and_eq_true, List.isPerm_iff, List.isPerm_iff]
            at hmatches
          refine ⟨implementation, recorded, resolved, rfl, rfl, hresolve, ?_⟩
          exact
            { effective := haccepts.current.effective.trans hcurrent.effective.symm
              computed := haccepts.current.computed.trans hcurrent.computed.symm
              declared := haccepts.current.declared.trans hcurrent.declared.symm
              kind := haccepts.current.kind.trans hcurrent.kind.symm
              escalated := haccepts.current.escalated.trans hcurrent.escalated.symm
              ticketDigest := haccepts.current.ticketDigest.trans hcurrent.ticketDigest.symm
              implementationId :=
                haccepts.current.implementationId.trans hcurrent.implementationId.symm
              implementationDigest :=
                haccepts.current.implementationDigest.trans hcurrent.implementationDigest.symm
              policyDigest := haccepts.current.policyDigest.trans hcurrent.policyDigest.symm
              checkIds := hrecorded.trans hchecks.symm
              attempts := (hbasis.eq_of_perm hbasis' hmatches.2).trans hattempts.symm }

/-- The authority and the guard agree on every session reached after a record: the guard
acts on a recorded decision unless the claim was set to `TRIVIAL` after the record, and
what it acts on the authority resolves again. -/
theorem ceremony_agreement {services : ImplementServices} (hs : AfterRecord services s) :
    CeremonyAgreement services.env s :=
  ⟨fun _ _ _ _ hdecided => hs.facts.records hdecided,
    fun hready now => hs.facts.resolves hready now⟩

end Agreement

/-! ### A record with a later claim -/

def documentEvidence : ImplEvidence :=
  { implementationId := "5d2f8a11-6c1d-4f0e-9a75-2f1c3d4e5f60"
    changedFiles := ["README.md"]
    domainFiles := []
    digest := "d1"
    diffDigest := none
    executedAt := "2024-05-01T09:00:00.000Z" }

def lintCheck : CheckRun :=
  { subject := .implementation "5d2f8a11-6c1d-4f0e-9a75-2f1c3d4e5f60" "d1"
    attemptId := "0b8f9a52-6c1d-4f0e-9a75-2f1c3d4e5f60"
    executionObservation := ""
    result := Risk.lintResult
    subjectUnchanged := true
    decidedAt := "2024-05-01T11:00:00.000Z" }

/-- A document is recorded, the session is hydrated with a claim, and its check
passes. -/
def claimedSession (claim : Option TaskClass) : Except String SessionState :=
  match handleImplRecord ceremonyServices implementationSession teamContext documentEvidence with
  | .error code => .error code
  | .ok write =>
      match handleExistingState ceremonyServices.env write.state claim (some ⟨some true⟩) with
      | .error code => .error code
      | .ok (hydrated, _) => .ok (mergedState hydrated lintCheck)

theorem afterRecord_claimedSession {claim : Option TaskClass} {s : SessionState}
    (hclaimed : (claimedSession claim).toOption = some s) : AfterRecord ceremonyServices s := by
  rw [claimedSession] at hclaimed
  split at hclaimed
  · cases hclaimed
  · rename_i write hrecord
    split at hclaimed
    · cases hclaimed
    · rename_i hydrated result hhydrate
      obtain rfl := Option.some.inj hclaimed
      have huuid : ∀ attempt ∈ implementationSession.validationAttempts,
          isUuid attempt.attemptId = true := fun _ hmem => absurd hmem List.not_mem_nil
      exact .merged (.raised (.recorded huuid hrecord) hhydrate) ⟨by decide, by decide⟩

/-- The state of a recorded reduction, with the answer of the guard. -/
def guardedReduction (env : Environment) (s : SessionState) (now : Timestamp) :
    Option (Phase × Bool × Option TaskClass) :=
  match postCheckCeremonyOutcome env s true now with
  | .decided (.ok _) t => some (s.phase, reducedCeremonyReady env t, s.claimedTaskClass)
  | _ => none

theorem decided_of_guardedReduction {env : Environment} {s : SessionState} {now : Timestamp}
    {answer : Phase × Bool × Option TaskClass}
    (hguarded : guardedReduction env s now = some answer) :
    ∃ decision t, postCheckCeremonyOutcome env s true now = .decided (.ok decision) t ∧
      s.phase = answer.1 ∧ reducedCeremonyReady env t = answer.2.1 ∧
      s.claimedTaskClass = answer.2.2 := by
  rw [guardedReduction] at hguarded
  split at hguarded
  · rename_i decision t houtcome
    obtain rfl := Option.some.inj hguarded
    exact ⟨decision, t, houtcome, rfl, rfl, rfl⟩
  · cases hguarded

/-- Without a claim the recorded reduction is acted on. -/
theorem ceremony_agreement_unclaimed :
    ∃ s decision t, AfterRecord ceremonyServices s ∧ s.phase = .implValidation ∧
      postCheckCeremonyOutcome ceremonyServices.env s true "2024-05-01T11:00:00.000Z" =
        .decided (.ok decision) t ∧
      reducedCeremonyReady ceremonyServices.env t = true := by
  have hanswer : ((claimedSession none).toOption.bind fun s =>
      guardedReduction ceremonyServices.env s "2024-05-01T11:00:00.000Z") =
        some (.implValidation, true, none) := by
    decide +kernel
  obtain ⟨s, hclaimed, hguarded⟩ := Option.bind_eq_some_iff.1 hanswer
  obtain ⟨decision, t, hdecided, hphase, -, hclaim⟩ := decided_of_guardedReduction hguarded
  have hs : AfterRecord ceremonyServices s := afterRecord_claimedSession hclaimed
  refine ⟨s, decision, t, hs, hphase, hdecided, ?_⟩
  apply ((ceremony_agreement hs).records _ _ _ _ hdecided).2
  rintro ⟨htrivial, -⟩
  rw [hclaim] at htrivial
  cases htrivial

/-- With a claim of `TRIVIAL` set after the record, the authority records a reduction
that the guard refuses. -/
theorem ceremony_agreement_counterexample :
    ∃ s decision t, AfterRecord ceremonyServices s ∧ s.phase = .implValidation ∧
      postCheckCeremonyOutcome ceremonyServices.env s true "2024-05-01T11:00:00.000Z" =
        .decided (.ok decision) t ∧
      reducedCeremonyReady ceremonyServices.env t = false := by
  have hanswer : ((claimedSession (some .trivial)).toOption.bind fun s =>
      guardedReduction ceremonyServices.env s "2024-05-01T11:00:00.000Z") =
        some (.implValidation, false, some .trivial) := by
    decide +kernel
  obtain ⟨s, hclaimed, hguarded⟩ := Option.bind_eq_some_iff.1 hanswer
  obtain ⟨decision, t, hdecided, hphase, hrefused, -⟩ := decided_of_guardedReduction hguarded
  exact ⟨s, decision, t, afterRecord_claimedSession hclaimed, hphase, hdecided, hrefused⟩

end GovernedRuntime.Tools
