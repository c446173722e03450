/-
The auto-advance loop of the rails (`src/rails/types.ts`): evaluate, apply, record,
until the machine settles or the step budget is used up.
-/
import GovernedRuntime.Library.BoundedLoop
import GovernedRuntime.Machine.Evaluate
import GovernedRuntime.Rails.EvidenceApproval

namespace GovernedRuntime.Rails

open GovernedRuntime.Library
open GovernedRuntime.State
open GovernedRuntime.Machine
open GovernedRuntime.ProofGraph

/-! ### Results -/

/-- A recorded transition, collected for the audit trail. -/
abbrev TransitionRecord := Transition

structure AutoAdvanceAdvanced where
  state : SessionState
  evalResult : EvalResult
  transitions : List TransitionRecord
  approvalAdmission : Option AdmissionRecord

/-- The step budget ran out while the machine still wanted to move. -/
structure AutoAdvanceOverflow where
  phase : Phase
  limit : Nat
  transitions : List TransitionRecord

/-- The protected approval was refused. -/
structure AutoAdvanceBlocked where
  phase : Phase
  block : EvidenceApprovalBlock

inductive AutoAdvanceResult
  | advanced (result : AutoAdvanceAdvanced)
  | overflow (result : AutoAdvanceOverflow)
  | blocked (result : AutoAdvanceBlocked)

/-- The state a caller can persist. -/
def AutoAdvanceResult.state? : AutoAdvanceResult → Option SessionState
  | .advanced result => some result.state
  | .overflow _ => none
  | .blocked _ => none

/-- The policy of a session as far as the rails read it. -/
structure FlowGuardPolicy where
  requireHumanGates : Bool
  allowSelfApproval : Bool
  minimumActorAssuranceForApproval : ActorAssurance
deriving DecidableEq, Repr

def FlowGuardPolicy.gate (policy : FlowGuardPolicy) : GatePolicy :=
  ⟨some policy.requireHumanGates⟩

/-- The injected helpers.  The clock answers its `n`-th call of one operation with
`now n`. -/
structure RailContext where
  now : Nat → Timestamp
  digest : String → String
  policy : Option FlowGuardPolicy

def maxAutoAdvanceSteps : Nat := 10

/-! ### The loop -/

/-- The variables of the loop. -/
structure AdvanceLoop where
  current : SessionState
  result : EvalResult
  transitions : List TransitionRecord
  approvalAdmission : Option AdmissionRecord

/-- Why the loop returns early. -/
inductive AdvanceFailure
  | blocked (result : AutoAdvanceBlocked)
  | thrown (error : ProtectedTransitionError)

section Environment

variable (env : Environment)

/-- One turn: stop unless an edge leaves the phase, and take the protected edge
only through its gated application. -/
def advanceStep (evalFn : SessionState → EvalResult) (now : Nat → Timestamp)
    (loop : AdvanceLoop) : LoopStep AdvanceLoop AdvanceFailure :=
  match loop.result with
  | .transition event target =>
      let atTime := now loop.transitions.length
      let record : TransitionRecord := ⟨loop.current.phase, target, event, atTime⟩
      if target == loop.current.phase then .stop
      else if target == .exportReady then
        match applyEvidenceApprovalTransition env loop.current atTime with
        | .error error => .fail (.thrown error)
        | .ok (.blocked block) => .fail (.blocked ⟨loop.current.phase, block⟩)
        | .ok (.applied next admission) =>
            .next ⟨next, evalFn next, loop.transitions ++ [record], some admission⟩
      else
        match applyTransition loop.current loop.current.phase target event atTime with
        | .error error => .fail (.thrown error)
        | .ok next =>
            .next ⟨next, evalFn next, loop.transitions ++ [record],
              loop.approvalAdmission⟩
  | _ => .stop

def advanceStart (evalFn : SessionState → EvalResult) (s : SessionState) :
    AdvanceLoop :=
  ⟨s, evalFn s, [], none⟩

/-- `autoAdvance`; the outer error is the exception of a misused applier. -/
def autoAdvance (s : SessionState) (evalFn : SessionState → EvalResult)
    (ctx : RailContext) : Except ProtectedTransitionError AutoAdvanceResult :=
  match boundedLoop (advanceStep env evalFn ctx.now) maxAutoAdvanceSteps
      (advanceStart evalFn s) with
  | .error (.thrown error) => .error error
  | .error (.blocked result) => .ok (.blocked result)
  | .ok loop =>
      if maxAutoAdvanceSteps ≤ loop.transitions.length &&
          loop.result.isTransition then
        .ok (.overflow ⟨loop.current.phase, maxAutoAdvanceSteps, loop.transitions⟩)
      else
        .ok (.advanced ⟨loop.current, loop.result, loop.transitions,
          loop.approvalAdmission⟩)

/-- `createPolicyEvalFn`. -/
def createPolicyEvalFn (ctx : RailContext) (s : SessionState) : EvalResult :=
  evaluate env s (ctx.policy.map (·.gate))

/-! ### One turn -/

/-- The two ways a turn moves on. -/
inductive Advanced (evalFn : SessionState → EvalResult) (now : Nat → Timestamp)
    (loop next : AdvanceLoop) : Prop
  | generic (event : Event) (target : Phase)
      (hresult : loop.result = .transition event target)
      (hleaves : target ≠ loop.current.phase) (hopen : target ≠ .exportReady)
      (hnext : next =
        ⟨applyTransitionUnchecked loop.current loop.current.phase target event
            (now loop.transitions.length),
          evalFn (applyTransitionUnchecked loop.current loop.current.phase target
            event (now loop.transitions.length)),
          loop.transitions ++ [⟨loop.current.phase, target, event,
            now loop.transitions.length⟩], loop.approvalAdmission⟩)
  | approved (event : Event) (approved : SessionState)
      (hresult : loop.result = .transition event .exportReady)
      (hcleared : ApprovalCleared env loop.current)
      (happroved : approved = applyTransitionUnchecked loop.current .evidenceReview
        .exportReady .approve (now loop.transitions.length))
      (hnext : next =
        ⟨approved, evalFn approved,
          loop.transitions ++ [⟨.evidenceReview, .exportReady, event,
            now loop.transitions.length⟩],
          some (issueEvidenceApprovalAdmission env.hashing approved)⟩)

theorem advanceStep_next_iff {evalFn : SessionState → EvalResult}
    {now : Nat → Timestamp} {loop next : AdvanceLoop} :
    advanceStep env evalFn now loop = .next next ↔
      Advanced env evalFn now loop next := by
  constructor
  · intro hstep
    cases hresult : loop.result with
    | waiting _ _ => simp [advanceStep, hresult] at hstep
    | terminal => simp [advanceStep, hresult] at hstep
    | pending _ _ => simp [advanceStep, hresult] at hstep
    | transition event target =>
        by_cases hself : target = loop.current.phase
        · simp [advanceStep, hresult, hself] at hstep
        by_cases hexport : target = .exportReady
        · subst hexport
          simp only [advanceStep, hresult, beq_iff_eq, hself, if_false, if_true] at hstep
          cases happly : applyEvidenceApprovalTransition env loop.current
              (now loop.transitions.length) with
          | error error => simp [happly] at hstep
          | ok application =>
              cases application with
              | blocked block => simp [happly] at hstep
              | applied approved admission =>
                  simp only [happly, LoopStep.next.injEq] at hstep
                  obtain ⟨hcleared, happroved, hadmission⟩ :=
                    (applyEvidenceApproval_applied_iff env).1 happly
                  subst hadmission
                  rw [hcleared.phase] at hstep
                  exact .approved event approved hresult hcleared happroved hstep.symm
        · simp only [advanceStep, hresult, beq_iff_eq, hself, hexport, if_false,
            applyTransition_of_ne hexport, LoopStep.next.injEq] at hstep
          exact .generic event target hresult hself hexport hstep.symm
  · intro hadvanced
    cases hadvanced with
    | generic event target hresult hleaves hopen hnext =>
        subst hnext
        simp [advanceStep, hresult, hleaves, hopen, applyTransition_of_ne]
    | approved event approved hresult hcleared happroved hnext =>
        have happly : applyEvidenceApprovalTransition env loop.current
            (now loop.transitions.length) =
              .ok (.applied approved (issueEvidenceApprovalAdmission env.hashing
                approved)) :=
          (applyEvidenceApproval_applied_iff env).2 ⟨hcleared, happroved, rfl⟩
        subst hnext
        simp [advanceStep, hresult, hcleared.phase, happly]

theorem advanceStep_stop {evalFn : SessionState → EvalResult} {now : Nat → Timestamp}
    {loop : AdvanceLoop} (hstop : advanceStep env evalFn now loop = .stop) :
    loop.result.leaves loop.current.phase = false := by
  cases hresult : loop.result with
  | waiting _ _ => rfl
  | terminal => rfl
  | pending _ _ => rfl
  | transition event target =>
      by_cases hself : target = loop.current.phase
      · simp [EvalResult.leaves, hself]
      · exfalso
        simp only [advanceStep, hresult, beq_iff_eq, hself, if_false] at hstop
        split_ifs at hstop
        · cases happly : applyEvidenceApprovalTransition env loop.current
              (now loop.transitions.length) with
          | error error => simp [happly] at hstop
          | ok application => cases application <;> simp [happly] at hstop
        · cases happly : applyTransition loop.current loop.current.phase target event
              (now loop.transitions.length) with
          | error error => simp [happly] at hstop
          | ok next => simp [happly] at hstop

theorem advanceStep_of_not_leaves {evalFn : SessionState → EvalResult}
    {now : Nat → Timestamp} {loop : AdvanceLoop}
    (hstays : loop.result.leaves loop.current.phase = false) :
    advanceStep env evalFn now loop = .stop := by
  cases hresult : loop.result with
  | waiting _ _ => simp [advanceStep, hresult]
  | terminal => simp [advanceStep, hresult]
  | pending _ _ => simp [advanceStep, hresult]
  | transition event target =>
      have hself : target = loop.current.phase := by
        simpa [hresult, EvalResult.leaves] using hstays
      simp [advanceStep, hresult, hself]

/-! ### The invariant of the loop -/

/-- Records that lead from one phase to another, each starting where the one
before ends and none of them a self-loop. -/
def TransitionPath : Phase → List TransitionRecord → Phase → Prop
  | start, [], stop => start = stop
  | start, record :: rest, stop =>
      record.fromPhase = start ∧ record.toPhase ≠ record.fromPhase ∧
        TransitionPath record.toPhase rest stop

theorem TransitionPath.concat {start : Phase} {records : List TransitionRecord}
    {record : TransitionRecord} (hpath : TransitionPath start records record.fromPhase)
    (hleaves : record.toPhase ≠ record.fromPhase) :
    TransitionPath start (records ++ [record]) record.toPhase := by
  induction records generalizing start with
  | nil =>
      have hstart : start = record.fromPhase := hpath
      exact ⟨hstart.symm, hleaves, rfl⟩
  | cons head rest ih =>
      obtain ⟨hfrom, hhead, hrest⟩ := hpath
      exact ⟨hfrom, hhead, ih hrest⟩

/-- What the state keeps of a record: the protected edge is always persisted with
the event `APPROVE`. -/
def persistedRecord (record : TransitionRecord) : TransitionRecord :=
  if record.toPhase = .exportReady then { record with event := .approve } else record

structure AdvanceLoop.Sound (evalFn : SessionState → EvalResult) (s : SessionState)
    (loop : AdvanceLoop) : Prop where
  path : TransitionPath s.phase loop.transitions loop.current.phase
  start : loop.transitions = [] → loop.current = s
  persisted : ∀ record, loop.transitions.getLast? = some record →
    loop.current.transition = some (persistedRecord record)
  result : loop.result = evalFn loop.current

theorem AdvanceLoop.Sound.step {evalFn : SessionState → EvalResult}
    {now : Nat → Timestamp} {s : SessionState} {loop next : AdvanceLoop}
    (hsound : loop.Sound evalFn s)
    (hstep : advanceStep env evalFn now loop = .next next) : next.Sound evalFn s := by
  cases (advanceStep_next_iff env).1 hstep with
  | generic event target hresult hleaves hopen hnext =>
      subst hnext
      constructor
      · exact TransitionPath.concat hsound.path hleaves
      · intro hempty
        simp at hempty
      · intro record hlast
        rw [List.getLast?_concat, Option.some.injEq] at hlast
        subst hlast
        simp [persistedRecord, hopen]
      · rfl
  | approved event approved hresult hcleared happroved hnext =>
      subst hnext
      have hphase : approved.phase = .exportReady := by rw [happroved]; rfl
      constructor
      · rw [hphase]
        have hpath := hsound.path
        rw [hcleared.phase] at hpath
        exact TransitionPath.concat hpath
          (show Phase.exportReady ≠ Phase.evidenceReview by decide)
      · intro hempty
        simp at hempty
      · intro record hlast
        rw [List.getLast?_concat, Option.some.injEq] at hlast
        subst hlast
        simp [persistedRecord, happroved]
      · rfl

theorem AdvanceLoop.Sound.init (evalFn : SessionState → EvalResult)
    (s : SessionState) : (advanceStart evalFn s).Sound evalFn s := by
  refine ⟨rfl, fun _ => rfl, ?_, rfl⟩
  intro record hlast
  simp [advanceStart] at hlast

/-- Each turn records one transition. -/
theorem length_transitions {evalFn : SessionState → EvalResult}
    {now : Nat → Timestamp} {n : Nat} {loop final : AdvanceLoop}
    (hturns : Turns (advanceStep env evalFn now) n loop final) :
    final.transitions.length = loop.transitions.length + n := by
  induction hturns with
  | none loop => rfl
  | turn hstep _ ih =>
      rw [ih]
      cases (advanceStep_next_iff env).1 hstep with
      | generic event target hresult hleaves hopen hnext =>
          subst hnext
          rw [List.length_append, List.length_singleton]
          omega
      | approved event approved hresult hcleared happroved hnext =>
          subst hnext
          rw [List.length_append, List.length_singleton]
          omega

/-! ### Outcomes of `autoAdvance` -/

/-- An advanced result is reached by at most ten turns and does not want to leave
its phase. -/
theorem autoAdvance_advanced {s : SessionState} {evalFn : SessionState → EvalResult}
    {ctx : RailContext} {result : AutoAdvanceAdvanced}
    (hadvance : autoAdvance env s evalFn ctx = .ok (.advanced result)) :
    ∃ n ≤ maxAutoAdvanceSteps, Turns (advanceStep env evalFn ctx.now) n
      (advanceStart evalFn s) ⟨result.state, result.evalResult, result.transitions,
        result.approvalAdmission⟩ ∧
      result.evalResult.leaves result.state.phase = false := by
  rw [autoAdvance] at hadvance
  cases hloop : boundedLoop (advanceStep env evalFn ctx.now) maxAutoAdvanceSteps
      (advanceStart evalFn s) with
  | error failure => cases failure <;> simp [hloop] at hadvance
  | ok loop =>
      rw [hloop] at hadvance
      simp only at hadvance
      split_ifs at hadvance with hover
      · simp at hadvance
      simp only [Except.ok.injEq, AutoAdvanceResult.advanced.injEq] at hadvance
      subst hadvance
      obtain ⟨n, hn, hturns, hstop⟩ := boundedLoop_ok hloop
      refine ⟨n, hn, hturns, ?_⟩
      by_cases hbudget : n < maxAutoAdvanceSteps
      · exact advanceStep_stop env (hstop hbudget)
      · have hlength := length_transitions env hturns
        have hspent : maxAutoAdvanceSteps ≤ loop.transitions.length := by
          rw [hlength]
          omega
        have hsettled : loop.result.isTransition = false := by simpa [hspent] using hover
        cases hresult : loop.result with
        | transition event target => simp [hresult, EvalResult.isTransition] at hsettled
        | waiting _ _ => rfl
        | terminal => rfl
        | pending _ _ => rfl

/-- An overflow spent the whole budget on turns. -/
theorem autoAdvance_overflow {s : SessionState} {evalFn : SessionState → EvalResult}
    {ctx : RailContext} {result : AutoAdvanceOverflow}
    (hadvance : autoAdvance env s evalFn ctx = .ok (.overflow result)) :
    ∃ loop, Turns (advanceStep env evalFn ctx.now) maxAutoAdvanceSteps
      (advanceStart evalFn s) loop := by
  rw [autoAdvance] at hadvance
  cases hloop : boundedLoop (advanceStep env evalFn ctx.now) maxAutoAdvanceSteps
      (advanceStart evalFn s) with
  | error failure => cases failure <;> simp [hloop] at hadvance
  | ok loop =>
      rw [hloop] at hadvance
      simp only at hadvance
      split_ifs at hadvance with hover
      · obtain ⟨n, hn, hturns, -⟩ := boundedLoop_ok hloop
        have hlength : loop.transitions.length = n := by
          rw [length_transitions env hturns]
          exact Nat.zero_add n
        have hspent : maxAutoAdvanceSteps ≤ loop.transitions.length := by
          simpa using (Bool.and_eq_true_iff.1 hover).1
        have hall : n = maxAutoAdvanceSteps := by omega
        exact ⟨loop, hall ▸ hturns⟩
      · simp at hadvance

/-- What no transition changes is as it was after all of them. -/
theorem autoAdvance_keeps {α : Type} {field : SessionState → α}
    (hfield : ∀ s fromPhase toPhase event atTime,
      field (applyTransitionUnchecked s fromPhase toPhase event atTime) = field s)
    {s : SessionState} {evalFn : SessionState → EvalResult} {ctx : RailContext}
    {result : AutoAdvanceAdvanced}
    (hadvance : autoAdvance env s evalFn ctx = .ok (.advanced result)) :
    field result.state = field s := by
  obtain ⟨n, -, hturns, -⟩ := autoAdvance_advanced env hadvance
  have hinv : ∀ loop next : AdvanceLoop, field loop.current = field s →
      advanceStep env evalFn ctx.now loop = .next next → field next.current = field s := by
    intro loop next hloop hstep
    cases (advanceStep_next_iff env).1 hstep with
    | generic event target hresult hleaves hopen hnext =>
        subst hnext
        exact (hfield _ _ _ _ _).trans hloop
    | approved event approved hresult hcleared happroved hnext =>
        subst hnext happroved
        exact (hfield _ _ _ _ _).trans hloop
  exact @Turns.invariant _ _ _ (fun loop => field loop.current = field s) hinv _ _ _ hturns rfl

/-- Fewer than ten turns to a settled state are an advanced result. -/
theorem autoAdvance_of_turns {s : SessionState} {evalFn : SessionState → EvalResult}
    {ctx : RailContext} {n : Nat} {loop : AdvanceLoop}
    (hturns : Turns (advanceStep env evalFn ctx.now) n (advanceStart evalFn s) loop)
    (hbudget : n < maxAutoAdvanceSteps)
    (hsettled : loop.result.leaves loop.current.phase = false) :
    autoAdvance env s evalFn ctx = .ok (.advanced ⟨loop.current, loop.result,
      loop.transitions, loop.approvalAdmission⟩) := by
  have hloop := boundedLoop_of_stop hturns (Nat.le_of_lt hbudget)
    (advanceStep_of_not_leaves env hsettled)
  have hlength : loop.transitions.length = n := by
    rw [length_transitions env hturns]
    exact Nat.zero_add n
  have hleft : ¬ maxAutoAdvanceSteps ≤ loop.transitions.length := by
    rw [hlength]
    omega
  simp [autoAdvance, hloop, hleft]

/-- A settled state is returned as it is. -/
theorem autoAdvance_of_settled {s : SessionState} {evalFn : SessionState → EvalResult}
    (ctx : RailContext) (hsettled : (evalFn s).leaves s.phase = false) :
    autoAdvance env s evalFn ctx = .ok (.advanced ⟨s, evalFn s, [], none⟩) :=
  autoAdvance_of_turns env (Turns.none (advanceStart evalFn s)) (by decide) hsettled

/-- A cleared state whose evaluation is the approval edge is approved, and that is
all when the evaluator is settled afterwards. -/
theorem autoAdvance_of_cleared {s : SessionState} {evalFn : SessionState → EvalResult}
    {ctx : RailContext} {event : Event} (hcleared : ApprovalCleared env s)
    (hresult : evalFn s = .transition event .exportReady)
    (hsettled : (evalFn (applyTransitionUnchecked s .evidenceReview .exportReady .approve
      (ctx.now 0))).leaves .exportReady = false) :
    autoAdvance env s evalFn ctx = .ok (.advanced
      ⟨applyTransitionUnchecked s .evidenceReview .exportReady .approve (ctx.now 0),
        evalFn (applyTransitionUnchecked s .evidenceReview .exportReady .approve
          (ctx.now 0)),
        [⟨.evidenceReview, .exportReady, event, ctx.now 0⟩],
        some (issueEvidenceApprovalAdmission env.hashing (applyTransitionUnchecked s
          .evidenceReview .exportReady .approve (ctx.now 0)))⟩) := by
  have hturn : advanceStep env evalFn ctx.now (advanceStart evalFn s) = .next _ :=
    (advanceStep_next_iff env).2 (.approved event _ hresult hcleared rfl rfl)
  exact autoAdvance_of_turns env (.turn hturn (.none _)) (by decide) hsettled

/-! ### Closed sessions -/

/-- A policy snapshot of the solo kind, or of the team kind. -/
def soloOrTeamPolicy (requireHumanGates : Bool) : PolicySnapshot :=
  { hash := "a3f1"
    hashVersion := "policy-digest.v4"
    requireHumanGates := requireHumanGates
    allowReducedCeremony := false
    riskTriggerPaths := []
    discoveryHealth := .off
    validationEvidence := .advisory
    allowNoCommands := false
    other := "" }

/-- A session hydrated under a policy, moved to a phase. -/
def sessionAt (phase : Phase) (requireHumanGates : Bool) : SessionState :=
  { buildNewHydrateState
      { sessionId := "3d594650-3436-4d2e-8f0a-6c8f5d2f8a11"
        binding := "worktree"
        now := "2024-05-01T08:00:00.000Z"
        policySnapshot := soloOrTeamPolicy requireHumanGates
        activeChecks := ["test"]
        claimedTaskClass := none
        initiatedBy := "dev"
        initiatedByIdentity := none
        actorInfo := none
        discoveryDigest := none
        discoverySummary := none
        detectedStack := none
        verificationCandidates := []
        executionSubjectInputsByCandidateId := "" } with
    phase := phase }

/-- A recorded implementation, its accepted review and its risk assessment. -/
def reviewedSession (requireHumanGates : Bool) : SessionState :=
  { sessionAt .evidenceReview requireHumanGates with
    implementation := some
      { implementationId := "0b8f9a52-6c1d-4f0e-9a75-2f1c3d4e5f60"
        changedFiles := ["src/app.ts"]
        domainFiles := ["src/app.ts"]
        digest := "d1"
        diffDigest := none
        executedAt := "2024-05-01T09:00:00.000Z" }
    implementationRiskAssessment := some
      { computedMinimumTaskClass := .standard
        effectiveTaskClass := .standard
        declaredTaskClass := none
        declarationKind := .absent
        ticketDigest := none
        escalatedTaskClass := none
        touchedSurfaces := ["src/app.ts"]
        riskTriggers := []
        assessedFileCount := 1
        implementationDigest := "d1" }
    implReview := some
      { iteration := 1
        reviewCycle := 1
        maxIterations := 3
        prevDigest := none
        currDigest := "d1"
        revisionDelta := .none
        verdict := .accept
        executedAt := "2024-05-01T10:00:00.000Z" } }

/-- A context whose clock stands still. -/
def stillContext (policy : FlowGuardPolicy) : RailContext :=
  { now := fun _ => "2024-05-01T11:00:00.000Z"
    digest := id
    policy := some policy }

def soloPolicy : FlowGuardPolicy := ⟨false, true, .bestEffort⟩

theorem reviewedSession_cleared : ApprovalCleared .plain (reviewedSession false) :=
  ⟨rfl, by decide, by decide⟩

/-! ### Soundness -/

/-- What holds of an advanced result, whatever the evaluator. -/
structure SoundAdvance (evalFn : SessionState → EvalResult) (s : SessionState)
    (result : AutoAdvanceAdvanced) : Prop where
  path : TransitionPath s.phase result.transitions result.state.phase
  start : result.transitions = [] → result.state = s
  persisted : ∀ record, result.transitions.getLast? = some record →
    result.state.transition = some (persistedRecord record)
  evaluated : result.evalResult = evalFn result.state
  settled : (evalFn result.state).leaves result.state.phase = false

theorem AdvanceLoop.Sound.turns {evalFn : SessionState → EvalResult}
    {now : Nat → Timestamp} {s : SessionState} {n : Nat} {loop : AdvanceLoop}
    (hturns : Turns (advanceStep env evalFn now) n (advanceStart evalFn s) loop) :
    loop.Sound evalFn s :=
  hturns.invariant (fun _ _ hsound hstep => hsound.step env hstep)
    (AdvanceLoop.Sound.init evalFn s)

/-- The records are edges of the transition table. -/
def TableRecords (records : List TransitionRecord) : Prop :=
  ∀ record ∈ records,
    resolveTransition record.fromPhase record.event = some record.toPhase

/-- The invariant of a loop driven by `evaluate`. -/
structure AdvanceLoop.TableSound (policy : Option GatePolicy) (s : SessionState)
    (loop : AdvanceLoop) : Prop where
  sound : loop.Sound (evaluate env · policy) s
  table : TableRecords loop.transitions

theorem AdvanceLoop.TableSound.step {policy : Option GatePolicy}
    {now : Nat → Timestamp} {s : SessionState} {loop next : AdvanceLoop}
    (hloop : loop.TableSound env policy s)
    (hstep : advanceStep env (evaluate env · policy) now loop = .next next) :
    next.TableSound env policy s := by
  refine ⟨hloop.sound.step env hstep, ?_⟩
  cases (advanceStep_next_iff env).1 hstep with
  | generic event target hresult hleaves hopen hnext =>
      subst hnext
      intro record hmem
      rcases List.mem_append.1 hmem with hold | hnew
      · exact hloop.table record hold
      · rw [List.mem_singleton] at hnew
        subst hnew
        exact evaluate_edge env (hloop.sound.result ▸ hresult)
  | approved event approved hresult hcleared happroved hnext =>
      subst hnext
      intro record hmem
      rcases List.mem_append.1 hmem with hold | hnew
      · exact hloop.table record hold
      · rw [List.mem_singleton] at hnew
        subst hnew
        have hedge := evaluate_edge env (hloop.sound.result ▸ hresult)
        rwa [hcleared.phase] at hedge

theorem AdvanceLoop.TableSound.init (policy : Option GatePolicy) (s : SessionState) :
    (advanceStart (evaluate env · policy) s).TableSound env policy s := by
  refine ⟨AdvanceLoop.Sound.init _ s, ?_⟩
  intro record hmem
  simp [advanceStart] at hmem

theorem AdvanceLoop.TableSound.turns {policy : Option GatePolicy}
    {now : Nat → Timestamp} {s : SessionState} {n : Nat} {loop : AdvanceLoop}
    (hturns : Turns (advanceStep env (evaluate env · policy) now) n
      (advanceStart (evaluate env · policy) s) loop) :
    loop.TableSound env policy s :=
  hturns.invariant (fun _ _ hloop hstep => hloop.step env hstep)
    (AdvanceLoop.TableSound.init env policy s)

/-- A turn throws only when it asks for the protected edge away from its gate. -/
theorem advanceStep_thrown {evalFn : SessionState → EvalResult}
    {now : Nat → Timestamp} {loop : AdvanceLoop} {error : ProtectedTransitionError}
    (hfail : advanceStep env evalFn now loop = .fail (.thrown error)) :
    loop.current.phase ≠ .evidenceReview ∧
      ∃ event, loop.result = .transition event .exportReady := by
  cases hresult : loop.result with
  | waiting _ _ => simp [advanceStep, hresult] at hfail
  | terminal => simp [advanceStep, hresult] at hfail
  | pending _ _ => simp [advanceStep, hresult] at hfail
  | transition event target =>
      by_cases hexport : target = .exportReady
      · subst hexport
        refine ⟨?_, event, rfl⟩
        intro hphase
        simp only [advanceStep, hresult, hphase] at hfail
        by_cases hcleared : ApprovalCleared env loop.current
        · have happlied : applyEvidenceApprovalTransition env loop.current
              (now loop.transitions.length) = .ok (.applied _ _) :=
            (applyEvidenceApproval_applied_iff env).2 ⟨hcleared, rfl, rfl⟩
          simp [happlied] at hfail
        · have hblocks : ∃ block, applyEvidenceApprovalTransition env loop.current
              (now loop.transitions.length) = .ok (.blocked block) :=
            (applyEvidenceApproval_blocked_iff env hphase).2 hcleared
          obtain ⟨block, hblocked⟩ := hblocks
          simp [hblocked] at hfail
      · exfalso
        simp only [advanceStep, hresult, beq_iff_eq, hexport, if_false,
          applyTransition_of_ne hexport] at hfail
        split_ifs at hfail

/-- With the evaluator of the machine auto-advance never throws. -/
theorem autoAdvance_evaluate_total (s : SessionState) (policy : Option GatePolicy)
    (ctx : RailContext) :
    ∃ outcome, autoAdvance env s (evaluate env · policy) ctx = .ok outcome := by
  rw [autoAdvance]
  cases hloop : boundedLoop (advanceStep env (evaluate env · policy) ctx.now)
      maxAutoAdvanceSteps (advanceStart (evaluate env · policy) s) with
  | ok loop =>
      simp only
      split_ifs <;> exact ⟨_, rfl⟩
  | error failure =>
      cases failure with
      | blocked result => exact ⟨_, rfl⟩
      | thrown error =>
          exfalso
          obtain ⟨n, _, loop, hturns, hfail⟩ := boundedLoop_error hloop
          obtain ⟨hphase, event, hresult⟩ := advanceStep_thrown env hfail
          have hsound := (AdvanceLoop.TableSound.turns env hturns).sound
          have hedge := evaluate_edge env (hsound.result ▸ hresult)
          exact hphase (resolveTransition_exportReady hedge).1

/-- Auto-advance takes a path of edges that leave their phase, persists its last
record, and settles; with `evaluate` the edges are those of the table and the
persisted transition is the last record itself.  A result that is not an advanced
one carries no state. -/
theorem autoAdvance_sound {s : SessionState} {evalFn : SessionState → EvalResult}
    {ctx : RailContext} {outcome : AutoAdvanceResult}
    (hadvance : autoAdvance env s evalFn ctx = .ok outcome) :
    (∀ result, outcome = .advanced result → SoundAdvance evalFn s result) ∧
      (∀ policy, evalFn = (evaluate env · policy) →
        ∀ result, outcome = .advanced result →
          TableRecords result.transitions ∧
            ∀ record, result.transitions.getLast? = some record →
              result.state.transition = some record) ∧
      ((∀ result, outcome ≠ .advanced result) → outcome.state? = none) := by
  have hsound : ∀ result, outcome = .advanced result →
      SoundAdvance evalFn s result := by
    rintro result rfl
    obtain ⟨n, _, hturns, hsettled⟩ := autoAdvance_advanced env hadvance
    have hloop := AdvanceLoop.Sound.turns env hturns
    have hevaluated : result.evalResult = evalFn result.state := hloop.result
    exact ⟨hloop.path, hloop.start, hloop.persisted, hevaluated, hevaluated ▸ hsettled⟩
  refine ⟨hsound, ?_, ?_⟩
  · rintro policy rfl result rfl
    obtain ⟨n, _, hturns, _⟩ := autoAdvance_advanced env hadvance
    have htable : TableRecords result.transitions :=
      (AdvanceLoop.TableSound.turns env hturns).table
    refine ⟨htable, ?_⟩
    intro record hlast
    have hpersisted := (hsound result rfl).persisted record hlast
    by_cases hexport : record.toPhase = .exportReady
    · have hedge := htable record (List.mem_of_getLast? hlast)
      rw [hexport] at hedge
      have happrove := (resolveTransition_exportReady hedge).2
      rw [hpersisted, persistedRecord, if_pos hexport, ← happrove]
    · rw [hpersisted, persistedRecord, if_neg hexport]
  · intro hother
    cases outcome with
    | advanced result => exact absurd rfl (hother result)
    | overflow result => rfl
    | blocked result => rfl

/-- The automatic approval of the solo session is a sound advance. -/
theorem autoAdvance_sound_approval :
    ∃ result, autoAdvance .plain (reviewedSession false)
        (evaluate .plain · (some soloPolicy.gate)) (stillContext soloPolicy) =
          .ok (.advanced result) ∧
      result.state.phase = .exportReady ∧
      SoundAdvance (evaluate .plain · (some soloPolicy.gate)) (reviewedSession false)
        result ∧
      TableRecords result.transitions :=
  have happrove : evaluate .plain (reviewedSession false) (some soloPolicy.gate) =
      .transition .approve .exportReady := rfl
  have hadvance : autoAdvance .plain (reviewedSession false)
      (evaluate .plain · (some soloPolicy.gate)) (stillContext soloPolicy) = _ :=
    autoAdvance_of_cleared .plain reviewedSession_cleared happrove rfl
  have hsound := autoAdvance_sound .plain hadvance
  ⟨_, hadvance, rfl, hsound.1 _ rfl, (hsound.2.1 _ rfl _ rfl).1⟩

/-- An evaluator that answers the approval edge with another event. -/
def reviewMetEvaluator (s : SessionState) : EvalResult :=
  if s.phase == .evidenceReview then .transition .reviewMet .exportReady
  else .pending s.phase none

/-- Under it the persisted event is still `APPROVE`, not that of the last
record. -/
theorem autoAdvance_sound_counterexample :
    ∃ result record, autoAdvance .plain (reviewedSession false) reviewMetEvaluator
        (stillContext soloPolicy) = .ok (.advanced result) ∧
      result.transitions.getLast? = some record ∧
      result.state.transition ≠ some record :=
  have hexport : reviewMetEvaluator (reviewedSession false) =
      .transition .reviewMet .exportReady := rfl
  ⟨_, _, autoAdvance_of_cleared .plain reviewedSession_cleared hexport rfl, rfl,
    by decide⟩

/-! ### Persisted errors -/

/-- A persisted error halts a state: no evaluation leaves the phase, auto-advance
returns the state as it is, and the directive reports it as blocked. -/
structure ErrorHalts (s : SessionState) (policy : Option GatePolicy) : Prop where
  evaluates : (evaluate env s policy).leaves s.phase = false
  advances : ∀ ctx, autoAdvance env s (evaluate env · policy) ctx =
    .ok (.advanced ⟨s, evaluate env s policy, [], none⟩)
  directive : (resolveWorkflowDirective s).kind = .blocked

/-- The two gates that approve on their own under a policy without human gates. -/
def IsAutomaticGate (s : SessionState) (policy : Option GatePolicy) : Prop :=
  (s.phase = .planReview ∨ s.phase = .evidenceReview) ∧
    policy.bind (·.requireHumanGates) = some false ∧
    requiresGovernanceOverride s = false

theorem isAutomaticGate_iff (s : SessionState) (policy : Option GatePolicy) :
    IsAutomaticGate s policy ↔ isUserGate s.phase = true ∧ autoApproves s policy = true := by
  simp only [IsAutomaticGate, autoApproves, Bool.and_eq_true, bne_iff_ne, beq_iff_eq,
    Bool.not_eq_true']
  constructor
  · rintro ⟨hphase, hpolicy, hplain⟩
    rcases hphase with hphase | hphase <;>
      exact ⟨by rw [hphase]; rfl, ⟨by rw [hphase]; decide, hpolicy⟩, hplain⟩
  · rintro ⟨hgate, ⟨harch, hpolicy⟩, hplain⟩
    refine ⟨?_, hpolicy, hplain⟩
    revert hgate harch
    cases s.phase <;> simp [isUserGate]

/-- A live state with an error is halted unless it is at an automatic gate. -/
theorem errorHalts_iff {s : SessionState} {policy : Option GatePolicy}
    (hlive : isTerminal s.phase = false) (herror : s.error ≠ none) :
    ErrorHalts env s policy ↔ ¬ IsAutomaticGate s policy := by
  have hleaves : (evaluate env s policy).leaves s.phase = true ↔ _ :=
    evaluate_leaves_of_error env herror
  rw [isAutomaticGate_iff]
  constructor
  · intro hhalts hgate
    have hleft := hleaves.2 hgate
    rw [hhalts.evaluates] at hleft
    cases hleft
  · intro hgate
    have hstays : (evaluate env s policy).leaves s.phase = false := by
      rw [← Bool.not_eq_true]
      exact fun hleft => hgate (hleaves.1 hleft)
    refine ⟨hstays, ?_, resolveWorkflowDirective_of_error hlive herror⟩
    intro ctx
    exact autoAdvance_of_settled env ctx hstays

/-- A session whose strict timestamp assurance failed. -/
def failedSession (phase : Phase) (requireHumanGates : Bool) : SessionState :=
  { sessionAt phase requireHumanGates with
    error := some
      { code := "TSA_TIMESTAMP_ASSURANCE_FAILED"
        message := "Strict timestamp assurance failed for transition: no token"
        recoveryHint := "Fix TSA connectivity"
        occurredAt := "2024-05-01T10:30:00.000Z" } }

theorem errorHalts_iff_validation :
    ErrorHalts .plain (failedSession .validation false) (some soloPolicy.gate) ↔
      ¬ IsAutomaticGate (failedSession .validation false) (some soloPolicy.gate) :=
  errorHalts_iff .plain rfl (by decide)

/-- At the plan gate the policy approves over the error and removes it, while the
directive still says that the session is blocked. -/
theorem errorHalts_counterexample :
    isTerminal (failedSession .planReview false).phase = false ∧
      (failedSession .planReview false).error ≠ none ∧
      (resolveWorkflowDirective (failedSession .planReview false)).kind = .blocked ∧
      evaluate .plain (failedSession .planReview false) (some soloPolicy.gate) =
        .transition .approve .validation ∧
      ∃ result, autoAdvance .plain (failedSession .planReview false)
          (evaluate .plain · (some soloPolicy.gate)) (stillContext soloPolicy) =
            .ok (.advanced result) ∧
        result.state.phase = .validation ∧ result.state.error = none := by
  have happrove : evaluate .plain (failedSession .planReview false)
      (some soloPolicy.gate) = .transition .approve .validation := rfl
  have hturn : advanceStep .plain (evaluate .plain · (some soloPolicy.gate))
      (stillContext soloPolicy).now (advanceStart (evaluate .plain ·
        (some soloPolicy.gate)) (failedSession .planReview false)) = .next _ :=
    (advanceStep_next_iff .plain).2
      (.generic .approve .validation happrove (by decide) (by decide) rfl)
  exact ⟨rfl, by decide, by decide, happrove, _,
    autoAdvance_of_turns .plain (.turn hturn (.none _)) (by decide) rfl, rfl, rfl⟩

end Environment

end GovernedRuntime.Rails
