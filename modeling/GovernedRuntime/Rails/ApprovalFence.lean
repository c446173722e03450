/-
The mutation-attribution fence of the final approval: the explicit decision checks
it, the automatic approval does not, and what that leaves open.
-/
import GovernedRuntime.Rails.ExportAdmission

namespace GovernedRuntime.Rails

open GovernedRuntime.Library
open GovernedRuntime.State
open GovernedRuntime.Machine
open GovernedRuntime.ProofGraph

section Environment

variable (env : Environment) (policy : Option GatePolicy)

/-! ### The automatic route -/

/-- The session as it stands at the evidence gate. -/
def atEvidenceGate (s : SessionState) : SessionState :=
  { s with phase := .evidenceReview }

/-- The evidence gate approves on its own and the approval is applied. -/
def EvidenceGateOpens (s : SessionState) : Prop :=
  autoApproves (atEvidenceGate s) policy = true ∧
    evidenceApprovalAuthorityBlock (atEvidenceGate s) = none ∧
    evaluateEvidenceApprovalPreflight env (atEvidenceGate s) = .clear

def RouteFromImplReview (s : SessionState) : Prop :=
  implReviewMet s = true ∧ EvidenceGateOpens env policy s

/-- By reduced ceremony, or through the review with the repair loop closed. -/
def RouteFromImplValidation (s : SessionState) : Prop :=
  implCheckErrored s = false ∧
    if reducedCeremonyReady env s then EvidenceGateOpens env policy s
    else implValidationPassed env s = true ∧
      RouteFromImplReview env policy { s with implementationRework := none }

def RouteFromImplementation (s : SessionState) : Prop :=
  implComplete s = true ∧ RouteFromImplValidation env policy s

def RouteFromValidation (s : SessionState) : Prop :=
  checkErrored s = false ∧ allValidationsPassed s = true ∧
    RouteFromImplementation env policy s

def RouteFromPlanReview (s : SessionState) : Prop :=
  autoApproves { s with phase := .planReview } policy = true ∧
    RouteFromValidation env policy s

def RouteFromPlan (s : SessionState) : Prop :=
  selfReviewMet s = true ∧ RouteFromPlanReview env policy s

def RouteFromTicket (s : SessionState) : Prop :=
  hasPlanReady s = true ∧ RouteFromPlan env policy s

def RouteFrom (phase : Phase) (s : SessionState) : Prop :=
  match phase with
  | .ticket => RouteFromTicket env policy s
  | .plan => RouteFromPlan env policy s
  | .planReview => RouteFromPlanReview env policy s
  | .validation => RouteFromValidation env policy s
  | .implementation => RouteFromImplementation env policy s
  | .implValidation => RouteFromImplValidation env policy s
  | .implReview => RouteFromImplReview env policy s
  | .evidenceReview => EvidenceGateOpens env policy s
  | .exportReady => True
  | _ => False

/-- Whether auto-advance takes a session into `EXPORT_READY`.  A persisted error
closes the route at a guard phase, but not at a gate. -/
def AutomaticRoute (s : SessionState) : Prop :=
  s.phase ≠ .exportReady ∧ (isUserGate s.phase = true ∨ s.error = none) ∧
    RouteFrom env policy s.phase s

def OnRoute (s : SessionState) : Prop :=
  s.phase = .exportReady ∨ AutomaticRoute env policy s

/-- The transitions left on the route. -/
def routeRank : Phase → Nat
  | .ticket => 8
  | .plan => 7
  | .planReview => 6
  | .validation => 5
  | .implementation => 4
  | .implValidation => 3
  | .implReview => 2
  | .evidenceReview => 1
  | _ => 0

/-- The architecture and peer-review flows never join the ticket flow. -/
theorem routeRank_of_other_flow {phase target : Phase} {event : Event}
    (hother : phase = .architecture ∨ phase = .peerReview)
    (hedge : resolveTransition phase event = some target) : routeRank target = 0 := by
  have hall : (resolveTransition phase event).all (routeRank · == 0) = true := by
    rcases hother with rfl | rfl <;> cases event <;> rfl
  simpa [hedge] using hall

theorem evidenceGateOpens_iff {s : SessionState} (hphase : s.phase = .evidenceReview) :
    EvidenceGateOpens env policy s ↔
      autoApproves s policy = true ∧ ApprovalCleared env s := by
  have hsame : atEvidenceGate s = s := by
    rw [atEvidenceGate, ← hphase]
  rw [EvidenceGateOpens, hsame]
  constructor
  · rintro ⟨hauto, hauthority, hpreflight⟩
    exact ⟨hauto, hphase, hauthority, hpreflight⟩
  · rintro ⟨hauto, hcleared⟩
    exact ⟨hauto, hcleared.authority, hcleared.preflight⟩

/-- A gate, and a session without an error, is on the route from its phase. -/
theorem onRoute_iff {s : SessionState}
    (hopen : isUserGate s.phase = true ∨ s.error = none) :
    OnRoute env policy s ↔ RouteFrom env policy s.phase s := by
  by_cases hexport : s.phase = .exportReady
  · simp [OnRoute, hexport, RouteFrom]
  · simp [OnRoute, AutomaticRoute, hexport, hopen]

/-- Where the repair loop is not closed, an applied transition leaves the session on
the route of its target. -/
theorem onRoute_applied {s : SessionState} {fromPhase toPhase : Phase} (event : Event)
    (atTime : Timestamp)
    (hloop : ¬ (fromPhase = .implValidation ∧ toPhase = .implReview)) :
    OnRoute env policy (applyTransitionUnchecked s fromPhase toPhase event atTime) ↔
      RouteFrom env policy toPhase s := by
  have hrework : (fromPhase == .implValidation && toPhase == .implReview) = false := by
    simpa using hloop
  rw [onRoute_iff env policy (Or.inr (applyTransitionUnchecked_error _ _ _ _ _)),
    applyTransitionUnchecked_phase]
  simp only [applyTransitionUnchecked, hrework]
  cases toPhase <;> exact Iff.rfl

/-- The edge into the implementation review closes the repair loop. -/
theorem onRoute_applied_implReview (s : SessionState) (event : Event)
    (atTime : Timestamp) :
    OnRoute env policy (applyTransitionUnchecked s .implValidation .implReview event
        atTime) ↔
      RouteFromImplReview env policy { s with implementationRework := none } := by
  rw [onRoute_iff env policy (Or.inr (applyTransitionUnchecked_error _ _ _ _ _))]
  exact Iff.rfl

theorem not_routeFrom {phase : Phase} (hrank : routeRank phase = 0)
    (hopen : phase ≠ .exportReady) (s : SessionState) :
    ¬ RouteFrom env policy phase s := by
  revert hrank hopen
  cases phase <;> simp [routeRank, RouteFrom]

/-! ### The evaluator keeps to the route -/

/-- At a guard phase an evaluation that leaves it has seen no error. -/
theorem error_eq_none_of_leaves {s : SessionState} {event : Event} {target : Phase}
    (heval : evaluate env s policy = .transition event target)
    (hleaves : target ≠ s.phase) (hguarded : isUserGate s.phase = false) :
    s.error = none := by
  by_contra herror
  have hleft : (evaluate env s policy).leaves s.phase = true := by
    simp [heval, EvalResult.leaves, hleaves]
  have hgate := ((evaluate_leaves_of_error env herror).1 hleft).1
  rw [hguarded] at hgate
  exact absurd hgate (by decide)

/-- A failed check leads back, and the route is closed on both sides of it. -/
theorem routeFrom_move {s : SessionState} {event : Event} {target : Phase}
    (heval : evaluate env s policy = .transition event target)
    (hleaves : target ≠ s.phase) (hopen : target ≠ .exportReady)
    (hloop : ¬ (s.phase = .implValidation ∧ target = .implReview)) :
    RouteFrom env policy s.phase s ↔ RouteFrom env policy target s := by
  have hedge := evaluate_edge env heval
  cases hphase : s.phase with
  | ticket =>
      rw [evaluate_ticket env policy hphase] at heval
      split_ifs at heval with herror hready <;>
        simp only [EvalResult.transition.injEq] at heval
      · exact absurd (heval.2.symm.trans hphase.symm) hleaves
      · rw [← heval.2]
        simp [RouteFrom, RouteFromTicket, hready]
  | plan =>
      rw [evaluate_plan env policy hphase] at heval
      split_ifs at heval with herror hmet hpending <;>
        simp only [EvalResult.transition.injEq] at heval
      · exact absurd (heval.2.symm.trans hphase.symm) hleaves
      · rw [← heval.2]
        simp [RouteFrom, RouteFromPlan, hmet]
      · exact absurd (heval.2.symm.trans hphase.symm) hleaves
  | planReview =>
      have hgate : isUserGate s.phase = true := by rw [hphase]; rfl
      rw [evaluate_of_userGate env hgate] at heval
      obtain ⟨_, hauto, happrove⟩ := evaluateUserGate_transition heval
      rw [hphase] at happrove
      have htarget : target = .validation := (Option.some.inj happrove).symm
      have hsame : ({ s with phase := .planReview } : SessionState) = s := by
        rw [← hphase]
      rw [htarget]
      simp [RouteFrom, RouteFromPlanReview, hsame, hauto]
  | validation =>
      rw [evaluate_validation env policy hphase] at heval
      split_ifs at heval with herror herrored hpassed hfailed <;>
        simp only [EvalResult.transition.injEq] at heval
      · exact absurd (heval.2.symm.trans hphase.symm) hleaves
      · exact absurd (heval.2.symm.trans hphase.symm) hleaves
      · rw [← heval.2]
        simp [RouteFrom, RouteFromValidation, herrored, hpassed]
      · rw [← heval.2]
        simp [RouteFrom, RouteFromPlan, RouteFromPlanReview, RouteFromValidation,
          hpassed]
  | implementation =>
      rw [evaluate_implementation env policy hphase] at heval
      split_ifs at heval with herror hcomplete <;>
        simp only [EvalResult.transition.injEq] at heval
      · exact absurd (heval.2.symm.trans hphase.symm) hleaves
      · rw [← heval.2]
        simp [RouteFrom, RouteFromImplementation, hcomplete]
  | implValidation =>
      rw [evaluate_implValidation env policy hphase] at heval
      split_ifs at heval with herror herrored hceremony hpassed hfailed <;>
        simp only [EvalResult.transition.injEq] at heval
      · exact absurd (heval.2.symm.trans hphase.symm) hleaves
      · exact absurd (heval.2.symm.trans hphase.symm) hleaves
      · rw [← heval.2]
        simp [RouteFrom, RouteFromImplValidation, herrored, hceremony]
      · exact absurd ⟨hphase, heval.2.symm⟩ hloop
      · rw [← heval.2]
        simp [RouteFrom, RouteFromImplementation, RouteFromImplValidation, hceremony,
          hpassed]
  | implReview =>
      rw [evaluate_implReview env policy hphase] at heval
      split_ifs at heval with herror hmet hpending <;>
        simp only [EvalResult.transition.injEq] at heval
      · exact absurd (heval.2.symm.trans hphase.symm) hleaves
      · rw [← heval.2]
        simp [RouteFrom, RouteFromImplReview, hmet]
      · exact absurd (heval.2.symm.trans hphase.symm) hleaves
  | evidenceReview =>
      rw [hphase] at hedge
      have hgate : isUserGate s.phase = true := by rw [hphase]; rfl
      rw [evaluate_of_userGate env hgate] at heval
      obtain ⟨rfl, _, _⟩ := evaluateUserGate_transition heval
      exact absurd (Option.some.inj hedge).symm hopen
  | archReview =>
      have hgate : isUserGate s.phase = true := by rw [hphase]; rfl
      rw [evaluate_of_userGate env hgate] at heval
      obtain ⟨_, hauto, _⟩ := evaluateUserGate_transition heval
      simp [autoApproves, hphase] at hauto
  | architecture =>
      rw [hphase] at hedge
      exact iff_of_false id (not_routeFrom env policy
        (routeRank_of_other_flow (Or.inl rfl) hedge) hopen s)
  | peerReview =>
      rw [hphase] at hedge
      exact iff_of_false id (not_routeFrom env policy
        (routeRank_of_other_flow (Or.inr rfl) hedge) hopen s)
  | _ =>
      rcases evaluate_transition env heval with ⟨_, ⟨hgate, _⟩ | ⟨_, hentries, _⟩⟩
      · simp [hphase, isUserGate] at hgate
      · simp [hphase, guards] at hentries

theorem onRoute_move {s : SessionState} {event : Event} {target : Phase}
    (atTime : Timestamp) (heval : evaluate env s policy = .transition event target)
    (hleaves : target ≠ s.phase) (hopen : target ≠ .exportReady) :
    OnRoute env policy s ↔
      OnRoute env policy (applyTransitionUnchecked s s.phase target event atTime) := by
  have hstart : isUserGate s.phase = true ∨ s.error = none := by
    by_cases hgate : isUserGate s.phase = true
    · exact Or.inl hgate
    · exact Or.inr (error_eq_none_of_leaves env policy heval hleaves
        (Bool.not_eq_true _ ▸ hgate))
  rw [onRoute_iff env policy hstart]
  by_cases hloop : s.phase = .implValidation ∧ target = .implReview
  · obtain ⟨hphase, rfl⟩ := hloop
    rw [hphase, onRoute_applied_implReview]
    rw [evaluate_implValidation env policy hphase] at heval
    split_ifs at heval with herror herrored hceremony hpassed hfailed <;>
      simp only [EvalResult.transition.injEq, reduceCtorEq, and_false] at heval
    simp [RouteFrom, RouteFromImplValidation, herrored, hceremony, hpassed]
  · rw [onRoute_applied env policy event atTime hloop]
    exact routeFrom_move env policy heval hleaves hopen hloop

/-- A turn leaves a session on the route exactly when it was on it. -/
theorem onRoute_turn {now : Nat → Timestamp} {loop next : AdvanceLoop}
    (hresult : loop.result = evaluate env loop.current policy)
    (hstep : advanceStep env (evaluate env · policy) now loop = .next next) :
    OnRoute env policy loop.current ↔ OnRoute env policy next.current := by
  cases (advanceStep_next_iff env).1 hstep with
  | generic event target hmove hleaves hopen hnext =>
      subst hnext
      exact onRoute_move env policy _ (hresult ▸ hmove) hleaves hopen
  | approved event approved hmove hcleared happroved hnext =>
      subst hnext
      subst happroved
      have hgate : isUserGate loop.current.phase = true := by rw [hcleared.phase]; rfl
      have heval := hresult ▸ hmove
      rw [evaluate_of_userGate env hgate] at heval
      have hauto := (evaluateUserGate_transition heval).2.1
      have hgateOpens := (evidenceGateOpens_iff env policy hcleared.phase).2
        ⟨hauto, hcleared⟩
      refine iff_of_true ?_ (Or.inl rfl)
      rw [onRoute_iff env policy (Or.inl hgate), hcleared.phase]
      exact hgateOpens

/-- On the route the evaluator moves on, and nearer to the export. -/
theorem automaticRoute_evaluate {s : SessionState}
    (hroute : AutomaticRoute env policy s) :
    ∃ event target, evaluate env s policy = .transition event target ∧
      routeRank target < routeRank s.phase ∧
      (target = .exportReady → ApprovalCleared env s) := by
  obtain ⟨hexport, hopen, hfrom⟩ := hroute
  have hquiet (hguarded : isUserGate s.phase = false) : hasError s = false := by
    simpa [hasError, hguarded] using hopen
  cases hphase : s.phase with
  | ticket =>
      rw [hphase] at hfrom
      have herror := hquiet (by rw [hphase]; rfl)
      refine ⟨.planReady, .plan, ?_, by decide, fun heq => absurd heq (by decide)⟩
      simp [evaluate_ticket env policy hphase, herror, hfrom.1]
  | plan =>
      rw [hphase] at hfrom
      have herror := hquiet (by rw [hphase]; rfl)
      refine ⟨.selfReviewMet, .planReview, ?_, by decide, fun heq => absurd heq (by decide)⟩
      simp [evaluate_plan env policy hphase, herror, hfrom.1]
  | planReview =>
      rw [hphase] at hfrom
      have hsame : ({ s with phase := .planReview } : SessionState) = s := by
        rw [← hphase]
      have hauto : autoApproves s policy = true := hsame ▸ hfrom.1
      refine ⟨.approve, .validation, ?_, by decide, fun heq => absurd heq (by decide)⟩
      rw [evaluate_of_userGate env (by rw [hphase]; rfl), evaluateUserGate, if_pos hauto,
        hphase]
      rfl
  | validation =>
      rw [hphase] at hfrom
      have herror := hquiet (by rw [hphase]; rfl)
      refine ⟨.allPassed, .implementation, ?_, by decide, fun heq => absurd heq (by decide)⟩
      simp [evaluate_validation env policy hphase, herror, hfrom.1, hfrom.2.1]
  | implementation =>
      rw [hphase] at hfrom
      have herror := hquiet (by rw [hphase]; rfl)
      refine ⟨.implComplete, .implValidation, ?_, by decide, fun heq => absurd heq (by decide)⟩
      simp [evaluate_implementation env policy hphase, herror, hfrom.1]
  | implValidation =>
      rw [hphase] at hfrom
      have herror := hquiet (by rw [hphase]; rfl)
      obtain ⟨herrored, hrest⟩ := hfrom
      by_cases hceremony : reducedCeremonyReady env s = true
      · refine ⟨.reducedCeremony, .evidenceReview, ?_, by decide, fun heq => absurd heq (by decide)⟩
        simp [evaluate_implValidation env policy hphase, herror, herrored, hceremony]
      · rw [if_neg hceremony] at hrest
        refine ⟨.allPassed, .implReview, ?_, by decide, fun heq => absurd heq (by decide)⟩
        simp [evaluate_implValidation env policy hphase, herror, herrored, hceremony,
          hrest.1]
  | implReview =>
      rw [hphase] at hfrom
      have herror := hquiet (by rw [hphase]; rfl)
      refine ⟨.reviewMet, .evidenceReview, ?_, by decide, fun heq => absurd heq (by decide)⟩
      simp [evaluate_implReview env policy hphase, herror, hfrom.1]
  | evidenceReview =>
      have hgate := (evidenceGateOpens_iff env policy hphase).1 (by
        rw [hphase] at hfrom
        exact hfrom)
      refine ⟨.approve, .exportReady, ?_, by decide, fun _ => hgate.2⟩
      rw [evaluate_of_userGate env (by rw [hphase]; rfl), evaluateUserGate,
        if_pos hgate.1, hphase]
      rfl
  | exportReady => exact absurd hphase hexport
  | _ =>
      rw [hphase] at hfrom
      exact absurd hfrom (not_routeFrom env policy (by rfl) (by decide) s)

/-- The loop invariant: evaluated, and on the route. -/
structure AdvanceLoop.OnExportRoute (loop : AdvanceLoop) : Prop where
  evaluated : loop.result = evaluate env loop.current policy
  route : OnRoute env policy loop.current

/-- From a session on the route auto-advance takes turns into `EXPORT_READY`. -/
theorem turns_of_automaticRoute {s : SessionState} (now : Nat → Timestamp)
    (hroute : AutomaticRoute env policy s) :
    ∃ n < maxAutoAdvanceSteps, ∃ loop,
      Turns (advanceStep env (evaluate env · policy) now) n
        (advanceStart (evaluate env · policy) s) loop ∧
      loop.result = evaluate env loop.current policy ∧
      loop.current.phase = .exportReady := by
  have hprogress : ∀ loop : AdvanceLoop, loop.OnExportRoute env policy →
      0 < routeRank loop.current.phase →
        ∃ next, advanceStep env (evaluate env · policy) now loop = .next next ∧
          next.OnExportRoute env policy ∧
          routeRank next.current.phase < routeRank loop.current.phase := by
    intro loop hloop hrank
    have hopen : loop.current.phase ≠ .exportReady := by
      intro hphase
      simp [hphase, routeRank] at hrank
    have hroute : AutomaticRoute env policy loop.current :=
      hloop.route.resolve_left hopen
    obtain ⟨event, target, heval, hlower, hcleared⟩ :=
      automaticRoute_evaluate env policy hroute
    have hresult := hloop.evaluated.trans heval
    by_cases hexport : target = .exportReady
    · subst hexport
      have hnext : advanceStep env (evaluate env · policy) now loop = .next _ :=
        (advanceStep_next_iff env).2 (.approved event _ hresult (hcleared rfl) rfl rfl)
      exact ⟨_, hnext,
        ⟨rfl, (onRoute_turn env policy hloop.evaluated hnext).1 hloop.route⟩, hlower⟩
    · have hleaves : target ≠ loop.current.phase := by
        rintro rfl
        exact Nat.lt_irrefl _ hlower
      have hnext : advanceStep env (evaluate env · policy) now loop = .next _ :=
        (advanceStep_next_iff env).2 (.generic event target hresult hleaves hexport rfl)
      exact ⟨_, hnext,
        ⟨rfl, (onRoute_turn env policy hloop.evaluated hnext).1 hloop.route⟩, hlower⟩
  have hstart : (advanceStart (evaluate env · policy) s).OnExportRoute env policy :=
    ⟨rfl, Or.inr hroute⟩
  obtain ⟨n, hn, loop, hturns, hloop, hrank⟩ := Turns.of_rank hprogress hstart
  have hlimit : routeRank s.phase < maxAutoAdvanceSteps := by
    cases s.phase <;> decide
  refine ⟨n, Nat.lt_of_le_of_lt hn hlimit, loop, hturns, hloop.evaluated, ?_⟩
  by_contra hopen
  have hlast := hloop.route.resolve_left hopen
  exact not_routeFrom env policy hrank hopen _ hlast.2.2

/-- Turns of the evaluator into `EXPORT_READY` started on the route. -/
theorem onRoute_of_turns {s : SessionState} {now : Nat → Timestamp} {n : Nat}
    {loop : AdvanceLoop}
    (hturns : Turns (advanceStep env (evaluate env · policy) now) n
      (advanceStart (evaluate env · policy) s) loop)
    (hexport : loop.current.phase = .exportReady) : OnRoute env policy s := by
  have hback : ∀ before after : AdvanceLoop,
      advanceStep env (evaluate env · policy) now before = .next after →
        (after.result = evaluate env after.current policy → OnRoute env policy after.current) →
        before.result = evaluate env before.current policy →
          OnRoute env policy before.current := by
    intro before after hstep hafter hresult
    have hevaluated : after.result = evaluate env after.current policy := by
      cases (advanceStep_next_iff env).1 hstep with
      | generic event target hmove hleaves hopen hnext => rw [hnext]
      | approved event approved hmove hcleared happroved hnext => rw [hnext]
    exact (onRoute_turn env policy hresult hstep).2 (hafter hevaluated)
  exact hturns.reflect hback (fun _ => Or.inl hexport) rfl

/-! ### The fence -/

/-- Some recorded transition entered `EXPORT_READY`. -/
def EntersExport (records : List TransitionRecord) : Prop :=
  ∃ record ∈ records, record.toPhase = .exportReady

theorem TransitionPath.reaches {start stop : Phase} {records : List TransitionRecord}
    (hpath : TransitionPath start records stop) :
    start = stop ∨ ∃ record ∈ records, record.toPhase = stop := by
  induction records generalizing start with
  | nil => exact Or.inl hpath
  | cons record rest ih =>
      right
      obtain ⟨_, _, hrest⟩ := hpath
      rcases ih hrest with hstop | ⟨later, hmem, hstop⟩
      · exact ⟨record, List.mem_cons_self, hstop⟩
      · exact ⟨later, List.mem_cons_of_mem _ hmem, hstop⟩

theorem evaluate_of_exportReady {s : SessionState} (hphase : s.phase = .exportReady) :
    evaluate env s policy = .pending .exportReady none := by
  rw [evaluate, hphase]
  rfl

/-- The evaluator does not leave `EXPORT_READY`, so an advance that entered it
stands there. -/
theorem phase_of_entersExport {s : SessionState} {now : Nat → Timestamp} {n : Nat}
    {loop : AdvanceLoop}
    (hturns : Turns (advanceStep env (evaluate env · policy) now) n
      (advanceStart (evaluate env · policy) s) loop)
    (henters : EntersExport loop.transitions) : loop.current.phase = .exportReady := by
  induction n generalizing loop with
  | zero =>
      cases hturns
      obtain ⟨record, hmem, _⟩ := henters
      simp [advanceStart] at hmem
  | succ n ih =>
      obtain ⟨before, hbefore, hlast⟩ := hturns.last
      have hsound := (AdvanceLoop.TableSound.turns env hbefore).sound
      cases (advanceStep_next_iff env).1 hlast with
      | generic event target hmove hleaves hopen hnext =>
          subst hnext
          obtain ⟨record, hmem, hrecord⟩ := henters
          rcases List.mem_append.1 hmem with hold | hnew
          · have hphase := ih hbefore ⟨record, hold, hrecord⟩
            rw [hsound.result, evaluate_of_exportReady env policy hphase] at hmove
            cases hmove
          · rw [List.mem_singleton] at hnew
            subst hnew
            exact absurd hrecord hopen
      | approved event approved hmove hcleared happroved hnext =>
          subst hnext
          rw [happroved]
          rfl

/-- An accepted approval at the evidence gate passed the fence. -/
theorem unbound_eq_zero_of_decision {s : SessionState} {input : ReviewDecisionInput}
    {ctx : RailContext} {result : RailOk}
    (hdecided : executeReviewDecision env s input ctx = .ok (.ok result))
    (henters : EntersExport result.transitions) : unboundMutationEpisodeCount s = 0 := by
  obtain ⟨target, hdecision⟩ := executeReviewDecision_ok env hdecided
  obtain ⟨record, hmem, hrecord⟩ := henters
  rw [hdecision.transitions, List.mem_singleton] at hmem
  subst hmem
  have hedge := hdecision.edge
  simp only at hrecord
  rw [hrecord] at hedge
  obtain ⟨hphase, hevent⟩ := resolveTransition_exportReady hedge
  have happroval : isApprovalVerdict input.verdict = true := by
    revert hevent
    cases input.verdict <;> simp [verdictToEvent, isApprovalVerdict]
  have hfence := mutationGate_of_decisionBlock env hdecision.clear happroval
  by_contra hunbound
  simp [enforceMutationEpisodeEvidenceApproval, hphase, happroval,
    Nat.pos_of_ne_zero hunbound] at hfence

/-- Every entry into `EXPORT_READY`, decided or automatic, has no unbound mutation
episode. -/
structure ApprovalFence (s : SessionState) (ctx : RailContext) : Prop where
  automatic : ∀ result,
    autoAdvance env s (createPolicyEvalFn env ctx) ctx = .ok (.advanced result) →
      EntersExport result.transitions → unboundMutationEpisodeCount s = 0
  decided : ∀ input result, executeReviewDecision env s input ctx = .ok (.ok result) →
    EntersExport result.transitions → unboundMutationEpisodeCount s = 0

/-- The fence holds exactly without unbound episodes, or off the automatic route. -/
theorem approvalFence_iff (s : SessionState) (ctx : RailContext) :
    ApprovalFence env s ctx ↔ unboundMutationEpisodeCount s = 0 ∨
      ¬ AutomaticRoute env (ctx.policy.map (·.gate)) s := by
  constructor
  · intro hfence
    by_cases hroute : AutomaticRoute env (ctx.policy.map (·.gate)) s
    · left
      obtain ⟨n, hn, loop, hturns, hresult, hphase⟩ :=
        turns_of_automaticRoute env (ctx.policy.map (·.gate)) ctx.now hroute
      have hsettled : loop.result.leaves loop.current.phase = false := by
        rw [hresult, evaluate, hphase]
        rfl
      have hadvance := autoAdvance_of_turns env hturns hn hsettled
      have hsound := (AdvanceLoop.TableSound.turns env hturns).sound
      rcases hsound.path.reaches with hstart | henters
      · exact absurd (hstart.trans hphase) hroute.1
      · rw [hphase] at henters
        exact hfence.automatic _ hadvance henters
    · exact Or.inr hroute
  · intro hcondition
    refine ⟨?_, ?_⟩
    · intro result hadvance henters
      rcases hcondition with hbound | hroute
      · exact hbound
      · exfalso
        obtain ⟨n, _, hturns, _⟩ := autoAdvance_advanced env hadvance
        have hexport := phase_of_entersExport env _ hturns henters
        rcases onRoute_of_turns env _ hturns hexport with hphase | hopen
        · have hsettled : (createPolicyEvalFn env ctx s).leaves s.phase = false := by
            rw [createPolicyEvalFn, evaluate_of_exportReady env _ hphase]
            rfl
          rw [autoAdvance_of_settled env ctx hsettled] at hadvance
          simp only [Except.ok.injEq, AutoAdvanceResult.advanced.injEq] at hadvance
          obtain ⟨record, hmem, _⟩ := henters
          simp [← hadvance] at hmem
        · exact hroute hopen
    · intro input result hdecided henters
      exact unbound_eq_zero_of_decision env hdecided henters

end Environment

/-- The reviewed solo session with a host mutation that was dispatched and has not
come back. -/
def mutatedSession : SessionState :=
  { reviewedSession false with
    mutationEpisodes :=
      [{ episodeId := "9f0c2b7e-1d34-4a6b-8c5d-7e8f90a1b2c3"
         hostCallId := "call-1"
         toolName := "edit"
         runtimeInstanceId := "5a4b3c2d-0e1f-4a2b-9c3d-4e5f60718293"
         leaseGeneration := 1
         authorizedAt := "2024-05-01T10:15:00.000Z"
         status := .dispatchAuthorized
         completedAt := none
         outcome := none
         implementationDigest := none
         evidenceStatus := .ineligible }] }

/-- The decision rail refuses the session, and the automatic approval exports it. -/
theorem approvalFence_counterexample :
    unboundMutationEpisodeCount mutatedSession = 1 ∧
      executeReviewDecision .plain mutatedSession soloApproval (stillContext soloPolicy) =
        .ok (.blocked (.plain "MUTATION_EPISODE_BINDING_REQUIRED" [("count", "1")])) ∧
      ∃ result, autoAdvance .plain mutatedSession
          (createPolicyEvalFn .plain (stillContext soloPolicy)) (stillContext soloPolicy) =
            .ok (.advanced result) ∧
        EntersExport result.transitions ∧ result.state.phase = .exportReady := by
  have hcleared : ApprovalCleared .plain mutatedSession := ⟨rfl, by decide, by decide⟩
  have happrove : createPolicyEvalFn .plain (stillContext soloPolicy) mutatedSession =
      .transition .approve .exportReady := rfl
  exact ⟨rfl, rfl, _, autoAdvance_of_cleared .plain hcleared happrove rfl,
    ⟨_, List.mem_singleton_self _, rfl⟩, rfl⟩

end GovernedRuntime.Rails
