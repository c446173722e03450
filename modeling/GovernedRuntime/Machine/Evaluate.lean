/-
The pure evaluator of the state machine (`src/machine/evaluate.ts`).
-/
import GovernedRuntime.Machine.Directive
import GovernedRuntime.Machine.Guards

namespace GovernedRuntime.Machine

open GovernedRuntime.State

/-- The part of a policy the evaluator reads. -/
structure GatePolicy where
  requireHumanGates : Option Bool
deriving DecidableEq, Repr

inductive EvalResult
  | transition (event : Event) (target : Phase)
  | waiting (phase : Phase) (reason : String)
  | terminal
  | pending (phase : Phase) (diagnostic : Option String)
deriving DecidableEq, Repr

/-- A result the auto-advance loop acts on. -/
def EvalResult.isTransition : EvalResult → Bool
  | .transition _ _ => true
  | _ => false

/-- Whether a result moves a state out of its phase. -/
def EvalResult.leaves (result : EvalResult) (phase : Phase) : Bool :=
  match result with
  | .transition _ target => target != phase
  | _ => false

/-- `GATE_REASONS`. -/
def gateReason : Phase → String
  | .planReview =>
      "Awaiting plan review decision (approve / changes_requested / reject)"
  | .evidenceReview =>
      "Awaiting evidence review decision (approve / changes_requested / reject)"
  | .archReview =>
      "Awaiting architecture decision review (approve / changes_requested / reject)"
  | _ => ""

/-- Whether the policy lets this gate approve on its own: never at `ARCH_REVIEW`
and never after an exhausted review. -/
def autoApproves (s : SessionState) (policy : Option GatePolicy) : Bool :=
  s.phase != .archReview && policy.bind (·.requireHumanGates) == some false &&
    !requiresGovernanceOverride s

def evaluateUserGate (s : SessionState) (policy : Option GatePolicy) : EvalResult :=
  if autoApproves s policy then
    match resolveTransition s.phase .approve with
    | some target => .transition .approve target
    | none => .waiting s.phase (gateReason s.phase)
  else .waiting s.phase (gateReason s.phase)

def topologyGap (event : Event) (phase : Phase) : String :=
  "TOPOLOGY_GAP: guard fired event '" ++ event.name ++ "' at phase '" ++
    phase.name ++ "' but no transition is defined"

section Environment

variable (env : Environment)

/-- What happens next in a state: nothing, a wait, or the edge of the first guard
that holds. -/
def evaluate (s : SessionState) (policy : Option GatePolicy) : EvalResult :=
  if isTerminal s.phase then .terminal
  else if s.phase == .ready then .pending s.phase none
  else if isUserGate s.phase then evaluateUserGate s policy
  else
    match guards env s.phase with
    | none => .pending s.phase none
    | some entries =>
        match firedEvent entries s with
        | none => .pending s.phase none
        | some event =>
            match resolveTransition s.phase event with
            | none => .pending s.phase (some (topologyGap event s.phase))
            | some target => .transition event target

/-- The target of an explicit user event. -/
def evaluateWithEvent (phase : Phase) (event : Event) : Option Phase :=
  resolveTransition phase event

/-! ### What an evaluation can answer -/

theorem evaluateUserGate_transition {s : SessionState} {policy : Option GatePolicy}
    {event : Event} {target : Phase}
    (heval : evaluateUserGate s policy = .transition event target) :
    event = .approve ∧ autoApproves s policy = true ∧
      resolveTransition s.phase .approve = some target := by
  rw [evaluateUserGate] at heval
  by_cases hauto : autoApproves s policy = true
  · rw [if_pos hauto] at heval
    cases hedge : resolveTransition s.phase .approve with
    | none => simp [hedge] at heval
    | some next =>
        simp only [hedge, EvalResult.transition.injEq] at heval
        exact ⟨heval.1.symm, hauto, by rw [heval.2]⟩
  · simp [hauto] at heval

/-- A transition is the automatic approval of a gate, or the edge of the first
guard that holds in a guard phase. -/
theorem evaluate_transition {s : SessionState} {policy : Option GatePolicy}
    {event : Event} {target : Phase}
    (heval : evaluate env s policy = .transition event target) :
    resolveTransition s.phase event = some target ∧
      ((isUserGate s.phase = true ∧ event = .approve ∧
          autoApproves s policy = true) ∨
        ∃ entries, guards env s.phase = some entries ∧
          firedEvent entries s = some event) := by
  rw [evaluate] at heval
  by_cases hend : isTerminal s.phase = true
  · simp [hend] at heval
  by_cases hready : (s.phase == .ready) = true
  · simp [hend, hready] at heval
  by_cases hgate : isUserGate s.phase = true
  · simp only [hend, hready, hgate, if_true, Bool.false_eq_true, if_false] at heval
    obtain ⟨rfl, hauto, hedge⟩ := evaluateUserGate_transition heval
    exact ⟨hedge, Or.inl ⟨hgate, rfl, hauto⟩⟩
  simp only [hend, hready, hgate, Bool.false_eq_true, if_false] at heval
  cases hentries : guards env s.phase with
  | none => simp [hentries] at heval
  | some entries =>
      cases hfired : firedEvent entries s with
      | none => simp [hentries, hfired] at heval
      | some fired =>
          cases hedge : resolveTransition s.phase fired with
          | none => simp [hentries, hfired, hedge] at heval
          | some next =>
              simp only [hentries, hfired, hedge, EvalResult.transition.injEq] at heval
              obtain ⟨rfl, rfl⟩ := heval
              exact ⟨hedge, Or.inr ⟨entries, rfl, hfired⟩⟩

theorem evaluate_edge {s : SessionState} {policy : Option GatePolicy}
    {event : Event} {target : Phase}
    (heval : evaluate env s policy = .transition event target) :
    resolveTransition s.phase event = some target :=
  (evaluate_transition env heval).1

theorem evaluate_of_userGate {s : SessionState} {policy : Option GatePolicy}
    (hgate : isUserGate s.phase = true) :
    evaluate env s policy = evaluateUserGate s policy := by
  rw [evaluate]
  revert hgate
  cases s.phase <;> simp [isUserGate, isTerminal]

/-! ### The order of the guards in the phases of the ticket flow -/

theorem evaluate_ticket {s : SessionState} (policy : Option GatePolicy)
    (hphase : s.phase = .ticket) :
    evaluate env s policy =
      if hasError s then .transition .error .ticket
      else if hasPlanReady s then .transition .planReady .plan
      else .pending .ticket none := by
  rw [evaluate, hphase]
  simp only [guards, firedEvent_cons, firedEvent_nil]
  split_ifs <;> first | rfl | contradiction

theorem evaluate_plan {s : SessionState} (policy : Option GatePolicy)
    (hphase : s.phase = .plan) :
    evaluate env s policy =
      if hasError s then .transition .error .plan
      else if selfReviewMet s then .transition .selfReviewMet .planReview
      else if selfReviewPending s then .transition .selfReviewPending .plan
      else .pending .plan none := by
  rw [evaluate, hphase]
  simp only [guards, firedEvent_cons, firedEvent_nil]
  split_ifs <;> first | rfl | contradiction

theorem evaluate_validation {s : SessionState} (policy : Option GatePolicy)
    (hphase : s.phase = .validation) :
    evaluate env s policy =
      if hasError s then .transition .error .validation
      else if checkErrored s then .transition .checkErrored .validation
      else if allValidationsPassed s then .transition .allPassed .implementation
      else if checkFailed s then .transition .checkFailed .plan
      else .pending .validation none := by
  rw [evaluate, hphase]
  simp only [guards, firedEvent_cons, firedEvent_nil]
  split_ifs <;> first | rfl | contradiction

theorem evaluate_implementation {s : SessionState} (policy : Option GatePolicy)
    (hphase : s.phase = .implementation) :
    evaluate env s policy =
      if hasError s then .transition .error .implementation
      else if implComplete s then .transition .implComplete .implValidation
      else .pending .implementation none := by
  rw [evaluate, hphase]
  simp only [guards, firedEvent_cons, firedEvent_nil]
  split_ifs <;> first | rfl | contradiction

theorem evaluate_implValidation {s : SessionState} (policy : Option GatePolicy)
    (hphase : s.phase = .implValidation) :
    evaluate env s policy =
      if hasError s then .transition .error .implValidation
      else if implCheckErrored s then .transition .checkErrored .implValidation
      else if reducedCeremonyReady env s then
        .transition .reducedCeremony .evidenceReview
      else if implValidationPassed env s then .transition .allPassed .implReview
      else if implCheckFailed s then .transition .checkFailed .implementation
      else .pending .implValidation none := by
  rw [evaluate, hphase]
  simp only [guards, firedEvent_cons, firedEvent_nil]
  split_ifs <;> first | rfl | contradiction

theorem evaluate_implReview {s : SessionState} (policy : Option GatePolicy)
    (hphase : s.phase = .implReview) :
    evaluate env s policy =
      if hasError s then .transition .error .implReview
      else if implReviewMet s then .transition .reviewMet .evidenceReview
      else if implReviewPending s then .transition .reviewPending .implReview
      else .pending .implReview none := by
  rw [evaluate, hphase]
  simp only [guards, firedEvent_cons, firedEvent_nil]
  split_ifs <;> first | rfl | contradiction

/-- Under an error only a gate that approves on its own leaves its phase. -/
theorem evaluate_leaves_of_error {s : SessionState} {policy : Option GatePolicy}
    (herror : s.error ≠ none) :
    (evaluate env s policy).leaves s.phase = true ↔
      isUserGate s.phase = true ∧ autoApproves s policy = true := by
  constructor
  · intro hleaves
    cases heval : evaluate env s policy with
    | transition event target =>
        rcases evaluate_transition env heval with ⟨hedge, hgate | ⟨entries, hentries, hfired⟩⟩
        · exact ⟨hgate.1, hgate.2.2⟩
        · have herr := firedEvent_of_error env hentries herror
          rw [hfired, Option.some.injEq] at herr
          subst herr
          have hself := resolveTransition_error hedge
          simp [heval, EvalResult.leaves, hself] at hleaves
    | waiting _ _ => simp [heval, EvalResult.leaves] at hleaves
    | terminal => simp [heval, EvalResult.leaves] at hleaves
    | pending _ _ => simp [heval, EvalResult.leaves] at hleaves
  · rintro ⟨hgate, hauto⟩
    rw [evaluate_of_userGate env hgate, evaluateUserGate, if_pos hauto]
    revert hgate hauto
    cases s.phase <;> simp [isUserGate, resolveTransition, transitions,
      EvalResult.leaves]

end Environment

end GovernedRuntime.Machine
