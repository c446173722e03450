/-
The transition table of the governed workflow and the command admissibility map
(`src/machine/topology.ts`, `src/machine/commands.ts`).
-/
import Mathlib.Data.List.Basic

namespace GovernedRuntime.Machine

/-! ### Phases and events -/

/-- The 18 phases of the three flows. -/
inductive Phase
  | ready
  | ticket
  | plan
  | planReview
  | validation
  | implementation
  | implValidation
  | implReview
  | evidenceReview
  | exportReady
  | complete
  | architecture
  | archReview
  | archComplete
  | peerReview
  | peerReviewComplete
  | rejected
  | aborted
deriving DecidableEq, Repr

/-- The spelling of a phase in persisted state and in messages. -/
def Phase.name : Phase → String
  | .ready => "READY"
  | .ticket => "TICKET"
  | .plan => "PLAN"
  | .planReview => "PLAN_REVIEW"
  | .validation => "VALIDATION"
  | .implementation => "IMPLEMENTATION"
  | .implValidation => "IMPL_VALIDATION"
  | .implReview => "IMPL_REVIEW"
  | .evidenceReview => "EVIDENCE_REVIEW"
  | .exportReady => "EXPORT_READY"
  | .complete => "COMPLETE"
  | .architecture => "ARCHITECTURE"
  | .archReview => "ARCH_REVIEW"
  | .archComplete => "ARCH_COMPLETE"
  | .peerReview => "PEER_REVIEW"
  | .peerReviewComplete => "PEER_REVIEW_COMPLETE"
  | .rejected => "REJECTED"
  | .aborted => "ABORTED"

inductive Event
  | ticketSelected
  | architectureSelected
  | peerReviewSelected
  | planReady
  | selfReviewMet
  | selfReviewPending
  | approve
  | changesRequested
  | reject
  | allPassed
  | checkFailed
  | checkErrored
  | implComplete
  | reducedCeremony
  | reviewMet
  | reviewPending
  | peerReviewDone
  | reviewExhausted
  | exportMaterialized
  | error
  | abort
deriving DecidableEq, Repr

def Event.name : Event → String
  | .ticketSelected => "TICKET_SELECTED"
  | .architectureSelected => "ARCHITECTURE_SELECTED"
  | .peerReviewSelected => "PEER_REVIEW_SELECTED"
  | .planReady => "PLAN_READY"
  | .selfReviewMet => "SELF_REVIEW_MET"
  | .selfReviewPending => "SELF_REVIEW_PENDING"
  | .approve => "APPROVE"
  | .changesRequested => "CHANGES_REQUESTED"
  | .reject => "REJECT"
  | .allPassed => "ALL_PASSED"
  | .checkFailed => "CHECK_FAILED"
  | .checkErrored => "CHECK_ERRORED"
  | .implComplete => "IMPL_COMPLETE"
  | .reducedCeremony => "REDUCED_CEREMONY"
  | .reviewMet => "REVIEW_MET"
  | .reviewPending => "REVIEW_PENDING"
  | .peerReviewDone => "PEER_REVIEW_DONE"
  | .reviewExhausted => "REVIEW_EXHAUSTED"
  | .exportMaterialized => "EXPORT_MATERIALIZED"
  | .error => "ERROR"
  | .abort => "ABORT"

/-! ### The transition table -/

/-- `TRANSITIONS`: for each phase, the events it answers and their targets. -/
def transitions : Phase → List (Event × Phase)
  | .ready =>
      [(.ticketSelected, .ticket), (.architectureSelected, .architecture),
        (.peerReviewSelected, .peerReview), (.abort, .aborted)]
  | .ticket =>
      [(.planReady, .plan), (.error, .ticket), (.abort, .aborted)]
  | .plan =>
      [(.selfReviewMet, .planReview), (.selfReviewPending, .plan),
        (.error, .plan), (.abort, .aborted)]
  | .planReview =>
      [(.approve, .validation), (.changesRequested, .plan),
        (.reject, .rejected), (.abort, .aborted)]
  | .validation =>
      [(.allPassed, .implementation), (.checkFailed, .plan),
        (.checkErrored, .validation), (.error, .validation), (.abort, .aborted)]
  | .implementation =>
      [(.implComplete, .implValidation), (.error, .implementation),
        (.abort, .aborted)]
  | .implValidation =>
      [(.reducedCeremony, .evidenceReview), (.allPassed, .implReview),
        (.checkFailed, .implementation), (.checkErrored, .implValidation),
        (.error, .implValidation), (.abort, .aborted)]
  | .implReview =>
      [(.reviewMet, .evidenceReview), (.reviewExhausted, .evidenceReview),
        (.reviewPending, .implReview), (.changesRequested, .implementation),
        (.error, .implReview), (.abort, .aborted)]
  | .evidenceReview =>
      [(.approve, .exportReady), (.changesRequested, .implementation),
        (.reject, .rejected), (.abort, .aborted)]
  | .exportReady =>
      [(.exportMaterialized, .complete), (.abort, .aborted)]
  | .complete => []
  | .rejected => []
  | .aborted => []
  | .architecture =>
      [(.selfReviewMet, .archReview), (.selfReviewPending, .architecture),
        (.error, .architecture), (.abort, .aborted)]
  | .archReview =>
      [(.approve, .archComplete), (.changesRequested, .architecture),
        (.reject, .rejected), (.abort, .aborted)]
  | .archComplete => []
  | .peerReview =>
      [(.peerReviewDone, .peerReviewComplete), (.error, .peerReview),
        (.abort, .aborted)]
  | .peerReviewComplete => []

/-- The target of an event at a phase; `none` when the table has no edge. -/
def resolveTransition (phase : Phase) (event : Event) : Option Phase :=
  (transitions phase).lookup event

/-! ### Phase classes -/

/-- `USER_GATES`: phases that wait for an explicit human command. -/
def isUserGate : Phase → Bool
  | .planReview | .evidenceReview | .archReview => true
  | _ => false

/-- `TERMINAL`: phases without an outgoing transition. -/
def isTerminal : Phase → Bool
  | .complete | .archComplete | .peerReviewComplete | .rejected | .aborted => true
  | _ => false

/-- The protected edge is the only way into `EXPORT_READY`. -/
theorem resolveTransition_exportReady {phase : Phase} {event : Event}
    (hedge : resolveTransition phase event = some .exportReady) :
    phase = .evidenceReview ∧ event = .approve := by
  revert hedge
  cases phase <;> cases event <;> decide

/-- An error never leaves the phase it was raised in. -/
theorem resolveTransition_error {phase target : Phase}
    (hedge : resolveTransition phase .error = some target) : target = phase := by
  revert hedge
  cases phase <;> cases target <;> decide

/-! ### Command admissibility -/

inductive Command
  | hydrate
  | ticket
  | plan
  | continue
  | implement
  | resolveImplementationChallenge
  | reviewDecision
  | overrideApprove
  | validate
  | review
  | architecture
  | export
  | abort
deriving DecidableEq, Repr

/-- The phases a command may be issued in. -/
inductive AllowedIn
  | phases (allowed : List Phase)
  | allPhases
  | nonTerminal
deriving DecidableEq, Repr

/-- `COMMAND_POLICY`, the single authority for terminal handling. -/
def commandPolicy : Command → AllowedIn
  | .hydrate => .allPhases
  | .ticket => .phases [.ready, .ticket]
  | .plan => .phases [.ticket, .plan]
  | .continue => .nonTerminal
  | .implement => .phases [.implementation]
  | .resolveImplementationChallenge => .phases [.implReview]
  | .reviewDecision => .phases [.planReview, .evidenceReview, .archReview]
  | .overrideApprove => .phases [.planReview, .evidenceReview, .archReview]
  | .validate => .phases [.validation, .implValidation]
  | .review => .phases [.ready]
  | .architecture => .phases [.ready, .architecture]
  | .export => .phases [.exportReady]
  | .abort => .allPhases

def isCommandAllowed (phase : Phase) (command : Command) : Bool :=
  match commandPolicy command with
  | .allPhases => true
  | .nonTerminal => !isTerminal phase
  | .phases allowed => allowed.contains phase

theorem isCommandAllowed_reviewDecision (phase : Phase) :
    isCommandAllowed phase .reviewDecision = isUserGate phase := by
  cases phase <;> rfl

end GovernedRuntime.Machine
