/-
The workflow directive: what a session waits for, and what blocks it
(`src/machine/workflow-directive.ts`).
-/
import GovernedRuntime.State.Session

namespace GovernedRuntime.Machine

open GovernedRuntime.State

inductive WorkflowIntent
  | captureTask
  | createPlan
  | createArchitecture
  | runPeerReview
  | approve
  | requestChanges
  | reject
  | implement
  | approveWithGovernanceOverride
  | export
deriving DecidableEq, Repr

inductive WorkflowDirectiveKind
  | userAction
  | humanGate
  | systemWork
  | blocked
  | terminal
deriving DecidableEq, Repr

inductive WorkflowDirectiveCode
  | chooseFlow
  | planRequired
  | planReviewInProgress
  | planDecisionRequired
  | planOverrideRequired
  | planValidationInProgress
  | implementationRequired
  | implementationValidationInProgress
  | implementationReviewInProgress
  | implementationDecisionRequired
  | implementationOverrideRequired
  | architectureInProgress
  | architectureDecisionRequired
  | architectureOverrideRequired
  | peerReviewInProgress
  | peerReviewComplete
  | exportRequired
  | workflowBlocked
  | workflowRejected
  | workflowAborted
  | workflowComplete
  | architectureComplete
deriving DecidableEq, Repr

structure DirectiveContext where
  reasonCode : Option String
  reasonParams : List (String × String)
  reasonText : Option String
  recovery : Option String
deriving DecidableEq, Repr

structure WorkflowDirective where
  kind : WorkflowDirectiveKind
  code : WorkflowDirectiveCode
  allowedIntents : List WorkflowIntent
  commands : List String
  context : Option DirectiveContext
deriving DecidableEq, Repr

def systemWork (code : WorkflowDirectiveCode) : WorkflowDirective :=
  ⟨.systemWork, code, [], [], none⟩

def humanGate (code : WorkflowDirectiveCode) : WorkflowDirective :=
  ⟨.humanGate, code, [.approve, .requestChanges, .reject],
    ["/approve", "/request-changes", "/reject"], none⟩

/-- A gate after an exhausted review: plain approval is never legal here. -/
def overrideGate (code : WorkflowDirectiveCode) : WorkflowDirective :=
  ⟨.humanGate, code, [.approveWithGovernanceOverride, .requestChanges, .reject],
    ["/override-approve", "/request-changes", "/reject"], none⟩

def terminalDirective (code : WorkflowDirectiveCode) : WorkflowDirective :=
  ⟨.terminal, code, [], [], none⟩

def userAction (code : WorkflowDirectiveCode) (intents : List WorkflowIntent)
    (commands : List String) : WorkflowDirective :=
  ⟨.userAction, code, intents, commands, none⟩

/-- Whether the gate at the current position adjudicates an exhausted review. -/
def requiresGovernanceOverride (s : SessionState) : Bool :=
  match s.phase with
  | .planReview => s.plan.any (·.reviewCompletion == .reviewExhausted)
  | .archReview => s.architecture.any (·.reviewCompletion == .reviewExhausted)
  | .evidenceReview => s.implementationRework.any (·.exhausted)
  | _ => false

def gateDirective (s : SessionState) (code : WorkflowDirectiveCode) :
    WorkflowDirective :=
  if requiresGovernanceOverride s then
    overrideGate
      (match code with
        | .planDecisionRequired => .planOverrideRequired
        | .architectureDecisionRequired => .architectureOverrideRequired
        | _ => .implementationOverrideRequired)
  else humanGate code

/-- `PHASE_DIRECTIVES`. -/
def phaseDirective : Phase → WorkflowDirective
  | .ready => userAction .chooseFlow
      [.captureTask, .createArchitecture, .runPeerReview]
      ["/task", "/architecture", "/review"]
  | .ticket => userAction .planRequired [.createPlan] ["/plan"]
  | .plan => systemWork .planReviewInProgress
  | .planReview => humanGate .planDecisionRequired
  | .validation => systemWork .planValidationInProgress
  | .implementation =>
      userAction .implementationRequired [.implement] ["/implement"]
  | .implValidation => systemWork .implementationValidationInProgress
  | .implReview => systemWork .implementationReviewInProgress
  | .evidenceReview => humanGate .implementationDecisionRequired
  | .exportReady => userAction .exportRequired [.export] ["/export"]
  | .complete => terminalDirective .workflowComplete
  | .rejected => terminalDirective .workflowRejected
  | .aborted => terminalDirective .workflowAborted
  | .architecture => systemWork .architectureInProgress
  | .archReview => humanGate .architectureDecisionRequired
  | .archComplete => terminalDirective .architectureComplete
  | .peerReview => systemWork .peerReviewInProgress
  | .peerReviewComplete => terminalDirective .peerReviewComplete

/-- The persisted execution block of a state: its error, then the risk gate, the
discovery health gate, and open mutations at `IMPLEMENTATION`. -/
def resolveBlockingAuthority (s : SessionState) : Option DirectiveContext :=
  match s.error, s.riskGate, s.discoveryHealthGate with
  | some error, _, _ => some
      ⟨some error.code, [], some error.message,
        if error.recoveryHint == "" then none else some error.recoveryHint⟩
  | none, some (.blocked code message), _ =>
      some ⟨some code, [], some message, none⟩
  | none, _, some (.blocked code message _) =>
      some ⟨some code, [], some message, none⟩
  | none, _, _ =>
      let openEpisodes := unresolvedMutationEpisodes s.mutationEpisodes
        s.mutationEpisodeResolutions
      if s.phase == .implementation && !openEpisodes.isEmpty then
        some ⟨some "MUTATION_EPISODE_UNRESOLVED",
          [("count", toString openEpisodes.length)], none, none⟩
      else none

inductive ExecutionDisposition
  | active
  | awaitingHuman
  | blocked
  | terminal
deriving DecidableEq, Repr

def resolveExecutionDisposition (s : SessionState) : ExecutionDisposition :=
  if isTerminal s.phase then .terminal
  else if (resolveBlockingAuthority s).isSome then .blocked
  else if isUserGate s.phase then .awaitingHuman
  else .active

/-- The directive of the complete persisted state. -/
def resolveWorkflowDirective (s : SessionState) : WorkflowDirective :=
  let directive := phaseDirective s.phase
  if directive.kind == .terminal then directive
  else
    match resolveBlockingAuthority s with
    | some block => ⟨.blocked, .workflowBlocked, [], [], some block⟩
    | none =>
        if directive.kind == .humanGate then gateDirective s directive.code
        else directive

theorem phaseDirective_terminal (phase : Phase) :
    (phaseDirective phase).kind = .terminal ↔ isTerminal phase = true := by
  cases phase <;> decide

theorem phaseDirective_humanGate (phase : Phase) :
    (phaseDirective phase).kind = .humanGate ↔ isUserGate phase = true := by
  cases phase <;> decide

theorem phaseDirective_ne_blocked (phase : Phase) :
    (phaseDirective phase).kind ≠ .blocked := by
  cases phase <;> decide

/-- Directive and execution disposition agree about what is blocked. -/
theorem resolveWorkflowDirective_blocked (s : SessionState) :
    (resolveWorkflowDirective s).kind = .blocked ↔
      resolveExecutionDisposition s = .blocked := by
  have hterminal := phaseDirective_terminal s.phase
  simp only [resolveWorkflowDirective, resolveExecutionDisposition]
  by_cases hend : isTerminal s.phase = true
  · simp [hend, hterminal.2 hend]
  · have hkind : (phaseDirective s.phase).kind ≠ .terminal := fun h => hend (hterminal.1 h)
    cases hblock : resolveBlockingAuthority s with
    | some block => simp [hend, hkind]
    | none =>
        by_cases hgate : isUserGate s.phase = true
        · have hhuman := (phaseDirective_humanGate s.phase).2 hgate
          by_cases hoverride : requiresGovernanceOverride s = true <;>
            simp [hend, hgate, hhuman, gateDirective, hoverride, overrideGate,
              humanGate]
        · have hhuman : (phaseDirective s.phase).kind ≠ .humanGate :=
            fun h => hgate ((phaseDirective_humanGate s.phase).1 h)
          simp [hend, hgate, hkind, hhuman, phaseDirective_ne_blocked]

/-- A persisted error blocks every state that is not terminal. -/
theorem resolveWorkflowDirective_of_error {s : SessionState}
    (hlive : isTerminal s.phase = false) (herror : s.error ≠ none) :
    (resolveWorkflowDirective s).kind = .blocked := by
  rw [resolveWorkflowDirective_blocked, resolveExecutionDisposition]
  obtain ⟨error, herror⟩ := Option.ne_none_iff_exists'.1 herror
  simp [hlive, resolveBlockingAuthority, herror]

end GovernedRuntime.Machine
