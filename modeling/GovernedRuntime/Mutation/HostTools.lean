/-
Which host tools may mutate the worktree, and when (`src/integration/phase-tool-gate.ts`).
-/
import GovernedRuntime.Machine.Guards
import GovernedRuntime.Risk.PathClassifier

namespace GovernedRuntime.Mutation

open GovernedRuntime.Library
open GovernedRuntime.State
open GovernedRuntime.Machine
open Pattern

/-! ### Tool names -/

def flowguardToolPrefix : String := "flowguard_"

def mcpFlowguardToolPrefix : String := "mcp__flowguard__"

def nativeSubagentTool : String := "subagent"

def mutatingHostTools : List String := ["bash", "write", "edit", "apply_patch"]

def readOnlyHostTools : List String := ["read", "glob", "grep", "webfetch", "todowrite"]

def isGovernedOutsideHostPhaseGate (toolName : String) : Bool :=
  toolName == nativeSubagentTool || flowguardToolPrefix.toList.isPrefixOf toolName.toList ||
    mcpFlowguardToolPrefix.toList.isPrefixOf toolName.toList

/-- An unknown host tool counts as mutating. -/
def isMutatingHostTool (toolName : String) : Bool :=
  if mutatingHostTools.contains toolName then true
  else if readOnlyHostTools.contains toolName then false
  else !isGovernedOutsideHostPhaseGate toolName

def requiresHostAuthority (toolName : String) : Bool :=
  isMutatingHostTool toolName || toolName == nativeSubagentTool

/-! ### The phase gate -/

def hostMutationPhase : Phase := .implementation

/-- The code of the refusal, or `none` where the tool is allowed. -/
def isHostToolAllowedInPhase (toolName : String) (phase : Phase) : Option String :=
  if readOnlyHostTools.contains toolName || isGovernedOutsideHostPhaseGate toolName then none
  else if !mutatingHostTools.contains toolName then some "HOST_TOOL_UNKNOWN_DENIED"
  else if phase == hostMutationPhase then none
  else some "HOST_TOOL_PHASE_DENIED"

/-! ### The integrity gate -/

/-- `\b` before a word: the start of the text, or what is no word character. -/
def wordStart : Pattern := .alt textStart (.char (!isWord ·))

/-- `\b` after a word. -/
def wordEnd : Pattern := .notBefore isWord

/-- A shell command that writes somewhere. -/
def shellWrites : Pattern :=
  oneOf
    [word ">",
      concat [wordStart,
        oneOf [words ["rm", "mv", "cp", "tee", "truncate", "dd", "chmod"],
          .seq (word "python") (.many isWord), words ["node", "perl", "ruby"]],
        wordEnd],
      concat [wordStart, word "sed", wordEnd, .many anyChar, .char Activation.isTrimmed,
        word "-i"]]

def includes (text part : String) : Bool := (word part).test text.toList

section Gates

variable (env : Environment)

/-- A shell command that writes to the state of a session. -/
def writesSessionState (command : String) (sessionDirectory : Option String) : Bool :=
  let normalized := env.foldCase (Risk.normalizeRepoRelativePath command)
  let targetsState :=
    sessionDirectory.any
      (fun directory =>
        includes normalized (env.foldCase (Risk.normalizeRepoRelativePath directory))) ||
    (includes normalized "/workspaces/" && includes normalized "/sessions/")
  targetsState && shellWrites.test normalized.toList

/-- The code of the refusal; a direct write is named in preference to an incident. -/
def hostMutationIntegrityGate (tool : String) (state : SessionState) (command : Option String)
    (sessionDirectory : Option String) : Option String :=
  if !requiresHostAuthority tool then none
  else if tool == "bash" && command.any (writesSessionState env · sessionDirectory) then
    some "SESSION_STATE_DIRECT_WRITE_DENIED"
  else if hasUnresolvedIntegrityIncident state.reviewAssurance then
    some "INTEGRITY_INCIDENT_MUTATION_DENIED"
  else none

/-- Integrity without the arguments of the call, then the phase. -/
def enforceHostToolPhase (toolName : String) (state : SessionState) : Except String Unit :=
  match hostMutationIntegrityGate env toolName state none none with
  | some code => .error code
  | none =>
      match isHostToolAllowedInPhase toolName state.phase with
      | some code => .error code
      | none => .ok ()

/-- What the workspace knows of the state of a session. -/
inductive SessionAuthority
  | resolved (sessDir : String) (state : SessionState)
  | absent
  | unavailable (code : String)

/-- A persisted error stops every later host mutation. -/
def resolveHostToolStateOrThrow (toolName : String) :
    SessionAuthority → Except String (String × SessionState)
  | .unavailable code => .error code
  | .absent => .error "SESSION_DIR_NOT_FOUND"
  | .resolved sessDir state =>
      match state.error with
      | some error => .error error.code
      | none => (enforceHostToolPhase env toolName state).map fun _ => (sessDir, state)

/-! ### What the gates let through -/

theorem not_governed_of_mutating {toolName : String}
    (hmutating : isMutatingHostTool toolName = true) :
    readOnlyHostTools.contains toolName = false ∧
      isGovernedOutsideHostPhaseGate toolName = false := by
  by_cases hknown : toolName ∈ mutatingHostTools
  · have hall : ∀ toolName ∈ mutatingHostTools, readOnlyHostTools.contains toolName = false ∧
        isGovernedOutsideHostPhaseGate toolName = false := by decide
    exact hall toolName hknown
  · rw [isMutatingHostTool, if_neg (by simpa using hknown)] at hmutating
    split_ifs at hmutating with hreadOnly
    exact ⟨Bool.eq_false_of_not_eq_true hreadOnly, by simpa using hmutating⟩

/-- A mutating tool gets past the phase gate in a sound implementation only. -/
theorem enforceHostToolPhase_ok {toolName : String} {state : SessionState}
    (hmutating : isMutatingHostTool toolName = true)
    (hallowed : enforceHostToolPhase env toolName state = .ok ()) :
    mutatingHostTools.contains toolName = true ∧ state.phase = hostMutationPhase ∧
      hasUnresolvedIntegrityIncident state.reviewAssurance = false := by
  unfold enforceHostToolPhase at hallowed
  split at hallowed
  · cases hallowed
  rename_i hintegrity
  split at hallowed
  · cases hallowed
  rename_i hphase
  have hgoverned := not_governed_of_mutating hmutating
  rw [isHostToolAllowedInPhase, hgoverned.1, hgoverned.2, Bool.or_false,
    if_neg Bool.false_ne_true] at hphase
  rw [hostMutationIntegrityGate, requiresHostAuthority, hmutating, Bool.true_or, Bool.not_true,
    if_neg Bool.false_ne_true, Option.any_none, Bool.and_false,
    if_neg Bool.false_ne_true] at hintegrity
  split_ifs at hphase with hknown hgate
  split_ifs at hintegrity with hincident
  exact ⟨by simpa using hknown, beq_iff_eq.1 hgate, Bool.eq_false_of_not_eq_true hincident⟩

end Gates

end GovernedRuntime.Mutation
