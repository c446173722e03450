/-
The two root operations (`startRootGovernance`, `endRootGovernance` in
`src/adapters/governance-activation.ts`) under the ports of the native commands
(`startRoot` in `src/integration/opencode-governance.ts`, `endRootActivation` in
`src/integration/opencode-governance-end.ts`).
-/
import GovernedRuntime.Activation.Agreement

namespace GovernedRuntime.Activation

/-- The workflow scope a root Start or End decision binds. -/
structure GovernanceRootScope where
  sessionId : String
  directory : String
  worktreeRoot : String
  policyDigest : String
deriving DecidableEq, Repr

inductive GovernanceRootStartResult where
  | activated (record : GovernanceActivationRevision) (resumed : Bool)
  | alreadyActive (record : GovernanceActivationRevision)
  | blocked (reason : AuthorityBlocked)
deriving DecidableEq

inductive GovernanceRootEndResult where
  | ended (record : GovernanceActivationRevision) (resumed : Bool)
  | alreadyInactive (record : Option GovernanceActivationRevision)
  | blocked (reason : AuthorityBlocked)
deriving DecidableEq

/-- One call under the session lock: its answer, and the stores its commits left
behind, in order.  The process may stop after any of them. -/
@[ext]
structure RootCall (Answer : Type) where
  answer : Answer
  commits : List GovernanceActivationStore

/-- The store a call leaves when it stops after some of its commits. -/
def RootCall.stoppedAfter {Answer : Type} (call : RootCall Answer)
    (store : GovernanceActivationStore) (commits : Nat) : GovernanceActivationStore :=
  (call.commits.take commits).getLast?.getD store

/-- The store a call leaves when nothing stops it. -/
def RootCall.store {Answer : Type} (call : RootCall Answer)
    (before : GovernanceActivationStore) : GovernanceActivationStore :=
  call.commits.getLast?.getD before

def rootBindingMatches (current : GovernanceActivationRevision)
    (request : GovernanceRootScope) : Bool :=
  current.sessionId == request.sessionId &&
    current.directory == request.directory &&
    current.worktreeRoot == request.worktreeRoot &&
    current.policyDigest == request.policyDigest

/-- The commit that completes a pending revision keeps the pending scope. -/
def completionOf (pending : GovernanceActivationRevision)
    (action : GovernanceActivationAction) (revision : Nat) :
    GovernanceActivationCommit where
  action
  expectedRevision := revision
  sessionId := pending.sessionId
  rootSessionId := pending.rootSessionId
  activationId := pending.activationId
  generation := pending.generation
  directory := pending.directory
  worktreeRoot := pending.worktreeRoot
  policyDigest := pending.policyDigest
  parentDispatch := pending.parentDispatch

/-! ### Start -/

/-- Start outcomes that need no write. -/
def settledStart :
    Option GovernanceActivationRevision → Option GovernanceRootStartResult
  | none => none
  | some current =>
      if current.parentDispatch.isSome then
        some (.blocked (unavailable
          "A delegated child session cannot start governance."))
      else
        match current.status with
        | .active => some (.alreadyActive current)
        | .ending => some (.blocked (unavailable
            "Governance is ending for this session; End must complete first."))
        | _ => none

section

variable (hash : RecordHash) (store : GovernanceActivationStore)
  (authorize : Authorize)

def completeStart (pending : GovernanceActivationRevision)
    (request : GovernanceRootScope) (revision : Nat) (resumed : Bool) :
    RootCall GovernanceRootStartResult :=
  if !rootBindingMatches pending request then
    ⟨.blocked (unavailable
      "The interrupted activation is bound to another directory, worktree or frozen policy."),
      []⟩
  else
    match commitLocked hash store authorize
        (completionOf pending .activate revision) [] with
    | (.blocked reason, _) => ⟨.blocked reason, []⟩
    | (.committed record, written) => ⟨.activated record resumed, [written]⟩

/-- The first commit of a Start. -/
def startOf (current : Option GovernanceActivationRevision) (revision : Nat)
    (request : GovernanceRootScope) (activationId : String) :
    GovernanceActivationCommit where
  action := .start
  expectedRevision := revision
  sessionId := request.sessionId
  rootSessionId := request.sessionId
  activationId
  generation := (current.map (·.generation)).getD 0 + 1
  directory := request.directory
  worktreeRoot := request.worktreeRoot
  policyDigest := request.policyDigest
  parentDispatch := none

/-- `activationId` is the call's `randomUUID()`. -/
def commitPreparedStart (current : Option GovernanceActivationRevision)
    (revision : Nat) (request : GovernanceRootScope) (activationId : String) :
    RootCall GovernanceRootStartResult :=
  match current.filter (·.status == .activating) with
  | some pending => completeStart hash store authorize pending request revision true
  | none =>
      match commitLocked hash store authorize
          (startOf current revision request activationId) [] with
      | (.blocked reason, _) => ⟨.blocked reason, []⟩
      | (.committed started, written) =>
          let rest := completeStart hash written authorize started request
            started.revision false
          ⟨rest.answer, written :: rest.commits⟩

def startRootGovernance (sessionId : String)
    (prepare : Option GovernanceActivationRevision → GovernanceRootScope)
    (activationId : String) : RootCall GovernanceRootStartResult :=
  match readJournal hash store sessionId with
  | .error invalid => ⟨.blocked invalid, []⟩
  | .ok journal =>
      let current := journal.history.getLast?
      match settledStart current with
      | some (.blocked reason) => ⟨.blocked reason, []⟩
      | settled =>
          let request := prepare current
          if request.sessionId ≠ sessionId then
            ⟨.blocked (unavailable "Start preparation changed its session."), []⟩
          else if current.any fun record =>
              record.status == .active && !rootBindingMatches record request then
            ⟨.blocked (unavailable
              "The ACTIVE activation does not match the current workflow binding."), []⟩
          else
            match settled with
            | some answer => ⟨answer, []⟩
            | none =>
                commitPreparedStart hash store authorize current
                  ((journal.head.map (·.revision)).getD 0) request activationId

/-! ### End -/

/-- End outcomes that need no preparation or write. -/
def settledEnd :
    Option GovernanceActivationRevision → Option GovernanceRootEndResult
  | none => some (.alreadyInactive none)
  | some current =>
      if current.parentDispatch.isSome then
        some (.blocked (unavailable
          "A delegated child session cannot end root governance."))
      else
        match current.status with
        | .inactive => some (.alreadyInactive (some current))
        | .activating => some (.blocked (unavailable
            "Governance is still activating; complete Start first."))
        | _ => none

def completeEnd (pending : GovernanceActivationRevision)
    (request : GovernanceRootScope) (revision : Nat) (resumed : Bool) :
    RootCall GovernanceRootEndResult :=
  if !rootBindingMatches pending request then
    ⟨.blocked (unavailable
      "The interrupted End is bound to another directory, worktree or frozen policy."),
      []⟩
  else
    match commitLocked hash store authorize
        (completionOf pending .finish revision) [] with
    | (.blocked reason, _) => ⟨.blocked reason, []⟩
    | (.committed record, written) => ⟨.ended record resumed, [written]⟩

/-- The first commit of an End. -/
def beginEndOf (current : GovernanceActivationRevision) (revision : Nat)
    (request : GovernanceRootScope) : GovernanceActivationCommit where
  action := .beginEnd
  expectedRevision := revision
  sessionId := request.sessionId
  rootSessionId := request.sessionId
  activationId := current.activationId
  generation := current.generation
  directory := request.directory
  worktreeRoot := request.worktreeRoot
  policyDigest := request.policyDigest
  parentDispatch := none

def endRootGovernance (sessionId : String)
    (prepare : GovernanceActivationRevision → GovernanceRootScope) :
    RootCall GovernanceRootEndResult :=
  match readJournal hash store sessionId with
  | .error invalid => ⟨.blocked invalid, []⟩
  | .ok journal =>
      match settledEnd journal.history.getLast?, journal.history.getLast? with
      | some settled, _ => ⟨settled, []⟩
      | none, none => ⟨.alreadyInactive none, []⟩
      | none, some current =>
          let request := prepare current
          if request.sessionId ≠ sessionId ∨ rootBindingMatches current request = false
          then
            ⟨.blocked (unavailable
              "End preparation changed the session or no longer matches the active worktree/policy binding."),
              []⟩
          else if current.status = .ending then
            completeEnd hash store authorize current request current.revision true
          else
            match commitLocked hash store authorize
                (beginEndOf current ((journal.head.map (·.revision)).getD 0) request)
                [] with
            | (.blocked reason, _) => ⟨.blocked reason, []⟩
            | (.committed begun, written) =>
                let rest := completeEnd hash written authorize begun request
                  begun.revision false
                ⟨rest.answer, written :: rest.commits⟩

end

/-! ### The ports of the native commands -/

/-- The Start port: a fresh decision for the start, the pending one for its
completion. -/
def startAuthorize (sessionId decisionId : String) (source : DecisionSource)
    (actor : GovernanceDecisionActor) : Authorize := fun input current =>
  if input.sessionId ≠ sessionId then
    .error (unavailable
      "The governance adapter stopped or the Start scope changed.")
  else if input.action = .start then .ok ⟨decisionId, source, actor⟩
  else
    match current.filter fun record =>
        input.action == .activate && record.status == .activating with
    | some pending => .ok ⟨pending.decisionId, pending.decisionSource, actor⟩
    | none => .error (unavailable
        "The Start command authorizes only Start and its completion.")

/-- The End port: completion keeps the pending actor as well. -/
def endAuthorize (sessionId decisionId : String)
    (actor : GovernanceDecisionActor) : Authorize := fun input current =>
  if input.sessionId ≠ sessionId then
    .error (unavailable "The governance adapter stopped or the End scope changed.")
  else if input.action = .beginEnd then .ok ⟨decisionId, .hostCommand, actor⟩
  else
    match current.filter fun record =>
        input.action == .finish && record.status == .ending with
    | some pending =>
        .ok ⟨pending.decisionId, pending.decisionSource, pending.decisionActor⟩
    | none => .error (unavailable
        "The End command authorizes only End and its completion.")

/-- A Start command.  The request is what preparation returns; the two identifiers
are drawn anew by every call. -/
structure StartCommand where
  request : GovernanceRootScope
  source : DecisionSource
  actor : GovernanceDecisionActor
  decisionId : String
  activationId : String

structure EndCommand where
  request : GovernanceRootScope
  actor : GovernanceDecisionActor
  decisionId : String

def StartCommand.call (command : StartCommand) (hash : RecordHash)
    (sessionId : String) (store : GovernanceActivationStore) :
    RootCall GovernanceRootStartResult :=
  startRootGovernance hash store
    (startAuthorize sessionId command.decisionId command.source command.actor)
    sessionId (fun _ => command.request) command.activationId

def EndCommand.call (command : EndCommand) (hash : RecordHash)
    (sessionId : String) (store : GovernanceActivationStore) :
    RootCall GovernanceRootEndResult :=
  endRootGovernance hash store
    (endAuthorize sessionId command.decisionId command.actor)
    sessionId (fun _ => command.request)

/-- The same request: everything but the identifiers drawn by the call. -/
structure StartCommand.SameRequest (command retry : StartCommand) : Prop where
  request : retry.request = command.request
  source : retry.source = command.source
  actor : retry.actor = command.actor

structure EndCommand.SameRequest (command retry : EndCommand) : Prop where
  request : retry.request = command.request
  actor : retry.actor = command.actor

end GovernedRuntime.Activation
