/-
The Before hook of host tools (`src/integration/plugin-beforehooks.ts`): authority checks
without the lock, audit reconciliation, and the dispatch record that is written under the
lock, interleaved with all other writes of the session.
-/
import GovernedRuntime.Mutation.HostTools
import GovernedRuntime.Mutation.Ledger
import GovernedRuntime.Rails.AutoAdvance
import Mathlib.Logic.Function.Basic

namespace GovernedRuntime.Mutation

open GovernedRuntime.Library
open GovernedRuntime.State
open GovernedRuntime.Machine
open GovernedRuntime.Rails

/-! ### One call -/

/-- A host call, and the runtime whose hook it passes. -/
structure HostCall where
  runtime : Runtime
  toolName : String
  hostCallId : String
  command : Option String
deriving DecidableEq, Repr

/-- The persisted session as the hook reads it. -/
structure HostSession where
  state : SessionState
  runtimeLease : Option RuntimeLease

def HostSession.ledger (session : HostSession) : MutationLedger :=
  ⟨session.runtimeLease, session.state.mutationEpisodes,
    session.state.mutationEpisodeResolutions⟩

def HostSession.withLedger (session : HostSession) (ledger : MutationLedger) : HostSession where
  state :=
    { session.state with
      mutationEpisodes := ledger.mutationEpisodes
      mutationEpisodeResolutions := ledger.mutationEpisodeResolutions }
  runtimeLease := ledger.runtimeLease

/-- The session with a persisted error. -/
def HostSession.withError (error : ErrorInfo) (session : HostSession) : HostSession :=
  { session with state := { session.state with error := some error } }

/-- Any write of a command that is no ledger operation: it keeps the episodes, and a new
session has none. -/
def writeSession (session : Option HostSession) (state : SessionState)
    (runtimeLease : Option RuntimeLease) : HostSession where
  state :=
    { state with
      mutationEpisodes := (session.map (·.state.mutationEpisodes)).getD [] }
  runtimeLease := runtimeLease

section Environment

variable (env : Environment)

def enforcementUnavailableCode : String := enforcementUnavailable.code

/-- The checks before the reconciliation; `scopeDenied` is what the command scope says. -/
def enforceAuthority (call : HostCall) (scopeDenied : Option String)
    (authority : SessionAuthority) : Except String Unit :=
  match scopeDenied with
  | some code => .error code
  | none =>
      if !requiresHostAuthority call.toolName then .ok ()
      else
        match resolveHostToolStateOrThrow env call.toolName authority with
        | .error code => .error code
        | .ok (sessDir, state) =>
            match hostMutationIntegrityGate env call.toolName state call.command
                (some sessDir) with
            | some code => .error code
            | none => .ok ()

/-- `recordMutationDispatch`, on the state that is read under the lock. -/
def recordHostDispatch (call : HostCall) (isProcessAlive : Nat → Bool) (episodeId : String)
    (now : Timestamp) (session : Option HostSession) : Except String HostSession :=
  if call.hostCallId == "" then .error enforcementUnavailableCode
  else
    match session with
    | none => .error enforcementUnavailableCode
    | some session =>
        match enforceHostToolPhase env call.toolName session.state with
        | .error code => .error code
        | .ok () =>
            match recordMutationDispatch session.ledger isProcessAlive call.runtime episodeId
                call.hostCallId call.toolName now with
            | .error refusal => .error refusal.code
            | .ok ledger => .ok
                { state := { session.state with mutationEpisodes := ledger.mutationEpisodes }
                  runtimeLease := ledger.runtimeLease }

end Environment

/-! ### Calls and other writers -/

/-- How far the hook of a call is. -/
inductive HookStage
  | idle
  | resolved
  | reconciled
  | cleared
  | recorded
  | passed
  | refused (code : String)
deriving DecidableEq, Repr

/-- Between the check of the authority and the dispatch record. -/
def HookStage.inFlight : HookStage → Bool
  | .resolved | .reconciled | .cleared => true
  | _ => false

/-- How a reconciliation ends; a strict timestamp failure is persisted as an error. -/
inductive AuditReconciliation
  | reconciled
  | blocked (code : String)
  | timestampFailed (error : ErrorInfo)

/-- A recorded dispatch: the state the lock holder read, and what it wrote. -/
structure Recording (Call : Type) where
  call : Call
  locked : HostSession
  written : HostSession

structure HookState (Call : Type) where
  session : Option HostSession
  stage : Call → HookStage
  recordings : List (Recording Call)

/-- A step of the hook of one call, a write of another command, or an operation on the
dispatched episodes.  What the steps learn from outside is their input: the command scope,
the session mapping, the audit trail, the git, risk and discovery gates, the other
processes and the clock. -/
inductive HookAction (Call : Type)
  | checkAuthority (call : Call) (scopeDenied unavailable : Option String) (sessDir : String)
  | reconcileAudit (call : Call) (outcome : AuditReconciliation)
  | enforceGates (call : Call) (denied : Option String)
  | recordDispatch (call : Call) (isProcessAlive : Nat → Bool) (episodeId : String)
      (now : Timestamp)
  | write (state : SessionState) (runtimeLease : Option RuntimeLease)
  | settle (action : LedgerAction)

section Steps

variable {Call : Type} [DecidableEq Call] (env : Environment) (host : Call → HostCall)

def HookState.goto (s : HookState Call) (call : Call) (stage : HookStage) : HookState Call :=
  { s with stage := Function.update s.stage call stage }

def readAuthority (unavailable : Option String) (sessDir : String) :
    Option HostSession → SessionAuthority
  | session =>
      match unavailable, session with
      | some code, _ => .unavailable code
      | none, none => .absent
      | none, some session => .resolved sessDir session.state

def HookState.checkAuthority (s : HookState Call) (call : Call)
    (scopeDenied unavailable : Option String) (sessDir : String) : Option (HookState Call) :=
  if s.stage call != .idle then none
  else
    match enforceAuthority env (host call) scopeDenied
        (readAuthority unavailable sessDir s.session) with
    | .error code => some (s.goto call (.refused code))
    | .ok () =>
        if requiresHostAuthority (host call).toolName then some (s.goto call .resolved)
        else some (s.goto call .passed)

def HookState.reconcileAudit (s : HookState Call) (call : Call) (outcome : AuditReconciliation) :
    Option (HookState Call) :=
  if s.stage call != .resolved then none
  else
    match outcome with
    | .reconciled => some (s.goto call .reconciled)
    | .blocked code => some (s.goto call (.refused code))
    | .timestampFailed error => some
        { s.goto call (.refused error.code) with
          session := s.session.map (·.withError error) }

/-- The fresh read after the reconciliation, and the gates that look at it. -/
def HookState.enforceGates (s : HookState Call) (call : Call) (denied : Option String) :
    Option (HookState Call) :=
  if s.stage call != .reconciled then none
  else if !isMutatingHostTool (host call).toolName then some (s.goto call .passed)
  else
    match s.session, denied with
    | none, _ => some (s.goto call (.refused enforcementUnavailableCode))
    | some _, some code => some (s.goto call (.refused code))
    | some _, none => some (s.goto call .cleared)

def HookState.recordDispatch (s : HookState Call) (call : Call) (isProcessAlive : Nat → Bool)
    (episodeId : String) (now : Timestamp) : Option (HookState Call) :=
  if s.stage call != .cleared then none
  else
    match s.session, recordHostDispatch env (host call) isProcessAlive episodeId now
        s.session with
    | some locked, .ok written => some
        { session := some written
          stage := Function.update s.stage call .recorded
          recordings := s.recordings ++ [⟨call, locked, written⟩] }
    | _, .error code => some (s.goto call (.refused code))
    | none, .ok _ => none

/-- Completions, resolutions and reconciliations; episodes are authorized by hooks only. -/
def HookState.settle (s : HookState Call) (action : LedgerAction) : Option (HookState Call) :=
  match action, s.session with
  | .authorize .., _ | _, none => none
  | action, some session =>
      (session.ledger.step action).map fun ledger =>
        { s with session := some (session.withLedger ledger) }

def hookStep (s : HookState Call) : HookAction Call → Option (HookState Call)
  | .checkAuthority call scopeDenied unavailable sessDir =>
      s.checkAuthority env host call scopeDenied unavailable sessDir
  | .reconcileAudit call outcome => s.reconcileAudit call outcome
  | .enforceGates call denied => s.enforceGates host call denied
  | .recordDispatch call isProcessAlive episodeId now =>
      s.recordDispatch env host call isProcessAlive episodeId now
  | .write state runtimeLease =>
      some { s with session := some (writeSession s.session state runtimeLease) }
  | .settle action => s.settle action

/-- A mutation is past the check of its authority, and not recorded yet. -/
def AwaitsDispatch (host : Call → HostCall) (s : HookState Call) (call : Call) : Prop :=
  isMutatingHostTool (host call).toolName = true ∧ (s.stage call).inFlight = true

/-- No error is persisted while another call awaits its dispatch record. -/
def ErrorsWait (host : Call → HostCall) (s : HookState Call) : HookAction Call → Prop
  | .write state _ => state.error ≠ none → ∀ call, ¬AwaitsDispatch host s call
  | .reconcileAudit call (.timestampFailed _) =>
      ∀ other, other ≠ call → ¬AwaitsDispatch host s other
  | _ => True

/-- What a recorded dispatch was written against. -/
structure AuthorizedDispatch (host : Call → HostCall) (recording : Recording Call) : Prop where
  phase : recording.locked.state.phase = .implementation
  sound : hasUnresolvedIntegrityIncident recording.locked.state.reviewAssurance = false
  fresh : ∀ episode ∈ recording.locked.state.mutationEpisodes,
    episode.hostCallId ≠ (host recording.call).hostCallId
  held : ∃ lease episode, recording.written.runtimeLease = some lease ∧
    lease.holderRuntimeInstanceId = (host recording.call).runtime.runtimeInstanceId ∧
    recording.written.state.mutationEpisodes =
      recording.locked.state.mutationEpisodes ++ [episode] ∧
    episode.hostCallId = (host recording.call).hostCallId ∧
    episode.toolName = (host recording.call).toolName ∧
    episode.runtimeInstanceId = lease.holderRuntimeInstanceId ∧
    episode.leaseGeneration = lease.generation

end Steps

/-! ### What a record was written against -/

section Records

variable {Call : Type} {env : Environment} {host : Call → HostCall}

theorem recordHostDispatch_ok {call : Call} {isProcessAlive : Nat → Bool} {episodeId : String}
    {now : Timestamp} {locked written : HostSession}
    (hmutating : isMutatingHostTool (host call).toolName = true)
    (hrecord : recordHostDispatch env (host call) isProcessAlive episodeId now (some locked) =
      .ok written) :
    AuthorizedDispatch host ⟨call, locked, written⟩ ∧
      written.state.error = locked.state.error := by
  unfold recordHostDispatch at hrecord
  dsimp only at hrecord
  split at hrecord
  · cases hrecord
  split at hrecord
  · cases hrecord
  rename_i hgate
  obtain ⟨-, hphase, hsound⟩ := enforceHostToolPhase_ok env hmutating hgate
  split at hrecord
  · cases hrecord
  rename_i ledger hledger
  obtain rfl := Except.ok.inj hrecord
  obtain ⟨lease, -, hholder, hfresh, rfl⟩ := recordMutationDispatch_ok hledger
  exact ⟨⟨hphase, hsound, hfresh, lease, _, rfl, hholder, rfl, rfl, rfl, hholder.symm, rfl⟩, rfl⟩

end Records

/-! ### Runs -/

section Runs

variable {Call : Type} [DecidableEq Call] {env : Environment} {host : Call → HostCall}
  {s t : HookState Call}

/-- Every record was authorized, and its host call is in the ledger of the session. -/
structure HookInvariant (host : Call → HostCall) (s : HookState Call) : Prop where
  cleared : ∀ call, s.stage call = .cleared → isMutatingHostTool (host call).toolName = true
  authorized : ∀ recording ∈ s.recordings, AuthorizedDispatch host recording
  known : ∀ recording ∈ s.recordings, ∃ session, s.session = some session ∧
    ∃ episode ∈ session.state.mutationEpisodes,
      episode.hostCallId = (host recording.call).hostCallId
  distinct : (s.recordings.map fun recording => (host recording.call).hostCallId).Nodup

/-- Calls that await their dispatch record are in a session without an error. -/
structure ErrorInvariant (host : Call → HostCall) (s : HookState Call) : Prop where
  awaiting : ∀ call, AwaitsDispatch host s call →
    ∀ session, s.session = some session → session.state.error = none
  recorded : ∀ recording ∈ s.recordings, recording.locked.state.error = none

/-- What a step can do. -/
inductive HookMove (env : Environment) (host : Call → HostCall) (s : HookState Call) :
    HookAction Call → HookState Call → Prop
  | left {action : HookAction Call} (call : Call) (stage : HookStage)
      (hleft : stage.inFlight = false) : HookMove env host s action (s.goto call stage)
  | checked {action : HookAction Call} (call : Call)
      (hsound : ∀ session, s.session = some session → session.state.error = none) :
      HookMove env host s action (s.goto call .resolved)
  | advanced {action : HookAction Call} (call : Call) (stage : HookStage)
      (hflies : (s.stage call).inFlight = true)
      (hcleared : stage = .cleared → isMutatingHostTool (host call).toolName = true) :
      HookMove env host s action (s.goto call stage)
  | failed (call : Call) (error : ErrorInfo) :
      HookMove env host s (.reconcileAudit call (.timestampFailed error))
        { s.goto call (.refused error.code) with session := s.session.map (·.withError error) }
  | recorded {action : HookAction Call} (call : Call) (isProcessAlive : Nat → Bool)
      (episodeId : String) (now : Timestamp) (locked written : HostSession)
      (hcleared : s.stage call = .cleared) (hlocked : s.session = some locked)
      (hrecord : recordHostDispatch env (host call) isProcessAlive episodeId now (some locked) =
        .ok written) :
      HookMove env host s action
        { session := some written
          stage := Function.update s.stage call .recorded
          recordings := s.recordings ++ [⟨call, locked, written⟩] }
  | written (state : SessionState) (runtimeLease : Option RuntimeLease) :
      HookMove env host s (.write state runtimeLease)
        { s with session := some (writeSession s.session state runtimeLease) }
  | settled {action : HookAction Call} (operation : LedgerAction) (session : HostSession)
      (ledger : MutationLedger) (hsession : s.session = some session)
      (hoperation : LedgerStep session.ledger operation ledger) :
      HookMove env host s action { s with session := some (session.withLedger ledger) }

theorem resolveHostToolStateOrThrow_ok {toolName : String} {authority : SessionAuthority}
    {sessDir : String} {state : SessionState}
    (hresolved : resolveHostToolStateOrThrow env toolName authority = .ok (sessDir, state)) :
    authority = .resolved sessDir state ∧ state.error = none := by
  unfold resolveHostToolStateOrThrow at hresolved
  split at hresolved
  · cases hresolved
  · cases hresolved
  · split at hresolved
    · cases hresolved
    · rename_i found _ herror
      cases hgate : enforceHostToolPhase env toolName found with
      | error code =>
          rw [hgate] at hresolved
          cases hresolved
      | ok _ =>
          rw [hgate] at hresolved
          obtain ⟨rfl, rfl⟩ := Prod.mk.inj (Except.ok.inj hresolved)
          exact ⟨rfl, herror⟩

omit [DecidableEq Call] in
/-- The check of a host tool sees a session without an error. -/
theorem enforceAuthority_ok {call : Call} {scopeDenied unavailable : Option String}
    {sessDir : String} {session : Option HostSession}
    (hauthority : requiresHostAuthority (host call).toolName = true)
    (hallowed : enforceAuthority env (host call) scopeDenied
      (readAuthority unavailable sessDir session) = .ok ()) :
    ∀ found, session = some found → found.state.error = none := by
  unfold enforceAuthority at hallowed
  split at hallowed
  · cases hallowed
  rw [hauthority, Bool.not_true, if_neg Bool.false_ne_true] at hallowed
  split at hallowed
  · cases hallowed
  rename_i state hresolved
  obtain ⟨hread, hsound⟩ := resolveHostToolStateOrThrow_ok hresolved
  rintro found rfl
  cases unavailable with
  | some code => cases hread
  | none =>
      obtain ⟨-, rfl⟩ := SessionAuthority.resolved.inj hread
      exact hsound

theorem hookStep_moves {action : HookAction Call} (hstep : hookStep env host s action = some t) :
    HookMove env host s action t := by
  cases action with
  | checkAuthority call scopeDenied unavailable sessDir =>
      rw [hookStep, HookState.checkAuthority] at hstep
      split at hstep
      · cases hstep
      split at hstep
      · obtain rfl := Option.some_inj.1 hstep
        exact .left call _ rfl
      rename_i hallowed
      split at hstep
      · rename_i hauthority
        obtain rfl := Option.some_inj.1 hstep
        exact .checked call (enforceAuthority_ok hauthority hallowed)
      · obtain rfl := Option.some_inj.1 hstep
        exact .left call _ rfl
  | reconcileAudit call outcome =>
      rw [hookStep] at hstep
      unfold HookState.reconcileAudit at hstep
      split at hstep
      · cases hstep
      rename_i hstage
      rw [bne_iff_ne, ne_eq, Decidable.not_not] at hstage
      cases outcome with
      | reconciled =>
          obtain rfl := Option.some_inj.1 hstep
          exact .advanced call _ (by rw [hstage]; rfl) nofun
      | blocked code =>
          obtain rfl := Option.some_inj.1 hstep
          exact .left call _ rfl
      | timestampFailed error =>
          obtain rfl := Option.some_inj.1 hstep
          exact .failed call error
  | enforceGates call denied =>
      rw [hookStep] at hstep
      unfold HookState.enforceGates at hstep
      split at hstep
      · cases hstep
      rename_i hstage
      rw [bne_iff_ne, ne_eq, Decidable.not_not] at hstage
      split at hstep
      · obtain rfl := Option.some_inj.1 hstep
        exact .left call _ rfl
      rename_i hmutating
      split at hstep
      · obtain rfl := Option.some_inj.1 hstep
        exact .left call _ rfl
      · obtain rfl := Option.some_inj.1 hstep
        exact .left call _ rfl
      · obtain rfl := Option.some_inj.1 hstep
        exact .advanced call _ (by rw [hstage]; rfl) fun _ => by simpa using hmutating
  | recordDispatch call isProcessAlive episodeId now =>
      rw [hookStep, HookState.recordDispatch] at hstep
      split at hstep
      · cases hstep
      rename_i hstage
      rw [bne_iff_ne, ne_eq, Decidable.not_not] at hstage
      split at hstep
      · rename_i locked written hlocked hrecord
        obtain rfl := Option.some_inj.1 hstep
        rw [hlocked] at hrecord
        exact .recorded call isProcessAlive episodeId now locked written hstage hlocked hrecord
      · obtain rfl := Option.some_inj.1 hstep
        exact .left call _ rfl
      · cases hstep
  | write state runtimeLease =>
      obtain rfl := Option.some_inj.1 hstep
      exact .written state runtimeLease
  | settle operation =>
      rw [hookStep] at hstep
      unfold HookState.settle at hstep
      split at hstep
      · cases hstep
      · cases hstep
      · rename_i session _ hsession
        obtain ⟨ledger, hledger, rfl⟩ := Option.map_eq_some_iff.1 hstep
        exact .settled _ session ledger hsession (ledgerStep_of_step hledger)

theorem HookInvariant.goto (hinv : HookInvariant host s) {call : Call} {stage : HookStage}
    (hcleared : stage = .cleared → isMutatingHostTool (host call).toolName = true) :
    HookInvariant host (s.goto call stage) := by
  refine ⟨fun other hother => ?_, hinv.authorized, hinv.known, hinv.distinct⟩
  by_cases hsame : other = call
  · subst hsame
    exact hcleared (by simpa [HookState.goto] using hother)
  · exact hinv.cleared other (by simpa [HookState.goto, hsame] using hother)

/-- The host calls that are authorized stay so. -/
def KeepsHostCalls (before after : Option HostSession) : Prop :=
  ∀ session, before = some session → ∃ next, after = some next ∧
    ∀ episode ∈ session.state.mutationEpisodes, ∃ kept ∈ next.state.mutationEpisodes,
      kept.hostCallId = episode.hostCallId

theorem writeSession_keepsHostCalls (session : Option HostSession) (state : SessionState)
    (runtimeLease : Option RuntimeLease) :
    KeepsHostCalls session (some (writeSession session state runtimeLease)) := by
  rintro before rfl
  exact ⟨_, rfl, fun episode hmem => ⟨episode, hmem, rfl⟩⟩

theorem withLedger_keepsHostCalls {session : HostSession} {operation : LedgerAction}
    {ledger : MutationLedger} (hoperation : LedgerStep session.ledger operation ledger) :
    KeepsHostCalls (some session) (some (session.withLedger ledger)) := by
  rintro before hbefore
  obtain rfl := Option.some_inj.1 hbefore
  refine ⟨_, rfl, fun episode hmem => ?_⟩
  have hdispatch : dispatchOf episode ∈ ledger.mutationEpisodes.map dispatchOf :=
    (ledgerGrows_step hoperation).dispatches.subset (List.mem_map_of_mem hmem)
  obtain ⟨kept, hkept, hsame⟩ := List.mem_map.1 hdispatch
  exact ⟨kept, hkept, congrArg Dispatch.hostCallId hsame⟩

omit [DecidableEq Call] in
theorem HookInvariant.kept (hinv : HookInvariant host s) {next : Option HostSession}
    (hkeeps : KeepsHostCalls s.session next) : HookInvariant host { s with session := next } := by
  refine ⟨hinv.cleared, hinv.authorized, fun recording hmem => ?_, hinv.distinct⟩
  obtain ⟨session, hsession, episode, hepisode, hcall⟩ := hinv.known recording hmem
  obtain ⟨after, hafter, hcalls⟩ := hkeeps session hsession
  obtain ⟨kept, hkept, hsame⟩ := hcalls episode hepisode
  exact ⟨after, hafter, kept, hkept, hsame.trans hcall⟩

/-- A dispatch is recorded for a host call that no earlier record is for. -/
theorem HookInvariant.recorded (hinv : HookInvariant host s) {call : Call}
    {isProcessAlive : Nat → Bool} {episodeId : String} {now : Timestamp}
    {locked written : HostSession} (hcleared : s.stage call = .cleared)
    (hlocked : s.session = some locked)
    (hrecord : recordHostDispatch env (host call) isProcessAlive episodeId now (some locked) =
      .ok written) :
    HookInvariant host
      { session := some written
        stage := Function.update s.stage call .recorded
        recordings := s.recordings ++ [⟨call, locked, written⟩] } := by
  obtain ⟨hauthorized, -⟩ := recordHostDispatch_ok (hinv.cleared call hcleared) hrecord
  obtain ⟨lease, episode, -, -, hepisodes, hepisode, -⟩ := hauthorized.held
  constructor
  · intro other hother
    by_cases hsame : other = call
    · subst hsame
      simp at hother
    · exact hinv.cleared other (by simpa [hsame] using hother)
  · exact List.forall_mem_append.2 ⟨hinv.authorized, List.forall_mem_singleton.2 hauthorized⟩
  · refine List.forall_mem_append.2 ⟨fun recording hmem => ?_, List.forall_mem_singleton.2 ?_⟩
    · obtain ⟨session, hsession, kept, hkept, hcall⟩ := hinv.known recording hmem
      obtain rfl := Option.some_inj.1 (hsession.symm.trans hlocked)
      refine ⟨written, rfl, kept, ?_, hcall⟩
      rw [hepisodes]
      exact List.mem_append_left _ hkept
    · refine ⟨written, rfl, episode, ?_, hepisode⟩
      rw [hepisodes]
      exact List.mem_append_right _ (List.mem_singleton_self _)
  · rw [List.map_append, List.nodup_append_comm]
    refine List.nodup_cons.2 ⟨fun hmem => ?_, hinv.distinct⟩
    obtain ⟨recording, hrecording, hcall⟩ := List.mem_map.1 hmem
    obtain ⟨session, hsession, kept, hkept, hknown⟩ := hinv.known recording hrecording
    obtain rfl := Option.some_inj.1 (hsession.symm.trans hlocked)
    exact hauthorized.fresh kept hkept (hknown.trans hcall)

theorem HookInvariant.step (hinv : HookInvariant host s) {action : HookAction Call}
    (hstep : hookStep env host s action = some t) :
    HookInvariant host t := by
  cases hookStep_moves hstep with
  | left call stage hleft =>
      refine hinv.goto fun hcleared => ?_
      rw [hcleared] at hleft
      cases hleft
  | checked call hsound => exact hinv.goto nofun
  | advanced call stage hflies hcleared => exact hinv.goto hcleared
  | failed call error =>
      have hgone : HookInvariant host (s.goto call (.refused error.code)) := hinv.goto nofun
      refine hgone.kept fun session hsession => ?_
      refine ⟨session.withError error, ?_, fun episode hmem => ⟨episode, hmem, rfl⟩⟩
      change s.session = some session at hsession
      rw [hsession]
      rfl
  | recorded call isProcessAlive episodeId now locked written hcleared hlocked hrecord =>
      exact hinv.recorded hcleared hlocked hrecord
  | written state runtimeLease => exact hinv.kept (writeSession_keepsHostCalls _ _ _)
  | settled operation session ledger hsession hoperation =>
      refine hinv.kept ?_
      rw [hsession]
      exact withLedger_keepsHostCalls hoperation

theorem AwaitsDispatch.of_goto {call other : Call} {stage : HookStage}
    (hawaits : AwaitsDispatch host (s.goto call stage) other) (hne : other ≠ call) :
    AwaitsDispatch host s other :=
  ⟨hawaits.1, by simpa [HookState.goto, hne] using hawaits.2⟩

theorem AwaitsDispatch.stage_inFlight {call : Call} {stage : HookStage}
    (hawaits : AwaitsDispatch host (s.goto call stage) call) : stage.inFlight = true := by
  simpa [HookState.goto] using hawaits.2

/-- A call changes its stage; where it still awaits its record, the session has no error. -/
theorem ErrorInvariant.goto (herror : ErrorInvariant host s) {call : Call} {stage : HookStage}
    (hsound : AwaitsDispatch host (s.goto call stage) call →
      ∀ session, s.session = some session → session.state.error = none) :
    ErrorInvariant host (s.goto call stage) := by
  refine ⟨fun other hawaits => ?_, herror.recorded⟩
  by_cases hsame : other = call
  · subst hsame
    exact hsound hawaits
  · exact herror.awaiting other (hawaits.of_goto hsame)

theorem ErrorInvariant.step (hinv : HookInvariant host s) (herror : ErrorInvariant host s)
    {action : HookAction Call} (hallowed : ErrorsWait host s action)
    (hstep : hookStep env host s action = some t) : ErrorInvariant host t := by
  cases hookStep_moves hstep with
  | left call stage hleft =>
      refine herror.goto fun hawaits => ?_
      rw [hawaits.stage_inFlight] at hleft
      cases hleft
  | checked call hsound => exact herror.goto fun _ => hsound
  | advanced call stage hflies hcleared =>
      exact herror.goto fun hawaits => herror.awaiting call ⟨hawaits.1, hflies⟩
  | failed call error =>
      refine ⟨fun other hawaits => ?_, herror.recorded⟩
      have hother : AwaitsDispatch host (s.goto call (.refused error.code)) other := hawaits
      by_cases hsame : other = call
      · subst hsame
        cases hother.stage_inFlight
      · exact absurd (hother.of_goto hsame) (hallowed other hsame)
  | recorded call isProcessAlive episodeId now locked written hcleared hlocked hrecord =>
      have hmutating := hinv.cleared call hcleared
      obtain ⟨-, hkept⟩ := recordHostDispatch_ok hmutating hrecord
      have hnone : locked.state.error = none :=
        herror.awaiting call ⟨hmutating, by rw [hcleared]; rfl⟩ locked hlocked
      refine ⟨fun other _ session hsession => ?_, ?_⟩
      · obtain rfl := Option.some_inj.1 hsession
        exact hkept.trans hnone
      · exact List.forall_mem_append.2 ⟨herror.recorded, List.forall_mem_singleton.2 hnone⟩
  | written state runtimeLease =>
      refine ⟨fun call hawaits session hsession => ?_, herror.recorded⟩
      obtain rfl := Option.some_inj.1 hsession
      by_contra hpersisted
      exact hallowed hpersisted call hawaits
  | settled operation session ledger hsession hoperation =>
      refine ⟨fun call hawaits after hafter => ?_, herror.recorded⟩
      obtain rfl := Option.some_inj.1 hafter
      exact herror.awaiting call hawaits session hsession

/-- Before any call is recorded. -/
structure HookState.Start (s : HookState Call) : Prop where
  idle : ∀ call, s.stage call = .idle
  unrecorded : s.recordings = []

omit [DecidableEq Call] in
theorem HookState.Start.hookInvariant (hstart : s.Start) : HookInvariant host s := by
  refine ⟨fun call hcleared => ?_, ?_, ?_, ?_⟩
  · rw [hstart.idle] at hcleared
    cases hcleared
  all_goals rw [hstart.unrecorded]
  · exact List.forall_mem_nil _
  · exact List.forall_mem_nil _
  · exact List.nodup_nil

omit [DecidableEq Call] in
theorem HookState.Start.errorInvariant (hstart : s.Start) : ErrorInvariant host s := by
  refine ⟨fun call hawaits => ?_, ?_⟩
  · have hflies := hawaits.2
    rw [hstart.idle] at hflies
    cases hflies
  · rw [hstart.unrecorded]
    exact List.forall_mem_nil _

/-- In every run in which no error is persisted while another call awaits its record, any
number of calls records dispatches only for host calls that are new to the session, under
the lease of their runtime, and on a locked state that is in IMPLEMENTATION and has neither
an unresolved incident nor a persisted error. -/
theorem host_dispatches_authorized (env : Environment) (host : Call → HostCall)
    {s t : HookState Call} (hstart : s.Start)
    (hreach : Reaches (hookStep env host) (ErrorsWait host) s t) :
    (∀ recording ∈ t.recordings,
      AuthorizedDispatch host recording ∧ recording.locked.state.error = none) ∧
    (t.recordings.map fun recording => (host recording.call).hostCallId).Nodup := by
  have hkeeps : ∀ {s t : HookState Call} {action : HookAction Call},
      HookInvariant host s ∧ ErrorInvariant host s → ErrorsWait host s action →
      hookStep env host s action = some t → HookInvariant host t ∧ ErrorInvariant host t :=
    fun hinv hallowed hstep => ⟨hinv.1.step hstep, hinv.2.step hinv.1 hallowed hstep⟩
  have hinv : HookInvariant host t ∧ ErrorInvariant host t :=
    hreach.invariant hkeeps ⟨hstart.hookInvariant, hstart.errorInvariant⟩
  exact ⟨fun recording hmem => ⟨hinv.1.authorized recording hmem, hinv.2.recorded recording hmem⟩,
    hinv.1.distinct⟩

end Runs

/-! ### An error that slips in -/

def editCall : HostCall := ⟨firstRuntime, "edit", "call-1", none⟩

def idleEdit : HookState Unit where
  session := some ⟨sessionAt .implementation true, none⟩
  stage := fun _ => .idle
  recordings := []

/-- The steps of a hook that nothing stops, before the record. -/
def clearedEdit : List (HookAction Unit) :=
  [.checkAuthority () none none "sessions/3d59", .reconcileAudit () .reconciled,
    .enforceGates () none]

def recordEdit : HookAction Unit :=
  .recordDispatch () (fun _ => true) "9f0c2b7e-1d34-4a6b-8c5d-7e8f90a1b2c3"
    "2024-05-01T10:00:00.000Z"

/-- The write of another call whose strict timestamp failed. -/
def failTimestamp : HookAction Unit :=
  .write
    { sessionAt .implementation true with
      error := some
        { code := "TSA_TIMESTAMP_ASSURANCE_FAILED"
          message := "Strict timestamp assurance failed for tool_call: no token"
          recoveryHint := "Fix TSA connectivity, trust anchors, or timestamp token validity"
          occurredAt := "2024-05-01T09:59:59.000Z" } }
    none

def editStep : HookState Unit → HookAction Unit → Option (HookState Unit) :=
  hookStep .plain fun _ => editCall

def persistsNoError : HookAction Unit → Bool
  | .write .. | .reconcileAudit _ (.timestampFailed _) => false
  | _ => true

/-- The hook of the only call, and no write that could persist an error. -/
def quietStep (s : HookState Unit) (action : HookAction Unit) : Option (HookState Unit) :=
  if persistsNoError action then editStep s action else none

def afterEdit (step : HookState Unit → HookAction Unit → Option (HookState Unit))
    (actions : List (HookAction Unit)) : HookState Unit :=
  (runSchedule step idleEdit actions).getD idleEdit

theorem idleEdit_start : idleEdit.Start := ⟨fun _ => rfl, rfl⟩

theorem runSchedule_eq_afterEdit
    {step : HookState Unit → HookAction Unit → Option (HookState Unit)}
    {actions : List (HookAction Unit)}
    (htaken : (runSchedule step idleEdit actions).isSome = true) :
    runSchedule step idleEdit actions = some (afterEdit step actions) := by
  obtain ⟨t, hrun⟩ := Option.isSome_iff_exists.1 htaken
  rw [afterEdit, hrun, Option.getD_some]

theorem errorsWait_of_persistsNoError {s : HookState Unit} {action : HookAction Unit}
    (hquiet : persistsNoError action = true) : ErrorsWait (fun _ => editCall) s action := by
  unfold ErrorsWait
  split
  · cases hquiet
  · cases hquiet
  · trivial

theorem clearedEdit_reaches :
    Reaches editStep (ErrorsWait fun _ => editCall) idleEdit
      (afterEdit quietStep (clearedEdit ++ [recordEdit])) := by
  have htaken : (runSchedule quietStep idleEdit (clearedEdit ++ [recordEdit])).isSome = true := by
    decide +kernel
  exact reaches_of_runSchedule (fun _ _ => errorsWait_of_persistsNoError)
    (runSchedule_eq_afterEdit htaken)

/-- The edit is recorded, for the host call that asked for it. -/
theorem host_dispatches_authorized_edit :
    (afterEdit quietStep (clearedEdit ++ [recordEdit])).recordings.length = 1 ∧
    (∀ recording ∈ (afterEdit quietStep (clearedEdit ++ [recordEdit])).recordings,
      AuthorizedDispatch (fun _ => editCall) recording ∧
        recording.locked.state.error = none) := by
  refine ⟨by decide +kernel, ?_⟩
  exact (host_dispatches_authorized .plain (fun _ => editCall) idleEdit_start
    clearedEdit_reaches).1

/-- The error is persisted after the authority was checked and before the dispatch is
recorded: the hook records against the session that carries it. -/
theorem host_dispatch_ignores_error :
    ¬∀ t : HookState Unit, Reaches editStep (fun _ _ => True) idleEdit t →
      ∀ recording ∈ t.recordings, recording.locked.state.error = none := by
  intro hsound
  have hlatched :
      (runSchedule editStep idleEdit (clearedEdit ++ [failTimestamp, recordEdit])).isSome = true ∧
      ∃ recording ∈ (afterEdit editStep (clearedEdit ++ [failTimestamp, recordEdit])).recordings,
        recording.locked.state.error ≠ none := by decide +kernel
  obtain ⟨htaken, recording, hmem, herror⟩ := hlatched
  exact herror
    (hsound _ (reaches_of_schedule (runSchedule_eq_afterEdit htaken)) recording hmem)

end GovernedRuntime.Mutation
