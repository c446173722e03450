/-
The mutation-episode ledger of a session and the runtime lease that fences it
(`src/state/evidence-mutation-episode.ts`, `src/integration/runtime-lease.ts`,
`plugin-beforehooks.ts`, `plugin-mutation-episodes.ts`,
`tools/mutation/reconcile-mutation-episode.ts`).
-/
import GovernedRuntime.Library.Schedule
import GovernedRuntime.State.Evidence
import Mathlib.Data.List.Nodup

namespace GovernedRuntime.Mutation

open GovernedRuntime.Library
open GovernedRuntime.State

/-! ### The runtime lease -/

structure RuntimeLease where
  holderRuntimeInstanceId : String
  generation : Nat
  holderPid : Nat
  acquiredAt : Timestamp
  lastHeartbeatAt : Timestamp
deriving DecidableEq, Repr

/-- A process that runs governance code: its boot identity and its pid. -/
structure Runtime where
  runtimeInstanceId : String
  pid : Nat
deriving DecidableEq, Repr

/-- Only a holder whose process is dead is superseded, by a later generation. -/
def acquireRuntimeLease (isProcessAlive : Nat → Bool) (current : Option RuntimeLease)
    (runtime : Runtime) (now : Timestamp) : Except RuntimeLease RuntimeLease :=
  match current with
  | none => .ok ⟨runtime.runtimeInstanceId, 1, runtime.pid, now, now⟩
  | some existing =>
      if existing.holderRuntimeInstanceId == runtime.runtimeInstanceId then
        .ok { existing with holderPid := runtime.pid, lastHeartbeatAt := now }
      else if isProcessAlive existing.holderPid then .error existing
      else
        .ok ⟨runtime.runtimeInstanceId, existing.generation + 1, runtime.pid, now, now⟩

/-! ### Episodes -/

/-- `authorizeMutationEpisode`; a seen host call is refused with its episode. -/
def authorizeMutationEpisode (episodes : List MutationEpisode)
    (episodeId hostCallId toolName runtimeInstanceId : String) (leaseGeneration : Nat)
    (authorizedAt : Timestamp) : Except MutationEpisode (List MutationEpisode) :=
  match episodes.find? (·.hostCallId == hostCallId) with
  | some existing => .error existing
  | none =>
      .ok (episodes ++
        [{ episodeId := episodeId
           hostCallId := hostCallId
           toolName := toolName
           runtimeInstanceId := runtimeInstanceId
           leaseGeneration := leaseGeneration
           authorizedAt := authorizedAt
           status := .dispatchAuthorized
           completedAt := none
           outcome := none
           implementationDigest := none
           evidenceStatus := .ineligible }])

def completeMutationEpisode (episodes : List MutationEpisode) (hostCallId toolName : String)
    (completedAt : Timestamp) (outcome : MutationOutcome) : List MutationEpisode :=
  episodes.map fun episode =>
    if episode.hostCallId == hostCallId && episode.toolName == toolName &&
        episode.status == .dispatchAuthorized then
      { episode with
        status := .completed
        completedAt := some completedAt
        outcome := some outcome }
    else episode

def resolveUnknownMutationOutcome (resolutions : List MutationEpisodeResolution)
    (resolution : MutationEpisodeResolution) : List MutationEpisodeResolution :=
  if resolutions.any (·.hostCallId == resolution.hostCallId) then resolutions
  else resolutions ++ [resolution]

/-- What a recorded implementation makes of one episode. -/
def reconcileMutationEpisode (resolutions : List MutationEpisodeResolution)
    (implementationDigest : String) (episode : MutationEpisode) : MutationEpisode :=
  if episode.status != .completed then episode
  else if isResolved resolutions episode then
    if episode.implementationDigest.any (· != implementationDigest) then
      { episode with evidenceStatus := .stale }
    else episode
  else if episode.implementationDigest.isNone then
    if episode.outcome == some .unknown then episode
    else
      { episode with
        implementationDigest := some implementationDigest
        evidenceStatus := .eligible }
  else if episode.implementationDigest != some implementationDigest &&
      episode.evidenceStatus == .eligible then
    { episode with evidenceStatus := .stale }
  else episode

def reconcileMutationEpisodes (episodes : List MutationEpisode)
    (resolutions : List MutationEpisodeResolution) (implementationDigest : String) :
    List MutationEpisode :=
  episodes.map (reconcileMutationEpisode resolutions implementationDigest)

def canResolveMutationEpisode (episode : MutationEpisode) (currentLease : RuntimeLease) :
    Bool :=
  episode.leaseGeneration < currentLease.generation

def MutationOutcome.name : MutationOutcome → String
  | .success => "success"
  | .failure => "failure"
  | .unknown => "unknown"

/-- An outcome the host has reported. -/
def isObserved (episode : MutationEpisode) : Bool :=
  episode.status == .completed && episode.outcome != some .unknown

/-! ### The schema boundary -/

/-- The messages `refineMutationEpisode` adds for one episode. -/
def mutationEpisodeIssues (episode : MutationEpisode) : List String :=
  match episode.status with
  | .dispatchAuthorized =>
      if episode.completedAt.isSome || episode.outcome.isSome ||
          episode.implementationDigest.isSome || episode.evidenceStatus != .ineligible then
        ["dispatch_authorized mutation episodes cannot carry completed evidence"]
      else []
  | .completed =>
      (if episode.completedAt.isNone || episode.outcome.isNone then
        ["completed mutation episodes require completion time and outcome"] else []) ++
      (if episode.outcome == some .unknown &&
          (episode.implementationDigest.isSome || episode.evidenceStatus != .ineligible) then
        ["a mutation episode with an unobservable outcome cannot carry bound or eligible " ++
          "evidence; it requires an unknown-outcome resolution and a fresh worktree recapture"]
        else []) ++
      (if episode.implementationDigest.isNone && episode.evidenceStatus != .ineligible then
        ["unbound completed mutation episodes are ineligible"] else []) ++
      (if episode.implementationDigest.isSome && episode.evidenceStatus == .ineligible then
        ["bound completed mutation episodes must be eligible or stale"] else [])

/-- A refused state: the field and the message. -/
structure LedgerIssue where
  path : String
  message : String
deriving DecidableEq, Repr

/-- The first host call id that an earlier episode has as well. -/
def duplicateEpisodeIssue (seen : List String) : List MutationEpisode → Option LedgerIssue
  | [] => none
  | episode :: rest =>
      if seen.contains episode.hostCallId then
        some ⟨"mutationEpisodes",
          "duplicate mutation episode hostCallId: " ++ episode.hostCallId⟩
      else duplicateEpisodeIssue (episode.hostCallId :: seen) rest

def isResolvable (episode : MutationEpisode) : Bool :=
  episode.status == .dispatchAuthorized ||
    (episode.status == .completed && episode.outcome == some .unknown)

/-- The first thing wrong with one of the resolutions. -/
def resolutionIssue (episodes : List MutationEpisode) (seen : List String) :
    List MutationEpisodeResolution → Option LedgerIssue
  | [] => none
  | resolution :: rest =>
      let episode := episodes.find? (·.hostCallId == resolution.hostCallId)
      if !episode.any isResolvable then
        some ⟨"mutationEpisodeResolutions",
          "mutation episode resolution references a missing or already-observed episode: " ++
            resolution.hostCallId⟩
      else if seen.contains resolution.hostCallId then
        some ⟨"mutationEpisodeResolutions",
          "duplicate mutation episode resolution hostCallId: " ++ resolution.hostCallId⟩
      else if episode.any (resolution.resolvingLeaseGeneration ≤ ·.leaseGeneration) then
        some ⟨"mutationEpisodeResolutions",
          "resolution for " ++ resolution.hostCallId ++ " carries lease generation " ++
            toString resolution.resolvingLeaseGeneration ++
            " which does not supersede the episode's authorizing generation " ++
            toString (episode.elim 0 (·.leaseGeneration))⟩
      else resolutionIssue episodes (resolution.hostCallId :: seen) rest

def enforceMutationEpisodeInvariants (episodes : List MutationEpisode)
    (resolutions : List MutationEpisodeResolution) : Option LedgerIssue :=
  (duplicateEpisodeIssue [] episodes).or (resolutionIssue episodes [] resolutions)

/-! ### The persisted ledger and its writers -/

/-- The fields of the session state that the ledger lives in. -/
structure MutationLedger where
  runtimeLease : Option RuntimeLease
  mutationEpisodes : List MutationEpisode
  mutationEpisodeResolutions : List MutationEpisodeResolution
deriving DecidableEq, Repr

/-- A new session. -/
def MutationLedger.empty : MutationLedger := ⟨none, [], []⟩

/-- A refused operation: its registry code and parameters. -/
structure MutationRefusal where
  code : String
  params : List (String × String)
deriving DecidableEq, Repr

/-- Every write of the session state passes the schema. -/
def MutationLedger.persist (ledger : MutationLedger) :
    Except MutationRefusal MutationLedger :=
  if ledger.mutationEpisodes.any (fun episode => !(mutationEpisodeIssues episode).isEmpty) ||
      (enforceMutationEpisodeInvariants ledger.mutationEpisodes
        ledger.mutationEpisodeResolutions).isSome then
    .error ⟨"SCHEMA_VALIDATION_FAILED", []⟩
  else .ok ledger

def leaseUnavailable (lease : RuntimeLease) : MutationRefusal :=
  ⟨"MUTATION_EPISODE_LEASE_UNAVAILABLE",
    [("activeLeaseGeneration", toString lease.generation)]⟩

/-- The Before hook of a mutating host tool. -/
def recordMutationDispatch (ledger : MutationLedger) (isProcessAlive : Nat → Bool)
    (runtime : Runtime) (episodeId hostCallId toolName : String) (now : Timestamp) :
    Except MutationRefusal MutationLedger :=
  match acquireRuntimeLease isProcessAlive ledger.runtimeLease runtime now with
  | .error active => .error (leaseUnavailable active)
  | .ok lease =>
      match authorizeMutationEpisode ledger.mutationEpisodes episodeId hostCallId toolName
          runtime.runtimeInstanceId lease.generation now with
      | .error existing =>
          .error ⟨"MUTATION_EPISODE_REPLAY_BLOCKED",
            [("hostCallId", hostCallId), ("toolName", toolName),
              ("existingEpisodeId", existing.episodeId)]⟩
      | .ok episodes =>
          { ledger with runtimeLease := some lease, mutationEpisodes := episodes }.persist

def validLeaseProvenance (episode : MutationEpisode) (lease : RuntimeLease) : Bool :=
  episode.leaseGeneration < lease.generation ||
    (episode.leaseGeneration == lease.generation &&
      episode.runtimeInstanceId == lease.holderRuntimeInstanceId)

def sameDispatch (current expected : MutationEpisode) : Bool :=
  current.episodeId == expected.episodeId && current.toolName == expected.toolName &&
    current.runtimeInstanceId == expected.runtimeInstanceId &&
    current.leaseGeneration == expected.leaseGeneration &&
    current.authorizedAt == expected.authorizedAt

def enforcementUnavailable : MutationRefusal := ⟨"PLUGIN_ENFORCEMENT_UNAVAILABLE", []⟩

/-- The After hook and the reconciliation with the host's history; `expected` is the
episode the caller saw before it took the lock, and the ledger is returned as it is
for an episode that is resolved or completed by now. -/
def commitMutationCompletion (ledger : MutationLedger) (isProcessAlive : Nat → Bool)
    (runtime : Runtime) (expected : MutationEpisode) (now completedAt : Timestamp)
    (outcome : MutationOutcome) : Except MutationRefusal MutationLedger :=
  match ledger.mutationEpisodes.find? (·.hostCallId == expected.hostCallId) with
  | none => .error enforcementUnavailable
  | some episode =>
      if !sameDispatch episode expected then .error enforcementUnavailable
      else if isResolved ledger.mutationEpisodeResolutions episode ||
          episode.status == .completed then .ok ledger
      else
        match acquireRuntimeLease isProcessAlive ledger.runtimeLease runtime now with
        | .error active => .error (leaseUnavailable active)
        | .ok lease =>
            if ledger.runtimeLease.isNone || !validLeaseProvenance episode lease then
              .error enforcementUnavailable
            else
              { ledger with
                runtimeLease := some lease
                mutationEpisodes := completeMutationEpisode ledger.mutationEpisodes
                  episode.hostCallId episode.toolName completedAt outcome }.persist

/-- The tool `flowguard_reconcile_mutation_episode`. -/
def resolveMutationEpisode (ledger : MutationLedger) (isProcessAlive : Nat → Bool)
    (runtime : Runtime) (resolutionId hostCallId : String) (now : Timestamp) :
    Except MutationRefusal MutationLedger :=
  match ledger.mutationEpisodes.find? (·.hostCallId == hostCallId) with
  | none => .error ⟨"MUTATION_EPISODE_NOT_FOUND", [("hostCallId", hostCallId)]⟩
  | some episode =>
      if isObserved episode then
        .error ⟨"MUTATION_EPISODE_ALREADY_COMPLETED",
          [("hostCallId", hostCallId),
            ("outcome", MutationOutcome.name (episode.outcome.getD .unknown))]⟩
      else if ledger.mutationEpisodeResolutions.any (·.hostCallId == hostCallId) then
        .error ⟨"MUTATION_EPISODE_ALREADY_RESOLVED", [("hostCallId", hostCallId)]⟩
      else
        match acquireRuntimeLease isProcessAlive ledger.runtimeLease runtime now with
        | .error active =>
            .error ⟨"MUTATION_EPISODE_LEASE_UNAVAILABLE",
              [("hostCallId", hostCallId),
                ("activeLeaseGeneration", toString active.generation)]⟩
        | .ok lease =>
            if !canResolveMutationEpisode episode lease then
              .error ⟨"MUTATION_EPISODE_RUNTIME_EPOCH_ACTIVE",
                [("hostCallId", hostCallId),
                  ("episodeLeaseGeneration", toString episode.leaseGeneration),
                  ("currentLeaseGeneration", toString lease.generation)]⟩
            else
              { ledger with
                runtimeLease := some lease
                mutationEpisodeResolutions :=
                  resolveUnknownMutationOutcome ledger.mutationEpisodeResolutions
                    { resolutionId := resolutionId
                      hostCallId := hostCallId
                      resolvedAt := now
                      resolvingRuntimeInstanceId := lease.holderRuntimeInstanceId
                      resolvingLeaseGeneration := lease.generation } }.persist

/-- The part of `/implement` that touches the ledger. -/
def recordImplementation (ledger : MutationLedger) (implementationDigest : String) :
    Except MutationRefusal MutationLedger :=
  let unresolved := unresolvedMutationEpisodes ledger.mutationEpisodes
    ledger.mutationEpisodeResolutions
  if !unresolved.isEmpty then
    .error ⟨"MUTATION_EPISODE_UNRESOLVED", [("count", toString unresolved.length)]⟩
  else
    { ledger with
      mutationEpisodes := reconcileMutationEpisodes ledger.mutationEpisodes
        ledger.mutationEpisodeResolutions implementationDigest }.persist

/-! ### Runs -/

/-- One critical section of some runtime; `isProcessAlive` is what it finds out about
the other processes at that moment. -/
inductive LedgerAction where
  | authorize (runtime : Runtime) (isProcessAlive : Nat → Bool)
      (episodeId hostCallId toolName : String) (now : Timestamp)
  | complete (runtime : Runtime) (isProcessAlive : Nat → Bool) (expected : MutationEpisode)
      (now completedAt : Timestamp) (outcome : MutationOutcome)
  | resolve (runtime : Runtime) (isProcessAlive : Nat → Bool)
      (resolutionId hostCallId : String) (now : Timestamp)
  | reconcile (implementationDigest : String)

def MutationLedger.perform (ledger : MutationLedger) :
    LedgerAction → Except MutationRefusal MutationLedger
  | .authorize runtime isProcessAlive episodeId hostCallId toolName now =>
      recordMutationDispatch ledger isProcessAlive runtime episodeId hostCallId toolName now
  | .complete runtime isProcessAlive expected now completedAt outcome =>
      commitMutationCompletion ledger isProcessAlive runtime expected now completedAt outcome
  | .resolve runtime isProcessAlive resolutionId hostCallId now =>
      resolveMutationEpisode ledger isProcessAlive runtime resolutionId hostCallId now
  | .reconcile implementationDigest => recordImplementation ledger implementationDigest

/-- The ledger after an operation that was not refused. -/
def MutationLedger.step (ledger : MutationLedger) (action : LedgerAction) :
    Option MutationLedger :=
  (ledger.perform action).toOption

/-! ### Leases only move forward -/

/-- A later lease has a later generation, or is the same holding refreshed. -/
def LeaseFollows (current next : Option RuntimeLease) : Prop :=
  ∀ lease, current = some lease → ∃ later, next = some later ∧
    lease.generation ≤ later.generation ∧
      (later.generation = lease.generation →
        later.holderRuntimeInstanceId = lease.holderRuntimeInstanceId)

theorem LeaseFollows.refl (current : Option RuntimeLease) : LeaseFollows current current :=
  fun lease hlease => ⟨lease, hlease, Nat.le_refl _, fun _ => rfl⟩

theorem LeaseFollows.trans {first second third : Option RuntimeLease}
    (hfirst : LeaseFollows first second) (hsecond : LeaseFollows second third) :
    LeaseFollows first third := by
  intro lease hlease
  obtain ⟨later, hlater, hle, hsame⟩ := hfirst lease hlease
  obtain ⟨last, hlast, hle', hsame'⟩ := hsecond later hlater
  refine ⟨last, hlast, Nat.le_trans hle hle', fun heq => ?_⟩
  exact (hsame' (by omega)).trans (hsame (by omega))

theorem acquireRuntimeLease_ok {isProcessAlive : Nat → Bool} {current : Option RuntimeLease}
    {runtime : Runtime} {now : Timestamp} {lease : RuntimeLease}
    (hacquired : acquireRuntimeLease isProcessAlive current runtime now = .ok lease) :
    lease.holderRuntimeInstanceId = runtime.runtimeInstanceId ∧
      LeaseFollows current (some lease) := by
  unfold acquireRuntimeLease at hacquired
  cases current with
  | none =>
      cases hacquired
      exact ⟨rfl, nofun⟩
  | some existing =>
      simp only at hacquired
      split_ifs at hacquired with hholder halive <;> cases hacquired
      · refine ⟨by simpa using hholder, ?_⟩
        rintro _ ⟨⟩
        exact ⟨_, rfl, Nat.le_refl _, fun _ => rfl⟩
      · refine ⟨rfl, ?_⟩
        rintro _ ⟨⟩
        exact ⟨_, rfl, Nat.le_succ _, fun heq => absurd heq (Nat.succ_ne_self _)⟩

/-! ### What one operation can do -/

theorem persist_ok {ledger written : MutationLedger} (hwritten : ledger.persist = .ok written) :
    written = ledger := by
  unfold MutationLedger.persist at hwritten
  split_ifs at hwritten
  cases hwritten
  rfl

/-- The writes of the ledger, with what each writer has checked. -/
inductive LedgerStep (s : MutationLedger) : LedgerAction → MutationLedger → Prop where
  | unchanged (action : LedgerAction) : LedgerStep s action s
  | authorized {runtime : Runtime} {isProcessAlive : Nat → Bool}
      {episodeId hostCallId toolName : String} {now : Timestamp} (lease : RuntimeLease)
      (hlease : LeaseFollows s.runtimeLease (some lease))
      (hholder : lease.holderRuntimeInstanceId = runtime.runtimeInstanceId)
      (hfresh : ∀ episode ∈ s.mutationEpisodes, episode.hostCallId ≠ hostCallId) :
      LedgerStep s (.authorize runtime isProcessAlive episodeId hostCallId toolName now)
        { s with
          runtimeLease := some lease
          mutationEpisodes := s.mutationEpisodes ++
            [⟨episodeId, hostCallId, toolName, runtime.runtimeInstanceId, lease.generation,
              now, .dispatchAuthorized, none, none, none, .ineligible⟩] }
  | completed {runtime : Runtime} {isProcessAlive : Nat → Bool} {expected : MutationEpisode}
      {now completedAt : Timestamp} {outcome : MutationOutcome} (lease : RuntimeLease)
      (hlease : LeaseFollows s.runtimeLease (some lease)) (episode : MutationEpisode)
      (hmem : episode ∈ s.mutationEpisodes)
      (hcall : episode.hostCallId = expected.hostCallId)
      (hauthorized : episode.status = .dispatchAuthorized)
      (hunresolved : isResolved s.mutationEpisodeResolutions episode = false) :
      LedgerStep s (.complete runtime isProcessAlive expected now completedAt outcome)
        { s with
          runtimeLease := some lease
          mutationEpisodes := completeMutationEpisode s.mutationEpisodes
            episode.hostCallId episode.toolName completedAt outcome }
  | resolved {runtime : Runtime} {isProcessAlive : Nat → Bool}
      {resolutionId hostCallId : String} {now : Timestamp} (lease : RuntimeLease)
      (hlease : LeaseFollows s.runtimeLease (some lease)) (episode : MutationEpisode)
      (hmem : episode ∈ s.mutationEpisodes) (hcall : episode.hostCallId = hostCallId)
      (hlost : isObserved episode = false)
      (hfirst : hostCallId ∉ s.mutationEpisodeResolutions.map (·.hostCallId))
      (hlater : episode.leaseGeneration < lease.generation) :
      LedgerStep s (.resolve runtime isProcessAlive resolutionId hostCallId now)
        { s with
          runtimeLease := some lease
          mutationEpisodeResolutions := s.mutationEpisodeResolutions ++
            [⟨resolutionId, hostCallId, now, lease.holderRuntimeInstanceId,
              lease.generation⟩] }
  | reconciled (implementationDigest : String) :
      LedgerStep s (.reconcile implementationDigest)
        { s with
          mutationEpisodes := reconcileMutationEpisodes s.mutationEpisodes
            s.mutationEpisodeResolutions implementationDigest }

section Steps

variable {s t : MutationLedger} {runtime : Runtime} {isProcessAlive : Nat → Bool}
  {now : Timestamp}

/-- A dispatch is recorded under a lease of its runtime, for a host call not seen before. -/
theorem recordMutationDispatch_ok {episodeId hostCallId toolName : String}
    (hrecord : recordMutationDispatch s isProcessAlive runtime episodeId hostCallId toolName
      now = .ok t) :
    ∃ lease : RuntimeLease, LeaseFollows s.runtimeLease (some lease) ∧
      lease.holderRuntimeInstanceId = runtime.runtimeInstanceId ∧
      (∀ episode ∈ s.mutationEpisodes, episode.hostCallId ≠ hostCallId) ∧
      t = { s with
        runtimeLease := some lease
        mutationEpisodes := s.mutationEpisodes ++
          [⟨episodeId, hostCallId, toolName, runtime.runtimeInstanceId, lease.generation,
            now, .dispatchAuthorized, none, none, none, .ineligible⟩] } := by
  unfold recordMutationDispatch at hrecord
  cases hlease : acquireRuntimeLease isProcessAlive s.runtimeLease runtime now with
  | error active => simp [hlease] at hrecord
  | ok lease =>
      obtain ⟨hholder, hfollows⟩ := acquireRuntimeLease_ok hlease
      simp only [hlease, authorizeMutationEpisode] at hrecord
      cases hexisting : s.mutationEpisodes.find? (·.hostCallId == hostCallId) with
      | some existing => simp [hexisting] at hrecord
      | none =>
          simp only [hexisting] at hrecord
          refine ⟨lease, hfollows, hholder, fun episode hmem => ?_, persist_ok hrecord⟩
          simpa using List.find?_eq_none.1 hexisting episode hmem

theorem ledgerStep_authorize {episodeId hostCallId toolName : String}
    (hstep : recordMutationDispatch s isProcessAlive runtime episodeId hostCallId toolName
      now = .ok t) :
    LedgerStep s (.authorize runtime isProcessAlive episodeId hostCallId toolName now) t := by
  obtain ⟨lease, hfollows, hholder, hfresh, rfl⟩ := recordMutationDispatch_ok hstep
  exact .authorized lease hfollows hholder hfresh

theorem ledgerStep_complete {expected : MutationEpisode} {completedAt : Timestamp}
    {outcome : MutationOutcome}
    (hstep : commitMutationCompletion s isProcessAlive runtime expected now completedAt
      outcome = .ok t) :
    LedgerStep s (.complete runtime isProcessAlive expected now completedAt outcome) t := by
  unfold commitMutationCompletion at hstep
  cases hfound : s.mutationEpisodes.find? (·.hostCallId == expected.hostCallId) with
  | none => simp [hfound] at hstep
  | some episode =>
      simp only [hfound] at hstep
      split_ifs at hstep with hsame hdone
      · cases hstep
        exact .unchanged _
      · cases hlease : acquireRuntimeLease isProcessAlive s.runtimeLease runtime now with
        | error active => simp [hlease] at hstep
        | ok lease =>
            simp only [hlease] at hstep
            split_ifs at hstep with hprovenance
            simp only [Bool.or_eq_true, not_or, Bool.not_eq_true, beq_eq_false_iff_ne] at hdone
            have hauthorized : episode.status = .dispatchAuthorized := by
              cases hstatus : episode.status with
              | dispatchAuthorized => rfl
              | completed => exact absurd hstatus hdone.2
            rw [persist_ok hstep]
            exact .completed lease (acquireRuntimeLease_ok hlease).2 episode
              (List.mem_of_find?_eq_some hfound) (by simpa using List.find?_some hfound)
              hauthorized hdone.1

theorem ledgerStep_resolve {resolutionId hostCallId : String}
    (hstep : resolveMutationEpisode s isProcessAlive runtime resolutionId hostCallId now =
      .ok t) :
    LedgerStep s (.resolve runtime isProcessAlive resolutionId hostCallId now) t := by
  unfold resolveMutationEpisode at hstep
  cases hfound : s.mutationEpisodes.find? (·.hostCallId == hostCallId) with
  | none => simp [hfound] at hstep
  | some episode =>
      simp only [hfound] at hstep
      split_ifs at hstep with hobserved hresolved
      cases hlease : acquireRuntimeLease isProcessAlive s.runtimeLease runtime now with
      | error active => simp [hlease] at hstep
      | ok lease =>
          simp only [hlease] at hstep
          split_ifs at hstep with hblocked
          simp only [resolveUnknownMutationOutcome, hresolved] at hstep
          rw [persist_ok hstep]
          refine .resolved lease (acquireRuntimeLease_ok hlease).2 episode
            (List.mem_of_find?_eq_some hfound) (by simpa using List.find?_some hfound)
            (by simpa using hobserved) ?_ (by simpa [canResolveMutationEpisode] using hblocked)
          simpa using hresolved

theorem ledgerStep_of_step {action : LedgerAction} (hstep : s.step action = some t) :
    LedgerStep s action t := by
  have hperform : s.perform action = .ok t := by
    unfold MutationLedger.step at hstep
    cases hresult : s.perform action with
    | error refusal => simp [hresult, Except.toOption] at hstep
    | ok written => simpa [hresult, Except.toOption] using hstep
  cases action with
  | authorize => exact ledgerStep_authorize hperform
  | complete => exact ledgerStep_complete hperform
  | resolve => exact ledgerStep_resolve hperform
  | reconcile implementationDigest =>
      simp only [MutationLedger.perform, recordImplementation] at hperform
      split_ifs at hperform with hopen
      rw [persist_ok hperform]
      exact .reconciled implementationDigest

end Steps

/-! ### The ledger invariants -/

/-- What no write of an episode changes. -/
structure Dispatch where
  episodeId : String
  hostCallId : String
  toolName : String
  runtimeInstanceId : String
  leaseGeneration : Nat
  authorizedAt : Timestamp

def dispatchOf (episode : MutationEpisode) : Dispatch :=
  ⟨episode.episodeId, episode.hostCallId, episode.toolName, episode.runtimeInstanceId,
    episode.leaseGeneration, episode.authorizedAt⟩

structure LedgerInvariant (s : MutationLedger) : Prop where
  unique : (s.mutationEpisodes.map (·.hostCallId)).Nodup
  shaped : ∀ episode ∈ s.mutationEpisodes, mutationEpisodeIssues episode = []
  /-- An episode is of the current generation, and then of its holder, or of an earlier
  one. -/
  fenced : ∀ episode ∈ s.mutationEpisodes, ∃ lease, s.runtimeLease = some lease ∧
    episode.leaseGeneration ≤ lease.generation ∧
      (episode.leaseGeneration = lease.generation →
        episode.runtimeInstanceId = lease.holderRuntimeInstanceId)
  once : (s.mutationEpisodeResolutions.map (·.hostCallId)).Nodup
  /-- A resolution is about an episode of an earlier generation, whose outcome is not
  known. -/
  lost : ∀ resolution ∈ s.mutationEpisodeResolutions, ∃ episode ∈ s.mutationEpisodes,
    episode.hostCallId = resolution.hostCallId ∧ isObserved episode = false ∧
      episode.leaseGeneration < resolution.resolvingLeaseGeneration

theorem LedgerInvariant.empty : LedgerInvariant .empty where
  unique := List.nodup_nil
  shaped := nofun
  fenced := nofun
  once := List.nodup_nil
  lost := nofun

section Invariant

variable {s t : MutationLedger} {action : LedgerAction}

theorem fenced_follows {current next : Option RuntimeLease} {episode : MutationEpisode}
    (hfenced : ∃ lease, current = some lease ∧ episode.leaseGeneration ≤ lease.generation ∧
      (episode.leaseGeneration = lease.generation →
        episode.runtimeInstanceId = lease.holderRuntimeInstanceId))
    (hfollows : LeaseFollows current next) :
    ∃ lease, next = some lease ∧ episode.leaseGeneration ≤ lease.generation ∧
      (episode.leaseGeneration = lease.generation →
        episode.runtimeInstanceId = lease.holderRuntimeInstanceId) := by
  obtain ⟨lease, hlease, hle, hholder⟩ := hfenced
  obtain ⟨later, hlater, hle', hsame⟩ := hfollows lease hlease
  refine ⟨later, hlater, Nat.le_trans hle hle', fun heq => ?_⟩
  rw [hholder (by omega), hsame (by omega)]

/-- An invariant that looks at one episode at a time survives a change of episodes that
keeps their dispatch. -/
theorem LedgerInvariant.map {change : MutationEpisode → MutationEpisode}
    {lease : Option RuntimeLease} (hinv : LedgerInvariant s)
    (hfollows : LeaseFollows s.runtimeLease lease)
    (hdispatch : ∀ episode, dispatchOf (change episode) = dispatchOf episode)
    (hshaped : ∀ episode ∈ s.mutationEpisodes, mutationEpisodeIssues (change episode) = [])
    (hlost : ∀ episode ∈ s.mutationEpisodes,
      isResolved s.mutationEpisodeResolutions episode = true →
        isObserved episode = false → isObserved (change episode) = false) :
    LedgerInvariant
      { s with runtimeLease := lease, mutationEpisodes := s.mutationEpisodes.map change } where
  unique := by
    have hids : (·.hostCallId) ∘ change = MutationEpisode.hostCallId :=
      funext fun episode => congrArg Dispatch.hostCallId (hdispatch episode)
    rw [List.map_map, hids]
    exact hinv.unique
  shaped := by
    intro changed hchanged
    obtain ⟨episode, hmem, rfl⟩ := List.mem_map.1 hchanged
    exact hshaped episode hmem
  fenced := by
    intro changed hchanged
    obtain ⟨episode, hmem, rfl⟩ := List.mem_map.1 hchanged
    have hgeneration := congrArg Dispatch.leaseGeneration (hdispatch episode)
    have hruntime := congrArg Dispatch.runtimeInstanceId (hdispatch episode)
    simp only [dispatchOf] at hgeneration hruntime
    rw [hgeneration, hruntime]
    exact fenced_follows (hinv.fenced episode hmem) hfollows
  once := hinv.once
  lost := by
    intro resolution hresolution
    obtain ⟨episode, hmem, hcall, hunobserved, hlater⟩ := hinv.lost resolution hresolution
    have hsame := hdispatch episode
    refine ⟨change episode, List.mem_map_of_mem hmem,
      (congrArg Dispatch.hostCallId hsame).trans hcall, ?_, ?_⟩
    · refine hlost episode hmem ?_ hunobserved
      exact List.any_eq_true.2 ⟨resolution, hresolution, by simpa using hcall.symm⟩
    · exact Nat.lt_of_le_of_lt (Nat.le_of_eq (congrArg Dispatch.leaseGeneration hsame)) hlater

theorem dispatchOf_complete (hostCallId toolName : String) (completedAt : Timestamp)
    (outcome : MutationOutcome) (episode : MutationEpisode) :
    dispatchOf (if episode.hostCallId == hostCallId && episode.toolName == toolName &&
        episode.status == .dispatchAuthorized then
      { episode with
        status := .completed
        completedAt := some completedAt
        outcome := some outcome }
      else episode) = dispatchOf episode := by
  split_ifs <;> rfl

theorem dispatchOf_reconcile (resolutions : List MutationEpisodeResolution)
    (implementationDigest : String) (episode : MutationEpisode) :
    dispatchOf (reconcileMutationEpisode resolutions implementationDigest episode) =
      dispatchOf episode := by
  unfold reconcileMutationEpisode
  split_ifs <;> rfl

/-- Reconciliation never changes what is known of an outcome. -/
theorem isObserved_reconcile (resolutions : List MutationEpisodeResolution)
    (implementationDigest : String) (episode : MutationEpisode) :
    isObserved (reconcileMutationEpisode resolutions implementationDigest episode) =
      isObserved episode := by
  unfold reconcileMutationEpisode
  split_ifs <;> rfl

theorem mutationEpisodeIssues_reconcile {resolutions : List MutationEpisodeResolution}
    {implementationDigest : String} {episode : MutationEpisode}
    (hshaped : mutationEpisodeIssues episode = []) :
    mutationEpisodeIssues
      (reconcileMutationEpisode resolutions implementationDigest episode) = [] := by
  obtain ⟨episodeId, hostCallId, toolName, runtimeInstanceId, leaseGeneration, authorizedAt,
    status, completedAt, outcome, digest, evidenceStatus⟩ := episode
  unfold reconcileMutationEpisode
  cases status with
  | dispatchAuthorized => exact hshaped
  | completed =>
      split_ifs <;>
        cases digest <;> cases evidenceStatus <;> cases completedAt <;>
          rcases outcome with _ | _ | _ | _ <;>
            simp_all [mutationEpisodeIssues]

/-- Completing an authorized episode leaves it unbound and ineligible. -/
theorem mutationEpisodeIssues_complete {episode : MutationEpisode} {completedAt : Timestamp}
    {outcome : MutationOutcome} (hshaped : mutationEpisodeIssues episode = [])
    (hauthorized : episode.status = .dispatchAuthorized) :
    mutationEpisodeIssues
      { episode with
        status := .completed
        completedAt := some completedAt
        outcome := some outcome } = [] := by
  simp only [mutationEpisodeIssues, hauthorized] at hshaped
  split_ifs at hshaped with hfilled
  simp only [Bool.or_eq_true, not_or, Bool.not_eq_true, Option.isSome_eq_false_iff,
    Option.isNone_iff_eq_none, bne_eq_false_iff_eq] at hfilled
  obtain ⟨⟨_, hdigest⟩, hstatus⟩ := hfilled
  simp [mutationEpisodeIssues, hdigest, hstatus]

theorem LedgerInvariant.step (hinv : LedgerInvariant s) (hstep : LedgerStep s action t) :
    LedgerInvariant t := by
  cases hstep with
  | unchanged => exact hinv
  | authorized lease hfollows hholder hfresh =>
      refine ⟨?_, ?_, ?_, hinv.once, ?_⟩
      · rw [List.map_append]
        refine List.nodup_append.2 ⟨hinv.unique, List.nodup_singleton _, ?_⟩
        intro id hid other hother
        obtain ⟨episode, hmem, rfl⟩ := List.mem_map.1 hid
        rw [List.map_singleton, List.mem_singleton] at hother
        exact hother ▸ hfresh episode hmem
      · intro episode hmem
        rcases List.mem_append.1 hmem with hold | hnew
        · exact hinv.shaped episode hold
        · rw [List.mem_singleton.1 hnew]
          rfl
      · intro episode hmem
        rcases List.mem_append.1 hmem with hold | hnew
        · exact fenced_follows (hinv.fenced episode hold) hfollows
        · rw [List.mem_singleton.1 hnew]
          exact ⟨lease, rfl, Nat.le_refl _, fun _ => hholder.symm⟩
      · intro resolution hresolution
        obtain ⟨episode, hmem, hfacts⟩ := hinv.lost resolution hresolution
        exact ⟨episode, List.mem_append_left _ hmem, hfacts⟩
  | completed lease hfollows episode hmem hcall hauthorized hunresolved =>
      refine hinv.map hfollows (dispatchOf_complete _ _ _ _) ?_ ?_
      · intro other hother
        split_ifs with hsame
        · simp only [Bool.and_eq_true, beq_iff_eq] at hsame
          exact mutationEpisodeIssues_complete (hinv.shaped other hother) hsame.2
        · exact hinv.shaped other hother
      · intro other _ hresolved hunobserved
        have hother : other.hostCallId ≠ episode.hostCallId := by
          intro hsame
          rw [isResolved, hsame, ← isResolved, hunresolved] at hresolved
          cases hresolved
        rw [if_neg (by simp [hother])]
        exact hunobserved
  | resolved lease hfollows episode hmem hcall hlost hfirst hlater =>
      refine ⟨hinv.unique, hinv.shaped, ?_, ?_, ?_⟩
      · exact fun episode hmem => fenced_follows (hinv.fenced episode hmem) hfollows
      · rw [List.map_append]
        refine List.nodup_append.2 ⟨hinv.once, List.nodup_singleton _, ?_⟩
        intro id hid other hother hsame
        rw [List.map_singleton, List.mem_singleton] at hother
        rw [hsame, hother] at hid
        exact hfirst hid
      · intro resolution hresolution
        rcases List.mem_append.1 hresolution with hold | hnew
        · exact hinv.lost resolution hold
        · rw [List.mem_singleton.1 hnew]
          exact ⟨episode, hmem, hcall, hlost, hlater⟩
  | reconciled implementationDigest =>
      refine hinv.map (.refl _) (dispatchOf_reconcile _ _) ?_ ?_
      · exact fun episode hmem => mutationEpisodeIssues_reconcile (hinv.shaped episode hmem)
      · exact fun episode _ _ hunobserved => (isObserved_reconcile ..).trans hunobserved

/-- What never goes back from one ledger to a later one. -/
structure LedgerGrows (s t : MutationLedger) : Prop where
  lease : LeaseFollows s.runtimeLease t.runtimeLease
  dispatches : s.mutationEpisodes.map dispatchOf <+: t.mutationEpisodes.map dispatchOf
  resolutions : s.mutationEpisodeResolutions <+: t.mutationEpisodeResolutions

theorem LedgerGrows.refl (s : MutationLedger) : LedgerGrows s s :=
  ⟨.refl _, List.prefix_rfl, List.prefix_rfl⟩

theorem LedgerGrows.trans {u : MutationLedger} (hfirst : LedgerGrows s t)
    (hsecond : LedgerGrows t u) : LedgerGrows s u where
  lease := hfirst.lease.trans hsecond.lease
  dispatches := hfirst.dispatches.trans hsecond.dispatches
  resolutions := hfirst.resolutions.trans hsecond.resolutions

theorem ledgerGrows_step (hstep : LedgerStep s action t) : LedgerGrows s t := by
  cases hstep with
  | unchanged => exact .refl _
  | authorized lease hfollows _ _ =>
      refine ⟨hfollows, ?_, List.prefix_rfl⟩
      rw [List.map_append]
      exact List.prefix_append _ _
  | completed lease hfollows episode _ _ _ _ =>
      refine ⟨hfollows, ?_, List.prefix_rfl⟩
      simp only [completeMutationEpisode, List.map_map, Function.comp_def,
        dispatchOf_complete, List.prefix_rfl]
  | resolved lease hfollows _ _ _ _ _ _ =>
      exact ⟨hfollows, List.prefix_rfl, List.prefix_append _ _⟩
  | reconciled implementationDigest =>
      refine ⟨.refl _, ?_, List.prefix_rfl⟩
      simp only [reconcileMutationEpisodes, List.map_map, Function.comp_def,
        dispatchOf_reconcile, List.prefix_rfl]

end Invariant

/-! ### Soundness of every run -/

/-- A resolution that refers to one episode, of an earlier generation and not observed. -/
def ResolvesOne (s : MutationLedger) (resolution : MutationEpisodeResolution) : Prop :=
  ∃ episode ∈ s.mutationEpisodes, episode.hostCallId = resolution.hostCallId ∧
    (∀ other ∈ s.mutationEpisodes, other.hostCallId = resolution.hostCallId →
      other = episode) ∧
    isObserved episode = false ∧
    episode.leaseGeneration < resolution.resolvingLeaseGeneration

/-- A completion of one authorized episode, which is not resolved; no other changes. -/
def CompletesOne (s t : MutationLedger) (hostCallId : String) (completedAt : Timestamp)
    (outcome : MutationOutcome) : Prop :=
  ∃ before episode after, s.mutationEpisodes = before ++ episode :: after ∧
    episode.hostCallId = hostCallId ∧ episode.status = .dispatchAuthorized ∧
    hostCallId ∉ s.mutationEpisodeResolutions.map (·.hostCallId) ∧
    (∀ other ∈ before ++ after, other.hostCallId ≠ hostCallId) ∧
    t.mutationEpisodes = before ++
      { episode with
        status := .completed
        completedAt := some completedAt
        outcome := some outcome } :: after

theorem LedgerInvariant.resolvesOne {s : MutationLedger} (hinv : LedgerInvariant s)
    {resolution : MutationEpisodeResolution}
    (hresolution : resolution ∈ s.mutationEpisodeResolutions) : ResolvesOne s resolution := by
  obtain ⟨episode, hmem, hcall, hunobserved, hlater⟩ := hinv.lost resolution hresolution
  refine ⟨episode, hmem, hcall, fun other hother hsame => ?_, hunobserved, hlater⟩
  exact List.inj_on_of_nodup_map hinv.unique hother hmem (hsame.trans hcall.symm)

theorem LedgerInvariant.completesOne {s t : MutationLedger} (hinv : LedgerInvariant s)
    {runtime : Runtime} {isProcessAlive : Nat → Bool} {expected : MutationEpisode}
    {now completedAt : Timestamp} {outcome : MutationOutcome}
    (hstep : LedgerStep s (.complete runtime isProcessAlive expected now completedAt outcome)
      t) : t = s ∨ CompletesOne s t expected.hostCallId completedAt outcome := by
  cases hstep with
  | unchanged => exact .inl rfl
  | completed lease hfollows episode hmem hcall hauthorized hunresolved =>
      obtain ⟨before, after, hepisodes⟩ := List.append_of_mem hmem
      have hunique := hinv.unique
      rw [hepisodes, List.map_append, List.map_cons, List.nodup_middle] at hunique
      have hothers : ∀ other ∈ before ++ after, other.hostCallId ≠ episode.hostCallId := by
        intro other hother hsame
        refine (List.nodup_cons.1 hunique).1 ?_
        rw [← List.map_append, ← hsame]
        exact List.mem_map_of_mem hother
      have hkept : ∀ others : List MutationEpisode, (∀ other ∈ others,
          other.hostCallId ≠ episode.hostCallId) → completeMutationEpisode others
            episode.hostCallId episode.toolName completedAt outcome = others := by
        intro others hne
        refine (List.map_congr_left fun other hother => ?_).trans (List.map_id others)
        rw [if_neg (by simp [hne other hother])]
        rfl
      refine .inr ⟨before, episode, after, hepisodes, hcall, hauthorized, ?_, hcall ▸ hothers,
        ?_⟩
      · rw [← hcall]
        intro hresolved
        obtain ⟨resolution, hresolution, hsame⟩ := List.mem_map.1 hresolved
        have htrue : isResolved s.mutationEpisodeResolutions episode = true :=
          List.any_eq_true.2 ⟨resolution, hresolution, by simpa using hsame⟩
        rw [hunresolved] at htrue
        cases htrue
      · have hbefore := hkept before fun other hother =>
          hothers other (List.mem_append_left _ hother)
        have hafter := hkept after fun other hother =>
          hothers other (List.mem_append_right _ hother)
        simp only [completeMutationEpisode] at hbefore hafter ⊢
        rw [hepisodes, List.map_append, List.map_cons, hbefore, hafter, if_pos]
        simp [hauthorized]

/-- In every run from a new session, whatever the runtimes do and whichever of them are
alive: the ledger satisfies its invariants, a resolution refers to one episode of an
earlier generation, a completion completes one authorized episode, what is resolved as
lost stays so, and the generation of the lease only grows. -/
theorem ledger_sound {s t : MutationLedger}
    (hearlier : Reaches MutationLedger.step (fun _ _ => True) .empty s)
    (hlater : Reaches MutationLedger.step (fun _ _ => True) s t) :
    (t.mutationEpisodes.map (·.hostCallId)).Nodup ∧
    (t.mutationEpisodeResolutions.map (·.hostCallId)).Nodup ∧
    (∀ resolution ∈ t.mutationEpisodeResolutions, ResolvesOne t resolution) ∧
    (∀ runtime isProcessAlive expected now completedAt outcome u,
      t.step (.complete runtime isProcessAlive expected now completedAt outcome) = some u →
        u = t ∨ CompletesOne t u expected.hostCallId completedAt outcome) ∧
    (∀ resolution ∈ s.mutationEpisodeResolutions, ∀ episode ∈ t.mutationEpisodes,
      episode.hostCallId = resolution.hostCallId → isObserved episode = false) ∧
    LedgerGrows s t := by
  have hkeeps : ∀ {s t : MutationLedger} {action : LedgerAction}, LedgerInvariant s → True →
      s.step action = some t → LedgerInvariant t :=
    fun hinv _ hstep => hinv.step (ledgerStep_of_step hstep)
  have hinv : LedgerInvariant t := hlater.invariant hkeeps (hearlier.invariant hkeeps .empty)
  have hgrows : LedgerGrows s t :=
    hlater.invariant
      (fun hgrows _ hstep => hgrows.trans (ledgerGrows_step (ledgerStep_of_step hstep)))
      (.refl s)
  refine ⟨hinv.unique, hinv.once, fun _ => hinv.resolvesOne, ?_, ?_, hgrows⟩
  · intro runtime isProcessAlive expected now completedAt outcome u hstep
    exact hinv.completesOne (ledgerStep_of_step hstep)
  · intro resolution hresolution episode hmem hcall
    obtain ⟨found, _, _, honly, hunobserved, _⟩ :=
      hinv.resolvesOne (hgrows.resolutions.subset hresolution)
    rw [honly episode hmem hcall]
    exact hunobserved

/-! ### A completion that comes too late -/

def firstRuntime : Runtime := ⟨"5a4b3c2d-0e1f-4a2b-9c3d-4e5f60718293", 100⟩

def secondRuntime : Runtime := ⟨"7c6d5e4f-1a2b-4c3d-8e9f-0a1b2c3d4e5f", 200⟩

/-- The first runtime dispatches an edit. -/
def dispatchedEdit : LedgerAction :=
  .authorize firstRuntime (fun _ => true) "9f0c2b7e-1d34-4a6b-8c5d-7e8f90a1b2c3" "call-1"
    "edit" "2024-05-01T10:00:00.000Z"

/-- The second one finds it dead and resolves the edit as lost; the completion that the
first one then reports, when the second is dead, changes nothing. -/
def lateCompletion : List LedgerAction :=
  [.resolve secondRuntime (fun _ => false) "1b2c3d4e-5f60-4718-a293-a4b5c6d7e8f9" "call-1"
      "2024-05-01T10:05:00.000Z",
    .complete firstRuntime (fun _ => false)
      ⟨"9f0c2b7e-1d34-4a6b-8c5d-7e8f90a1b2c3", "call-1", "edit",
        firstRuntime.runtimeInstanceId, 1, "2024-05-01T10:00:00.000Z", .dispatchAuthorized,
        none, none, none, .ineligible⟩
      "2024-05-01T10:06:00.000Z" "2024-05-01T10:06:00.000Z" .success]

theorem ledger_sound_lateCompletion :
    ∃ s t, runSchedule MutationLedger.step .empty [dispatchedEdit] = some s ∧
      runSchedule MutationLedger.step s lateCompletion = some t ∧
      t.mutationEpisodeResolutions.length = 1 ∧
      t.mutationEpisodes = s.mutationEpisodes ∧ LedgerGrows s t := by
  refine ⟨_, _, rfl, rfl, rfl, rfl, ?_⟩
  obtain ⟨_, _, _, _, _, hgrows⟩ := ledger_sound
    (reaches_of_schedule (show _ = some _ from rfl : runSchedule _ _ [dispatchedEdit] = _))
    (reaches_of_schedule (show _ = some _ from rfl : runSchedule _ _ lateCompletion = _))
  exact hgrows

end GovernedRuntime.Mutation
