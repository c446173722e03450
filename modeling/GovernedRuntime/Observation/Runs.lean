/-
Replays and their persisting writes, in any order and on any snapshots, among the other
writes of a session and the lines that are put behind the ledgers of its workspace.
-/
import GovernedRuntime.Observation.Replay

namespace GovernedRuntime.Observation

open GovernedRuntime.Library
open GovernedRuntime.Review (ReviewAttemptRejectionReason ReviewAttemptStatus ReviewCapacityLock)
open GovernedRuntime.State (ReviewObligationStatus Timestamp)

/-! ### The system -/

/-- The assurance of a session, the ledger files of its workspace by capability digest, the
states replays have resolved, and what the replays that were made have read. -/
structure ObservationSystem (frozen : FrozenObjects) where
  assurance : ObservationAssurance
  ledgers : String → Option String
  snapshots : List ObservationAssurance
  replays : List (ReplayInput frozen)

/-- The lines of a ledger may be anything; so may what git, the clock and the random ids
answer to a replay. -/
inductive ObservationAction (frozen : FrozenObjects)
  | appendLine (capabilityDigest line : String)
  | resolveSession
  | replay (snapshot : Nat) (git : GitAccess frozen) (attemptId childSessionId : String)
      (now : Timestamp) (drawId : Nat → String)
  | persist (replay : Nat)
  | createObligation (obligation : RepositoryObligation)
  | changeObligation (obligationId : String) (status : ReviewObligationStatus)
  | createAttempt (attempt : Review.ReviewAttempt)
  | updateAttemptStatus (attemptId : String) (status : ReviewAttemptStatus) (now : Timestamp)
      (childSessionId : Option String) (rejectionReason : Option ReviewAttemptRejectionReason)
  | bindStaleChildSession (attemptId childSessionId : String)
  | changeCapacityLock (capacityLock : Option ReviewCapacityLock)

section Steps

variable (N : Type) [JsonNumber N] (hashing : Hashing) {frozen : FrozenObjects}

/-- The attempts with one of them changed. -/
def ObservationAssurance.changeAttempt (assurance : ObservationAssurance) (attemptId : String)
    (change : ObservingAttempt → ObservingAttempt) : ObservationAssurance :=
  { assurance with
    attempts := assurance.attempts.map fun attempt =>
      if attempt.attemptId = attemptId then change attempt else attempt }

def ObservationAssurance.changeObligation (assurance : ObservationAssurance)
    (obligationId : String) (status : ReviewObligationStatus) : ObservationAssurance :=
  { assurance with
    obligations := assurance.obligations.map fun obligation =>
      if obligation.obligationId = obligationId then { obligation with status := status }
      else obligation }

def ObservingAttempt.withStatus (attempt : ObservingAttempt) (status : ReviewAttemptStatus)
    (now : Timestamp) (childSessionId : Option String)
    (rejectionReason : Option ReviewAttemptRejectionReason) : ObservingAttempt :=
  { attempt with
    toReviewAttempt :=
      attempt.toReviewAttempt.withStatus status now childSessionId rejectionReason }

def ObservingAttempt.withStaleChild (attempt : ObservingAttempt) (childSessionId : String) :
    ObservingAttempt :=
  if attempt.childSessionId = none then
    { attempt with
      toReviewAttempt :=
        { attempt.toReviewAttempt with childSessionId := some childSessionId } }
  else attempt

/-- The write of a replay that has found something; the state is read again for it. -/
def ObservationSystem.persist (s : ObservationSystem frozen) (replay : Nat) :
    Option (ObservationSystem frozen) :=
  match s.replays[replay]? with
  | none => none
  | some input =>
      match replayObservationCaptures N hashing input with
      | none => none
      | some result =>
          if result.observations.isEmpty then none
          else
            match applyReplayedObservations s.assurance input.attemptId input.childSessionId
                result.observations with
            | .error _ => none
            | .ok (assurance, _) => some { s with assurance := assurance }

def observationStep (s : ObservationSystem frozen) :
    ObservationAction frozen → Option (ObservationSystem frozen)
  | .appendLine capabilityDigest line => some
      { s with
        ledgers := fun digest =>
          if digest = capabilityDigest then some (appendLedgerLine (s.ledgers digest) line)
          else s.ledgers digest }
  | .resolveSession => some { s with snapshots := s.snapshots ++ [s.assurance] }
  | .replay snapshot git attemptId childSessionId now drawId =>
      s.snapshots[snapshot]?.map fun assurance =>
        { s with
          replays := s.replays ++
            [⟨assurance, s.ledgers, git, attemptId, childSessionId, now, drawId⟩] }
  | .persist replay => s.persist N hashing replay
  | .createObligation obligation => some
      { s with
        assurance :=
          { s.assurance with obligations := s.assurance.obligations ++ [obligation] } }
  | .changeObligation obligationId status => some
      { s with assurance := s.assurance.changeObligation obligationId status }
  | .createAttempt attempt => some
      { s with
        assurance :=
          { s.assurance with attempts := s.assurance.attempts ++ [⟨attempt, []⟩] } }
  | .updateAttemptStatus attemptId status now childSessionId rejectionReason => some
      { s with
        assurance := s.assurance.changeAttempt attemptId
          (·.withStatus status now childSessionId rejectionReason) }
  | .bindStaleChildSession attemptId childSessionId => some
      { s with
        assurance := s.assurance.changeAttempt attemptId (·.withStaleChild childSessionId) }
  | .changeCapacityLock capacityLock => some
      { s with assurance := { s.assurance with capacityLock := capacityLock } }

/-- The ids of new attempts are drawn at random. -/
def FreshAttempts (s : ObservationSystem frozen) : ObservationAction frozen → Prop
  | .createAttempt attempt => attempt.attemptId ∉ s.assurance.attempts.map (·.attemptId)
  | _ => True

end Steps

/-! ### What stays of an attempt -/

/-- Later states of an attempt. -/
structure AttemptFollows (before after : ObservingAttempt) : Prop where
  attemptId : after.attemptId = before.attemptId
  obligationId : after.obligationId = before.obligationId
  capability : after.observationCapability = before.observationCapability
  child : ∀ childSessionId, childSessionId ≠ "" → before.childSessionId = some childSessionId →
    after.childSessionId = some childSessionId
  observations : before.observations <+: after.observations

theorem AttemptFollows.refl (attempt : ObservingAttempt) : AttemptFollows attempt attempt :=
  ⟨rfl, rfl, rfl, fun _ _ h => h, List.prefix_rfl⟩

theorem AttemptFollows.trans {first second third : ObservingAttempt}
    (hfirst : AttemptFollows first second) (hsecond : AttemptFollows second third) :
    AttemptFollows first third where
  attemptId := hsecond.attemptId.trans hfirst.attemptId
  obligationId := hsecond.obligationId.trans hfirst.obligationId
  capability := hsecond.capability.trans hfirst.capability
  child childSessionId hne hchild :=
    hsecond.child childSessionId hne (hfirst.child childSessionId hne hchild)
  observations := hfirst.observations.trans hsecond.observations

/-- Attempts stay, and so do the frozen revisions of obligations. -/
structure AssuranceFollows (before after : ObservationAssurance) : Prop where
  attempt : ∀ {attemptId attempt}, before.attempt? attemptId = some attempt →
    ∃ next, after.attempt? attemptId = some next ∧ AttemptFollows attempt next
  obligation : ∀ {obligationId obligation}, before.obligation? obligationId = some obligation →
    ∃ next, after.obligation? obligationId = some next ∧
      next.repositoryAuthority = obligation.repositoryAuthority

theorem AssuranceFollows.refl (assurance : ObservationAssurance) :
    AssuranceFollows assurance assurance :=
  ⟨fun hfound => ⟨_, hfound, .refl _⟩, fun hfound => ⟨_, hfound, rfl⟩⟩

theorem AssuranceFollows.trans {first second third : ObservationAssurance}
    (hfirst : AssuranceFollows first second) (hsecond : AssuranceFollows second third) :
    AssuranceFollows first third := by
  constructor
  · intro attemptId attempt hfound
    obtain ⟨next, hnext, hfollows⟩ := hfirst.attempt hfound
    obtain ⟨last, hlast, hlater⟩ := hsecond.attempt hnext
    exact ⟨last, hlast, hfollows.trans hlater⟩
  · intro obligationId obligation hfound
    obtain ⟨next, hnext, hsame⟩ := hfirst.obligation hfound
    obtain ⟨last, hlast, hlater⟩ := hsecond.obligation hnext
    exact ⟨last, hlast, hlater.trans hsame⟩

section Frames

variable {assurance : ObservationAssurance}

theorem attempt?_changeAttempt {attemptId : String}
    {change : ObservingAttempt → ObservingAttempt}
    (hchange : ∀ attempt, (change attempt).attemptId = attempt.attemptId) (id : String) :
    (assurance.changeAttempt attemptId change).attempt? id =
      (assurance.attempt? id).map fun current =>
        if current.attemptId = attemptId then change current else current := by
  rw [ObservationAssurance.attempt?, ObservationAssurance.changeAttempt, List.find?_map]
  refine congrArg (fun test => (List.find? test assurance.attempts).map _) (funext fun current => ?_)
  rw [Function.comp_apply]
  split
  · rw [hchange]
  · rfl

/-- One attempt changes, and still follows what it was. -/
theorem follows_changeAttempt {attemptId : String} {change : ObservingAttempt → ObservingAttempt}
    (hchange : ∀ attempt, AttemptFollows attempt (change attempt)) :
    AssuranceFollows assurance (assurance.changeAttempt attemptId change) := by
  refine ⟨fun {id attempt} hfound => ?_, fun hfound => ⟨_, hfound, rfl⟩⟩
  rw [attempt?_changeAttempt fun attempt => (hchange attempt).attemptId, hfound]
  refine ⟨_, rfl, ?_⟩
  dsimp only
  split
  · exact hchange attempt
  · exact .refl attempt

theorem follows_changeObligation (obligationId : String) (status : ReviewObligationStatus) :
    AssuranceFollows assurance (assurance.changeObligation obligationId status) := by
  refine ⟨fun hfound => ⟨_, hfound, .refl _⟩, fun {id obligation} hfound => ?_⟩
  have hkept : ∀ current : RepositoryObligation,
      (if current.obligationId = obligationId then { current with status := status }
        else current).obligationId = current.obligationId ∧
      (if current.obligationId = obligationId then { current with status := status }
        else current).repositoryAuthority = current.repositoryAuthority := by
    intro current
    split <;> exact ⟨rfl, rfl⟩
  refine ⟨_, ?_, (hkept obligation).2⟩
  rw [ObservationAssurance.obligation?, ObservationAssurance.changeObligation, List.find?_map]
  have hsame : ((fun current : RepositoryObligation => current.obligationId == id) ∘
      fun current => if current.obligationId = obligationId then { current with status := status }
        else current) = fun current => current.obligationId == id :=
    funext fun current => congrArg (· == id) (hkept current).1
  rw [hsame]
  exact congrArg (Option.map _) hfound

theorem follows_createAttempt (attempt : ObservingAttempt) :
    AssuranceFollows assurance
      { assurance with attempts := assurance.attempts ++ [attempt] } := by
  refine ⟨fun hfound => ⟨_, ?_, .refl _⟩, fun hfound => ⟨_, hfound, rfl⟩⟩
  rw [ObservationAssurance.attempt?, List.find?_append]
  exact congrArg (Option.or · _) hfound

theorem follows_createObligation (obligation : RepositoryObligation) :
    AssuranceFollows assurance
      { assurance with obligations := assurance.obligations ++ [obligation] } := by
  refine ⟨fun hfound => ⟨_, hfound, .refl _⟩, fun hfound => ⟨_, ?_, rfl⟩⟩
  rw [ObservationAssurance.obligation?, List.find?_append]
  exact congrArg (Option.or · _) hfound

theorem follows_withStatus (attempt : ObservingAttempt) (status : ReviewAttemptStatus)
    (now : Timestamp) (childSessionId : Option String)
    (rejectionReason : Option ReviewAttemptRejectionReason) :
    AttemptFollows attempt (attempt.withStatus status now childSessionId rejectionReason) := by
  refine ⟨rfl, rfl, rfl, fun child hne hchild => ?_, List.prefix_rfl⟩
  have hpresent : Review.isPresent attempt.childSessionId = true := by
    rw [hchild]
    exact bne_iff_ne.2 hne
  change (if _ then childSessionId else attempt.childSessionId) = some child
  rw [hpresent, Bool.not_true, Bool.and_false, if_neg Bool.false_ne_true, hchild]

theorem follows_withStaleChild (attempt : ObservingAttempt) (childSessionId : String) :
    AttemptFollows attempt (attempt.withStaleChild childSessionId) := by
  unfold ObservingAttempt.withStaleChild
  split
  · rename_i hnone
    refine ⟨rfl, rfl, rfl, fun child hne hchild => ?_, List.prefix_rfl⟩
    rw [hnone] at hchild
    cases hchild
  · exact .refl attempt

end Frames

/-! ### One step -/

section Step

variable {N : Type} [JsonNumber N] {hashing : Hashing} {frozen : FrozenObjects}
  {s t : ObservationSystem frozen} {action : ObservationAction frozen}

variable (N) in
/-- No capture leaves a ledger. -/
def LedgersGrow (before after : String → Option String) : Prop :=
  ∀ digest, ∀ capture ∈ (readObservationCaptures N (before digest)).captures,
    capture ∈ (readObservationCaptures N (after digest)).captures

variable (N) in
structure SystemFollows (s t : ObservationSystem frozen) : Prop where
  assurance : AssuranceFollows s.assurance t.assurance
  ledgers : LedgersGrow N s.ledgers t.ledgers
  replays : s.replays <+: t.replays

theorem SystemFollows.refl (s : ObservationSystem frozen) : SystemFollows N s s :=
  ⟨.refl _, fun _ _ hmem => hmem, List.prefix_rfl⟩

theorem SystemFollows.trans {u : ObservationSystem frozen} (hfirst : SystemFollows N s t)
    (hsecond : SystemFollows N t u) : SystemFollows N s u where
  assurance := hfirst.assurance.trans hsecond.assurance
  ledgers digest capture hmem := hsecond.ledgers digest capture (hfirst.ledgers digest capture hmem)
  replays := hfirst.replays.trans hsecond.replays

/-- The write of a replay was for the attempt as it is. -/
theorem applyReplayedObservations_ok {assurance next : ObservationAssurance}
    {attemptId childSessionId : String} {observations : List RepositoryObservation} {count : Nat}
    (hwritten : applyReplayedObservations assurance attemptId childSessionId observations =
      .ok (next, count)) :
    ∃ attempt, assurance.attempt? attemptId = some attempt ∧
      attempt.childSessionId = some childSessionId ∧
      next = assurance.changeAttempt attemptId
        (·.observe (addedObservations attempt observations)) := by
  unfold applyReplayedObservations at hwritten
  split at hwritten
  · cases hwritten
  rename_i attempt hfound
  split at hwritten
  · cases hwritten
  rename_i hlineage
  obtain ⟨rfl, -⟩ := Prod.mk.inj (Except.ok.inj hwritten)
  refine ⟨attempt, hfound, ?_, rfl⟩
  by_contra hchild
  exact hlineage (.inr (.inl hchild))

/-- What a replay that was persisted has found, and where it went. -/
structure Persisted (N : Type) [JsonNumber N] (hashing : Hashing) {frozen : FrozenObjects}
    (s t : ObservationSystem frozen) (input : ReplayInput frozen) where
  result : ObservationReplayResult
  attempt : ObservingAttempt
  replayed : replayObservationCaptures N hashing input = some result
  nonempty : result.observations ≠ []
  found : s.assurance.attempt? input.attemptId = some attempt
  child : attempt.childSessionId = some input.childSessionId
  written : t =
    { s with
      assurance := s.assurance.changeAttempt input.attemptId
        (·.observe (addedObservations attempt result.observations)) }

theorem persist_some {replay : Nat} (hstep : s.persist N hashing replay = some t) :
    ∃ input, s.replays[replay]? = some input ∧ Nonempty (Persisted N hashing s t input) := by
  unfold ObservationSystem.persist at hstep
  split at hstep
  · cases hstep
  rename_i input hinput
  split at hstep
  · cases hstep
  rename_i result hresult
  split at hstep
  · cases hstep
  rename_i hnonempty
  split at hstep
  · cases hstep
  rename_i assurance _ hwritten
  obtain ⟨attempt, hfound, hchild, rfl⟩ := applyReplayedObservations_ok hwritten
  exact ⟨input, hinput, ⟨⟨result, attempt, hresult, by simpa using hnonempty, hfound, hchild,
    (Option.some_inj.1 hstep).symm⟩⟩⟩

/-- Where the replay has found something and the lineage is there, it is written. -/
theorem persist_eq {replay : Nat} {input : ReplayInput frozen} {result : ObservationReplayResult}
    {assurance : ObservationAssurance} {count : Nat} (hinput : s.replays[replay]? = some input)
    (hresult : replayObservationCaptures N hashing input = some result)
    (hfound : result.observations ≠ [])
    (hwritten : applyReplayedObservations s.assurance input.attemptId input.childSessionId
      result.observations = .ok (assurance, count)) :
    s.persist N hashing replay = some { s with assurance := assurance } := by
  unfold ObservationSystem.persist
  rw [hinput]
  dsimp only
  rw [hresult]
  dsimp only
  rw [if_neg (by simpa using hfound), hwritten]

theorem follows_observe (attempt : ObservingAttempt) (added : List RepositoryObservation) :
    AttemptFollows attempt (attempt.observe added) :=
  ⟨rfl, rfl, rfl, fun _ _ h => h, List.prefix_append _ _⟩

theorem ledgersGrow_appendLine (ledgers : String → Option String)
    (capabilityDigest line : String) :
    LedgersGrow N ledgers fun digest =>
      if digest = capabilityDigest then some (appendLedgerLine (ledgers digest) line)
      else ledgers digest := by
  intro digest capture hmem
  dsimp only
  split
  · rw [captures_appendLedgerLine]
    exact List.mem_append_left _ hmem
  · exact hmem

theorem observationStep_follows (hstep : observationStep N hashing s action = some t) :
    SystemFollows N s t := by
  have hsame : ∀ {assurance : ObservationAssurance}, AssuranceFollows s.assurance assurance →
      SystemFollows N s { s with assurance := assurance } :=
    fun hfollows => ⟨hfollows, fun _ _ hmem => hmem, List.prefix_rfl⟩
  cases action with
  | appendLine capabilityDigest line =>
      obtain rfl := Option.some_inj.1 hstep
      exact ⟨.refl _, ledgersGrow_appendLine s.ledgers capabilityDigest line, List.prefix_rfl⟩
  | resolveSession =>
      obtain rfl := Option.some_inj.1 hstep
      exact ⟨.refl _, fun _ _ hmem => hmem, List.prefix_rfl⟩
  | replay snapshot git attemptId childSessionId now drawId =>
      obtain ⟨assurance, -, rfl⟩ := Option.map_eq_some_iff.1 hstep
      exact ⟨.refl _, fun _ _ hmem => hmem, List.prefix_append _ _⟩
  | persist replay =>
      obtain ⟨input, -, ⟨hpersisted⟩⟩ := persist_some hstep
      rw [hpersisted.written]
      exact hsame (follows_changeAttempt fun attempt => follows_observe attempt _)
  | createObligation obligation =>
      obtain rfl := Option.some_inj.1 hstep
      exact hsame (follows_createObligation obligation)
  | changeObligation obligationId status =>
      obtain rfl := Option.some_inj.1 hstep
      exact hsame (follows_changeObligation obligationId status)
  | createAttempt attempt =>
      obtain rfl := Option.some_inj.1 hstep
      exact hsame (follows_createAttempt _)
  | updateAttemptStatus attemptId status now childSessionId rejectionReason =>
      obtain rfl := Option.some_inj.1 hstep
      exact hsame (follows_changeAttempt fun attempt => follows_withStatus attempt _ _ _ _)
  | bindStaleChildSession attemptId childSessionId =>
      obtain rfl := Option.some_inj.1 hstep
      exact hsame (follows_changeAttempt fun attempt => follows_withStaleChild attempt _)
  | changeCapacityLock capacityLock =>
      obtain rfl := Option.some_inj.1 hstep
      exact hsame ⟨fun hfound => ⟨_, hfound, .refl _⟩, fun hfound => ⟨_, hfound, rfl⟩⟩

/-- A step adds at most the state as it is to the snapshots. -/
theorem observationStep_snapshots (hstep : observationStep N hashing s action = some t) :
    ∀ snapshot ∈ t.snapshots, snapshot ∈ s.snapshots ∨ snapshot = s.assurance := by
  have hsame : t.snapshots = s.snapshots →
      ∀ snapshot ∈ t.snapshots, snapshot ∈ s.snapshots ∨ snapshot = s.assurance :=
    fun heq snapshot hmem => .inl (heq ▸ hmem)
  cases action with
  | resolveSession =>
      obtain rfl := Option.some_inj.1 hstep
      refine List.forall_mem_append.2 ⟨fun snapshot hmem => .inl hmem, ?_⟩
      exact List.forall_mem_singleton.2 (.inr rfl)
  | replay snapshot git attemptId childSessionId now drawId =>
      obtain ⟨assurance, -, rfl⟩ := Option.map_eq_some_iff.1 hstep
      exact hsame rfl
  | persist replay =>
      obtain ⟨input, -, ⟨hpersisted⟩⟩ := persist_some hstep
      exact hsame (by rw [hpersisted.written])
  | _ =>
      obtain rfl := Option.some_inj.1 hstep
      exact hsame rfl

/-- A new replay reads a snapshot, and the ledgers as they are. -/
theorem observationStep_replays (hstep : observationStep N hashing s action = some t) :
    ∀ input ∈ t.replays, input ∈ s.replays ∨
      (input.assurance ∈ s.snapshots ∧ input.ledgers = s.ledgers) := by
  have hsame : t.replays = s.replays → ∀ input ∈ t.replays, input ∈ s.replays ∨
      (input.assurance ∈ s.snapshots ∧ input.ledgers = s.ledgers) :=
    fun heq input hmem => .inl (heq ▸ hmem)
  cases action with
  | replay snapshot git attemptId childSessionId now drawId =>
      obtain ⟨assurance, hsnapshot, rfl⟩ := Option.map_eq_some_iff.1 hstep
      refine List.forall_mem_append.2 ⟨fun input hmem => .inl hmem, ?_⟩
      exact List.forall_mem_singleton.2 (.inr ⟨List.mem_of_getElem? hsnapshot, rfl⟩)
  | persist replay =>
      obtain ⟨input, -, ⟨hpersisted⟩⟩ := persist_some hstep
      exact hsame (by rw [hpersisted.written])
  | _ =>
      obtain rfl := Option.some_inj.1 hstep
      exact hsame rfl

/-- The ids of the attempts are all different. -/
def ObservationAssurance.Unique (assurance : ObservationAssurance) : Prop :=
  (assurance.attempts.map (·.attemptId)).Nodup

theorem ObservationAssurance.Unique.eq {assurance : ObservationAssurance}
    (hunique : assurance.Unique) {first second : ObservingAttempt}
    (hfirst : first ∈ assurance.attempts) (hsecond : second ∈ assurance.attempts)
    (hsame : first.attemptId = second.attemptId) : first = second :=
  List.inj_on_of_nodup_map hunique hfirst hsecond hsame

theorem attempt?_mem {assurance : ObservationAssurance} {attemptId : String}
    {attempt : ObservingAttempt} (hfound : assurance.attempt? attemptId = some attempt) :
    attempt ∈ assurance.attempts ∧ attempt.attemptId = attemptId :=
  ⟨List.mem_of_find?_eq_some hfound,
    beq_iff_eq.1 (@List.find?_some _ (fun current : ObservingAttempt =>
      current.attemptId == attemptId) _ _ hfound)⟩

/-- What a step makes of the attempts, each of which it leaves its id. -/
structure AttemptsFrom (before after : ObservationAssurance)
    (observed : ObservingAttempt → ObservingAttempt → Prop) : Prop where
  unique : before.Unique → after.Unique
  origin : ∀ next ∈ after.attempts, next.observations = [] ∨
    ∃ attempt ∈ before.attempts, AttemptFollows attempt next ∧ observed attempt next

theorem attemptsFrom_changeAttempt {assurance : ObservationAssurance} {attemptId : String}
    {change : ObservingAttempt → ObservingAttempt}
    {observed : ObservingAttempt → ObservingAttempt → Prop}
    (hchange : ∀ attempt, AttemptFollows attempt (change attempt))
    (hself : ∀ attempt, observed attempt attempt)
    (hobserved : ∀ attempt ∈ assurance.attempts, attempt.attemptId = attemptId →
      observed attempt (change attempt)) :
    AttemptsFrom assurance (assurance.changeAttempt attemptId change) observed := by
  constructor
  · intro hunique
    have hids : (assurance.changeAttempt attemptId change).attempts.map (·.attemptId) =
        assurance.attempts.map (·.attemptId) := by
      rw [ObservationAssurance.changeAttempt, List.map_map]
      refine List.map_congr_left fun attempt _ => ?_
      rw [Function.comp_apply]
      split
      · exact (hchange attempt).attemptId
      · rfl
    rw [ObservationAssurance.Unique, hids]
    exact hunique
  · intro next hnext
    obtain ⟨attempt, hmem, rfl⟩ := List.mem_map.1 hnext
    refine .inr ⟨attempt, hmem, ?_⟩
    split
    · rename_i hid
      exact ⟨hchange attempt, hobserved attempt hmem hid⟩
    · exact ⟨.refl attempt, hself attempt⟩

theorem attemptsFrom_of_eq {before after : ObservationAssurance}
    {observed : ObservingAttempt → ObservingAttempt → Prop}
    (hsame : after.attempts = before.attempts) (hself : ∀ attempt, observed attempt attempt) :
    AttemptsFrom before after observed := by
  refine ⟨fun hunique => ?_, fun next hnext => ?_⟩
  · rw [ObservationAssurance.Unique, hsame]
    exact hunique
  · exact .inr ⟨next, hsame ▸ hnext, .refl next, hself next⟩

variable (N hashing) in
/-- The observations of an attempt stay the same, or a replay that was made adds to them. -/
def ObservedBy (s t : ObservationSystem frozen) (attempt next : ObservingAttempt) : Prop :=
  next.observations = attempt.observations ∨
    ∃ input ∈ s.replays, ∃ persisted : Persisted N hashing s t input,
      persisted.attempt = attempt ∧
      next.observations =
        attempt.observations ++
          addedObservations persisted.attempt persisted.result.observations

theorem observationStep_attempts (hunique : s.assurance.Unique) (hfresh : FreshAttempts s action)
    (hstep : observationStep N hashing s action = some t) :
    AttemptsFrom s.assurance t.assurance (ObservedBy N hashing s t) := by
  have hself : ∀ attempt, ObservedBy N hashing s t attempt attempt := fun _ => .inl rfl
  cases action with
  | replay snapshot git attemptId childSessionId now drawId =>
      obtain ⟨assurance, -, rfl⟩ := Option.map_eq_some_iff.1 hstep
      exact attemptsFrom_of_eq rfl hself
  | persist replay =>
      obtain ⟨input, hinput, ⟨hpersisted⟩⟩ := persist_some hstep
      rw [hpersisted.written]
      refine attemptsFrom_changeAttempt (fun attempt => follows_observe attempt _)
        (fun _ => .inl rfl) fun attempt hmem hid => .inr ⟨input, List.mem_of_getElem? hinput, ?_⟩
      obtain ⟨hfound, hsame⟩ := attempt?_mem hpersisted.found
      have heq : hpersisted.attempt = attempt := hunique.eq hfound hmem (hsame.trans hid.symm)
      refine ⟨⟨hpersisted.result, hpersisted.attempt, hpersisted.replayed, hpersisted.nonempty,
        hpersisted.found, hpersisted.child, rfl⟩, heq, rfl⟩
  | createAttempt attempt =>
      obtain rfl := Option.some_inj.1 hstep
      constructor
      · intro _
        rw [ObservationAssurance.Unique, List.map_append, List.nodup_append_comm]
        exact List.nodup_cons.2 ⟨hfresh, hunique⟩
      · refine List.forall_mem_append.2 ⟨fun next hnext => ?_, List.forall_mem_singleton.2 (.inl rfl)⟩
        exact .inr ⟨next, hnext, .refl next, .inl rfl⟩
  | updateAttemptStatus attemptId status now childSessionId rejectionReason =>
      obtain rfl := Option.some_inj.1 hstep
      exact attemptsFrom_changeAttempt (fun attempt => follows_withStatus attempt _ _ _ _) hself
        fun _ _ _ => .inl rfl
  | bindStaleChildSession attemptId childSessionId =>
      obtain rfl := Option.some_inj.1 hstep
      refine attemptsFrom_changeAttempt (fun attempt => follows_withStaleChild attempt _) hself
        fun attempt _ _ => .inl ?_
      unfold ObservingAttempt.withStaleChild
      split <;> rfl
  | _ =>
      obtain rfl := Option.some_inj.1 hstep
      exact attemptsFrom_of_eq rfl hself

end Step

end GovernedRuntime.Observation
