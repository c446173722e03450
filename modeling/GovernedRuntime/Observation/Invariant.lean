/-
What holds of the observations of an attempt in every run: they are different, a capture
of the attempt's own child is behind each of them, and a replay that was persisted adds
nothing when it is made again.
-/
import GovernedRuntime.Observation.Runs

namespace GovernedRuntime.Observation

open GovernedRuntime.Library

variable {N : Type} [JsonNumber N] {hashing : Hashing} {frozen : FrozenObjects}
  {s t : ObservationSystem frozen} {action : ObservationAction frozen}

/-! ### What is behind an observation -/

/-- An observation says of a file what the capture and the frozen bytes say. -/
structure Describes (hashing : Hashing) (attempt : ObservingAttempt)
    (capture : RepositoryObservationCapture) (target : FrozenRepositoryRevisionTarget)
    (bytes : List UInt8) (observation : RepositoryObservation) : Prop where
  obligationId : observation.obligationId = attempt.obligationId
  attemptId : observation.attemptId = attempt.attemptId
  session : observation.observedBySessionId = capture.capturedSessionId
  path : observation.path = capture.path
  revision : observation.revision = capture.revision
  repositoryIdentity : observation.repositoryIdentity = target.repositoryIdentity
  objectSha : observation.resolvedObjectSha = target.objectSha
  objectKind : observation.resolvedObjectKind = target.kind
  contentDigest : observation.contentDigest = hashing.contentDigestOf bytes
  byteLength : observation.byteLength = bytes.length
  representation : observation.representation = observedRepresentation bytes

theorem describes_mintObservation {context : ReplayContext} {observationId : String}
    {capture : RepositoryObservationCapture} {target : FrozenRepositoryRevisionTarget}
    {kind : AcquisitionKind} {bytes : List UInt8} {attempt : ObservingAttempt}
    (hobligation : attempt.obligationId = context.attempt.obligationId)
    (hattempt : attempt.attemptId = context.attempt.attemptId)
    (hsession : capture.capturedSessionId = context.childSessionId) :
    Describes hashing attempt capture target bytes
      (mintObservation hashing context observationId capture target kind bytes) :=
  ⟨hobligation.symm, hattempt.symm, hsession.symm, rfl, rfl, rfl, rfl, rfl, rfl, rfl, rfl⟩

/-- A capture in the attempt's ledger, made by its child, and authentic for the revision
the attempt's obligation has frozen. -/
structure CapturedFor (N : Type) [JsonNumber N] (hashing : Hashing) {frozen : FrozenObjects}
    (s : ObservationSystem frozen) (attempt : ObservingAttempt) (capability : String)
    (obligation : RepositoryObligation) (capture : RepositoryObservationCapture)
    (target : FrozenRepositoryRevisionTarget) (bytes : List UInt8) : Prop where
  capable : attempt.observationCapability = some capability
  governed : s.assurance.obligation? attempt.obligationId = some obligation
  captured : capture ∈ (readObservationCaptures N
    (s.ledgers (hashing.observationCapabilityDigest capability))).captures
  child : attempt.childSessionId = some capture.capturedSessionId
  authentic : Authentic hashing frozen obligation.repositoryAuthority capture target bytes

variable (N hashing) in
def Backed (s : ObservationSystem frozen) (attempt : ObservingAttempt)
    (observation : RepositoryObservation) : Prop :=
  ∃ capability obligation capture target bytes,
    CapturedFor N hashing s attempt capability obligation capture target bytes ∧
      Describes hashing attempt capture target bytes observation

/-- What is behind an observation stays behind it. -/
theorem Backed.follow {attempt next : ObservingAttempt} {observation : RepositoryObservation}
    (hbacked : Backed N hashing s attempt observation) (hsystem : SystemFollows N s t)
    (hattempt : AttemptFollows attempt next) : Backed N hashing t next observation := by
  obtain ⟨capability, obligation, capture, target, bytes, hcaptured, hdescribes⟩ := hbacked
  obtain ⟨later, hlater, hauthority⟩ := hsystem.assurance.obligation hcaptured.governed
  refine ⟨capability, later, capture, target, bytes, ⟨?_, ?_, ?_, ?_, ?_⟩, ?_⟩
  · rw [hattempt.capability, hcaptured.capable]
  · rw [hattempt.obligationId, hlater]
  · exact hsystem.ledgers _ _ hcaptured.captured
  · exact hattempt.child _ (capturedSessionId_ne hcaptured.captured) hcaptured.child
  · rw [hauthority]
    exact hcaptured.authentic
  · exact { hdescribes with
      obligationId := hdescribes.obligationId.trans hattempt.obligationId.symm
      attemptId := hdescribes.attemptId.trans hattempt.attemptId.symm }

/-! ### The invariant -/

variable (N) in
/-- What a replay has read is behind what there is now. -/
structure InputKnown (s : ObservationSystem frozen) (input : ReplayInput frozen) : Prop where
  assurance : AssuranceFollows input.assurance s.assurance
  ledgers : LedgersGrow N input.ledgers s.ledgers

theorem InputKnown.follow {input : ReplayInput frozen} (hknown : InputKnown N s input)
    (hsystem : SystemFollows N s t) : InputKnown N t input :=
  ⟨hknown.assurance.trans hsystem.assurance,
    fun digest capture hmem => hsystem.ledgers digest capture (hknown.ledgers digest capture hmem)⟩

variable (N hashing) in
structure ObservationInvariant (s : ObservationSystem frozen) : Prop where
  unique : s.assurance.Unique
  snapshots : ∀ snapshot ∈ s.snapshots, AssuranceFollows snapshot s.assurance
  replays : ∀ input ∈ s.replays, InputKnown N s input
  distinct : ∀ attempt ∈ s.assurance.attempts,
    (attempt.observations.map observationReplayKey).Nodup
  backed : ∀ attempt ∈ s.assurance.attempts, ∀ observation ∈ attempt.observations,
    Backed N hashing s attempt observation

/-- Before anything is observed: an empty assurance, and any ledgers. -/
structure ObservationSystem.Start (s : ObservationSystem frozen) : Prop where
  attempts : s.assurance.attempts = []
  snapshots : s.snapshots = []
  replays : s.replays = []

theorem ObservationSystem.Start.invariant (hstart : s.Start) :
    ObservationInvariant N hashing s := by
  constructor
  · rw [ObservationAssurance.Unique, hstart.attempts]
    exact List.nodup_nil
  · rw [hstart.snapshots]
    exact List.forall_mem_nil _
  · rw [hstart.replays]
    exact List.forall_mem_nil _
  · rw [hstart.attempts]
    exact List.forall_mem_nil _
  · rw [hstart.attempts]
    exact List.forall_mem_nil _

/-- The keys that are added are new to the attempt. -/
theorem nodup_addedObservations {attempt : ObservingAttempt}
    {observations : List RepositoryObservation}
    (hold : (attempt.observations.map observationReplayKey).Nodup)
    (hnew : (observations.map observationReplayKey).Nodup) :
    ((attempt.observations ++ addedObservations attempt observations).map
      observationReplayKey).Nodup := by
  rw [List.map_append]
  refine List.Nodup.append hold ?_ fun key hkey hadded => ?_
  · exact hnew.sublist (List.filter_sublist.map _)
  · obtain ⟨observation, hobservation, rfl⟩ := List.mem_map.1 hadded
    have hfresh := (List.mem_filter.1 hobservation).2
    rw [Bool.not_eq_true', ← Bool.not_eq_true, List.contains_iff_mem] at hfresh
    exact hfresh hkey

/-- Every observation of a replay that is persisted has a capture of the attempt's child
behind it. -/
theorem Persisted.backed {input : ReplayInput frozen} (hknown : InputKnown N s input)
    (persisted : Persisted N hashing s t input) :
    ∀ observation ∈ persisted.result.observations,
      Backed N hashing s persisted.attempt observation := by
  intro observation hmem
  rcases replayObservationCaptures_some persisted.replayed with hnil | ⟨⟨replayed⟩⟩
  · exact absurd hnil persisted.nonempty
  obtain ⟨capture, hcapture, position, hminted⟩ :=
    replayCaptures_minted replayed.replayed observation hmem
  obtain ⟨hsession, target, kind, bytes, hauthentic, -, rfl⟩ :=
    validateAndMintCapture_minted hminted
  obtain ⟨attempt, hfound, hfollows⟩ := hknown.assurance.attempt replayed.attempt_found
  obtain rfl : attempt = persisted.attempt := Option.some_inj.1 (hfound.symm.trans persisted.found)
  obtain ⟨obligation, hobligation, hauthority⟩ :=
    hknown.assurance.obligation replayed.obligation_found
  refine ⟨replayed.capability, obligation, capture, target, bytes, ⟨?_, ?_, ?_, ?_, ?_⟩, ?_⟩
  · rw [hfollows.capability, replayed.capability_found]
  · rw [hfollows.obligationId, hobligation]
  · exact hknown.ledgers _ _ hcapture
  · rw [persisted.child, hsession]
  · rw [hauthority]
    exact hauthentic
  · exact describes_mintObservation hfollows.obligationId hfollows.attemptId hsession

theorem Persisted.keys {input : ReplayInput frozen} (persisted : Persisted N hashing s t input) :
    (persisted.result.observations.map observationReplayKey).Nodup := by
  rcases replayObservationCaptures_some persisted.replayed with hnil | ⟨⟨replayed⟩⟩
  · rw [hnil]
    exact List.nodup_nil
  · exact (replayCaptures_keys replayed.replayed).1

theorem ObservationInvariant.step (hinv : ObservationInvariant N hashing s)
    (hfresh : FreshAttempts s action) (hstep : observationStep N hashing s action = some t) :
    ObservationInvariant N hashing t := by
  have hfollows : SystemFollows N s t := observationStep_follows hstep
  obtain ⟨hunique, horigin⟩ := observationStep_attempts hinv.unique hfresh hstep
  constructor
  · exact hunique hinv.unique
  · intro snapshot hmem
    rcases observationStep_snapshots hstep snapshot hmem with hold | rfl
    · exact (hinv.snapshots snapshot hold).trans hfollows.assurance
    · exact hfollows.assurance
  · intro input hmem
    rcases observationStep_replays hstep input hmem with hold | ⟨hsnapshot, hledgers⟩
    · exact (hinv.replays input hold).follow hfollows
    · have hknown : InputKnown N s input :=
        ⟨hinv.snapshots _ hsnapshot, by
          rw [hledgers]
          exact fun _ _ hcapture => hcapture⟩
      exact hknown.follow hfollows
  · intro next hnext
    rcases horigin next hnext with hnone | ⟨attempt, hmem, -, hsame | ⟨input, -, persisted, heq, hadded⟩⟩
    · rw [hnone]
      exact List.nodup_nil
    · rw [hsame]
      exact hinv.distinct attempt hmem
    · subst heq
      rw [hadded]
      exact nodup_addedObservations (hinv.distinct _ hmem) persisted.keys
  · intro next hnext observation hobservation
    rcases horigin next hnext with
      hnone | ⟨attempt, hmem, hlater, hsame | ⟨input, hinput, persisted, heq, hadded⟩⟩
    · rw [hnone] at hobservation
      cases hobservation
    · rw [hsame] at hobservation
      exact (hinv.backed attempt hmem observation hobservation).follow hfollows hlater
    · subst heq
      rw [hadded] at hobservation
      rcases List.mem_append.1 hobservation with hold | hnew
      · exact (hinv.backed _ hmem observation hold).follow hfollows hlater
      · have hfound := persisted.backed (hinv.replays input hinput) observation
          (List.mem_of_mem_filter hnew)
        exact hfound.follow hfollows hlater

/-! ### A replay that is made again -/

/-- A later replay of the same session for the same attempt, which reads no capture and no
frozen content that the earlier one could not read. -/
structure ReplaysAgain (N : Type) [JsonNumber N] {frozen : FrozenObjects}
    (earlier later : ReplayInput frozen) : Prop where
  attemptId : later.attemptId = earlier.attemptId
  childSessionId : later.childSessionId = earlier.childSessionId
  ledgers : LedgersGrow N later.ledgers earlier.ledgers
  acquired : ∀ target path content,
    acquireFrozenRepositoryContent later.git target path = .ok content →
      ∃ found, acquireFrozenRepositoryContent earlier.git target path = .ok found

theorem addedObservations_eq_nil {attempt : ObservingAttempt}
    {observations : List RepositoryObservation}
    (hobserved : ∀ observation ∈ observations,
      observationReplayKey observation ∈ attempt.observations.map observationReplayKey) :
    addedObservations attempt observations = [] := by
  refine List.filter_eq_nil_iff.2 fun observation hmem => ?_
  rw [Bool.not_eq_true', Bool.not_eq_false, List.contains_iff_mem]
  exact hobserved observation hmem

/-- The keys an attempt has. -/
def ObservingAttempt.keys (attempt : ObservingAttempt) : List String :=
  attempt.observations.map observationReplayKey

theorem AttemptFollows.keys {before after : ObservingAttempt}
    (hfollows : AttemptFollows before after) : before.keys ⊆ after.keys :=
  (hfollows.observations.map observationReplayKey).subset

/-- After the write, the attempt has every key the replay has answered. -/
theorem Persisted.settled {input : ReplayInput frozen}
    (persisted : Persisted N hashing s t input) :
    ∃ attempt, t.assurance.attempt? input.attemptId = some attempt ∧
      AttemptFollows persisted.attempt attempt ∧
      ∀ observation ∈ persisted.result.observations,
        observationReplayKey observation ∈ attempt.keys := by
  have hid := (attempt?_mem persisted.found).2
  refine ⟨persisted.attempt.observe
      (addedObservations persisted.attempt persisted.result.observations), ?_,
    follows_observe _ _, ?_⟩
  · have hwritten := congrArg ObservationSystem.assurance persisted.written
    have hobserve : ∀ attempt : ObservingAttempt,
        (attempt.observe (addedObservations persisted.attempt
          persisted.result.observations)).attemptId = attempt.attemptId := fun _ => rfl
    rw [hwritten, attempt?_changeAttempt hobserve, persisted.found, Option.map_some, if_pos hid]
  · intro observation hmem
    rw [ObservingAttempt.keys, ObservingAttempt.observe, List.map_append, List.mem_append]
    by_cases hknown : observationReplayKey observation ∈ persisted.attempt.keys
    · exact .inl hknown
    · refine .inr (List.mem_map_of_mem (List.mem_filter.2 ⟨hmem, ?_⟩))
      rw [Bool.not_eq_true', ← Bool.not_eq_true, List.contains_iff_mem]
      exact hknown

/-- What could be minted of a capture again has its key on the attempt. -/
theorem Persisted.covers {input later : ReplayInput frozen}
    (persisted : Persisted N hashing s t input) (hknown : InputKnown N s input)
    (hagain : ReplaysAgain N input later)
    {observations : List RepositoryObservation} (replayed : Replayed N hashing later observations)
    (hlater : AssuranceFollows t.assurance later.assurance) :
    ∀ capture ∈ (readObservationCaptures N
        (later.ledgers (hashing.observationCapabilityDigest replayed.capability))).captures,
      ∀ observationId observation,
        validateAndMintCapture hashing later.git
            ⟨replayed.attempt, replayed.obligation, later.childSessionId, later.now⟩
            observationId capture = .minted observation →
          observationReplayKey observation ∈ replayed.attempt.keys := by
  intro capture hcapture observationId observation hminted
  rcases replayObservationCaptures_some persisted.replayed with hnil | ⟨⟨earlier⟩⟩
  · exact absurd hnil persisted.nonempty
  -- the attempt and the obligation that both replays are about
  obtain ⟨settled, hsettled, hpersisted, hanswered⟩ := persisted.settled
  obtain ⟨attempt, hattempt, hfirst⟩ := hknown.assurance.attempt earlier.attempt_found
  obtain rfl : attempt = persisted.attempt := Option.some_inj.1 (hattempt.symm.trans persisted.found)
  obtain ⟨last, hlast, hsecond⟩ := hlater.attempt hsettled
  rw [← hagain.attemptId] at hlast
  obtain rfl : last = replayed.attempt :=
    Option.some_inj.1 (hlast.symm.trans replayed.attempt_found)
  have hfollows : AttemptFollows earlier.attempt replayed.attempt :=
    (hfirst.trans hpersisted).trans hsecond
  have hcapability : earlier.capability = replayed.capability := by
    have hsame := hfollows.capability
    rw [replayed.capability_found, earlier.capability_found] at hsame
    exact (Option.some_inj.1 hsame).symm
  obtain ⟨obligation, hobligation, hauthority⟩ :=
    (hknown.assurance.trans
      ((show AssuranceFollows s.assurance t.assurance by
        rw [persisted.written]
        exact follows_changeAttempt fun attempt => follows_observe attempt _).trans hlater)).obligation earlier.obligation_found
  rw [← hfollows.obligationId, replayed.obligation_found] at hobligation
  obtain rfl := Option.some_inj.1 hobligation
  -- the earlier replay has minted the same file, or passed over it
  obtain ⟨hsession, target, kind, bytes, hauthentic, hacquired, rfl⟩ :=
    validateAndMintCapture_minted hminted
  obtain ⟨⟨kind', bytes'⟩, hbefore⟩ := hagain.acquired _ _ _ hacquired
  obtain rfl : bytes = bytes' :=
    Option.some_inj.1 ((acquired_frozen hacquired).symm.trans (acquired_frozen hbefore))
  have hread : capture ∈ (readObservationCaptures N
      (input.ledgers (hashing.observationCapabilityDigest earlier.capability))).captures := by
    rw [hcapability]
    exact hagain.ledgers _ _ hcapture
  obtain ⟨position, hcovered⟩ := replayCaptures_covers earlier.replayed capture hread
  have hmint := hcovered _ (validateAndMintCapture_of_authentic
    (hsession.trans hagain.childSessionId) (hauthority ▸ hauthentic) hbefore)
  rcases hmint with hold | hnew
  · exact hfollows.keys hold
  · obtain ⟨found, hfound, hkey⟩ := List.mem_map.1 hnew
    exact hsecond.keys (hkey ▸ hanswered found hfound)

/-- A replay that was persisted adds nothing when it is made again. -/
theorem Persisted.again {input later : ReplayInput frozen}
    (persisted : Persisted N hashing s t input) (hknown : InputKnown N s input)
    (hagain : ReplaysAgain N input later)
    (hlater : AssuranceFollows t.assurance later.assurance)
    {result : ObservationReplayResult}
    (hresult : replayObservationCaptures N hashing later = some result) :
    result.observations = [] := by
  rcases replayObservationCaptures_some hresult with hnil | ⟨⟨replayed⟩⟩
  · exact hnil
  · exact replayCaptures_eq_nil replayed.replayed fun capture hcapture position observation hminted =>
      persisted.covers hknown hagain replayed hlater capture hcapture _ observation hminted

/-- Nor does the same result when it is persisted again. -/
theorem Persisted.persist_again {input : ReplayInput frozen}
    (persisted : Persisted N hashing s t input) {later after : ObservationSystem frozen}
    (hlater : AssuranceFollows t.assurance later.assurance)
    (again : Persisted N hashing later after input) : after = later := by
  obtain ⟨settled, hsettled, -, hanswered⟩ := persisted.settled
  obtain ⟨attempt, hattempt, hfollows⟩ := hlater.attempt hsettled
  obtain rfl : attempt = again.attempt := Option.some_inj.1 (hattempt.symm.trans again.found)
  have hresult : again.result = persisted.result :=
    Option.some_inj.1 (again.replayed.symm.trans persisted.replayed)
  have hnone : addedObservations again.attempt again.result.observations = [] := by
    rw [hresult]
    exact addedObservations_eq_nil fun observation hmem =>
      hfollows.keys (hanswered observation hmem)
  have hsame : ∀ attempts : List ObservingAttempt,
      (attempts.map fun current =>
        if current.attemptId = input.attemptId then current.observe [] else current) =
          attempts := by
    intro attempts
    conv_rhs => rw [← List.map_id attempts]
    refine List.map_congr_left fun current _ => ?_
    rw [ObservingAttempt.observe, List.append_nil, ite_self, id]
  rw [again.written, hnone, ObservationAssurance.changeAttempt, hsame]

end GovernedRuntime.Observation
