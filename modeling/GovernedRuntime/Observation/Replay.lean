/-
The replay of a reviewer's captures by the parent: what was delivered is acquired again
from the frozen objects, and what agrees becomes an observation of the attempt
(`src/integration/review/observations/observation-service.ts`, `observation-replay.ts`,
`observation-replay-persist.ts`, `src/adapters/frozen-repository.ts`).
-/
import GovernedRuntime.Observation.Capture
import GovernedRuntime.Review.LedgerOperations

namespace GovernedRuntime.Observation

open GovernedRuntime.Library
open GovernedRuntime.State (ReviewObligationStatus Timestamp)

/-! ### The observation service -/

structure Hashing where
  hashText : String → String
  hashBuffer : List UInt8 → String

def decodeUtf8 (bytes : List UInt8) : Option String := String.fromUTF8? ⟨bytes.toArray⟩

def classifyRepresentation (bytes : List UInt8) : Representation :=
  if (decodeUtf8 bytes).isSome then .utf8Text else .binary

/-- A final newline opens no further line. -/
def lineCountOfUtf8 (content : String) : Nat :=
  if content == "" then 0
  else if content.toList.getLast? == some '\n' then content.toList.count '\n'
  else content.toList.count '\n' + 1

def base64Digit (value : Nat) : Char :=
  if value < 26 then Char.ofNat (value + 'A'.toNat)
  else if value < 52 then Char.ofNat (value - 26 + 'a'.toNat)
  else if value < 62 then Char.ofNat (value - 52 + '0'.toNat)
  else if value = 62 then '+'
  else '/'

def base64Group (bits : Nat) : List Char :=
  [bits / 262144, bits / 4096 % 64, bits / 64 % 64, bits % 64].map base64Digit

def base64Chars : List UInt8 → List Char
  | a :: b :: c :: rest => base64Group (a.toNat * 65536 + b.toNat * 256 + c.toNat) ++
      base64Chars rest
  | [a, b] => (base64Group (a.toNat * 65536 + b.toNat * 256)).take 3 ++ ['=']
  | [a] => (base64Group (a.toNat * 65536)).take 2 ++ ['=', '=']
  | [] => []

/-- The bytes as the tool delivers them: the text itself, or its base64 form. -/
def deliveredContent (bytes : List UInt8) : String :=
  (decodeUtf8 bytes).getD (String.ofList (base64Chars bytes))

def buildObservationToolResponse (path : String) (revision : ReviewRevision)
    (representation : Representation) (content : String) : String :=
  let lineCount : List (String × Json Nat) :=
    if representation = .utf8Text then [("lineCount", .number (lineCountOfUtf8 content))] else []
  (Json.object
    ([("path", .string path), ("revision", .string revision.name),
        ("representation", .string representation.name)] ++ lineCount ++
      [("content", .string content)])).stringify

def Hashing.contentDigestOf (hashing : Hashing) (bytes : List UInt8) : String :=
  "sha256:" ++ hashing.hashBuffer bytes

def Hashing.responseDigestOf (hashing : Hashing) (response : String) : String :=
  "sha256:" ++ hashing.hashText response

def Hashing.observationCapabilityDigest (hashing : Hashing) (capability : String) : String :=
  hashing.hashText capability

/-! ### Frozen objects -/

/-- The bytes at a path of a commit or tree, which nothing changes. -/
abbrev FrozenObjects := String → String → Option (List UInt8)

inductive AcquisitionFailure
  | frozenRepositoryError
  | unexpected
deriving DecidableEq, Repr

/-- How git and the host of the repository answer during one replay.  They may fail, but
what they do read is the frozen content. -/
structure GitAccess (frozen : FrozenObjects) where
  frozenObjectExists : String → Bool
  readFrozenBlob : String → String → Except AcquisitionFailure (List UInt8)
  readRemoteCommitBlob :
    ReviewRepositoryIdentity → String → String → Except AcquisitionFailure (List UInt8)
  blob_frozen : ∀ {objectSha path bytes}, readFrozenBlob objectSha path = .ok bytes →
    frozen objectSha path = some bytes
  remote_frozen : ∀ {identity objectSha path bytes},
    readRemoteCommitBlob identity objectSha path = .ok bytes →
      frozen objectSha path = some bytes

/-- Trees and local identities are read here; a commit that is not here, from its host. -/
def acquireFrozenRepositoryContent {frozen : FrozenObjects} (git : GitAccess frozen)
    (target : FrozenRepositoryRevisionTarget) (repositoryPath : String) :
    Except AcquisitionFailure (AcquisitionKind × List UInt8) :=
  if target.kind = .tree || target.repositoryIdentity.isLocal ||
      git.frozenObjectExists target.objectSha then
    (git.readFrozenBlob target.objectSha repositoryPath).map (.localGitObject, ·)
  else
    (git.readRemoteCommitBlob target.repositoryIdentity target.objectSha repositoryPath).map
      (.remoteCommitBlob, ·)

theorem acquired_frozen {frozen : FrozenObjects} {git : GitAccess frozen}
    {target : FrozenRepositoryRevisionTarget} {repositoryPath : String} {kind : AcquisitionKind}
    {bytes : List UInt8}
    (hacquired : acquireFrozenRepositoryContent git target repositoryPath = .ok (kind, bytes)) :
    frozen target.objectSha repositoryPath = some bytes := by
  unfold acquireFrozenRepositoryContent at hacquired
  split at hacquired
  · cases hread : git.readFrozenBlob target.objectSha repositoryPath with
    | error failure =>
        rw [hread] at hacquired
        cases hacquired
    | ok found =>
        rw [hread] at hacquired
        cases hacquired
        exact git.blob_frozen hread
  · cases hread : git.readRemoteCommitBlob target.repositoryIdentity target.objectSha
        repositoryPath with
    | error failure =>
        rw [hread] at hacquired
        cases hacquired
    | ok found =>
        rw [hread] at hacquired
        cases hacquired
        exact git.remote_frozen hread

/-! ### Observations -/

/-- Lines are counted for texts only. -/
inductive ObservedRepresentation
  | utf8Text (lineCount : Nat)
  | binary
deriving DecidableEq, Repr

/-- A file the attempt's reviewer has been shown. -/
structure RepositoryObservation where
  observationId : String
  obligationId : String
  attemptId : String
  observedBySessionId : String
  path : String
  revision : ReviewRevision
  repositoryIdentity : ReviewRepositoryIdentity
  resolvedObjectSha : String
  resolvedObjectKind : FrozenTargetKind
  contentDigest : String
  byteLength : Nat
  capturedAt : Timestamp
  boundAt : Timestamp
  acquisition : AcquisitionKind
  representation : ObservedRepresentation
deriving DecidableEq, Repr

/-- An attempt with what its reviewer has been shown. -/
structure ObservingAttempt extends Review.ReviewAttempt where
  observations : List RepositoryObservation
deriving DecidableEq, Repr

def ObservingAttempt.observe (attempt : ObservingAttempt) (added : List RepositoryObservation) :
    ObservingAttempt :=
  { attempt with observations := attempt.observations ++ added }

/-- An obligation, as far as observations go. -/
structure RepositoryObligation where
  obligationId : String
  status : ReviewObligationStatus
  repositoryAuthority : Option FrozenRepositoryAuthority
deriving DecidableEq, Repr

structure ObservationAssurance where
  obligations : List RepositoryObligation
  attempts : List ObservingAttempt
  capacityLock : Option Review.ReviewCapacityLock

def ObservationAssurance.attempt? (assurance : ObservationAssurance) (attemptId : String) :
    Option ObservingAttempt :=
  assurance.attempts.find? (·.attemptId == attemptId)

def ObservationAssurance.obligation? (assurance : ObservationAssurance) (obligationId : String) :
    Option RepositoryObligation :=
  assurance.obligations.find? (·.obligationId == obligationId)

def observationReplayKey (observation : RepositoryObservation) : String :=
  observation.path ++ "\x00" ++ observation.revision.name ++ "\x00" ++ observation.contentDigest

/-! ### Replaying captures -/

inductive ObservationCaptureDropReason
  | unreadableCapture
  | sessionMismatch
  | targetMismatch
  | acquisitionFailed
  | contentDigestMismatch
  | representationMismatch
  | responseDigestMismatch
deriving DecidableEq, Repr

/-- What becomes of a capture; a failure ends the whole replay. -/
inductive CaptureOutcome
  | minted (observation : RepositoryObservation)
  | dropped (reason : ObservationCaptureDropReason)
  | failed

def observedRepresentation (bytes : List UInt8) : ObservedRepresentation :=
  match decodeUtf8 bytes with
  | some content => .utf8Text (lineCountOfUtf8 content)
  | none => .binary

/-- What a replay knows when it looks at the captures of an attempt. -/
structure ReplayContext where
  attempt : ObservingAttempt
  obligation : RepositoryObligation
  childSessionId : String
  now : Timestamp

section Mint

variable (hashing : Hashing)

def mintObservation (context : ReplayContext) (observationId : String)
    (capture : RepositoryObservationCapture) (target : FrozenRepositoryRevisionTarget)
    (kind : AcquisitionKind) (bytes : List UInt8) : RepositoryObservation where
  observationId := observationId
  obligationId := context.attempt.obligationId
  attemptId := context.attempt.attemptId
  observedBySessionId := context.childSessionId
  path := capture.path
  revision := capture.revision
  repositoryIdentity := target.repositoryIdentity
  resolvedObjectSha := target.objectSha
  resolvedObjectKind := target.kind
  contentDigest := hashing.contentDigestOf bytes
  byteLength := bytes.length
  capturedAt := capture.capturedAt
  boundAt := context.now
  acquisition := kind
  representation := observedRepresentation bytes

/-- The first digest of a capture that the acquired bytes do not bear out. -/
def captureMismatch (capture : RepositoryObservationCapture) (bytes : List UInt8) :
    Option ObservationCaptureDropReason :=
  if hashing.contentDigestOf bytes != capture.contentDigest then some .contentDigestMismatch
  else if classifyRepresentation bytes ≠ capture.representation then
    some .representationMismatch
  else if hashing.responseDigestOf (buildObservationToolResponse capture.path capture.revision
      (classifyRepresentation bytes) (deliveredContent bytes)) != capture.responseDigest then
    some .responseDigestMismatch
  else none

variable {frozen : FrozenObjects} (git : GitAccess frozen)

def validateAndMintCapture (context : ReplayContext) (observationId : String)
    (capture : RepositoryObservationCapture) : CaptureOutcome :=
  if capture.capturedSessionId != context.childSessionId then .dropped .sessionMismatch
  else
    match resolveFrozenRevisionTarget context.obligation.repositoryAuthority capture.revision with
    | none => .dropped .targetMismatch
    | some target =>
        if target.objectSha != capture.resolvedObjectSha then .dropped .targetMismatch
        else
          match acquireFrozenRepositoryContent git target capture.path with
          | .error .frozenRepositoryError => .dropped .acquisitionFailed
          | .error .unexpected => .failed
          | .ok (kind, bytes) =>
              match captureMismatch hashing capture bytes with
              | some reason => .dropped reason
              | none =>
                  .minted (mintObservation hashing context observationId capture target kind bytes)

end Mint

/-- A capture that was dropped, and why. -/
structure DroppedCapture where
  reason : ObservationCaptureDropReason
  path : String
  revision : ReviewRevision

/-- The captures in their order; an observation whose key is there already is passed over. -/
def replayCaptures (mint : Nat → RepositoryObservationCapture → CaptureOutcome) :
    List String → Nat → List RepositoryObservationCapture →
      Option (List RepositoryObservation × List DroppedCapture)
  | _, _, [] => some ([], [])
  | existing, index, capture :: rest =>
      match mint index capture with
      | .failed => none
      | .dropped reason =>
          (replayCaptures mint existing (index + 1) rest).map fun (observations, drops) =>
            (observations, ⟨reason, capture.path, capture.revision⟩ :: drops)
      | .minted observation =>
          if existing.contains (observationReplayKey observation) then
            replayCaptures mint existing (index + 1) rest
          else
            (replayCaptures mint (observationReplayKey observation :: existing) (index + 1)
              rest).map fun (observations, drops) => (observation :: observations, drops)

structure ObservationReplayResult where
  observations : List RepositoryObservation
  dropped : Nat
  dropReasons : ObservationCaptureDropReason → Nat
  responseMismatches : List (String × ReviewRevision)

def noReplay : ObservationReplayResult := ⟨[], 0, fun _ => 0, []⟩

/-- The accounting of the captures that were dropped. -/
def replayResult (skipped : Nat) (observations : List RepositoryObservation)
    (drops : List DroppedCapture) : ObservationReplayResult where
  observations := observations
  dropped := skipped + drops.length
  dropReasons reason :=
    (if reason = .unreadableCapture then skipped else 0) + drops.countP (·.reason = reason)
  responseMismatches :=
    (drops.filter (·.reason = .responseDigestMismatch)).map fun drop => (drop.path, drop.revision)

/-- Everything a replay reads: the state as it was resolved, the ledger files of the
workspace, the repository, and the session it is for. -/
structure ReplayInput (frozen : FrozenObjects) where
  assurance : ObservationAssurance
  ledgers : String → Option String
  git : GitAccess frozen
  attemptId : String
  childSessionId : String
  now : Timestamp
  drawId : Nat → String

section Replay

variable (N : Type) [JsonNumber N] (hashing : Hashing) {frozen : FrozenObjects}

/-- The result, or `none` when the replay fails. -/
def replayObservationCaptures (input : ReplayInput frozen) : Option ObservationReplayResult :=
  match input.assurance.attempt? input.attemptId with
  | none => some noReplay
  | some attempt =>
      match attempt.observationCapability.filter (· != "") with
      | none => some noReplay
      | some capability =>
          match input.assurance.obligation? attempt.obligationId with
          | none => some noReplay
          | some obligation =>
              let reading := readObservationCaptures N
                (input.ledgers (hashing.observationCapabilityDigest capability))
              let context := ⟨attempt, obligation, input.childSessionId, input.now⟩
              (replayCaptures
                (fun index => validateAndMintCapture hashing input.git context
                  (input.drawId index))
                (attempt.observations.map observationReplayKey) 0 reading.captures).map
                fun (observations, drops) => replayResult reading.skipped observations drops

end Replay

/-! ### Persisting a replay -/

def lineageLost : Review.EnforcementError :=
  ⟨"REVIEW_ATTEMPT_UNAVAILABLE",
    "Observation replay lost its exact current child/attempt/obligation lineage."⟩

/-- The observations whose keys an attempt does not have yet. -/
def addedObservations (attempt : ObservingAttempt) (observations : List RepositoryObservation) :
    List RepositoryObservation :=
  observations.filter fun observation =>
    !(attempt.observations.map observationReplayKey).contains (observationReplayKey observation)

/-- The assurance with the observations on the attempt, and how many were new. -/
def applyReplayedObservations (assurance : ObservationAssurance) (attemptId : String)
    (childSessionId : String) (observations : List RepositoryObservation) :
    Except Review.EnforcementError (ObservationAssurance × Nat) :=
  match assurance.attempt? attemptId with
  | none => .error lineageLost
  | some attempt =>
      if attempt.status ≠ .created ∨ attempt.childSessionId ≠ some childSessionId ∨
          (assurance.obligation? attempt.obligationId).map (·.status) ≠ some .pending ∨
          assurance.capacityLock.isSome then .error lineageLost
      else
        let added := addedObservations attempt observations
        .ok
          ({ assurance with
              attempts := assurance.attempts.map fun current =>
                if current.attemptId = attemptId then current.observe added else current },
            added.length)

/-! ### What a minted observation rests on -/

/-- A capture agrees in everything with the frozen bytes it is about. -/
structure Authentic (hashing : Hashing) (frozen : FrozenObjects)
    (authority : Option FrozenRepositoryAuthority) (capture : RepositoryObservationCapture)
    (target : FrozenRepositoryRevisionTarget) (bytes : List UInt8) : Prop where
  resolved : resolveFrozenRevisionTarget authority capture.revision = some target
  object : capture.resolvedObjectSha = target.objectSha
  content : frozen target.objectSha capture.path = some bytes
  digest : capture.contentDigest = hashing.contentDigestOf bytes
  representation : capture.representation = classifyRepresentation bytes
  response : capture.responseDigest = hashing.responseDigestOf
    (buildObservationToolResponse capture.path capture.revision (classifyRepresentation bytes)
      (deliveredContent bytes))

section Minted

variable {hashing : Hashing} {frozen : FrozenObjects} {git : GitAccess frozen}
  {context : ReplayContext} {observationId : String} {capture : RepositoryObservationCapture}
  {observation : RepositoryObservation}

theorem captureMismatch_eq_none {bytes : List UInt8} :
    captureMismatch hashing capture bytes = none ↔
      capture.contentDigest = hashing.contentDigestOf bytes ∧
        capture.representation = classifyRepresentation bytes ∧
        capture.responseDigest = hashing.responseDigestOf
          (buildObservationToolResponse capture.path capture.revision
            (classifyRepresentation bytes) (deliveredContent bytes)) := by
  unfold captureMismatch
  constructor
  · intro hnone
    split at hnone
    · cases hnone
    rename_i hdigest
    split at hnone
    · cases hnone
    rename_i hrepresentation
    split at hnone
    · cases hnone
    rename_i hresponse
    rw [bne_iff_ne, not_not] at hdigest hresponse
    exact ⟨hdigest.symm, (Decidable.not_not.1 hrepresentation).symm, hresponse.symm⟩
  · rintro ⟨hdigest, hrepresentation, hresponse⟩
    rw [hdigest, hrepresentation, hresponse, bne_self_eq_false, bne_self_eq_false,
      if_neg Bool.false_ne_true, if_neg (not_not.2 rfl), if_neg Bool.false_ne_true]

theorem validateAndMintCapture_minted
    (hminted : validateAndMintCapture hashing git context observationId capture =
      .minted observation) :
    capture.capturedSessionId = context.childSessionId ∧
      ∃ target kind bytes,
        Authentic hashing frozen context.obligation.repositoryAuthority capture target bytes ∧
        acquireFrozenRepositoryContent git target capture.path = .ok (kind, bytes) ∧
        observation = mintObservation hashing context observationId capture target kind bytes := by
  unfold validateAndMintCapture at hminted
  split at hminted
  · cases hminted
  rename_i hsession
  refine ⟨by simpa using hsession, ?_⟩
  split at hminted
  · cases hminted
  rename_i target htarget
  split at hminted
  · cases hminted
  rename_i hobject
  split at hminted
  · cases hminted
  · cases hminted
  rename_i kind bytes hacquired
  split at hminted
  · cases hminted
  rename_i hagrees
  obtain ⟨hdigest, hrepresentation, hresponse⟩ := captureMismatch_eq_none.1 hagrees
  rw [bne_iff_ne, not_not] at hobject
  exact ⟨target, kind, bytes,
    ⟨htarget, hobject.symm, acquired_frozen hacquired, hdigest, hrepresentation, hresponse⟩, hacquired,
    (CaptureOutcome.minted.inj hminted).symm⟩

/-- An authentic capture of the session is minted wherever its bytes can be acquired. -/
theorem validateAndMintCapture_of_authentic {target : FrozenRepositoryRevisionTarget}
    {kind : AcquisitionKind} {bytes : List UInt8}
    (hsession : capture.capturedSessionId = context.childSessionId)
    (hauthentic : Authentic hashing frozen context.obligation.repositoryAuthority capture target
      bytes)
    (hacquired : acquireFrozenRepositoryContent git target capture.path = .ok (kind, bytes)) :
    validateAndMintCapture hashing git context observationId capture =
      .minted (mintObservation hashing context observationId capture target kind bytes) := by
  have hagrees : captureMismatch hashing capture bytes = none :=
    captureMismatch_eq_none.2
      ⟨hauthentic.digest, hauthentic.representation, hauthentic.response⟩
  unfold validateAndMintCapture
  rw [if_neg (by simp [hsession]), hauthentic.resolved]
  dsimp only
  rw [if_neg (by simp [hauthentic.object]), hacquired]
  dsimp only
  rw [hagrees]

end Minted

/-! ### What the replay of a list of captures answers -/

section Captures

variable {mint : Nat → RepositoryObservationCapture → CaptureOutcome} {existing : List String}
  {index : Nat} {captures : List RepositoryObservationCapture}
  {observations : List RepositoryObservation} {drops : List DroppedCapture}

theorem replayCaptures_minted
    (hreplay : replayCaptures mint existing index captures = some (observations, drops)) :
    ∀ observation ∈ observations, ∃ capture ∈ captures, ∃ position,
      mint position capture = .minted observation := by
  induction captures generalizing existing index observations drops with
  | nil =>
      cases hreplay
      exact List.forall_mem_nil _
  | cons capture rest ih =>
      have hlater : ∀ {existing drops observations},
          replayCaptures mint existing (index + 1) rest = some (observations, drops) →
          ∀ observation ∈ observations, ∃ found ∈ capture :: rest, ∃ position,
            mint position found = .minted observation := by
        intro existing drops observations hrest observation hmem
        obtain ⟨found, hfound, hminted⟩ := ih hrest observation hmem
        exact ⟨found, List.mem_cons_of_mem _ hfound, hminted⟩
      unfold replayCaptures at hreplay
      split at hreplay
      · cases hreplay
      · obtain ⟨⟨others, drops'⟩, hrest, heq⟩ := Option.map_eq_some_iff.1 hreplay
        cases heq
        exact hlater hrest
      · rename_i observation hminted
        split at hreplay
        · exact hlater hreplay
        · obtain ⟨⟨others, drops'⟩, hrest, heq⟩ := Option.map_eq_some_iff.1 hreplay
          cases heq
          exact List.forall_mem_cons.2
            ⟨⟨capture, List.mem_cons_self, index, hminted⟩, hlater hrest⟩

/-- The keys of what is answered are new, and different from each other. -/
theorem replayCaptures_keys
    (hreplay : replayCaptures mint existing index captures = some (observations, drops)) :
    (observations.map observationReplayKey).Nodup ∧
      ∀ observation ∈ observations, observationReplayKey observation ∉ existing := by
  induction captures generalizing existing index observations drops with
  | nil =>
      cases hreplay
      exact ⟨List.nodup_nil, List.forall_mem_nil _⟩
  | cons capture rest ih =>
      unfold replayCaptures at hreplay
      split at hreplay
      · cases hreplay
      · obtain ⟨⟨others, drops'⟩, hrest, heq⟩ := Option.map_eq_some_iff.1 hreplay
        cases heq
        exact ih hrest
      · rename_i observation hminted
        split at hreplay
        · exact ih hreplay
        · rename_i hnew
          obtain ⟨⟨others, drops'⟩, hrest, heq⟩ := Option.map_eq_some_iff.1 hreplay
          cases heq
          obtain ⟨hnodup, hfresh⟩ := ih hrest
          have hothers : observationReplayKey observation ∉ others.map observationReplayKey := by
            intro hmem
            obtain ⟨other, hother, hkey⟩ := List.mem_map.1 hmem
            exact hfresh other hother (hkey ▸ List.mem_cons_self)
          refine ⟨List.nodup_cons.2 ⟨hothers, hnodup⟩, ?_⟩
          refine List.forall_mem_cons.2 ⟨by simpa using hnew, fun other hother hmem => ?_⟩
          exact hfresh other hother (List.mem_cons_of_mem _ hmem)

/-- Whatever could be minted of a capture has its key among the old or the new ones. -/
theorem replayCaptures_covers
    (hreplay : replayCaptures mint existing index captures = some (observations, drops)) :
    ∀ capture ∈ captures, ∃ position, ∀ observation,
      mint position capture = .minted observation →
        observationReplayKey observation ∈ existing ∨
          observationReplayKey observation ∈ observations.map observationReplayKey := by
  induction captures generalizing existing index observations drops with
  | nil => exact List.forall_mem_nil _
  | cons capture rest ih =>
      unfold replayCaptures at hreplay
      split at hreplay
      · cases hreplay
      · rename_i reason hdropped
        obtain ⟨⟨others, drops'⟩, hrest, heq⟩ := Option.map_eq_some_iff.1 hreplay
        cases heq
        refine List.forall_mem_cons.2 ⟨⟨index, fun observation hminted => ?_⟩, ih hrest⟩
        rw [hdropped] at hminted
        cases hminted
      · rename_i found hfound
        have hself : ∀ {observation}, mint index capture = .minted observation →
            observation = found := fun hminted =>
          (CaptureOutcome.minted.inj (hfound.symm.trans hminted)).symm
        split at hreplay
        · rename_i hknown
          refine List.forall_mem_cons.2 ⟨⟨index, fun observation hminted => .inl ?_⟩, ih hreplay⟩
          rw [hself hminted]
          exact List.contains_iff_mem.1 hknown
        · obtain ⟨⟨others, drops'⟩, hrest, heq⟩ := Option.map_eq_some_iff.1 hreplay
          cases heq
          refine List.forall_mem_cons.2 ⟨⟨index, fun observation hminted => .inr ?_⟩, ?_⟩
          · rw [hself hminted]
            exact List.mem_cons_self
          · intro later hlater
            obtain ⟨position, hcovered⟩ := ih hrest later hlater
            refine ⟨position, fun observation hminted => ?_⟩
            rcases hcovered observation hminted with hold | hnew
            · rcases List.mem_cons.1 hold with hsame | hbefore
              · exact .inr (hsame ▸ List.mem_cons_self)
              · exact .inl hbefore
            · exact .inr (List.mem_cons_of_mem _ hnew)

/-- Where all keys are there already, nothing is answered. -/
theorem replayCaptures_eq_nil
    (hreplay : replayCaptures mint existing index captures = some (observations, drops))
    (hknown : ∀ capture ∈ captures, ∀ position observation,
      mint position capture = .minted observation → observationReplayKey observation ∈ existing) :
    observations = [] := by
  refine List.eq_nil_iff_forall_not_mem.2 fun observation hmem => ?_
  obtain ⟨capture, hcapture, position, hminted⟩ := replayCaptures_minted hreplay observation hmem
  exact (replayCaptures_keys hreplay).2 observation hmem
    (hknown capture hcapture position observation hminted)

end Captures

/-- A replay that answers observations found the attempt, its capability and its obligation,
and went through the captures of that capability. -/
structure Replayed (N : Type) [JsonNumber N] (hashing : Hashing) {frozen : FrozenObjects}
    (input : ReplayInput frozen) (observations : List RepositoryObservation) where
  attempt : ObservingAttempt
  capability : String
  obligation : RepositoryObligation
  drops : List DroppedCapture
  attempt_found : input.assurance.attempt? input.attemptId = some attempt
  capability_found : attempt.observationCapability = some capability
  obligation_found : input.assurance.obligation? attempt.obligationId = some obligation
  replayed : replayCaptures
    (fun index => validateAndMintCapture hashing input.git
      ⟨attempt, obligation, input.childSessionId, input.now⟩ (input.drawId index))
    (attempt.observations.map observationReplayKey) 0
    (readObservationCaptures N
      (input.ledgers (hashing.observationCapabilityDigest capability))).captures =
    some (observations, drops)

theorem replayObservationCaptures_some {N : Type} [JsonNumber N] {hashing : Hashing}
    {frozen : FrozenObjects} {input : ReplayInput frozen} {result : ObservationReplayResult}
    (hresult : replayObservationCaptures N hashing input = some result) :
    result.observations = [] ∨ Nonempty (Replayed N hashing input result.observations) := by
  unfold replayObservationCaptures at hresult
  split at hresult
  · obtain rfl := Option.some_inj.1 hresult
    exact .inl rfl
  rename_i attempt hattempt
  split at hresult
  · obtain rfl := Option.some_inj.1 hresult
    exact .inl rfl
  rename_i capability hcapability
  split at hresult
  · obtain rfl := Option.some_inj.1 hresult
    exact .inl rfl
  rename_i obligation hobligation
  obtain ⟨⟨observations, drops⟩, hreplayed, rfl⟩ := Option.map_eq_some_iff.1 hresult
  exact .inr ⟨⟨attempt, capability, obligation, drops, hattempt,
    (Option.filter_eq_some_iff.1 hcapability).1, hobligation, hreplayed⟩⟩

end GovernedRuntime.Observation
