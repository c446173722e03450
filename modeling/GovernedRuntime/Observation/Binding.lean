/-
The authorization of the repository locations that findings cite
(`src/integration/review/observations/observation-binding.ts`): a location is evidence only
through an observation of the attempt, and its lines only within what was observed.
-/
import GovernedRuntime.Observation.Invariant

namespace GovernedRuntime.Observation

open GovernedRuntime.Audit
open GovernedRuntime.Library

/-! ### Citations -/

/-- A cited location, as the schema of findings accepts it. -/
structure RepositoryLocation where
  path : String
  revision : ReviewRevision
  line : Option Nat
  endLine : Option Nat
  line_pos : ∀ number ∈ line, 0 < number
  endLine_pos : ∀ number ∈ endLine, 0 < number
  ordered : ∀ last ∈ endLine, ∃ first ∈ line, first ≤ last

inductive EvidenceLocationFailure
  | noAttempt (path : String)
  | revisionUnavailable (revision : ReviewRevision)
  | unobserved (path : String) (revision : ReviewRevision)
  | binaryLineCitation (path : String) (revision : ReviewRevision)
  | lineOutOfRange (path : String) (revision : ReviewRevision) (line lineCount : Nat)
  | endLineOutOfRange (path : String) (revision : ReviewRevision) (endLine lineCount : Nat)
deriving DecidableEq, Repr

inductive EvidenceBindingResult
  | ok
  | evidenceUnavailable (failingIndexes : List Nat) (failures : List EvidenceLocationFailure)
deriving DecidableEq, Repr

def repositoryIdentityValue : ReviewRepositoryIdentity → Json Nat
  | .repository host owner name =>
      .object [("host", .string host), ("owner", .string owner), ("name", .string name)]
  | .localRepository rootCommitDigest =>
      .object [("kind", .string "local"), ("rootCommitDigest", .string rootCommitDigest)]

def repositoryIdentityEqual (a b : ReviewRepositoryIdentity) : Bool :=
  canonicalJsonStringify (repositoryIdentityValue a) ==
    canonicalJsonStringify (repositoryIdentityValue b)

/-- What the citations of a finding are authorized against. -/
structure BindingInput where
  obligation : RepositoryObligation
  attempt : Option ObservingAttempt
  childSessionId : String

def observationMatchesTarget (observation : RepositoryObservation) (input : BindingInput)
    (attempt : ObservingAttempt) (location : RepositoryLocation)
    (target : FrozenRepositoryRevisionTarget) : Bool :=
  observation.obligationId == input.obligation.obligationId &&
    observation.attemptId == attempt.attemptId &&
    observation.observedBySessionId == input.childSessionId &&
    observation.path == location.path &&
    observation.revision == location.revision &&
    observation.resolvedObjectKind == target.kind &&
    observation.resolvedObjectSha == target.objectSha &&
    repositoryIdentityEqual observation.repositoryIdentity target.repositoryIdentity

/-- Lines are admissible against texts only, and within their lines. -/
def validateLineCitation (observation : RepositoryObservation) (location : RepositoryLocation) :
    Option EvidenceLocationFailure :=
  if location.line.isNone && location.endLine.isNone then none
  else
    match observation.representation with
    | .binary => some (.binaryLineCitation location.path location.revision)
    | .utf8Text lineCount =>
        match location.line.filter (fun line => line < 1 || lineCount < line) with
        | some line => some (.lineOutOfRange location.path location.revision line lineCount)
        | none =>
            (location.endLine.filter (lineCount < ·)).map
              (.endLineOutOfRange location.path location.revision · lineCount)

def evaluateLocation (input : BindingInput) (location : RepositoryLocation) :
    Option EvidenceLocationFailure :=
  match input.attempt with
  | none => some (.noAttempt location.path)
  | some attempt =>
      match resolveFrozenRevisionTarget input.obligation.repositoryAuthority location.revision with
      | none => some (.revisionUnavailable location.revision)
      | some target =>
          match attempt.observations.find? fun observation =>
            observationMatchesTarget observation input attempt location target with
          | none => some (.unobserved location.path location.revision)
          | some observation => validateLineCitation observation location

/-- Each finding fails with its first location that does; `findings` holds the locations each
of them cites. -/
def bindRepositoryEvidenceLocations (input : BindingInput)
    (findings : List (List RepositoryLocation)) : EvidenceBindingResult :=
  let failing := findings.zipIdx.filterMap fun (locations, index) =>
    (locations.findSome? (evaluateLocation input)).map (index, ·)
  if failing.isEmpty then .ok
  else .evidenceUnavailable (failing.map Prod.fst) (failing.map Prod.snd)

/-! ### What an answer without failures says -/

theorem eq_of_repositoryIdentityEqual {a b : ReviewRepositoryIdentity}
    (hequal : repositoryIdentityEqual a b = true) : a = b := by
  have hdistinct : ∀ identity, (repositoryIdentityValue identity).distinct = true := by
    rintro (_ | _) <;> rfl
  have hform := (canonicalJsonStringify_eq_iff (hdistinct a) (hdistinct b)).1 (beq_iff_eq.1 hequal)
  have hlength : ∀ fields : List (String × Json Nat),
      ((arrange (ownFields fields)).map (Prod.map id canonicalForm)).length =
        (ownFields fields).length := by
    intro fields
    rw [List.length_map, (arrange_perm _).length_eq]
  rcases a with ⟨host, owner, name⟩ | ⟨rootCommitDigest⟩ <;>
    rcases b with ⟨host', owner', name'⟩ | ⟨rootCommitDigest'⟩
  · rw [repositoryIdentityValue, repositoryIdentityValue,
      canonicalForm_object_eq_iff (by rfl) (by simp [keysOf]) (by simp [keysOf, prototypeKey])]
      at hform
    cases hform
    rfl
  · rw [repositoryIdentityValue, repositoryIdentityValue, canonicalForm_object,
      canonicalForm_object] at hform
    have hcount := congrArg List.length (Json.object.inj hform)
    rw [hlength, hlength] at hcount
    cases hcount
  · rw [repositoryIdentityValue, repositoryIdentityValue, canonicalForm_object,
      canonicalForm_object] at hform
    have hcount := congrArg List.length (Json.object.inj hform)
    rw [hlength, hlength] at hcount
    cases hcount
  · rw [repositoryIdentityValue, repositoryIdentityValue,
      canonicalForm_object_eq_iff (by rfl) (by simp [keysOf]) (by simp [keysOf, prototypeKey])]
      at hform
    cases hform
    rfl

/-- An observation of exactly the citation's target. -/
structure MatchesTarget (observation : RepositoryObservation) (input : BindingInput)
    (attempt : ObservingAttempt) (location : RepositoryLocation)
    (target : FrozenRepositoryRevisionTarget) : Prop where
  obligationId : observation.obligationId = input.obligation.obligationId
  attemptId : observation.attemptId = attempt.attemptId
  session : observation.observedBySessionId = input.childSessionId
  path : observation.path = location.path
  revision : observation.revision = location.revision
  target : (⟨observation.resolvedObjectKind, observation.repositoryIdentity,
    observation.resolvedObjectSha⟩ : FrozenRepositoryRevisionTarget) = target

theorem matchesTarget_of_observationMatchesTarget {observation : RepositoryObservation}
    {input : BindingInput} {attempt : ObservingAttempt} {location : RepositoryLocation}
    {target : FrozenRepositoryRevisionTarget}
    (hmatches : observationMatchesTarget observation input attempt location target = true) :
    MatchesTarget observation input attempt location target := by
  simp only [observationMatchesTarget, Bool.and_eq_true, beq_iff_eq] at hmatches
  obtain ⟨⟨⟨⟨⟨⟨⟨hobligation, hattempt⟩, hsession⟩, hpath⟩, hrevision⟩, hkind⟩, hsha⟩, hidentity⟩ :=
    hmatches
  refine ⟨hobligation, hattempt, hsession, hpath, hrevision, ?_⟩
  rw [hkind, hsha, eq_of_repositoryIdentityEqual hidentity]

/-- The lines a citation names are lines of the observed text. -/
def LinesWithin (observation : RepositoryObservation) (location : RepositoryLocation) : Prop :=
  ∀ number, number ∈ location.line ∨ number ∈ location.endLine →
    ∃ lineCount, observation.representation = .utf8Text lineCount ∧
      1 ≤ number ∧ number ≤ lineCount

theorem linesWithin_of_validateLineCitation {observation : RepositoryObservation}
    {location : RepositoryLocation} (hvalid : validateLineCitation observation location = none) :
    LinesWithin observation location := by
  unfold validateLineCitation at hvalid
  split at hvalid
  · rename_i hnone
    rw [Bool.and_eq_true, Option.isNone_iff_eq_none, Option.isNone_iff_eq_none] at hnone
    rintro number (hline | hend)
    · rw [hnone.1] at hline
      cases hline
    · rw [hnone.2] at hend
      cases hend
  · split at hvalid
    · cases hvalid
    rename_i lineCount htext
    split at hvalid
    · cases hvalid
    rename_i hline
    rw [Option.map_eq_none_iff, Option.filter_eq_none_iff] at hvalid
    rw [Option.filter_eq_none_iff] at hline
    rintro number (hcited | hcited)
    · have hwithin := hline number hcited
      simp only [Bool.or_eq_true, decide_eq_true_eq, not_or, Nat.not_lt] at hwithin
      exact ⟨lineCount, htext, location.line_pos number hcited, hwithin.2⟩
    · have hwithin := hvalid number hcited
      rw [decide_eq_true_eq, Nat.not_lt] at hwithin
      exact ⟨lineCount, htext, location.endLine_pos number hcited, hwithin⟩

theorem evaluateLocation_eq_none {input : BindingInput} {location : RepositoryLocation}
    (hevaluated : evaluateLocation input location = none) :
    ∃ attempt target observation, input.attempt = some attempt ∧
      resolveFrozenRevisionTarget input.obligation.repositoryAuthority location.revision =
        some target ∧
      observation ∈ attempt.observations ∧
      MatchesTarget observation input attempt location target ∧
      LinesWithin observation location := by
  unfold evaluateLocation at hevaluated
  split at hevaluated
  · cases hevaluated
  rename_i attempt hattempt
  split at hevaluated
  · cases hevaluated
  rename_i target htarget
  split at hevaluated
  · cases hevaluated
  rename_i observation hfound
  exact ⟨attempt, target, observation, hattempt, htarget, List.mem_of_find?_eq_some hfound,
    matchesTarget_of_observationMatchesTarget (@List.find?_some _ (fun observation =>
      observationMatchesTarget observation input attempt location target) _ _ hfound),
    linesWithin_of_validateLineCitation hevaluated⟩

theorem evaluateLocation_of_ok {input : BindingInput} {findings : List (List RepositoryLocation)}
    (hok : bindRepositoryEvidenceLocations input findings = .ok) :
    ∀ locations ∈ findings, ∀ location ∈ locations, evaluateLocation input location = none := by
  intro locations hfinding location hlocation
  unfold bindRepositoryEvidenceLocations at hok
  dsimp only at hok
  split at hok
  · rename_i hempty
    rw [List.isEmpty_iff, List.filterMap_eq_nil_iff] at hempty
    obtain ⟨index, hindex⟩ := List.getElem?_of_mem hfinding
    have hnone := hempty (locations, index) (List.mk_mem_zipIdx_iff_getElem?.2 hindex)
    rw [Option.map_eq_none_iff, List.findSome?_eq_none_iff] at hnone
    exact hnone location hlocation
  · cases hok

/-! ### Every run -/

section Runs

variable {N : Type} [JsonNumber N] {hashing : Hashing} {frozen : FrozenObjects}
  {s t u : ObservationSystem frozen}

theorem ObservationInvariant.reaches (hstart : s.Start)
    (hreach : Reaches (observationStep N hashing) FreshAttempts s t) :
    ObservationInvariant N hashing t := by
  have hkeeps : ∀ {s t : ObservationSystem frozen} {action : ObservationAction frozen},
      ObservationInvariant N hashing s → FreshAttempts s action →
      observationStep N hashing s action = some t → ObservationInvariant N hashing t :=
    fun hinv hfresh hstep => hinv.step hfresh hstep
  exact hreach.invariant hkeeps hstart.invariant

theorem SystemFollows.reaches
    (hreach : Reaches (observationStep N hashing) FreshAttempts s t) : SystemFollows N s t := by
  have hkeeps : ∀ {t u : ObservationSystem frozen} {action : ObservationAction frozen},
      SystemFollows N s t → FreshAttempts t action →
      observationStep N hashing t action = some u → SystemFollows N s u :=
    fun hfollows _ hstep => hfollows.trans (observationStep_follows hstep)
  exact hreach.invariant hkeeps (.refl s)

/-- The lines a citation names are lines of the frozen text it cites. -/
def LinesOfFrozen (frozen : FrozenObjects) (target : FrozenRepositoryRevisionTarget)
    (location : RepositoryLocation) : Prop :=
  ∀ number, number ∈ location.line ∨ number ∈ location.endLine →
    ∃ bytes content, frozen target.objectSha location.path = some bytes ∧
      decodeUtf8 bytes = some content ∧ 1 ≤ number ∧ number ≤ lineCountOfUtf8 content

theorem linesOfFrozen_of_backed {attempt : ObservingAttempt}
    {observation : RepositoryObservation} {input : BindingInput} {location : RepositoryLocation}
    {target : FrozenRepositoryRevisionTarget} (hbacked : Backed N hashing s attempt observation)
    (hmatches : MatchesTarget observation input attempt location target)
    (hlines : LinesWithin observation location) : LinesOfFrozen frozen target location := by
  intro number hcited
  obtain ⟨lineCount, htext, hfirst, hlast⟩ := hlines number hcited
  obtain ⟨_, _, capture, found, bytes, hcaptured, hdescribes⟩ := hbacked
  have hsha : found.objectSha = target.objectSha := by
    rw [← hmatches.target]
    exact hdescribes.objectSha.symm
  have hcontent : frozen target.objectSha location.path = some bytes := by
    rw [← hsha, ← hmatches.path, hdescribes.path]
    exact hcaptured.authentic.content
  have hobserved : observedRepresentation bytes = .utf8Text lineCount :=
    hdescribes.representation.symm.trans htext
  unfold observedRepresentation at hobserved
  split at hobserved
  · rename_i content hdecoded
    obtain rfl := ObservedRepresentation.utf8Text.inj hobserved
    exact ⟨bytes, content, hcontent, hdecoded, hfirst, hlast⟩
  · cases hobserved

/-- In every run of replays and persisting writes, on any ledgers: the observations of an
attempt are different, and each of them is backed by a capture of the attempt's child that
is authentic for the frozen revision; a replay that was persisted adds nothing when it is
persisted or made again; and findings are authorized only where every location they cite
has an observation of its exact target, whose lines are those of the frozen text. -/
theorem observation_authority (N : Type) [JsonNumber N] (hashing : Hashing)
    {frozen : FrozenObjects} {s t : ObservationSystem frozen} (hstart : s.Start)
    (hreach : Reaches (observationStep N hashing) FreshAttempts s t) :
    (∀ attempt ∈ t.assurance.attempts,
      (attempt.observations.map fun observation =>
        (observation.path, observation.revision, observation.contentDigest)).Nodup ∧
      ∀ observation ∈ attempt.observations, Backed N hashing t attempt observation) ∧
    (∀ replay input u v, t.replays[replay]? = some input →
      observationStep N hashing t (.persist replay) = some u →
      Reaches (observationStep N hashing) FreshAttempts u v →
        (∀ w, observationStep N hashing v (.persist replay) = some w → w = v) ∧
        (∀ later result, later.assurance = v.assurance → ReplaysAgain N input later →
          replayObservationCaptures N hashing later = some result → result.observations = [])) ∧
    (∀ (input : BindingInput) (findings : List (List RepositoryLocation)),
      (∀ attempt ∈ input.attempt, attempt ∈ t.assurance.attempts) →
      bindRepositoryEvidenceLocations input findings = .ok →
      ∀ locations ∈ findings, ∀ location ∈ locations, ∃ attempt target observation,
        input.attempt = some attempt ∧
        resolveFrozenRevisionTarget input.obligation.repositoryAuthority location.revision =
          some target ∧
        observation ∈ attempt.observations ∧
        MatchesTarget observation input attempt location target ∧
        Backed N hashing t attempt observation ∧ LinesOfFrozen frozen target location) := by
  have hinv : ObservationInvariant N hashing t := .reaches hstart hreach
  refine ⟨fun attempt hmem => ⟨?_, hinv.backed attempt hmem⟩, ?_, ?_⟩
  · -- a key spells the three out
    have hkeys := hinv.distinct attempt hmem
    have hspelled : attempt.observations.map observationReplayKey =
        (attempt.observations.map fun observation =>
          (observation.path, observation.revision, observation.contentDigest)).map
          fun (path, revision, contentDigest) =>
            path ++ "\x00" ++ revision.name ++ "\x00" ++ contentDigest := by
      rw [List.map_map]
      rfl
    rw [hspelled] at hkeys
    exact hkeys.of_map _
  · intro replay input u v hinput hpersist hlater
    obtain ⟨found, hfound, ⟨persisted⟩⟩ := persist_some hpersist
    obtain rfl : found = input := Option.some_inj.1 (hfound.symm.trans hinput)
    have hknown := hinv.replays found (List.mem_of_getElem? hinput)
    have hfollows : SystemFollows N u v := .reaches hlater
    constructor
    · intro w hagain
      obtain ⟨other, hother, ⟨again⟩⟩ := persist_some hagain
      have hprefix : t.replays <+: v.replays :=
        (observationStep_follows hpersist).replays.trans hfollows.replays
      have hindex : v.replays[replay]? = some found := by
        obtain ⟨more, hmore⟩ := hprefix
        rw [← hmore, List.getElem?_append_left (List.getElem?_eq_some_iff.1 hinput).1, hinput]
      obtain rfl : other = found := Option.some_inj.1 (hother.symm.trans hindex)
      exact persisted.persist_again hfollows.assurance again
    · intro later result hassurance hagain hresult
      exact persisted.again hknown hagain (hassurance ▸ hfollows.assurance) hresult
  · intro input findings hattempt hok locations hfinding location hlocation
    obtain ⟨attempt, target, observation, hinput, htarget, hmem, hmatches, hlines⟩ :=
      evaluateLocation_eq_none (evaluateLocation_of_ok hok locations hfinding location hlocation)
    have hbacked := hinv.backed attempt (hattempt attempt hinput) observation hmem
    exact ⟨attempt, target, observation, hinput, htarget, hmem, hmatches, hbacked,
      linesOfFrozen_of_backed hbacked hmatches hlines⟩

end Runs

/-! ### One file observed -/

def sampleSha : String := String.ofList (List.replicate 40 'a')

def sampleDigest : String := String.ofList (List.replicate 64 '0')

def sampleHashing : Hashing := ⟨fun _ => sampleDigest, fun _ => sampleDigest⟩

/-- One commit with one file of one line. -/
def sampleFrozen : FrozenObjects := fun objectSha path =>
  if objectSha = sampleSha ∧ path = "a.ts" then some [97, 10] else none

def sampleRead (objectSha path : String) : Except AcquisitionFailure (List UInt8) :=
  match sampleFrozen objectSha path with
  | some bytes => .ok bytes
  | none => .error .frozenRepositoryError

theorem sampleRead_frozen {objectSha path : String} {bytes : List UInt8}
    (hread : sampleRead objectSha path = .ok bytes) :
    sampleFrozen objectSha path = some bytes := by
  unfold sampleRead at hread
  split at hread
  · rename_i found hfound
    rw [hfound, Except.ok.inj hread]
  · cases hread

def sampleGit : GitAccess sampleFrozen where
  frozenObjectExists _ := true
  readFrozenBlob := sampleRead
  readRemoteCommitBlob _ := sampleRead
  blob_frozen := sampleRead_frozen
  remote_frozen := sampleRead_frozen

def sampleObligation : RepositoryObligation where
  obligationId := "7b1e8a52-6c1d-4f0e-9a75-2f1c3d4e5f60"
  status := .pending
  repositoryAuthority := some (.context ⟨.commit, .localRepository sampleDigest, sampleSha⟩)

def sampleAttempt : Review.ReviewAttempt where
  attemptId := "0b8f9a52-6c1d-4f0e-9a75-2f1c3d4e5f60"
  obligationId := sampleObligation.obligationId
  obligationType := .plan
  subjectDigest := "d1"
  ordinal := 1
  childSessionId := none
  status := .created
  origin := .initial
  rejectionReason := none
  repositoryDiscovery := .repository "discovery"
  observationCapability := some "fgc_0"
  createdAt := "2024-05-01T10:00:00.000Z"
  completedAt := none

def sampleFields : List (String × Json Nat) :=
  [("capabilityDigest", .string sampleDigest), ("capturedSessionId", .string "child"),
    ("path", .string "a.ts"), ("revision", .string "head"),
    ("resolvedObjectSha", .string sampleSha),
    ("repositoryIdentityDigest", .string ("sha256:" ++ sampleDigest)),
    ("contentDigest", .string ("sha256:" ++ sampleDigest)), ("byteLength", .number 2),
    ("representation", .string "utf8_text"), ("acquisitionKind", .string "local_git_object"),
    ("responseDigest", .string ("sha256:" ++ sampleDigest)),
    ("capturedAt", .string "2024-05-01T10:00:00.000Z")]

/-- The line the observation tool writes when the child reads the file. -/
def sampleLine : String := (Json.object sampleFields).stringify

def sampleCapture : RepositoryObservationCapture where
  capabilityDigest := sampleDigest
  capturedSessionId := "child"
  path := "a.ts"
  revision := .head
  resolvedObjectSha := sampleSha
  repositoryIdentityDigest := "sha256:" ++ sampleDigest
  contentDigest := "sha256:" ++ sampleDigest
  byteLength := 2
  representation := .utf8Text
  acquisitionKind := .localGitObject
  responseDigest := "sha256:" ++ sampleDigest
  capturedAt := "2024-05-01T10:00:00.000Z"

theorem sampleLines :
    ledgerLines Nat (appendLedgerLine none sampleLine) = [.capture sampleCapture, .blank] := by
  have hparse : safeParseCapture (Json.object sampleFields).printed = some sampleCapture := by
    decide +kernel
  exact ledgerLines_stringify (by decide +kernel) hparse

/-- The attempt once its child is bound. -/
def sampleBound : ObservingAttempt :=
  ⟨{ sampleAttempt with childSessionId := some "child" }, []⟩

def sampleAssurance : ObservationAssurance := ⟨[sampleObligation], [sampleBound], none⟩

def sampleLedgers : String → Option String := fun digest =>
  if digest = sampleDigest then some (appendLedgerLine none sampleLine) else none

def sampleInput : ReplayInput sampleFrozen where
  assurance := sampleAssurance
  ledgers := sampleLedgers
  git := sampleGit
  attemptId := sampleAttempt.attemptId
  childSessionId := "child"
  now := "2024-05-01T10:02:00.000Z"
  drawId _ := "5f2c9d1e-3a4b-4c5d-8e6f-7a8b9c0d1e2f"

def sampleObservation : RepositoryObservation :=
  mintObservation sampleHashing ⟨sampleBound, sampleObligation, "child", sampleInput.now⟩
    (sampleInput.drawId 0) sampleCapture ⟨.commit, .localRepository sampleDigest, sampleSha⟩
    .localGitObject [97, 10]

def sampleStart : ObservationSystem sampleFrozen := ⟨⟨[], [], none⟩, fun _ => none, [], []⟩

def sampleReplayed : ObservationSystem sampleFrozen :=
  ⟨sampleAssurance, sampleLedgers, [sampleAssurance], [sampleInput]⟩

def samplePersisted : ObservationSystem sampleFrozen :=
  { sampleReplayed with
    assurance :=
      { sampleAssurance with attempts := [sampleBound.observe [sampleObservation]] } }

/-- The child is bound and reads the file, and a replay goes through what it has left. -/
def sampleActions : List (ObservationAction sampleFrozen) :=
  [.createObligation sampleObligation, .createAttempt sampleAttempt,
    .updateAttemptStatus sampleAttempt.attemptId .created sampleAttempt.createdAt (some "child")
      none,
    .appendLine sampleDigest sampleLine, .resolveSession,
    .replay 0 sampleGit sampleInput.attemptId sampleInput.childSessionId sampleInput.now
      sampleInput.drawId]

theorem sampleMint :
    validateAndMintCapture sampleHashing sampleGit
      ⟨sampleBound, sampleObligation, "child", sampleInput.now⟩ (sampleInput.drawId 0)
      sampleCapture = .minted sampleObservation := by
  have hauthentic : Authentic sampleHashing sampleFrozen sampleObligation.repositoryAuthority
      sampleCapture ⟨.commit, .localRepository sampleDigest, sampleSha⟩ [97, 10] :=
    ⟨rfl, rfl, if_pos ⟨rfl, rfl⟩, rfl, by decide +kernel, rfl⟩
  have hfrozen : sampleFrozen sampleSha "a.ts" = some [97, 10] := if_pos ⟨rfl, rfl⟩
  have hacquired : acquireFrozenRepositoryContent sampleGit
      ⟨.commit, .localRepository sampleDigest, sampleSha⟩ sampleCapture.path =
        .ok (.localGitObject, [97, 10]) := by
    change (sampleRead sampleSha "a.ts").map _ = _
    rw [sampleRead, hfrozen]
    rfl
  exact validateAndMintCapture_of_authentic rfl hauthentic hacquired

theorem sampleReplay :
    (replayObservationCaptures Nat sampleHashing sampleInput).map (·.observations) =
      some [sampleObservation] := by
  have hfile : sampleLedgers (sampleHashing.observationCapabilityDigest "fgc_0") =
      some (appendLedgerLine none sampleLine) := if_pos rfl
  have hcaptures : readObservationCaptures Nat
      (sampleLedgers (sampleHashing.observationCapabilityDigest "fgc_0")) =
        ⟨[sampleCapture], 0⟩ := by
    rw [readObservationCaptures, hfile, Option.getD_some, sampleLines]
    rfl
  have hattempt : sampleInput.assurance.attempt? sampleInput.attemptId = some sampleBound := by
    decide +kernel
  have hcapability : sampleBound.observationCapability.filter (· != "") = some "fgc_0" := by
    decide +kernel
  have hobligation : sampleInput.assurance.obligation? sampleBound.obligationId =
      some sampleObligation := by decide +kernel
  unfold replayObservationCaptures
  simp only [hattempt, hcapability, hobligation]
  change (Option.map _ (replayCaptures _ [] 0 (readObservationCaptures Nat
    (sampleLedgers (sampleHashing.observationCapabilityDigest "fgc_0"))).captures)).map _ = _
  rw [hcaptures]
  simp only [replayCaptures]
  rw [show validateAndMintCapture sampleHashing sampleInput.git
    ⟨sampleBound, sampleObligation, sampleInput.childSessionId, sampleInput.now⟩
    (sampleInput.drawId 0) sampleCapture = _ from sampleMint]
  rfl

theorem samplePersist :
    observationStep Nat sampleHashing sampleReplayed (.persist 0) = some samplePersisted := by
  obtain ⟨result, hresult, hobservations⟩ := Option.map_eq_some_iff.1 sampleReplay
  have hwritten : applyReplayedObservations sampleReplayed.assurance sampleInput.attemptId
      sampleInput.childSessionId result.observations = .ok (samplePersisted.assurance, 1) := by
    rw [hobservations]
    rfl
  have hinput : sampleReplayed.replays[0]? = some sampleInput := rfl
  have hfound : result.observations ≠ [] := by
    rw [hobservations]
    exact List.cons_ne_nil _ _
  have hpersist := persist_eq hinput hresult hfound hwritten
  have hsame : ({ sampleReplayed with assurance := samplePersisted.assurance } :
      ObservationSystem sampleFrozen) = samplePersisted := rfl
  rw [hsame] at hpersist
  exact hpersist

/-- Whether an attempt that an action makes is fresh. -/
def freshAttempt (s : ObservationSystem sampleFrozen) : ObservationAction sampleFrozen → Bool
  | .createAttempt attempt =>
      !(s.assurance.attempts.map (·.attemptId)).contains attempt.attemptId
  | _ => true

theorem freshAttempts_of_freshAttempt (s : ObservationSystem sampleFrozen)
    (action : ObservationAction sampleFrozen) (hpassed : freshAttempt s action = true) :
    FreshAttempts s action := by
  unfold FreshAttempts
  split
  · simpa [freshAttempt] using hpassed
  · trivial

theorem sampleReplayed_reaches :
    Reaches (observationStep Nat sampleHashing) FreshAttempts sampleStart sampleReplayed := by
  have htaken : runSchedule
      (fun s action =>
        if freshAttempt s action = true then observationStep Nat sampleHashing s action else none)
      sampleStart sampleActions = some sampleReplayed := rfl
  exact reaches_of_runSchedule freshAttempts_of_freshAttempt htaken

theorem samplePersisted_reaches :
    Reaches (observationStep Nat sampleHashing) FreshAttempts sampleStart samplePersisted := by
  have hpersist : FreshAttempts sampleReplayed (.persist 0) := trivial
  exact sampleReplayed_reaches.tail hpersist samplePersist

/-- The line of the file, as a finding cites it. -/
def sampleLocation : RepositoryLocation where
  path := "a.ts"
  revision := .head
  line := some 1
  endLine := none
  line_pos := by simp
  endLine_pos := by simp
  ordered := by simp

def sampleBinding : BindingInput :=
  ⟨sampleObligation, some (sampleBound.observe [sampleObservation]), "child"⟩

theorem sampleBinding_ok :
    bindRepositoryEvidenceLocations sampleBinding [[sampleLocation]] = .ok := by
  decide +kernel

theorem observation_authority_sample :
    (∀ attempt ∈ samplePersisted.assurance.attempts, attempt.observations = [sampleObservation]) ∧
    (∀ attempt ∈ samplePersisted.assurance.attempts,
      (attempt.observations.map fun observation =>
        (observation.path, observation.revision, observation.contentDigest)).Nodup ∧
      ∀ observation ∈ attempt.observations,
        Backed Nat sampleHashing samplePersisted attempt observation) ∧
    (∀ w, observationStep Nat sampleHashing samplePersisted (.persist 0) = some w →
      w = samplePersisted) ∧
    (∀ later result, later.assurance = samplePersisted.assurance →
      ReplaysAgain Nat sampleInput later →
      replayObservationCaptures Nat sampleHashing later = some result →
        result.observations = []) ∧
    LinesOfFrozen sampleFrozen ⟨.commit, .localRepository sampleDigest, sampleSha⟩
      sampleLocation := by
  have hstart : sampleStart.Start := ⟨rfl, rfl, rfl⟩
  obtain ⟨hobserved, -, hbound⟩ :=
    observation_authority Nat sampleHashing hstart samplePersisted_reaches
  obtain ⟨hpersist, hreplay⟩ := (observation_authority Nat sampleHashing hstart
    sampleReplayed_reaches).2.1 0 sampleInput _ _ rfl samplePersist (.refl _)
  have hmine : ∀ attempt ∈ sampleBinding.attempt,
      attempt ∈ samplePersisted.assurance.attempts := by
    intro attempt hattempt
    obtain rfl := Option.some_inj.1 hattempt
    exact List.mem_singleton_self _
  obtain ⟨_, _, _, -, htarget, -, -, -, hlines⟩ :=
    hbound sampleBinding _ hmine sampleBinding_ok _ (List.mem_singleton_self _) _
      (List.mem_singleton_self _)
  obtain rfl := Option.some_inj.1 htarget
  exact ⟨List.forall_mem_singleton.2 rfl, hobserved, hpersist, hreplay, hlines⟩

end GovernedRuntime.Observation
