/-
Frozen repository revisions, the captures a reviewer session leaves behind, and the
append-only ledger they are read from (`src/state/evidence-review-authority.ts`,
`src/adapters/persistence-observation-ledger.ts`).
-/
import GovernedRuntime.Audit.Trail
import GovernedRuntime.State.RepositoryPath

namespace GovernedRuntime.Observation

open GovernedRuntime.Activation (isHex isNonEmpty isSha256Hex trim)
open GovernedRuntime.Audit
open GovernedRuntime.Library
open GovernedRuntime.State
open Schema (requiredField)

/-! ### Frozen revisions -/

inductive ReviewRevision
  | base
  | head
deriving DecidableEq, Repr

def ReviewRevision.name : ReviewRevision → String
  | .base => "base"
  | .head => "head"

/-- A hosted repository, or one that is known by its root commits. -/
inductive ReviewRepositoryIdentity
  | repository (host owner name : String)
  | localRepository (rootCommitDigest : String)
deriving DecidableEq, Repr

def ReviewRepositoryIdentity.isLocal : ReviewRepositoryIdentity → Bool
  | .repository .. => false
  | .localRepository _ => true

inductive FrozenTargetKind
  | commit
  | tree
deriving DecidableEq, Repr

structure FrozenRepositoryRevisionTarget where
  kind : FrozenTargetKind
  repositoryIdentity : ReviewRepositoryIdentity
  objectSha : String
deriving DecidableEq, Repr

inductive FrozenRepositoryAuthority
  | candidatePair (base head : FrozenRepositoryRevisionTarget)
  | forkPair (base head : FrozenRepositoryRevisionTarget)
  | context (context : FrozenRepositoryRevisionTarget)
deriving DecidableEq, Repr

def resolveFrozenRevisionTarget (authority : Option FrozenRepositoryAuthority)
    (revision : ReviewRevision) : Option FrozenRepositoryRevisionTarget :=
  match authority, revision with
  | some (.candidatePair base _), .base | some (.forkPair base _), .base => some base
  | some (.candidatePair _ head), .head | some (.forkPair _ head), .head => some head
  | some (.context context), .head => some context
  | some (.context _), .base | none, _ => none

/-! ### Captures -/

inductive Representation
  | utf8Text
  | binary
deriving DecidableEq, Repr

def Representation.name : Representation → String
  | .utf8Text => "utf8_text"
  | .binary => "binary"

inductive AcquisitionKind
  | localGitObject
  | remoteCommitBlob
deriving DecidableEq, Repr

/-- What a session has been shown of a file, as the session's tool call recorded it. -/
structure RepositoryObservationCapture where
  capabilityDigest : String
  capturedSessionId : String
  path : String
  revision : ReviewRevision
  resolvedObjectSha : String
  repositoryIdentityDigest : String
  contentDigest : String
  byteLength : Nat
  representation : Representation
  acquisitionKind : AcquisitionKind
  responseDigest : String
  capturedAt : Timestamp
deriving DecidableEq, Repr

section Reading

variable {N : Type}

/-- `/^[a-f0-9]{40,64}$/i`. -/
def isGitSha (value : String) : Bool :=
  40 ≤ value.length && value.length ≤ 64 && value.toList.all isHex

/-- `/^sha256:[a-f0-9]{64}$/`. -/
def isPrefixedDigest (value : String) : Bool :=
  value.toList.take 7 == "sha256:".toList && isSha256Hex (String.ofList (value.toList.drop 7))

/-- `z.number().int().nonnegative()`. -/
def isNonnegativeInteger [JsonNumber N] : Json N → Bool
  | .number value => (JsonNumber.natural value).isSome
  | _ => false

def captureShape [JsonNumber N] : Schema.Shape N :=
  [requiredField "capabilityDigest" (text isSha256Hex),
    requiredField "capturedSessionId" (text isNonEmpty),
    requiredField "path" (text fun value => (parseRepositoryPath value).isSome),
    requiredField "revision" (oneOf ["base", "head"]),
    requiredField "resolvedObjectSha" (text isGitSha),
    requiredField "repositoryIdentityDigest" (text isPrefixedDigest),
    requiredField "contentDigest" (text isPrefixedDigest),
    requiredField "byteLength" (.leaf isNonnegativeInteger),
    requiredField "representation" (oneOf ["utf8_text", "binary"]),
    requiredField "acquisitionKind" (oneOf ["local_git_object", "remote_commit_blob"]),
    requiredField "responseDigest" (text isPrefixedDigest),
    requiredField "capturedAt" datetime]

def numberOf [JsonNumber N] (value : Json N) (key : String) : Nat :=
  match value.get? key with
  | some (.number number) => (JsonNumber.natural number).getD 0
  | _ => 0

/-- A value the schema accepts, as a record; the path is the normalized one. -/
def captureOf [JsonNumber N] (value : Json N) : Option RepositoryObservationCapture :=
  (parseRepositoryPath (textOf value "path")).map fun path =>
    { capabilityDigest := textOf value "capabilityDigest"
      capturedSessionId := textOf value "capturedSessionId"
      path := path
      revision := if textOf value "revision" == "base" then .base else .head
      resolvedObjectSha := textOf value "resolvedObjectSha"
      repositoryIdentityDigest := textOf value "repositoryIdentityDigest"
      contentDigest := textOf value "contentDigest"
      byteLength := numberOf value "byteLength"
      representation :=
        if textOf value "representation" == "utf8_text" then .utf8Text else .binary
      acquisitionKind :=
        if textOf value "acquisitionKind" == "local_git_object" then .localGitObject
        else .remoteCommitBlob
      responseDigest := textOf value "responseDigest"
      capturedAt := textOf value "capturedAt" }

/-- `RepositoryObservationCapture.safeParse`. -/
def safeParseCapture [JsonNumber N] (raw : Json N) : Option RepositoryObservationCapture :=
  ((Schema.object true captureShape).parse raw).bind captureOf

/-! ### The ledger -/

/-- A line that is no capture is skipped. -/
inductive LedgerLine
  | blank
  | unreadable
  | capture (capture : RepositoryObservationCapture)

variable (N) in
def readLine [JsonNumber N] (line : List Char) : LedgerLine :=
  let trimmed := trim (String.ofList line)
  if trimmed == "" then .blank
  else
    match (Json.parse trimmed : Option (Json N)).bind safeParseCapture with
    | none => .unreadable
    | some capture => .capture capture

def LedgerLine.capture? : LedgerLine → Option RepositoryObservationCapture
  | LedgerLine.capture found => some found
  | _ => none

def LedgerLine.isUnreadable : LedgerLine → Bool
  | .unreadable => true
  | _ => false

variable (N) in
def ledgerLines [JsonNumber N] (raw : String) : List LedgerLine :=
  (raw.toList.splitOn '\n').map (readLine N)

structure LedgerReading where
  captures : List RepositoryObservationCapture
  skipped : Nat

variable (N) in
/-- The captures of a ledger file, which may not be there. -/
def readObservationCaptures [JsonNumber N] (file : Option String) : LedgerReading :=
  let lines := ledgerLines N (file.getD "")
  ⟨lines.filterMap LedgerLine.capture?, lines.countP LedgerLine.isUnreadable⟩

/-- The file after a line has been put behind it, on a line of its own. -/
def appendLedgerLine (file : Option String) (line : String) : String :=
  let existing := file.getD ""
  let separator := if existing != "" && existing.toList.getLast? != some '\n' then "\n" else ""
  existing ++ separator ++ line ++ "\n"

/-! ### What a file keeps -/

variable (N) in
def capturesIn [JsonNumber N] (chars : List Char) : List RepositoryObservationCapture :=
  ((chars.splitOn '\n').map (readLine N)).filterMap LedgerLine.capture?

theorem readObservationCaptures_captures [JsonNumber N] (file : Option String) :
    (readObservationCaptures N file).captures = capturesIn N (file.getD "").toList := rfl

theorem readLine_nil [JsonNumber N] : readLine N [] = .blank := by
  have hempty : (trim (String.ofList []) == "") = true := by decide
  rw [readLine, if_pos hempty]

theorem capturesIn_nil [JsonNumber N] : capturesIn N [] = [] := by
  rw [capturesIn, List.splitOn_nil, List.map_singleton, readLine_nil]
  rfl

theorem capturesIn_append [JsonNumber N] (before after : List Char) :
    capturesIn N (before ++ '\n' :: after) = capturesIn N before ++ capturesIn N after := by
  rw [capturesIn, List.splitOn_append_cons_self, List.map_append, List.filterMap_append]
  rfl

/-- A line that is put behind a file changes nothing of what the file held. -/
theorem captures_appendLedgerLine [JsonNumber N] (file : Option String) (line : String) :
    (readObservationCaptures N (some (appendLedgerLine file line))).captures =
      (readObservationCaptures N file).captures ++ capturesIn N line.toList := by
  have hline : capturesIn N (line.toList ++ ['\n']) = capturesIn N line.toList := by
    rw [capturesIn_append, capturesIn_nil, List.append_nil]
  rw [readObservationCaptures_captures, readObservationCaptures_captures, Option.getD_some]
  rw [appendLedgerLine]
  generalize file.getD "" = existing
  split_ifs with hopen
  · have hchars : (existing ++ "\n" ++ line ++ "\n").toList =
        existing.toList ++ '\n' :: (line.toList ++ ['\n']) := by simp
    rw [hchars, capturesIn_append, hline]
  · have hchars : (existing ++ "" ++ line ++ "\n").toList =
        existing.toList ++ (line.toList ++ ['\n']) := by simp
    rw [hchars]
    rcases List.eq_nil_or_concat' existing.toList with hempty | ⟨before, last, hlast⟩
    · rw [hempty, List.nil_append, hline, capturesIn_nil, List.nil_append]
    · have hnewline : last = '\n' := by
        by_contra hne
        refine hopen ?_
        have hexists : existing ≠ "" := by
          rintro rfl
          simp at hlast
        simp [hexists, hlast, hne]
      rw [hlast, hnewline, List.append_assoc, List.singleton_append, capturesIn_append, hline,
        capturesIn_append, capturesIn_nil, List.append_nil]

/-- What the observation tool writes is read back. -/
theorem ledgerLines_stringify [JsonNumber N] {fields : List (String × Json N)}
    {capture : RepositoryObservationCapture} (hdistinct : (Json.object fields).distinct = true)
    (hparse : safeParseCapture (Json.object fields).printed = some capture) :
    ledgerLines N (appendLedgerLine none (Json.object fields).stringify) =
      [.capture capture, .blank] := by
  obtain ⟨middle, hbraces⟩ := Json.stringify_object fields
  have htrim : trim (String.ofList (Json.object fields).stringify.toList) =
      (Json.object fields).stringify := by
    have hbraced := trim_append_braced [] middle
    rw [List.nil_append, List.dropWhile_nil, List.nil_append, ← hbraces,
      String.ofList_toList] at hbraced
    rw [String.ofList_toList, hbraced]
  have hne : ((Json.object fields).stringify == "") = false := by
    rw [beq_eq_false_iff_ne]
    intro hempty
    rw [hempty] at hbraces
    cases hbraces
  have hline : readLine N (Json.object fields).stringify.toList = .capture capture := by
    rw [readLine, htrim, hne, if_neg Bool.false_ne_true, Json.parse_stringify hdistinct,
      Option.bind_some, hparse]
  have htext : (appendLedgerLine none (Json.object fields).stringify).toList =
      (Json.object fields).stringify.toList ++ ['\n'] := by
    simp [appendLedgerLine]
  rw [ledgerLines, htext, List.splitOn_append_cons_self, List.splitOn_nil,
    List.splitOn_eq_singleton (newline_notMem_stringify _)]
  simp [hline, readLine_nil]

/-- A capture names the session that made it. -/
theorem capturedSessionId_ne [JsonNumber N] {file : Option String}
    {capture : RepositoryObservationCapture}
    (hmem : capture ∈ (readObservationCaptures N file).captures) :
    capture.capturedSessionId ≠ "" := by
  rw [readObservationCaptures_captures, capturesIn, List.mem_filterMap] at hmem
  obtain ⟨line, hline, hcapture⟩ := hmem
  obtain ⟨chars, -, rfl⟩ := List.mem_map.1 hline
  unfold readLine at hcapture
  dsimp only at hcapture
  split at hcapture
  · cases hcapture
  split at hcapture
  · cases hcapture
  rename_i found hfound
  obtain rfl : found = capture := Option.some_inj.1 hcapture
  obtain ⟨json, -, hparsed⟩ := Option.bind_eq_some_iff.1 hfound
  obtain ⟨kept, hkept, hread⟩ := Option.bind_eq_some_iff.1 hparsed
  obtain ⟨path, -, rfl⟩ := Option.map_eq_some_iff.1 hread
  have hsession : ("capturedSessionId", true, text isNonEmpty) ∈ captureShape (N := N) := by
    simp [captureShape, requiredField]
  have hnodup : (keysOf (captureShape (N := N))).Nodup := by
    simp [captureShape, keysOf, requiredField]
  have hnonempty := (text_of_parse hnodup hkept hsession).1
  rwa [isNonEmpty, bne_iff_ne] at hnonempty

end Reading

end GovernedRuntime.Observation
