/-
The governed implementation subject (`src/verification/implementation-subject.ts`): the
files an implementation changed since the session started, their digest, and the
re-attestation of both against the worktree.
-/
import GovernedRuntime.Review.ChallengeConsistency
import GovernedRuntime.State.RepositoryPath
import GovernedRuntime.Tools.ReviewRecords

namespace GovernedRuntime.Verification

open GovernedRuntime.Library
open GovernedRuntime.State
open GovernedRuntime.Rails (RailContext)
open GovernedRuntime.Risk (normalizeRepoRelativePath pathSegments isNonDomainConfigPath)
open GovernedRuntime.Tools

/-! ### Worktrees -/

/-- `git hash-object`. -/
structure ContentHash (Content : Type) where
  hash : Content → String
  injective : Function.Injective hash
  hex : ∀ content, ∀ c ∈ (hash content).toList, "0123456789abcdef".toList.contains c = true

/-- The content of each file: of a commit, or of a worktree. -/
abbrev Tree (Content : Type) := List (String × Content)

section Worktree

variable {Content : Type} [DecidableEq Content]

def Tree.read (tree : Tree Content) (path : String) : Option Content := tree.lookup path

/-- The paths at which the worktree differs from `HEAD`, sorted. -/
def changedFiles (head worktree : Tree Content) : List String :=
  sortTexts (((head ++ worktree).map Prod.fst).dedup.filter fun path =>
    head.read path != worktree.read path)

/-- An entry of the record that `hashWorktreeFiles` builds.  No assignment gives it a
`__proto__` of its own, and reading one finds the inherited object. -/
inductive HashSlot
  | hash (value : String)
  | missing
  | inherited
deriving DecidableEq, Repr

def hashWorktreeFiles (git : ContentHash Content) (worktree : Tree Content)
    (paths : List String) (path : String) : HashSlot :=
  if path == "__proto__" then .inherited
  else if !paths.contains path then .missing
  else
    match worktree.read path with
    | none => .missing
    | some content => .hash (git.hash content)

/-! ### Baselines -/

structure BaselineFile where
  path : String
  hash : Option String
deriving DecidableEq, Repr

/-- `implementationBaseline.dirtyFiles`: `none` when the capture was unavailable. -/
abbrev ImplementationBaseline := Option (List BaselineFile)

/-- `captureBaselineDirtyFiles`, as the schema keeps its entries. -/
def captureBaselineDirtyFiles (git : ContentHash Content) (head start : Tree Content) :
    Option (List BaselineFile) :=
  (changedFiles head start).mapM fun path =>
    match parseRepositoryPath path,
        hashWorktreeFiles git start (changedFiles head start) path with
    | some stored, .hash value => some ⟨stored, some value⟩
    | some stored, .missing => some ⟨stored, none⟩
    | _, _ => none

/-- The baseline of a session that started on a worktree, when git could be read then. -/
def baselineAt (git : ContentHash Content) (head : Tree Content) :
    Option (Tree Content) → Option ImplementationBaseline
  | none => some none
  | some start => (captureBaselineDirtyFiles git head start).map some

inductive ScopedImplementationFiles
  | ok (files : List String) (baselineScoping : Bool)
  | empty (rawFiles : List String)
deriving DecidableEq, Repr

def ScopedImplementationFiles.files : ScopedImplementationFiles → List String
  | .ok files _ => files
  | .empty _ => []

/-- Of two entries for one path the later counts. -/
def baselineEntry (dirtyFiles : List BaselineFile) (path : String) : Option BaselineFile :=
  dirtyFiles.reverse.find? (·.path == path)

/-- A file leaves the scope only with two hashes that are equal. -/
def isAttributed (dirtyFiles : List BaselineFile) (currentHashes : String → HashSlot)
    (path : String) : Bool :=
  match baselineEntry dirtyFiles path with
  | none => true
  | some entry =>
      match entry.hash, currentHashes path with
      | some before, .hash now => before != now
      | _, _ => true

def scopeImplementationFiles (git : ContentHash Content) (worktree : Tree Content)
    (rawFiles : List String) : ImplementationBaseline → ScopedImplementationFiles
  | none => if rawFiles.isEmpty then .empty rawFiles else .ok rawFiles false
  | some dirtyFiles =>
      let candidatesToRehash := rawFiles.filter fun path => (baselineEntry dirtyFiles path).isSome
      let files := rawFiles.filter
        (isAttributed dirtyFiles (hashWorktreeFiles git worktree candidatesToRehash))
      if files.isEmpty then .empty rawFiles else .ok files true

/-! ### Digests -/

def HashSlot.text : HashSlot → String
  | .hash value => value
  | .missing => "deleted"
  | .inherited => "[object Object]"

def digestLine (contentHashes : String → HashSlot) (path : String) : String :=
  path ++ ":" ++ (contentHashes path).text

def computeImplementationDigest (git : ContentHash Content) (digest : String → String)
    (worktree : Tree Content) (files : List String) : String :=
  let sortedFiles := sortTexts files
  digest ("\n".intercalate
    (sortedFiles.map (digestLine (hashWorktreeFiles git worktree sortedFiles))))

end Worktree

/-! ### Tool reports -/

/-- `text.replace(/token/g, replacement)`, after a number of characters that the last match
has used. -/
def replaceAll (token replacement : List Char) : Nat → List Char → List Char
  | _, [] => []
  | used + 1, _ :: rest => replaceAll token replacement used rest
  | 0, c :: rest =>
      if token.isPrefixOf (c :: rest) then
        replacement ++ replaceAll token replacement (token.length - 1) rest
      else c :: replaceAll token replacement 0 rest

/-- Segments that may lead above the root. -/
def normalizeSegments (resolved : List String) : List String → List String
  | [] => resolved
  | segment :: rest =>
      if segment == "" || segment == "." then normalizeSegments resolved rest
      else if segment == ".." && !resolved.isEmpty && resolved.getLast? != some ".." then
        normalizeSegments resolved.dropLast rest
      else normalizeSegments (resolved ++ [segment]) rest

/-- `posix.normalize` of a relative path. -/
def posixNormalize (path : String) : String :=
  let trailing := if path.toList.getLast? == some '/' then "/" else ""
  match normalizeSegments [] (pathSegments path) with
  | [] => "." ++ trailing
  | segments => "/".intercalate segments ++ trailing

def safeArtifactPath (template attemptId : String) : Option String :=
  let logical := normalizeRepoRelativePath (String.ofList
    (replaceAll "{attemptId}".toList attemptId.toList 0 template.toList))
  if logical.toList.head? == some '/' then none
  else
    let path := posixNormalize logical
    if path == ".." || "../".toList.isPrefixOf path.toList || path == "." then none
    else some path

def attemptIsToolOwnedEvidence (attempt : ValidationAttempt) (planDigest : Option String) :
    Bool :=
  match attempt.scope with
  | .implementation _ _ => true
  | .baseline digest => planDigest == some digest

/-- The paths of the reports that validation attempts have written.  The pattern of a
candidate is there for a bound, structured candidate whose report is collected for one
run. -/
def flowguardReportArtifacts (runSpecificResultPattern : VerificationCandidate → Option String)
    (state : SessionState) : List String :=
  let candidates := (state.verificationCandidates.getD []).reverse
  let planDigest := state.plan.map (·.current.digest)
  (state.validationAttempts.filterMap fun attempt =>
    if !attemptIsToolOwnedEvidence attempt planDigest then none
    else do
      let candidateId ← attempt.result.candidateId
      let candidate ← candidates.find? (·.candidateId == candidateId)
      let template ← runSpecificResultPattern candidate
      safeArtifactPath template attempt.attemptId).eraseDups

/-! ### Recording and re-attesting -/

section Subject

variable {Content : Type} [DecidableEq Content]

/-- What a recording takes from its call. -/
structure RecordCall where
  implementationId : String
  diffDigest : Option String
  executedAt : Timestamp

/-- `node_modules/` anywhere in a path. -/
def inNodeModules (path : String) : Bool :=
  path.toList.tails.any fun tail => "node_modules/".toList.isPrefixOf tail

def buildImplEvidence (call : RecordCall) (files : List String) (digest : String) :
    ImplEvidence :=
  { implementationId := call.implementationId
    changedFiles := files
    domainFiles := files.filter fun path => !inNodeModules path && !isNonDomainConfigPath path
    digest := digest
    diffDigest := call.diffDigest
    executedAt := call.executedAt }

/-- The implementation files of a worktree without the tool reports. -/
def recordedFiles (git : ContentHash Content) (head worktree : Tree Content)
    (baseline : ImplementationBaseline) (toolArtifacts : List String) : List String :=
  (scopeImplementationFiles git worktree
    ((changedFiles head worktree).filter (!toolArtifacts.contains ·)) baseline).files

/-- The schema reads the paths of an implementation again when the state is written. -/
def persistImplementation (state : SessionState) : Option SessionState :=
  match state.implementation with
  | none => some state
  | some implementation => do
      let changedFiles ← implementation.changedFiles.mapM parseRepositoryPath
      let domainFiles ← implementation.domainFiles.mapM parseRepositoryPath
      some
        { state with
          implementation := some
            { implementation with
              changedFiles := changedFiles
              domainFiles := domainFiles } }

/-- `/implement` on a worktree. -/
def recordImplementation (services : ImplementServices) (git : ContentHash Content)
    (digest : String → String)
    (runSpecificResultPattern : VerificationCandidate → Option String)
    (head worktree : Tree Content) (baseline : ImplementationBaseline) (call : RecordCall)
    (state : SessionState) (ctx : RailContext) : Except String SessionState :=
  let files := recordedFiles git head worktree baseline
    (flowguardReportArtifacts runSpecificResultPattern state)
  match handleImplRecord services state ctx
      (buildImplEvidence call files
        (computeImplementationDigest git digest worktree files)) with
  | .error code => .error code
  | .ok write =>
      match persistImplementation write.state with
      | none => .error "SCHEMA_VALIDATION_FAILED"
      | some persisted => .ok persisted

end Subject

end GovernedRuntime.Verification
