/-
The commit of a state: artifacts first, state last, over files that are written
once (`src/adapters/workspace/evidence-artifact-ticket.ts`, `…-plan.ts`,
`evidence-artifacts.ts`, `src/integration/tools/helpers.ts`).
-/
import GovernedRuntime.Artifacts.Verify

namespace GovernedRuntime.Artifacts

open GovernedRuntime.Library GovernedRuntime.State

/-! ### Errors -/

/-- What the schema of a state objects to. -/
inductive SchemaIssue
  | ticketText
  | ticketDigest
  | planBody
  | planRecord (issue : PlanRecordIssue)
deriving DecidableEq, Repr

inductive CommitError
  | artifact (error : EvidenceArtifactError)
  /-- `SCHEMA_VALIDATION_FAILED`. -/
  | schemaValidation (issue : SchemaIssue)
  /-- A check of the state write: policy digest, frozen implementation entry,
  admitted approval. -/
  | boundary (message : String)
  /-- `WRITE_FAILED` for a file of the session directory. -/
  | writeFailed (relPath : String)
deriving DecidableEq, Repr

abbrev ArtifactWriter := FileWriter ArtifactPath ArtifactContent

abbrev ArtifactWriteResult := WriteResult ArtifactPath ArtifactContent CommitError

def artifactWriteFailed (path : ArtifactPath) : CommitError :=
  .writeFailed path.relPath

/-! ### Artifacts -/

/-- A file that is there already must have the same content. -/
def writeImmutableFile (writer : ArtifactWriter) (path : ArtifactPath)
    (content : ArtifactContent) : ArtifactWriteResult :=
  match writer.files.read path with
  | some current =>
      if current = content then .ok writer
      else .error (.failed (.artifact ⟨.immutable,
        "Refusing to overwrite immutable artifact: " ++ path.relPath⟩), writer)
  | none => writer.write (artifactWriteFailed path) path content

/-- The markdown of an artifact, then its metadata. -/
def writeArtifact (writer : ArtifactWriter) (markdown : String)
    (artifact : EvidenceArtifactMeta) : ArtifactWriteResult :=
  (writeImmutableFile writer artifact.markdownPath (.text markdown)).bind fun next =>
    writeImmutableFile next { artifact.markdownPath with extension := .metadata }
      (.metadata artifact)

def ticketMarkdown (state : SessionState) (ticket : TicketEvidence) (version : Nat) :
    String :=
  formatTicketMarkdown version ticket.text ticket.createdAt state.id

def ticketMeta (encoding : ArtifactEncoding) (state : SessionState)
    (ticket : TicketEvidence) (version : Nat) : EvidenceArtifactMeta :=
  { schemaVersion := evidenceArtifactSchemaVersion
    artifactType := .ticket
    version := version
    sessionId := state.id
    createdAt := ticket.createdAt
    phase := state.phase
    sourceStateHash := encoding.hashText (encoding.stateText state)
    contentHash := ticket.digest
    markdownHash := encoding.hashText (ticketMarkdown state ticket version)
    derivedFrom := sessionStateFile
    markdownPath := ⟨.ticket, version, .markdown⟩
    recordDigest := none }

/-- Any version with the digest of the ticket will do. -/
def materializeTicketArtifact (encoding : ArtifactEncoding) (writer : ArtifactWriter)
    (state : SessionState) : ArtifactWriteResult :=
  match state.ticket with
  | none => .ok writer
  | some ticket =>
      match readArtifactVersions writer.files .ticket with
      | .error error => .error (.failed (.artifact error), writer)
      | .ok existing =>
          if existing.any fun entry => entry.contentHash == ticket.digest then .ok writer
          else
            let version := latestVersion existing + 1
            writeArtifact writer (ticketMarkdown state ticket version)
              (ticketMeta encoding state ticket version)

def planMarkdown (state : SessionState) (evidence : PlanEvidence) (version : Nat) :
    String :=
  formatPlanMarkdown version evidence.body evidence.createdAt state.id

def planMeta (encoding : ArtifactEncoding) (state : SessionState)
    (evidence : PlanEvidence) (version : Nat) : EvidenceArtifactMeta :=
  { schemaVersion := evidenceArtifactSchemaVersion
    artifactType := .plan
    version := version
    sessionId := state.id
    createdAt := evidence.createdAt
    phase := state.phase
    sourceStateHash := encoding.hashText (encoding.stateText state)
    contentHash := evidence.digest
    markdownHash := encoding.hashText (planMarkdown state evidence version)
    derivedFrom := sessionStateFile
    markdownPath := ⟨.plan, version, .markdown⟩
    recordDigest := some evidence.recordDigest }

def createPlanArtifact (encoding : ArtifactEncoding) (writer : ArtifactWriter)
    (state : SessionState) (evidence : PlanEvidence) (version : Nat) :
    ArtifactWriteResult :=
  writeArtifact writer (planMarkdown state evidence version)
    (planMeta encoding state evidence version)

def checkPlanCoverage (existing : List EvidenceArtifactMeta) (chain : List PlanEvidence)
    (writer : ArtifactWriter) : ArtifactWriteResult :=
  match assertPlanRevisionCoverage existing chain with
  | .error error => .error (.failed (.artifact error), writer)
  | .ok _ => .ok writer

/-- The loop over the revisions still to visit; the coverage of the whole chain
is checked behind it. -/
def materializeRevisions (encoding : ArtifactEncoding) (state : SessionState)
    (chain : List PlanEvidence) (writer : ArtifactWriter)
    (existing : List EvidenceArtifactMeta) : List PlanEvidence → ArtifactWriteResult
  | [] => checkPlanCoverage existing chain writer
  | revision :: rest =>
      if existing.any fun entry => entry.recordDigest == some revision.recordDigest then
        materializeRevisions encoding state chain writer existing rest
      else
        (createPlanArtifact encoding writer state revision
            (latestVersion existing + 1)).bind fun next =>
          match readArtifactVersions next.files .plan with
          | .error error => .error (.failed (.artifact error), next)
          | .ok reread => materializeRevisions encoding state chain next reread rest

def materializePlanArtifacts (encoding : ArtifactEncoding) (writer : ArtifactWriter)
    (state : SessionState) : ArtifactWriteResult :=
  match state.plan with
  | none => .ok writer
  | some plan =>
      match readArtifactVersions writer.files .plan with
      | .error error => .error (.failed (.artifact error), writer)
      | .ok existing =>
          materializeRevisions encoding state (orderedPlanRevisions plan) writer existing
            (orderedPlanRevisions plan)

def cleanupCreatedArtifacts (writer : ArtifactWriter) : ArtifactWriter :=
  { writer with files := writer.files.unlinkAll writer.created }

/-- The body of the `try` block. -/
def materializeTicketAndPlan (encoding : ArtifactEncoding) (writer : ArtifactWriter)
    (state : SessionState) : ArtifactWriteResult :=
  (materializeTicketArtifact encoding writer state).bind fun next =>
    materializePlanArtifacts encoding next state

/-- An error removes what was created before it is thrown again; a process that
stops does not. -/
def materializeEvidenceArtifacts (encoding : ArtifactEncoding) (writer : ArtifactWriter)
    (state : SessionState) : ArtifactWriteResult :=
  match materializeTicketAndPlan encoding writer state with
  | .ok last => .ok last
  | .error (.failed error, last) => .error (.failed error, cleanupCreatedArtifacts last)
  | .error (.stopped, last) => .error (.stopped, last)

/-! ### Commit -/

def ticketSchemaIssue (ticket : TicketEvidence) : Option SchemaIssue :=
  if ticket.text = "" then some .ticketText
  else if ticket.digest = "" then some .ticketDigest
  else none

def planSchemaIssue (encoding : ArtifactEncoding) (plan : PlanRecord) :
    Option SchemaIssue :=
  if (plan.current :: plan.history).any fun revision => revision.body == "" then
    some .planBody
  else
    (planRecordIssue encoding.hashText encoding.lineageText plan).map SchemaIssue.planRecord

/-- The first objection of the state schema to the evidence of a state. -/
def schemaIssue (encoding : ArtifactEncoding) (state : SessionState) :
    Option SchemaIssue :=
  match state.ticket.bind ticketSchemaIssue with
  | some issue => some issue
  | none => state.plan.bind (planSchemaIssue encoding)

/-- A state to commit, what the checks of the state write answer, and the fault
the process is going to meet. -/
structure CommitAttempt where
  state : SessionState
  boundary : Option String
  fault : Option Fault
deriving DecidableEq, Repr

inductive CommitOutcome
  | committed
  | refused (error : CommitError)
  | stopped
deriving DecidableEq, Repr

/-- The state write, by a process whose fault lets the counted writes pass. -/
def writeStateAlreadyLocked (disk : SessionDisk) (attempt : CommitAttempt)
    (fault : Option Fault) : SessionDisk × CommitOutcome :=
  match attempt.boundary with
  | some message => (disk, .refused (.boundary message))
  | none =>
      match fault with
      | some ⟨0, .failed⟩ => (disk, .refused (.writeFailed sessionStateFile))
      | some ⟨0, .stoppedBefore⟩ => (disk, .stopped)
      | some ⟨0, .stoppedAfter⟩ => ({ disk with state := some attempt.state }, .stopped)
      | some ⟨_ + 1, _⟩ => ({ disk with state := some attempt.state }, .committed)
      | none => ({ disk with state := some attempt.state }, .committed)

def commitPreparedStateWithArtifacts (encoding : ArtifactEncoding) (disk : SessionDisk)
    (attempt : CommitAttempt) : SessionDisk × CommitOutcome :=
  match schemaIssue encoding attempt.state with
  | some issue => (disk, .refused (.schemaValidation issue))
  | none =>
      match materializeEvidenceArtifacts encoding ⟨disk.artifacts, [], attempt.fault⟩
          attempt.state with
      | .error (.failed error, last) =>
          ({ disk with artifacts := last.files }, .refused error)
      | .error (.stopped, last) => ({ disk with artifacts := last.files }, .stopped)
      | .ok last =>
          writeStateAlreadyLocked { disk with artifacts := last.files } attempt last.fault

/-! ### Files are only added -/

theorem writeImmutableFile_grownFrom {base : ArtifactFiles} {writer : ArtifactWriter}
    (hgrown : writer.GrownFrom base) (path : ArtifactPath) (content : ArtifactContent) :
    (lastWriter (writeImmutableFile writer path content)).GrownFrom base := by
  rw [writeImmutableFile]
  cases hread : writer.files.read path with
  | none => exact hgrown.write _ hread content
  | some current =>
      by_cases hsame : current = content
      · simp only [hsame, if_true]
        exact hgrown
      · simp only [hsame, if_false]
        exact hgrown

theorem writeArtifact_grownFrom {base : ArtifactFiles} {writer : ArtifactWriter}
    (hgrown : writer.GrownFrom base) (markdown : String)
    (artifact : EvidenceArtifactMeta) :
    (lastWriter (writeArtifact writer markdown artifact)).GrownFrom base := by
  refine grownFrom_bind (writeImmutableFile_grownFrom hgrown _ _) ?_
  intro next hnext
  exact writeImmutableFile_grownFrom hnext _ _

theorem materializeTicketArtifact_grownFrom (encoding : ArtifactEncoding)
    {base : ArtifactFiles} {writer : ArtifactWriter} (hgrown : writer.GrownFrom base)
    (state : SessionState) :
    (lastWriter (materializeTicketArtifact encoding writer state)).GrownFrom base := by
  rw [materializeTicketArtifact]
  split
  · exact hgrown
  · split
    · exact hgrown
    · split_ifs
      · exact hgrown
      · exact writeArtifact_grownFrom hgrown _ _

theorem materializeRevisions_grownFrom (encoding : ArtifactEncoding)
    (state : SessionState) (chain : List PlanEvidence) {base : ArtifactFiles}
    {writer : ArtifactWriter} (hgrown : writer.GrownFrom base)
    (existing : List EvidenceArtifactMeta) (revisions : List PlanEvidence) :
    (lastWriter (materializeRevisions encoding state chain writer existing
      revisions)).GrownFrom base := by
  induction revisions generalizing writer existing with
  | nil =>
      rw [materializeRevisions, checkPlanCoverage]
      split
      · exact hgrown
      · exact hgrown
  | cons revision rest ih =>
      rw [materializeRevisions]
      split_ifs
      · exact ih hgrown existing
      · refine grownFrom_bind (writeArtifact_grownFrom hgrown _ _) ?_
        intro next hnext
        cases readArtifactVersions next.files .plan with
        | error error => exact hnext
        | ok reread => exact ih hnext reread

theorem materializePlanArtifacts_grownFrom (encoding : ArtifactEncoding)
    {base : ArtifactFiles} {writer : ArtifactWriter} (hgrown : writer.GrownFrom base)
    (state : SessionState) :
    (lastWriter (materializePlanArtifacts encoding writer state)).GrownFrom base := by
  rw [materializePlanArtifacts]
  split
  · exact hgrown
  · split
    · exact hgrown
    · exact materializeRevisions_grownFrom encoding state _ hgrown _ _

theorem materializeTicketAndPlan_grownFrom (encoding : ArtifactEncoding)
    (files : ArtifactFiles) (fault : Option Fault) (state : SessionState) :
    (lastWriter (materializeTicketAndPlan encoding ⟨files, [], fault⟩ state)).GrownFrom
      files := by
  refine grownFrom_bind (materializeTicketArtifact_grownFrom encoding ?_ state) ?_
  · exact ⟨[], by simp, rfl, by simp⟩
  · intro next hnext
    exact materializePlanArtifacts_grownFrom encoding hnext state

theorem writeStateAlreadyLocked_artifacts (disk : SessionDisk) (attempt : CommitAttempt)
    (fault : Option Fault) :
    (writeStateAlreadyLocked disk attempt fault).1.artifacts = disk.artifacts := by
  unfold writeStateAlreadyLocked
  split
  · rfl
  · split <;> rfl

/-- Whatever a commit meets, a file that was there is read as before. -/
theorem commit_read (encoding : ArtifactEncoding) {disk : SessionDisk}
    (attempt : CommitAttempt) {path : ArtifactPath} {content : ArtifactContent}
    (hread : disk.artifacts.read path = some content) :
    (commitPreparedStateWithArtifacts encoding disk attempt).1.artifacts.read path =
      some content := by
  have hgrown := materializeTicketAndPlan_grownFrom encoding disk.artifacts attempt.fault
    attempt.state
  rw [commitPreparedStateWithArtifacts]
  cases schemaIssue encoding attempt.state with
  | some issue => exact hread
  | none =>
      simp only [materializeEvidenceArtifacts]
      rcases hrun : materializeTicketAndPlan encoding ⟨disk.artifacts, [], attempt.fault⟩
        attempt.state with ⟨error | _, last⟩ | last
      · rw [hrun] at hgrown
        simp only [cleanupCreatedArtifacts, lastWriter] at hgrown ⊢
        rw [hgrown.cleanup]
        exact hread
      · rw [hrun] at hgrown
        exact hgrown.read hread
      · rw [hrun] at hgrown
        simp only [writeStateAlreadyLocked_artifacts]
        exact hgrown.read hread

/-- The disk after a sequence of commits. -/
def commitAll (encoding : ArtifactEncoding) (disk : SessionDisk)
    (attempts : List CommitAttempt) : SessionDisk :=
  attempts.foldl
    (fun current attempt => (commitPreparedStateWithArtifacts encoding current attempt).1)
    disk

/-- No file ever changes, in any sequence of commits. -/
theorem commitAll_read (encoding : ArtifactEncoding) {disk : SessionDisk}
    (attempts : List CommitAttempt) {path : ArtifactPath} {content : ArtifactContent}
    (hread : disk.artifacts.read path = some content) :
    (commitAll encoding disk attempts).artifacts.read path = some content := by
  induction attempts generalizing disk with
  | nil => exact hread
  | cons attempt rest ih => exact ih (commit_read encoding attempt hread)

end GovernedRuntime.Artifacts
