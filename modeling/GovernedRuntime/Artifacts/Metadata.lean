/-
The files of `artifacts/`: their paths, their metadata and how it is read
(`src/adapters/workspace/evidence-artifact-core.ts`, `…-metadata.ts`, `…-format.ts`).
-/
import GovernedRuntime.Activation.Revision
import GovernedRuntime.Library.WriteOnce
import GovernedRuntime.State.PlanLineage
import GovernedRuntime.State.Session

namespace GovernedRuntime.Artifacts

open GovernedRuntime.Activation (Digest isSha256Hex isNonEmpty)
open GovernedRuntime.Library GovernedRuntime.Machine GovernedRuntime.State

/-! ### Paths -/

/-- The types that have numbered versions; review cards have none. -/
inductive ArtifactType
  | ticket
  | plan
deriving DecidableEq, Repr

def ArtifactType.name : ArtifactType → String
  | .ticket => "ticket"
  | .plan => "plan"

inductive ArtifactExtension
  | markdown
  | metadata
deriving DecidableEq, Repr

def ArtifactExtension.suffix : ArtifactExtension → String
  | .markdown => ".md"
  | .metadata => ".json"

/-- A file name `<type>.v<version><suffix>` of the artifacts directory. -/
structure ArtifactPath where
  artifactType : ArtifactType
  version : Nat
  extension : ArtifactExtension
deriving DecidableEq, Repr

def evidenceArtifactsDir : String := "artifacts"

def ArtifactPath.relPath (path : ArtifactPath) : String :=
  evidenceArtifactsDir ++ "/" ++ path.artifactType.name ++ ".v" ++
    toString path.version ++ path.extension.suffix

/-! ### Metadata -/

def evidenceArtifactSchemaVersion : String := "flowguard-evidence-artifact.v1"

def sessionStateFile : String := "session-state.json"

structure EvidenceArtifactMeta where
  schemaVersion : String
  artifactType : ArtifactType
  version : Nat
  sessionId : String
  createdAt : Timestamp
  phase : Phase
  sourceStateHash : String
  contentHash : String
  markdownHash : String
  derivedFrom : String
  markdownPath : ArtifactPath
  recordDigest : Option String
deriving DecidableEq, Repr

/-- What a file holds: a text, or the JSON of artifact metadata. -/
inductive ArtifactContent
  | text (body : String)
  | metadata (artifact : EvidenceArtifactMeta)
deriving DecidableEq, Repr

abbrev ArtifactFiles := Files ArtifactPath ArtifactContent

inductive EvidenceArtifactErrorCode
  | missing
  | mismatch
  | immutable
deriving DecidableEq, Repr

structure EvidenceArtifactError where
  code : EvidenceArtifactErrorCode
  message : String
deriving DecidableEq, Repr

/-- SHA-256 of a text in lower-case hexadecimal, and the JSON texts of the values
that are hashed. -/
structure ArtifactEncoding where
  sha256 : String → Digest
  stateText : SessionState → String
  metadataText : EvidenceArtifactMeta → String
  lineageText : PlanLineage → CanonicalText

def ArtifactEncoding.hashText (encoding : ArtifactEncoding) (text : String) : String :=
  (encoding.sha256 text).text

@[simp] theorem isSha256Hex_hashText (encoding : ArtifactEncoding) (text : String) :
    isSha256Hex (encoding.hashText text) = true :=
  (encoding.sha256 text).isSha256Hex_text

def ArtifactContent.bytes (encoding : ArtifactEncoding) : ArtifactContent → String
  | .text body => body
  | .metadata artifact => encoding.metadataText artifact

def checkBaseArtifactFields (artifact : EvidenceArtifactMeta) : Bool :=
  decide (0 < artifact.version)

def checkHashAndDerivedFields (artifact : EvidenceArtifactMeta) : Bool :=
  isSha256Hex artifact.sourceStateHash && isNonEmpty artifact.contentHash &&
    isSha256Hex artifact.markdownHash && artifact.derivedFrom == sessionStateFile &&
    match artifact.recordDigest with
    | none => true
    | some digest => isSha256Hex digest

def isArtifactMeta (artifact : EvidenceArtifactMeta) : Bool :=
  checkBaseArtifactFields artifact && checkHashAndDerivedFields artifact

/-- Parse the metadata file at a path of the expected type. -/
def parseArtifactMeta (path : ArtifactPath) (content : ArtifactContent) :
    Except EvidenceArtifactError EvidenceArtifactMeta :=
  match content with
  | .text _ =>
      .error ⟨.mismatch, "Artifact metadata is not valid JSON: " ++ path.relPath⟩
  | .metadata artifact =>
      if !isArtifactMeta artifact then
        .error ⟨.mismatch, "Artifact metadata has invalid shape: " ++ path.relPath⟩
      else if artifact.artifactType != path.artifactType then
        .error ⟨.mismatch, "Artifact type mismatch in " ++ path.relPath ++
          ": expected " ++ path.artifactType.name ++ ", got " ++
          artifact.artifactType.name⟩
      else if artifact.schemaVersion != evidenceArtifactSchemaVersion then
        .error ⟨.mismatch, "Artifact schema version mismatch in " ++ path.relPath ++
          ": " ++ artifact.schemaVersion⟩
      else if artifact.version != path.version then
        .error ⟨.mismatch, "Artifact version mismatch in " ++ path.relPath ++
          ": expected v" ++ toString path.version ++ ", got v" ++
          toString artifact.version⟩
      else if artifact.markdownPath != { path with extension := .markdown } then
        .error ⟨.mismatch, "Artifact markdownPath mismatch in " ++ path.relPath ++
          ": expected " ++ ({ path with extension := .markdown } : ArtifactPath).relPath ++
          ", got " ++ artifact.markdownPath.relPath⟩
      else .ok artifact

/-- `<type>.v<version>.json`. -/
def ArtifactPath.isMetadataOf (path : ArtifactPath) (artifactType : ArtifactType) :
    Bool :=
  path.artifactType == artifactType && path.extension == .metadata

def readArtifactVersions (files : ArtifactFiles) (artifactType : ArtifactType) :
    Except EvidenceArtifactError (List EvidenceArtifactMeta) := do
  let parsed ← (files.filter fun file => file.1.isMetadataOf artifactType).mapM
    fun file => parseArtifactMeta file.1 file.2
  return parsed.insertionSort fun a b => a.version ≤ b.version

/-- The version of the latest entry, 0 when there is none. -/
def latestVersion (existing : List EvidenceArtifactMeta) : Nat :=
  (existing.getLast?.map (·.version)).getD 0

def assertMarkdownIntegrity (encoding : ArtifactEncoding) (files : ArtifactFiles)
    (artifact : EvidenceArtifactMeta) (artifactType : ArtifactType) :
    Except EvidenceArtifactError Unit :=
  match files.read artifact.markdownPath with
  | none =>
      .error ⟨.missing, artifactType.name ++ " markdown artifact is missing: " ++
        artifact.markdownPath.relPath⟩
  | some content =>
      if encoding.hashText (content.bytes encoding) != artifact.markdownHash then
        .error ⟨.mismatch, artifactType.name ++
          " markdown artifact hash mismatch for " ++ artifact.markdownPath.relPath⟩
      else .ok ()

/-! ### Markdown -/

def formatTicketMarkdown (version : Nat) (ticketText : String) (createdAt : Timestamp)
    (sessionId : String) : String :=
  "\n".intercalate
    ["# Ticket v" ++ toString version, "", "- Session: " ++ sessionId,
      "- Created At: " ++ createdAt, "", "## Ticket Text", "", ticketText, ""]

def formatPlanMarkdown (version : Nat) (planBody : String) (createdAt : Timestamp)
    (sessionId : String) : String :=
  "\n".intercalate
    ["# Plan v" ++ toString version, "", "- Session: " ++ sessionId,
      "- Created At: " ++ createdAt, "", planBody, ""]

end GovernedRuntime.Artifacts
