/-
The staging of an archive (`src/adapters/workspace/archive-staging.ts`,
`archive-layout.ts`): the files an archive is given of a session directory, and the
manifest of them.
-/
import GovernedRuntime.Activation.Identity
import GovernedRuntime.Archive.Inventory
import GovernedRuntime.Audit.Trail
import GovernedRuntime.Redaction.ExportRedaction

namespace GovernedRuntime.Archive

open GovernedRuntime.Library
open GovernedRuntime.Redaction (ExportRedactionError RedactionMode redactAuditEvent
  redactDecisionReceipts redactReviewReport redactSessionState)
open GovernedRuntime.Risk (pathSegments)

/-! ### The layout -/

namespace ArchiveLayout

def state : String := "state/session-state.json"
def stateRedacted : String := "state/session-state.redacted.json"
def audit : String := "audit/audit.jsonl"
def auditRedacted : String := "audit/audit.redacted.jsonl"
def receipts : String := "audit/decision-receipts.v1.json"
def receiptsRedacted : String := "audit/decision-receipts.redacted.v1.json"
def discovery : String := "context/discovery-snapshot.json"
def profileResolution : String := "context/profile-resolution-snapshot.json"
def reviewReport : String := "reports/review-report.json"
def reviewReportRedacted : String := "reports/review-report.redacted.json"

end ArchiveLayout

def startsWith (text start : String) : Bool := start.toList.isPrefixOf text.toList

def archiveArtifactPath (filename : String) : String :=
  if startsWith filename "ticket." then "artifacts/ticket/" ++ filename
  else if startsWith filename "plan." then "artifacts/plan/" ++ filename
  else if Redaction.includes filename.toList "review-card.".toList then
    "artifacts/reviews/" ++ filename
  else if startsWith filename "ADR-" then "artifacts/architecture/" ++ filename
  else "artifacts/other/" ++ filename

def archiveImplementationPath (filename : String) : String := "implementation/" ++ filename

/-- `path.posix.basename` -/
def basename (relPath : String) : String :=
  ((pathSegments relPath).reverse.dropWhile (· == "")).headD ""

/-- `/^implementation-diff\.[a-f0-9]+\.patch$/` -/
def isImplementationDiff (relPath : String) : Bool :=
  let rest := relPath.toList.drop "implementation-diff.".length
  startsWith relPath "implementation-diff." && !(rest.takeWhile isLowerHex).isEmpty &&
    rest.dropWhile isLowerHex == ".patch".toList

def rawSourcePaths : List (String × String) :=
  [("session-state.json", ArchiveLayout.state),
    ("audit.jsonl", ArchiveLayout.audit),
    ("discovery-snapshot.json", ArchiveLayout.discovery),
    ("profile-resolution-snapshot.json", ArchiveLayout.profileResolution),
    ("review-report.json", ArchiveLayout.reviewReport)]

/-! ### Inputs -/

structure DecisionReceipt (N : Type) where
  hostSessionId : Option String
  flowguardSessionId : String
  document : Json N

/-- The fields of a session state that staging reads, and the state as a document. -/
structure StagedState (N : Type) where
  policyMode : Option String
  discoveryDigest : Option String
  activeProfileId : Option String
  document : Json N

structure ArchiveStagingInput (N : Type) where
  sessionId : String
  fingerprint : String
  state : Option (StagedState N)
  events : List (Json N)
  redactionMode : RedactionMode
  includeRaw : Bool

inductive StagingError
  | redaction (error : ExportRedactionError)
  | decisionReceiptInvalid
  | parseReviewReport
  | readFile (path : String)
  | writeFile (target : String)
  | contentDigest (error : ArchiveContentDigestError)
deriving DecidableEq, Repr

structure StagedManifest (N : Type) extends ArchiveManifest N where
  createdAt : String
  profileId : String
  redactionMode : RedactionMode
  rawIncluded : Bool
  redactedArtifacts : Option (List String)
  excludedFiles : Option (List String)
  riskFlags : List String

/-- The code that staging calls. -/
structure StagingServices (N Content : Type) where
  env : Redaction.Environment
  hashing : FileHash Content
  encode : String → Content
  stringify : Json N → String
  stringifyIndented : Json N → String
  parse : Content → Option (Json N)
  /-- The receipts of a trail, unless a decision in it has none. -/
  decisionReceipts : List (Json N) → Option (List (DecisionReceipt N))
  getLastChainHash : List (Json N) → String
  manifestDocument : StagedManifest N → Json N
  now : String

section Staging

variable {N Content : Type} (services : StagingServices N Content)
  (elsewhere : String → Option (Entry Content)) (input : ArchiveStagingInput N)
  (session : Directory Content)

def StagingServices.textFile (text : String) : Content := services.encode (text ++ "\n")

def jsonLines (events : List (Json N)) : Content :=
  services.textFile ("\n".intercalate (events.map services.stringify))

/-- What is found under the name of a source; a link leads elsewhere. -/
def sourceEntry (source : String) : Option (Entry Content) :=
  match session.lookup source with
  | some .special => elsewhere source
  | found => found

def readSource (source : String) : Entry Content → Except StagingError Content
  | .file content => .ok content
  | _ => .error (.readFile source)

def sessionReceipts : Except StagingError (List (DecisionReceipt N)) :=
  match services.decisionReceipts input.events with
  | none => .error .decisionReceiptInvalid
  | some receipts =>
      .ok (receipts.filter fun receipt =>
        receipt.hostSessionId == some input.sessionId ||
          receipt.flowguardSessionId == input.sessionId)

/-! ### Redacted payloads -/

def redactedState : Except StagingError (Option Content) :=
  match input.state with
  | none => .ok none
  | some state =>
      match redactSessionState services.env state.document input.redactionMode with
      | .error error => .error (.redaction error)
      | .ok redacted => .ok (some (services.textFile (services.stringifyIndented redacted)))

def redactedAudit : Except StagingError (Option Content) :=
  match input.events.mapM fun event =>
      redactAuditEvent services.env input.redactionMode event with
  | .error error => .error (.redaction error)
  | .ok [] => .ok none
  | .ok events => .ok (some (jsonLines services events))

def redactedReceipts : Except StagingError (Option Content) :=
  match sessionReceipts services input with
  | .error error => .error error
  | .ok [] => .ok none
  | .ok receipts =>
      match redactDecisionReceipts services.env
          (.object [("receipts", .array (receipts.map (·.document)))]) input.redactionMode with
      | .error error => .error (.redaction error)
      | .ok redacted => .ok (some (services.textFile (services.stringifyIndented redacted)))

def redactedReviewReport : Except StagingError (Option Content) :=
  match sourceEntry elsewhere session "review-report.json" with
  | none => .ok none
  | some entry =>
      match readSource "review-report.json" entry with
      | .error error => .error error
      | .ok content =>
          match services.parse content with
          | none => .error .parseReviewReport
          | some report =>
              match redactReviewReport services.env report input.redactionMode with
              | .error error => .error (.redaction error)
              | .ok redacted => .ok (some (services.textFile (services.stringifyIndented redacted)))

/-- The files there are among those that may be. -/
def presentFiles (files : List (String × Option Content)) : List (String × Content) :=
  files.filterMap fun (target, content) => content.map (target, ·)

def redactedPayloads : Except StagingError (List (String × Content)) :=
  if input.redactionMode = .none then .ok []
  else do
    let state ← redactedState services input
    let audit ← redactedAudit services input
    let receipts ← redactedReceipts services input
    let report ← redactedReviewReport services elsewhere input session
    return presentFiles
      [(ArchiveLayout.stateRedacted, state), (ArchiveLayout.auditRedacted, audit),
        (ArchiveLayout.receiptsRedacted, receipts), (ArchiveLayout.reviewReportRedacted, report)]

/-! ### Raw files -/

def copyRawSource (source : String) (entry : Entry Content) : Except StagingError Content :=
  if source != "audit.jsonl" then readSource source entry
  else .ok (jsonLines services input.events)

def rawSources : Except StagingError (List (String × Content)) := do
  let files ← rawSourcePaths.mapM fun (source, target) =>
    match sourceEntry elsewhere session source with
    | none => .ok (target, none)
    | some entry => (copyRawSource services input source entry).map fun content =>
        (target, some content)
  return presentFiles files

def receiptsDocument [JsonNumber N] (receipts : List (DecisionReceipt N)) : Json N :=
  .object
    [("schemaVersion", .string "decision-receipts.v1"),
      ("sessionId", .string input.sessionId),
      ("generatedAt", .string services.now),
      ("count", .number (JsonNumber.ofNat receipts.length)),
      ("receipts", .array (receipts.map (·.document)))]

def writeDecisionReceipts [JsonNumber N] : Except StagingError (List (String × Content)) :=
  match sessionReceipts services input with
  | .error error => .error error
  | .ok [] => .ok []
  | .ok receipts =>
      .ok [(ArchiveLayout.receipts,
        services.textFile (services.stringifyIndented (receiptsDocument services input receipts)))]

/-- The regular files below a directory, those of the manifest's name apart. -/
def listSessionFiles (tree : Directory Content) : List String :=
  sortTexts (Entry.walkEntries
    (fun relPath name entry =>
      if entry.isFile && name != archiveManifestFile then some relPath else none) "" tree)

def fileAt (tree : Directory Content) (relPath : String) : Option Content :=
  match (Entry.directory tree).find? (pathSegments relPath) with
  | some (.file content) => some content
  | _ => none

/-- A copy of a file to a target, if it is there. -/
def copyIfPresent (relPath target : String) : List (String × Content) :=
  ((fileAt session relPath).map (target, ·)).toList

def copyEvidence : List (String × Content) :=
  (listSessionFiles session).flatMap fun relPath =>
    (if startsWith relPath "artifacts/" then
      copyIfPresent session relPath (archiveArtifactPath (basename relPath)) else []) ++
    if isImplementationDiff relPath then
      copyIfPresent session relPath (archiveImplementationPath (basename relPath)) else []

def rawPayloads [JsonNumber N] : Except StagingError (List (String × Content)) := do
  let sources ← rawSources services elsewhere input session
  let receipts ← writeDecisionReceipts services input
  return sources ++ receipts ++ copyEvidence session

/-! ### The manifest -/

/-- The raw files that there would be, by rules of their own. -/
def computeExcludedFiles : Except StagingError (List String) := do
  let receipts ← sessionReceipts services input
  return (rawSourcePaths.filter fun (source, _) =>
      (sourceEntry elsewhere session source).isSome).map Prod.snd ++
    (if receipts.isEmpty then [] else [ArchiveLayout.receipts]) ++
    (listSessionFiles session).flatMap fun relPath =>
      (if startsWith relPath "artifacts/" then
        [archiveArtifactPath (basename relPath)] else []) ++
      if isImplementationDiff relPath then
        [archiveImplementationPath (basename relPath)] else []

def computeFileDigests (archiveRoot : Directory Content) (includedFiles : List String) :
    Except StagingError (List (String × String)) :=
  includedFiles.mapM fun file =>
    match fileAt archiveRoot file with
    | none => .error (.readFile file)
    | some content => .ok (file, services.hashing.hashBuffer content)

def optionalArray (arr : List String) : Option (List String) :=
  if arr.isEmpty then none else some arr

def manifestBase [JsonNumber N] (includedFiles : List String)
    (fileDigests : List (String × String)) : ArchiveContentDigestInput N :=
  { includedFiles := includedFiles
    fileDigests := fileDigests
    policyMode := (input.state.bind (·.policyMode)).getD "unknown"
    auditChainHead := services.getLastChainHash input.events
    auditEventCount := JsonNumber.ofNat input.events.length
    schemaVersion := "archive-manifest.v4"
    layoutVersion := JsonNumber.ofNat 2
    sessionId := input.sessionId
    fingerprint := input.fingerprint
    discoveryDigest := input.state.bind (·.discoveryDigest) }

def buildManifest [JsonNumber N] (archiveRoot : Directory Content)
    (redactedFiles excludedFiles : List String) : Except StagingError (StagedManifest N) := do
  let includedFiles := listSessionFiles archiveRoot
  let fileDigests ← computeFileDigests services archiveRoot includedFiles
  let base := manifestBase services input includedFiles fileDigests
  match computeArchiveContentDigest services.env.hashText base with
  | .error error => .error (.contentDigest error)
  | .ok contentDigest =>
      return { base with
        contentDigest := contentDigest
        createdAt := services.now
        profileId := (input.state.bind (·.activeProfileId)).getD "baseline"
        redactionMode := input.redactionMode
        rawIncluded := input.includeRaw
        redactedArtifacts := optionalArray redactedFiles
        excludedFiles := optionalArray excludedFiles
        riskFlags := if input.includeRaw then ["raw_audit_evidence_export"] else [] }

/-- Writes files under the archive's root; a failed write leaves no staging tree. -/
def stageFiles (files : List (String × Content)) (archiveRoot : Directory Content) :
    Except StagingError (Directory Content) :=
  files.foldlM
    (fun tree file =>
      match Entry.writeFile file.2 (pathSegments file.1) tree with
      | none => .error (.writeFile file.1)
      | some written => .ok written) archiveRoot

structure ArchiveStaging (N Content : Type) where
  archiveRoot : Directory Content
  manifest : StagedManifest N

/-- The second phase: raw files. -/
def rawPhase [JsonNumber N] : Except StagingError (List (String × Content)) :=
  if input.includeRaw then rawPayloads services elsewhere input session else .ok []

def excludedPhase : Except StagingError (List String) :=
  if input.includeRaw then .ok [] else computeExcludedFiles services elsewhere input session

def createArchiveStaging [JsonNumber N] : Except StagingError (ArchiveStaging N Content) := do
  let redacted ← redactedPayloads services elsewhere input session
  let raw ← rawPhase services elsewhere input session
  let archiveRoot ← stageFiles (redacted ++ raw) []
  let excludedFiles ← excludedPhase services elsewhere input session
  let manifest ← buildManifest services input archiveRoot (redacted.map Prod.fst) excludedFiles
  let archiveRoot ← stageFiles
    [(archiveManifestFile,
      services.textFile (services.stringifyIndented (services.manifestDocument manifest)))]
    archiveRoot
  return { archiveRoot, manifest }

end Staging

/-! ### Targets -/

/-- The paths at which an archive has files. -/
def stagingPaths : List String → Prop
  | [name] => name = archiveManifestFile
  | [directory, name] =>
      directory ≠ "artifacts" ∧ directory ≠ archiveManifestFile ∧ name ≠ archiveManifestFile
  | [directory, _, name] => directory = "artifacts" ∧ name ≠ archiveManifestFile
  | _ => False

theorem archiveManifestFile_ne : archiveManifestFile ≠ "artifacts" := by decide

/-- No path of a file continues another one. -/
theorem eq_of_stagingPaths {path other : List String} (hpath : stagingPaths path)
    (hother : stagingPaths other) (hbefore : path <+: other) : path = other := by
  rcases path with _ | ⟨name, _ | ⟨second, _ | ⟨third, _ | ⟨fourth, path⟩⟩⟩⟩
  · exact False.elim hpath
  · rcases other with _ | ⟨other, _ | ⟨second, _ | ⟨third, _ | ⟨fourth, rest⟩⟩⟩⟩
    · exact False.elim hother
    · exact hbefore.eq_of_length rfl
    · exact absurd ((List.cons_prefix_cons.1 hbefore).1.symm.trans hpath) hother.2.1
    · exact absurd (hpath.symm.trans ((List.cons_prefix_cons.1 hbefore).1.trans hother.1))
        archiveManifestFile_ne
    · exact False.elim hother
  · rcases other with _ | ⟨other, _ | ⟨next, _ | ⟨third, _ | ⟨fourth, rest⟩⟩⟩⟩
    · exact False.elim hother
    · exact absurd hbefore.length_le (by simp)
    · exact hbefore.eq_of_length rfl
    · exact absurd ((List.cons_prefix_cons.1 hbefore).1.trans hother.1) hpath.1
    · exact False.elim hother
  · rcases other with _ | ⟨other, _ | ⟨next, _ | ⟨last, _ | ⟨fourth, rest⟩⟩⟩⟩
    · exact False.elim hother
    · exact absurd hbefore.length_le (by simp)
    · exact absurd hbefore.length_le (by simp)
    · exact hbefore.eq_of_length rfl
    · exact False.elim hother
  · exact False.elim hpath

theorem prefixFree_stagingPaths : Entry.PrefixFree stagingPaths :=
  ⟨id, fun _ _ hpath hother hbefore => eq_of_stagingPaths hpath hother hbefore⟩

/-- A target of staging: the text of one of these paths. -/
structure StagingTarget (target : String) : Prop where
  plain : IsPlainPath target
  path : stagingPaths (pathSegments target)

/-- The part of a file name that decides where an artifact lies. -/
def artifactCategory (filename : String) : String :=
  if startsWith filename "ticket." then "ticket"
  else if startsWith filename "plan." then "plan"
  else if Redaction.includes filename.toList "review-card.".toList then "reviews"
  else if startsWith filename "ADR-" then "architecture"
  else "other"

theorem archiveArtifactPath_eq (filename : String) :
    archiveArtifactPath filename =
      Entry.joinFrom "" ["artifacts", artifactCategory filename, filename] := by
  rw [archiveArtifactPath, artifactCategory]
  split_ifs <;> exact congrArg (· ++ filename) (by decide)

theorem archiveImplementationPath_eq (filename : String) :
    archiveImplementationPath filename = Entry.joinFrom "" ["implementation", filename] :=
  congrArg (· ++ filename) (by decide)

theorem proper_artifactCategory (filename : String) : ProperName (artifactCategory filename) := by
  rw [artifactCategory]
  split_ifs <;> exact properName_of (by decide)

/-- Where the archive keeps an artifact or an implementation diff. -/
def evidenceTarget : List String → Option String
  | [name] => if isImplementationDiff name then some (archiveImplementationPath name) else none
  | [directory, name] =>
      if directory = "artifacts" then some (archiveArtifactPath name) else none
  | _ => none

def rawTarget : List String → Option String
  | [name] => rawSourcePaths.lookup name
  | _ => none

/-- Where the archive keeps a file of a session directory. -/
def archiveTarget (path : List String) : Option String :=
  (rawTarget path).or (evidenceTarget path)

/-- The names on the way to a copy of an evidence file. -/
def evidencePath (path : List String) : List String :=
  match path with
  | [name] => ["implementation", name]
  | directory :: name :: _ => [directory, artifactCategory name, name]
  | [] => []

theorem pathSegments_evidenceTarget {path : List String} {target : String}
    (hproper : ∀ name ∈ path, ProperName name) (htarget : evidenceTarget path = some target) :
    IsPlainPath target ∧ pathSegments target = evidencePath path := by
  match path with
  | [] => cases htarget
  | [name] =>
      rw [evidenceTarget] at htarget
      split_ifs at htarget
      obtain rfl := Option.some_inj.1 htarget
      have hnames : ∀ other ∈ ["implementation", name], ProperName other :=
        List.forall_mem_cons.2 ⟨properName_of (by decide), hproper⟩
      rw [archiveImplementationPath_eq]
      exact ⟨isPlainPath_joinFrom (List.cons_ne_nil _ _) hnames,
        pathSegments_joinFrom (List.cons_ne_nil _ _) hnames⟩
  | [directory, name] =>
      rw [evidenceTarget] at htarget
      split_ifs at htarget with hartifact
      obtain rfl := Option.some_inj.1 htarget
      subst hartifact
      obtain ⟨hfirst, hname⟩ := List.forall_mem_cons.1 hproper
      have hnames : ∀ other ∈ ["artifacts", artifactCategory name, name], ProperName other :=
        List.forall_mem_cons.2 ⟨hfirst,
          List.forall_mem_cons.2 ⟨proper_artifactCategory name, hname⟩⟩
      rw [archiveArtifactPath_eq]
      exact ⟨isPlainPath_joinFrom (List.cons_ne_nil _ _) hnames,
        pathSegments_joinFrom (List.cons_ne_nil _ _) hnames⟩
  | _ :: _ :: _ :: _ => cases htarget

theorem stagingTarget_evidence {path : List String} {target : String}
    (hproper : ∀ name ∈ path, ProperName name) (htarget : evidenceTarget path = some target)
    (hlast : path.getLast? ≠ some archiveManifestFile) : StagingTarget target := by
  obtain ⟨hplain, hsegments⟩ := pathSegments_evidenceTarget hproper htarget
  refine ⟨hplain, ?_⟩
  rw [hsegments]
  match path with
  | [] => cases htarget
  | [name] => exact ⟨by decide, by decide, fun hname => hlast (congrArg some hname)⟩
  | [directory, name] =>
      rw [evidenceTarget] at htarget
      split_ifs at htarget with hartifact
      exact ⟨hartifact, fun hname => hlast (congrArg some hname)⟩
  | _ :: _ :: _ :: _ => cases htarget

/-- Two evidence files are not copied to one target. -/
theorem evidenceTarget_injective {path other : List String} {target : String}
    (hproper : ∀ name ∈ path, ProperName name) (hproper' : ∀ name ∈ other, ProperName name)
    (htarget : evidenceTarget path = some target) (htarget' : evidenceTarget other = some target) :
    path = other := by
  have hsegments := (pathSegments_evidenceTarget hproper htarget).2
  rw [(pathSegments_evidenceTarget hproper' htarget').2] at hsegments
  match path, other with
  | [], _ => cases htarget
  | _, [] => cases htarget'
  | [name], [name'] => simpa [evidencePath, eq_comm] using hsegments
  | [name], _ :: _ :: _ => simp [evidencePath] at hsegments
  | _ :: _ :: _, [name] => simp [evidencePath] at hsegments
  | [directory, name], [directory', name'] =>
      simp only [evidencePath, List.cons.injEq, and_true] at hsegments
      rw [hsegments.1, hsegments.2.2]
  | _ :: _ :: _ :: _, _ => cases htarget
  | _, _ :: _ :: _ :: _ => cases htarget'

/-- The targets of the files that an archive has at most one of. -/
def fixedTargets : List String :=
  [ArchiveLayout.stateRedacted, ArchiveLayout.auditRedacted, ArchiveLayout.receiptsRedacted,
    ArchiveLayout.reviewReportRedacted, ArchiveLayout.state, ArchiveLayout.audit,
    ArchiveLayout.discovery, ArchiveLayout.profileResolution, ArchiveLayout.reviewReport,
    ArchiveLayout.receipts]

instance : DecidablePred stagingPaths := fun path =>
  match path with
  | [] => isFalse id
  | [name] => inferInstanceAs (Decidable (name = _))
  | [directory, name] => inferInstanceAs (Decidable (directory ≠ _ ∧ directory ≠ _ ∧ name ≠ _))
  | [directory, _, name] => inferInstanceAs (Decidable (directory = _ ∧ name ≠ _))
  | _ :: _ :: _ :: _ :: _ => isFalse id

theorem fixedTargets_nodup : fixedTargets.Nodup := by decide

theorem stagingTarget_fixed : ∀ target ∈ fixedTargets, StagingTarget target ∧
    (pathSegments target).head? ≠ some "artifacts" ∧
    (pathSegments target).head? ≠ some "implementation" := by
  have hpaths : ∀ target ∈ fixedTargets,
      IsPlainPath target ∧ stagingPaths (pathSegments target) ∧
        (pathSegments target).head? ≠ some "artifacts" ∧
        (pathSegments target).head? ≠ some "implementation" := by decide +kernel
  intro target hmem
  obtain ⟨hplain, hpath, hapart⟩ := hpaths target hmem
  exact ⟨⟨hplain, hpath⟩, hapart⟩

theorem evidenceTarget_not_fixed {path : List String} {target : String}
    (hproper : ∀ name ∈ path, ProperName name) (htarget : evidenceTarget path = some target) :
    target ∉ fixedTargets := by
  intro hfixed
  obtain ⟨-, hartifacts, himplementation⟩ := stagingTarget_fixed target hfixed
  rw [(pathSegments_evidenceTarget hproper htarget).2] at hartifacts himplementation
  match path with
  | [] => cases htarget
  | [name] => exact himplementation rfl
  | [directory, name] =>
      rw [evidenceTarget] at htarget
      split_ifs at htarget with hartifact
      exact hartifacts (congrArg some hartifact)
  | _ :: _ :: _ :: _ => cases htarget

/-! ### Listings -/

section Listings

variable {Content : Type} {tree : Directory Content}

theorem mem_listSessionFiles (hnamed : WellNamedPayload tree) {relPath : String} :
    relPath ∈ listSessionFiles tree ↔
      ∃ path content, (Entry.directory tree).find? path = some (.file content) ∧
        path.getLast? ≠ some archiveManifestFile ∧ relPath = Entry.joinFrom "" path := by
  have hwalk : relPath ∈ listSessionFiles tree ↔ _ :=
    mem_sortTexts.trans
      (@Entry.mem_walkEntry Content String ProperName _ _ hnamed "" "" relPath)
  rw [hwalk]
  constructor
  · rintro ⟨path, leaf, hfound, hleaf, hvisit⟩
    split_ifs at hvisit with hlisted
    rw [Bool.and_eq_true, bne_iff_ne, List.getLastD_eq_getLast?] at hlisted
    cases leaf with
    | directory entries => cases hleaf
    | special => cases hlisted.1
    | file content =>
        refine ⟨path, content, hfound, fun hlast => hlisted.2 ?_, (Option.some_inj.1 hvisit).symm⟩
        rw [hlast]
        rfl
  · rintro ⟨path, content, hfound, hlast, rfl⟩
    refine ⟨path, _, hfound, rfl, if_pos ?_⟩
    rw [Bool.and_eq_true, bne_iff_ne, List.getLastD_eq_getLast?]
    refine ⟨rfl, ?_⟩
    cases hname : path.getLast? with
    | none => decide
    | some name =>
        rintro rfl
        exact hlast hname

theorem ne_nil_of_file {path : List String} {content : Content}
    (hfound : (Entry.directory tree).find? path = some (.file content)) : path ≠ [] := by
  rintro rfl
  rw [Entry.find?_nil] at hfound
  cases hfound

/-- A path of names is looked up under its text. -/
theorem fileAt_joinFrom (hnamed : WellNamedPayload tree) {path : List String} {content : Content}
    (hfound : (Entry.directory tree).find? path = some (.file content)) :
    fileAt tree (Entry.joinFrom "" path) = some content := by
  rw [fileAt, pathSegments_joinFrom (ne_nil_of_file hfound) (hnamed.proper_of_find? hfound),
    hfound]

theorem startsWith_iff {text start : String} :
    startsWith text start = true ↔ start.toList <+: text.toList :=
  List.isPrefixOf_iff_prefix

theorem startsWith_artifacts {path : List String} (hne : path ≠ [])
    (hproper : ∀ name ∈ path, ProperName name) :
    startsWith (Entry.joinFrom "" path) "artifacts/" = true ↔
      ∃ name rest, path = "artifacts" :: name :: rest := by
  rw [startsWith_iff]
  constructor
  · rintro ⟨more, hmore⟩
    have hsegments := pathSegments_joinFrom hne hproper
    have hsplit : (Entry.joinFrom "" path).toList = "artifacts".toList ++ '/' :: more :=
      hmore.symm
    rw [pathSegments, hsplit, List.splitOn_append_cons_self_of_not_mem (by decide),
      List.map_cons, String.ofList_toList] at hsegments
    cases hrest : more.splitOn '/' with
    | nil => exact absurd hrest (List.splitOn_ne_nil '/' more)
    | cons piece pieces =>
        rw [hrest, List.map_cons] at hsegments
        exact ⟨_, _, hsegments.symm⟩
  · rintro ⟨name, rest, rfl⟩
    rw [Entry.joinFrom, List.foldl_cons, Entry.childPath, if_pos rfl, ← Entry.joinFrom,
      toList_joinFrom (by decide), List.map_cons, List.intercalate_cons_cons]
    have hslash : "artifacts/".toList = "artifacts".toList ++ ['/'] := by decide
    exact ⟨_, congrArg (· ++ _) hslash⟩

/-- The name of a diff has no directory in it. -/
theorem noSlash_of_isImplementationDiff {relPath : String}
    (hdiff : isImplementationDiff relPath = true) : '/' ∉ relPath.toList := by
  rw [isImplementationDiff, Bool.and_eq_true, Bool.and_eq_true, startsWith_iff, beq_iff_eq] at hdiff
  obtain ⟨⟨⟨rest, hrest⟩, -⟩, htail⟩ := hdiff
  have hdrop : relPath.toList.drop "implementation-diff.".length = rest := by
    rw [← hrest]
    exact List.drop_left
  rw [hdrop] at htail
  rw [← hrest, ← List.takeWhile_append_dropWhile (p := isLowerHex) (l := rest), htail]
  intro hslash
  rcases List.mem_append.1 hslash with hstart | hslash
  · exact absurd hstart (by decide)
  · rcases List.mem_append.1 hslash with hhex | hend
    · exact absurd (List.mem_takeWhile_imp hhex) (by decide)
    · exact absurd hend (by decide)

theorem isImplementationDiff_joinFrom {path : List String} (hne : path ≠ [])
    (hproper : ∀ name ∈ path, ProperName name)
    (hdiff : isImplementationDiff (Entry.joinFrom "" path) = true) : ∃ name, path = [name] := by
  have hsegments := pathSegments_joinFrom hne hproper
  rw [pathSegments, List.splitOn_eq_singleton (noSlash_of_isImplementationDiff hdiff)] at hsegments
  exact ⟨_, hsegments.symm⟩

theorem basename_joinFrom {path : List String} {name : String}
    (hproper : ∀ other ∈ path ++ [name], ProperName other) :
    basename (Entry.joinFrom "" (path ++ [name])) = name := by
  have hname := (hproper name (by simp)).nonempty
  rw [basename, pathSegments_joinFrom (by simp) hproper, List.reverse_append,
    List.reverse_singleton, List.singleton_append,
    List.dropWhile_cons_of_neg (by simpa using hname)]
  rfl

/-- What the writers of a session directory keep to. -/
structure SessionDirectory (session : Directory Content) : Prop where
  named : WellNamedPayload session
  flat : ∀ entries, session.lookup "artifacts" = some (.directory entries) →
    ∀ child ∈ entries, child.2.isFile = true
  sources : ∀ source ∈ rawSourcePaths, ∀ entry, session.lookup source.1 = some entry →
    entry.isFile = true

variable {session : Directory Content}

theorem SessionDirectory.artifact (hsession : SessionDirectory session) {name : String}
    {rest : List String} {content : Content}
    (hfound : (Entry.directory session).find? ("artifacts" :: name :: rest) =
      some (.file content)) : rest = [] := by
  rw [Entry.find?_cons, Option.bind_eq_some_iff] at hfound
  obtain ⟨artifacts, hartifacts, hfound⟩ := hfound
  cases artifacts with
  | file old => cases hfound
  | special => cases hfound
  | directory entries =>
      rw [Entry.find?_cons, Option.bind_eq_some_iff] at hfound
      obtain ⟨child, hchild, hfound⟩ := hfound
      have hfile := hsession.flat entries hartifacts _ (Entry.mem_of_lookup hchild)
      cases child with
      | directory below => cases hfile
      | special => cases hfile
      | file old =>
          cases rest with
          | nil => rfl
          | cons next more => cases hfound

/-- What the two rules for evidence make of a listed file. -/
theorem evidence_of_listed {α : Type} (hsession : SessionDirectory session) {path : List String}
    {content : Content} (hfound : (Entry.directory session).find? path = some (.file content))
    (copy : String → List α) (item : α) :
    (item ∈ (if startsWith (Entry.joinFrom "" path) "artifacts/" then
        copy (archiveArtifactPath (basename (Entry.joinFrom "" path))) else []) ++
      if isImplementationDiff (Entry.joinFrom "" path) then
        copy (archiveImplementationPath (basename (Entry.joinFrom "" path))) else []) ↔
      ∃ target, evidenceTarget path = some target ∧ item ∈ copy target := by
  have hne := ne_nil_of_file hfound
  have hproper := hsession.named.proper_of_find? hfound
  by_cases hartifact : startsWith (Entry.joinFrom "" path) "artifacts/" = true
  · obtain ⟨name, rest, rfl⟩ := (startsWith_artifacts hne hproper).1 hartifact
    obtain rfl := hsession.artifact hfound
    have hdiff : isImplementationDiff (Entry.joinFrom "" ["artifacts", name]) = false := by
      rw [Bool.eq_false_iff]
      intro hdiff
      obtain ⟨other, hother⟩ := isImplementationDiff_joinFrom hne hproper hdiff
      cases hother
    have hbase : basename (Entry.joinFrom "" ["artifacts", name]) = name :=
      @basename_joinFrom ["artifacts"] name hproper
    rw [hartifact, hdiff, hbase]
    simp [evidenceTarget]
  · by_cases hdiff : isImplementationDiff (Entry.joinFrom "" path) = true
    · obtain ⟨name, rfl⟩ := isImplementationDiff_joinFrom hne hproper hdiff
      have hbase : basename (Entry.joinFrom "" [name]) = name := @basename_joinFrom [] name hproper
      have hjoined : Entry.joinFrom "" [name] = name := rfl
      rw [if_neg hartifact, if_pos hdiff, hbase]
      rw [hjoined] at hdiff
      simp [evidenceTarget, hdiff]
    · rw [if_neg hartifact, if_neg hdiff]
      have hnone : evidenceTarget path = none := by
        match path with
        | [] => rfl
        | [name] => exact if_neg hdiff
        | [directory, name] =>
            refine if_neg fun hevidence => hartifact ?_
            rw [startsWith_artifacts hne hproper, hevidence]
            exact ⟨name, [], rfl⟩
        | _ :: _ :: _ :: _ => rfl
      simp [hnone]

theorem mem_evidence {α : Type} (hsession : SessionDirectory session)
    (copy : String → String → List α) (item : α) :
    (item ∈ (listSessionFiles session).flatMap fun relPath =>
      (if startsWith relPath "artifacts/" then
        copy relPath (archiveArtifactPath (basename relPath)) else []) ++
      if isImplementationDiff relPath then
        copy relPath (archiveImplementationPath (basename relPath)) else []) ↔
      ∃ path content target, (Entry.directory session).find? path = some (.file content) ∧
        path.getLast? ≠ some archiveManifestFile ∧ evidenceTarget path = some target ∧
        item ∈ copy (Entry.joinFrom "" path) target := by
  rw [List.mem_flatMap]
  constructor
  · rintro ⟨relPath, hlisted, hitem⟩
    obtain ⟨path, content, hfound, hlast, rfl⟩ := (mem_listSessionFiles hsession.named).1 hlisted
    obtain ⟨target, htarget, hcopied⟩ :=
      (evidence_of_listed hsession hfound (copy (Entry.joinFrom "" path)) item).1 hitem
    exact ⟨path, content, target, hfound, hlast, htarget, hcopied⟩
  · rintro ⟨path, content, target, hfound, hlast, htarget, hcopied⟩
    refine ⟨_, (mem_listSessionFiles hsession.named).2 ⟨path, content, hfound, hlast, rfl⟩, ?_⟩
    exact (evidence_of_listed hsession hfound (copy (Entry.joinFrom "" path)) item).2
      ⟨target, htarget, hcopied⟩

theorem mem_copyEvidence (hsession : SessionDirectory session) {target : String}
    {content : Content} :
    (target, content) ∈ copyEvidence session ↔
      ∃ path, (Entry.directory session).find? path = some (.file content) ∧
        path.getLast? ≠ some archiveManifestFile ∧ evidenceTarget path = some target := by
  rw [copyEvidence, mem_evidence hsession (copyIfPresent session) (target, content)]
  constructor
  · rintro ⟨path, content', target', hfound, hlast, htarget, hcopied⟩
    rw [copyIfPresent, fileAt_joinFrom hsession.named hfound, Option.map_some,
      Option.toList_some, List.mem_singleton] at hcopied
    cases hcopied
    exact ⟨path, hfound, hlast, htarget⟩
  · rintro ⟨path, hfound, hlast, htarget⟩
    refine ⟨path, content, target, hfound, hlast, htarget, ?_⟩
    rw [copyIfPresent, fileAt_joinFrom hsession.named hfound]
    exact List.mem_singleton_self _

end Listings

/-! ### Payloads -/

section Payloads

variable {N Content : Type} {services : StagingServices N Content}
  {elsewhere : String → Option (Entry Content)} {input : ArchiveStagingInput N}
  {session : Directory Content}

theorem presentFiles_targets (files : List (String × Option Content)) :
    ((presentFiles files).map Prod.fst).Sublist (files.map Prod.fst) := by
  induction files with
  | nil => exact List.Sublist.refl []
  | cons file rest ih =>
      obtain ⟨target, content⟩ := file
      cases content with
      | none => exact ih.cons target
      | some content => exact ih.cons_cons target

theorem mem_presentFiles {files : List (String × Option Content)} {target : String}
    {content : Content} :
    (target, content) ∈ presentFiles files ↔ (target, some content) ∈ files := by
  rw [presentFiles, List.mem_filterMap]
  constructor
  · rintro ⟨⟨other, content'⟩, hmem, hsome⟩
    obtain ⟨found, rfl, hpair⟩ := Option.map_eq_some_iff.1 hsome
    cases hpair
    exact hmem
  · intro hmem
    exact ⟨_, hmem, rfl⟩

theorem presentFiles_append (files others : List (String × Option Content)) :
    presentFiles (files ++ others) = presentFiles files ++ presentFiles others :=
  List.filterMap_append

/-- Redaction names no file twice, and no raw one. -/
theorem redactedPayloads_targets {redacted : List (String × Content)}
    (hredacted : redactedPayloads services elsewhere input session = .ok redacted) :
    (redacted.map Prod.fst).Sublist (fixedTargets.take 4) := by
  rw [redactedPayloads] at hredacted
  split_ifs at hredacted with hmode
  · cases hredacted
    exact List.nil_sublist _
  · obtain ⟨state, -, hredacted⟩ := bind_eq_ok_iff.1 hredacted
    obtain ⟨audit, -, hredacted⟩ := bind_eq_ok_iff.1 hredacted
    obtain ⟨receipts, -, hredacted⟩ := bind_eq_ok_iff.1 hredacted
    obtain ⟨report, -, hredacted⟩ := bind_eq_ok_iff.1 hredacted
    cases hredacted
    exact presentFiles_targets _

variable (services input) in
/-- What the archive keeps of a file: its bytes, but the trail as it was read. -/
def archivedContent (path : List String) (content : Content) : Content :=
  if path = ["audit.jsonl"] then jsonLines services input.events else content

variable (services input session) in
/-- The copy of a raw source that is there. -/
def sourceCopy (source : String) : Option Content :=
  match session.lookup source with
  | some (.file content) => some (archivedContent services input [source] content)
  | _ => none

theorem sourceEntry_of_session (hsession : SessionDirectory session) {source : String × String}
    (hmem : source ∈ rawSourcePaths) :
    sourceEntry elsewhere session source.1 = session.lookup source.1 := by
  rw [sourceEntry]
  cases hlookup : session.lookup source.1 with
  | none => rfl
  | some entry =>
      have hfile := hsession.sources source hmem entry hlookup
      cases entry with
      | file content => rfl
      | directory entries => rfl
      | special => cases hfile

theorem rawSources_eq (hsession : SessionDirectory session) :
    rawSources services elsewhere input session =
      .ok (presentFiles (rawSourcePaths.map fun source =>
        (source.2, sourceCopy services input session source.1))) := by
  refine bind_eq_ok_iff.2 ⟨_, ?_, rfl⟩
  rw [mapM_eq_ok_iff, List.forall₂_map_right_iff, List.forall₂_same]
  rintro ⟨source, target⟩ hmem
  dsimp only
  have hentry : sourceEntry elsewhere session source = session.lookup source :=
    sourceEntry_of_session hsession hmem
  rw [hentry, sourceCopy]
  cases hlookup : session.lookup source with
  | none => rfl
  | some entry =>
      have hfile := hsession.sources _ hmem entry hlookup
      cases entry with
      | directory entries => cases hfile
      | special => cases hfile
      | file content =>
          by_cases haudit : source = "audit.jsonl"
          · subst haudit
            rfl
          · have hpath : [source] ≠ ["audit.jsonl"] := by simpa using haudit
            dsimp only
            rw [copyRawSource, if_pos (by simpa using haudit), archivedContent, if_neg hpath]
            rfl

variable [JsonNumber N]

variable (services input) in
/-- The receipts of the session as a file, if there are any. -/
def receiptsFile (receipts : List (DecisionReceipt N)) : Option Content :=
  if receipts.isEmpty then none
  else some (services.textFile
    (services.stringifyIndented (receiptsDocument services input receipts)))

theorem writeDecisionReceipts_eq {receipts : List (DecisionReceipt N)}
    (hreceipts : sessionReceipts services input = .ok receipts) :
    writeDecisionReceipts services input =
      .ok (presentFiles [(ArchiveLayout.receipts, receiptsFile services input receipts)]) := by
  rw [writeDecisionReceipts, hreceipts]
  cases receipts with
  | nil => rfl
  | cons receipt rest => rfl

variable (services input session) in
/-- The files that an archive has at most one of, other than the redacted ones. -/
def fixedFiles (receipts : List (DecisionReceipt N)) : List (String × Option Content) :=
  rawSourcePaths.map (fun source => (source.2, sourceCopy services input session source.1)) ++
    [(ArchiveLayout.receipts, receiptsFile services input receipts)]

theorem rawPayloads_eq (hsession : SessionDirectory session) {receipts : List (DecisionReceipt N)}
    (hreceipts : sessionReceipts services input = .ok receipts) :
    rawPayloads services elsewhere input session =
      .ok (presentFiles (fixedFiles services input session receipts) ++ copyEvidence session) := by
  rw [rawPayloads, rawSources_eq hsession, writeDecisionReceipts_eq hreceipts, fixedFiles,
    presentFiles_append]
  rfl

theorem fixedFiles_targets (receipts : List (DecisionReceipt N)) :
    (fixedFiles services input session receipts).map Prod.fst = fixedTargets.drop 4 := by
  rw [fixedFiles, List.map_append, List.map_map]
  rfl

end Payloads

/-! ### The staged tree -/

section Staged

variable {Content : Type} {files : List (String × Content)} {tree : Directory Content}

/-- Files for an archive, no two at one target. -/
structure StagedFiles (files : List (String × Content)) : Prop where
  target : ∀ file ∈ files, StagingTarget file.1
  same : ∀ file ∈ files, ∀ other ∈ files, file.1 = other.1 → file = other

def atPaths (files : List (String × Content)) : List (List String × Content) :=
  files.map fun file => (pathSegments file.1, file.2)

theorem stageFiles_of_writeFiles {written : Directory Content}
    (hwritten : Entry.writeFiles (atPaths files) tree = some written) :
    stageFiles files tree = .ok written := by
  induction files generalizing tree with
  | nil => exact congrArg _ (Option.some_inj.1 hwritten)
  | cons file rest ih =>
      rw [atPaths, List.map_cons, Entry.writeFiles, List.foldlM_cons, Option.bind_eq_bind,
        Option.bind_eq_some_iff] at hwritten
      obtain ⟨first, hfirst, hrest⟩ := hwritten
      rw [stageFiles, List.foldlM_cons, hfirst]
      exact ih hrest

/-- Staging puts each file at its target, and keeps what else there is. -/
theorem StagedFiles.staged (hfiles : StagedFiles files)
    (hbuilt : Entry.BuiltOn stagingPaths tree) (hnamed : WellNamedPayload tree) :
    ∃ written, stageFiles files tree = .ok written ∧ Entry.BuiltOn stagingPaths written ∧
      WellNamedPayload written ∧ Entry.Wrote (atPaths files) tree written := by
  have htargets : ∀ write ∈ atPaths files, stagingPaths write.1 := by
    intro write hmem
    obtain ⟨file, hfile, rfl⟩ := List.mem_map.1 hmem
    exact (hfiles.target file hfile).path
  have hproper : ∀ write ∈ atPaths files, ∀ name ∈ write.1, ProperName name := by
    intro write hmem
    obtain ⟨file, hfile, rfl⟩ := List.mem_map.1 hmem
    exact (hfiles.target file hfile).plain.proper
  have hsame : ∀ write ∈ atPaths files, ∀ other ∈ atPaths files, write.1 = other.1 →
      write = other := by
    intro write hmem other hother hpaths
    obtain ⟨file, hfile, rfl⟩ := List.mem_map.1 hmem
    obtain ⟨file', hfile', rfl⟩ := List.mem_map.1 hother
    have htarget : file.1 = file'.1 := by
      rw [← (hfiles.target file hfile).plain.joinFrom_eq,
        ← (hfiles.target file' hfile').plain.joinFrom_eq]
      exact congrArg _ hpaths
    rw [hfiles.same file hfile file' hfile' htarget]
  obtain ⟨written, hwritten, hstaged⟩ :=
    hbuilt.writeFiles prefixFree_stagingPaths htargets hsame hproper hnamed
  exact ⟨written, stageFiles_of_writeFiles hwritten, hstaged⟩

theorem mem_atPaths {path : List String} {content : Content} :
    (path, content) ∈ atPaths files ↔
      ∃ target, (target, content) ∈ files ∧ path = pathSegments target := by
  rw [atPaths, List.mem_map]
  constructor
  · rintro ⟨⟨target, content'⟩, hmem, hpair⟩
    cases hpair
    exact ⟨target, hmem, rfl⟩
  · rintro ⟨target, hmem, rfl⟩
    exact ⟨_, hmem, rfl⟩

/-- A tree that has exactly some files. -/
structure HasFiles (files : List (String × Content)) (tree : Directory Content) : Prop where
  built : Entry.BuiltOn stagingPaths tree
  named : WellNamedPayload tree
  file : ∀ path content, (Entry.directory tree).find? path = some (.file content) ↔
    ∃ target, (target, content) ∈ files ∧ path = pathSegments target

theorem StagedFiles.hasFiles (hfiles : StagedFiles files) :
    ∃ tree, stageFiles files [] = .ok tree ∧ HasFiles files tree := by
  obtain ⟨tree, hstaged, hbuilt, hnamed, hwrote⟩ :=
    hfiles.staged .nil (.of_children List.nodup_nil nofun)
  refine ⟨tree, hstaged, hbuilt, hnamed, fun path content => ?_⟩
  rw [hwrote.file, mem_atPaths, Entry.find?_nil_directory]
  refine or_iff_left fun hold => ?_
  split_ifs at hold
  · exact absurd hold.2 (by simp)
  · exact absurd hold.2 (by simp)

theorem stagingPaths_getLast? {path : List String} (hpath : stagingPaths path)
    (hlast : path.getLast? = some archiveManifestFile) : path = [archiveManifestFile] := by
  match path with
  | [] => cases hpath
  | [name] => exact congrArg (List.cons · []) hpath
  | [directory, name] => exact absurd (Option.some_inj.1 hlast) hpath.2.2
  | [directory, category, name] => exact absurd (Option.some_inj.1 hlast) hpath.2
  | _ :: _ :: _ :: _ :: _ => cases hpath

theorem pathSegments_archiveManifestFile :
    pathSegments archiveManifestFile = [archiveManifestFile] := by decide

/-- The listing of a staged tree is that of the files it was given. -/
theorem HasFiles.listed (htree : HasFiles files tree) (hfiles : StagedFiles files)
    (hmanifest : ∀ file ∈ files, file.1 ≠ archiveManifestFile) {relPath : String} :
    relPath ∈ listSessionFiles tree ↔ ∃ content, (relPath, content) ∈ files := by
  rw [mem_listSessionFiles htree.named]
  constructor
  · rintro ⟨path, content, hfound, -, rfl⟩
    obtain ⟨target, hmem, rfl⟩ := (htree.file path content).1 hfound
    rw [(hfiles.target _ hmem).plain.joinFrom_eq]
    exact ⟨content, hmem⟩
  · rintro ⟨content, hmem⟩
    have htarget := hfiles.target _ hmem
    refine ⟨_, content, (htree.file _ content).2 ⟨relPath, hmem, rfl⟩, fun hlast => ?_,
      htarget.plain.joinFrom_eq.symm⟩
    have hpath := stagingPaths_getLast? htarget.path hlast
    refine hmanifest _ hmem ?_
    rw [← htarget.plain.joinFrom_eq, hpath]
    rfl

end Staged

/-! ### The manifest of a staged tree -/

section Manifest

variable {N Content : Type} {services : StagingServices N Content}
  {input : ArchiveStagingInput N} {files : List (String × Content)} {tree : Directory Content}

variable (services tree) in
def treeDigest (file : String) : String :=
  (fileAt tree file).elim "" services.hashing.hashBuffer

theorem fileAt_of_listed (hnamed : WellNamedPayload tree) {relPath : String}
    (hlisted : relPath ∈ listSessionFiles tree) :
    ∃ content, fileAt tree relPath = some content := by
  obtain ⟨path, content, hfound, -, rfl⟩ := (mem_listSessionFiles hnamed).1 hlisted
  exact ⟨content, fileAt_joinFrom hnamed hfound⟩

theorem computeFileDigests_eq (hnamed : WellNamedPayload tree) :
    computeFileDigests services tree (listSessionFiles tree) =
      .ok ((listSessionFiles tree).map fun file => (file, treeDigest services tree file)) := by
  rw [computeFileDigests, mapM_eq_ok_iff, List.forall₂_map_right_iff, List.forall₂_same]
  intro relPath hlisted
  obtain ⟨content, hcontent⟩ := fileAt_of_listed hnamed hlisted
  rw [treeDigest, hcontent]
  rfl

/-- The manifest lists the files of the tree with their digests. -/
structure ManifestOf (services : StagingServices N Content) (tree : Directory Content)
    (redactedFiles excludedFiles : List String) (manifest : StagedManifest N) : Prop where
  includedFiles : manifest.includedFiles = listSessionFiles tree
  fileDigests : manifest.fileDigests =
    (listSessionFiles tree).map fun file => (file, treeDigest services tree file)
  redactedArtifacts : manifest.redactedArtifacts = optionalArray redactedFiles
  excludedFiles : manifest.excludedFiles = optionalArray excludedFiles

theorem optionalArray_getD (arr : List String) : (optionalArray arr).getD [] = arr := by
  cases arr with
  | nil => rfl
  | cons first rest => rfl

/-- A staged archive: its files, its listing, and the exact inventory of both. -/
structure StagedArchive (services : StagingServices N Content)
    (files : List (String × Content)) (redactedFiles excludedFiles : List String)
    (staging : ArchiveStaging N Content) : Prop where
  named : WellNamedPayload staging.archiveRoot
  file : ∀ path content, PayloadFile staging.archiveRoot path content ↔
    ∃ target, (target, content) ∈ files ∧ path = pathSegments target
  listed : ∀ relPath, relPath ∈ staging.manifest.includedFiles ↔
    ∃ content, (relPath, content) ∈ files
  inventory : ExactInventory services.hashing staging.archiveRoot staging.manifest.toArchiveManifest
  redactedArtifacts : staging.manifest.redactedArtifacts = optionalArray redactedFiles
  excludedFiles : staging.manifest.excludedFiles = optionalArray excludedFiles

theorem stagedFiles_manifest (content : Content) :
    StagedFiles [(archiveManifestFile, content)] := by
  have hplain : IsPlainPath archiveManifestFile := by decide
  have hpath : stagingPaths (pathSegments archiveManifestFile) := by decide
  refine ⟨List.forall_mem_singleton.2 ⟨hplain, hpath⟩, ?_⟩
  simp

/-- The manifest is written beside the files that it lists. -/
theorem HasFiles.archive (htree : HasFiles files tree) (hfiles : StagedFiles files)
    (hapart : ∀ file ∈ files, file.1 ≠ archiveManifestFile)
    {redactedFiles excludedFiles : List String} {manifest : StagedManifest N}
    (hmanifest : ManifestOf services tree redactedFiles excludedFiles manifest)
    (content : Content) :
    ∃ written, stageFiles [(archiveManifestFile, content)] tree = .ok written ∧
      StagedArchive services files redactedFiles excludedFiles ⟨written, manifest⟩ := by
  obtain ⟨written, hstaged, hbuilt, hnamed, hwrote⟩ :=
    (stagedFiles_manifest content).staged htree.built htree.named
  have hfile : ∀ path content', PayloadFile written path content' ↔
      ∃ target, (target, content') ∈ files ∧ path = pathSegments target := by
    intro path content'
    rw [PayloadFile, hwrote.file, htree.file]
    simp only [atPaths, List.map_cons, List.map_nil, List.mem_singleton, Prod.mk.injEq,
      pathSegments_archiveManifestFile]
    constructor
    · rintro ⟨⟨hroot, -⟩ | ⟨-, hold⟩, hother⟩
      · exact absurd hroot hother
      · exact hold
    · rintro ⟨target, hmem, rfl⟩
      have hother : pathSegments target ≠ [archiveManifestFile] := by
        intro hroot
        refine hapart _ hmem ?_
        rw [← (hfiles.target _ hmem).plain.joinFrom_eq, hroot]
        rfl
      exact ⟨.inr ⟨hother, target, hmem, rfl⟩, hother⟩
  have hlisted : ∀ relPath, relPath ∈ manifest.includedFiles ↔
      ∃ content, (relPath, content) ∈ files := by
    intro relPath
    rw [hmanifest.includedFiles]
    exact htree.listed hfiles hapart
  refine ⟨written, hstaged, hnamed, hfile, hlisted, ⟨fun relPath => ?_, ?_, ?_⟩,
    hmanifest.redactedArtifacts, hmanifest.excludedFiles⟩
  · rw [hlisted]
    constructor
    · rintro ⟨content', hmem⟩
      exact ⟨_, content', (hfile _ _).2 ⟨relPath, hmem, rfl⟩,
        (hfiles.target _ hmem).plain.joinFrom_eq.symm⟩
    · rintro ⟨path, content', hpayload, rfl⟩
      obtain ⟨target, hmem, rfl⟩ := (hfile _ _).1 hpayload
      rw [(hfiles.target _ hmem).plain.joinFrom_eq]
      exact ⟨content', hmem⟩
  · intro path content' hpayload
    obtain ⟨target, hmem, rfl⟩ := (hfile _ _).1 hpayload
    have hold := (htree.file _ content').2 ⟨target, hmem, rfl⟩
    have hlistedTarget : target ∈ listSessionFiles tree :=
      (htree.listed hfiles hapart).2 ⟨content', hmem⟩
    rw [hmanifest.fileDigests, (hfiles.target _ hmem).plain.joinFrom_eq,
      List.lookup_graph _ hlistedTarget, treeDigest, fileAt, hold]
    rfl
  · intro path hspecial
    exact absurd (hbuilt.leaves path _ hspecial rfl).1 Bool.false_ne_true

theorem buildManifest_ok [JsonNumber N] (hnamed : WellNamedPayload tree)
    (redactedFiles excludedFiles : List String) :
    ∃ manifest, buildManifest services input tree redactedFiles excludedFiles = .ok manifest ∧
      ManifestOf services tree redactedFiles excludedFiles manifest := by
  let base := manifestBase services input (listSessionFiles tree)
    ((listSessionFiles tree).map fun file => (file, treeDigest services tree file))
  have hdigests : base.includedFiles.mapM base.fileDigest =
      .ok (base.includedFiles.map (treeDigest services tree)) := by
    rw [mapM_eq_ok_iff, List.forall₂_map_right_iff, List.forall₂_same]
    intro relPath hlisted
    obtain ⟨content, hcontent⟩ := fileAt_of_listed hnamed hlisted
    have hlookup : base.fileDigests.lookup relPath = some (treeDigest services tree relPath) :=
      List.lookup_graph _ hlisted
    have hne : treeDigest services tree relPath ≠ "" := by
      rw [treeDigest, hcontent]
      exact services.hashing.nonempty content
    rw [ArchiveContentDigestInput.fileDigest, hlookup]
    exact if_neg hne
  have hcontentDigest : ∃ digest,
      computeArchiveContentDigest services.env.hashText base = .ok digest := by
    rw [computeArchiveContentDigest, hdigests]
    exact ⟨_, rfl⟩
  obtain ⟨digest, hdigest⟩ := hcontentDigest
  rw [buildManifest, computeFileDigests_eq hnamed]
  dsimp only [bind, Except.bind]
  rw [hdigest]
  exact ⟨_, rfl, rfl, rfl, rfl, rfl⟩

end Manifest

/-! ### What staging loses -/

section Loses

variable {N Content : Type} {services : StagingServices N Content}
  {elsewhere : String → Option (Entry Content)} {input : ArchiveStagingInput N}
  {session : Directory Content}

theorem rawTargets_injective : ∀ source ∈ rawSourcePaths, ∀ other ∈ rawSourcePaths,
    source.2 = other.2 → source = other := by decide

theorem rawTarget_eq {path : List String} {target : String} :
    rawTarget path = some target ↔ ∃ name, path = [name] ∧ (name, target) ∈ rawSourcePaths := by
  have hlookup : ∀ source ∈ rawSourcePaths, rawSourcePaths.lookup source.1 = some source.2 := by
    decide
  match path with
  | [] => simp [rawTarget]
  | [name] =>
      rw [rawTarget]
      constructor
      · intro htarget
        obtain ⟨front, back, hsplit, -⟩ := List.lookup_eq_some_iff.1 htarget
        refine ⟨name, rfl, ?_⟩
        rw [hsplit]
        simp
      · rintro ⟨other, hname, hmem⟩
        cases hname
        exact hlookup _ hmem
  | _ :: _ :: _ => simp [rawTarget]

theorem rawTarget_fixed {path : List String} {target : String}
    (htarget : rawTarget path = some target) : target ∈ fixedTargets := by
  obtain ⟨name, -, hmem⟩ := rawTarget_eq.1 htarget
  have hfixed : ∀ source ∈ rawSourcePaths, source.2 ∈ fixedTargets := by decide
  exact hfixed _ hmem

/-- No two files of a session directory have one target. -/
theorem archiveTarget_injective (hsession : SessionDirectory session) {path other : List String}
    {content content' : Content}
    (hfound : (Entry.directory session).find? path = some (.file content))
    (hfound' : (Entry.directory session).find? other = some (.file content')) {target : String}
    (htarget : archiveTarget path = some target) (htarget' : archiveTarget other = some target) :
    path = other := by
  have hproper := hsession.named.proper_of_find? hfound
  have hproper' := hsession.named.proper_of_find? hfound'
  rcases Option.or_eq_some_iff.1 htarget with hraw | ⟨-, hevidence⟩
  · rcases Option.or_eq_some_iff.1 htarget' with hraw' | ⟨-, hevidence'⟩
    · obtain ⟨name, rfl, hmem⟩ := rawTarget_eq.1 hraw
      obtain ⟨name', rfl, hmem'⟩ := rawTarget_eq.1 hraw'
      cases rawTargets_injective _ hmem _ hmem' rfl
      rfl
    · exact absurd (rawTarget_fixed hraw) (evidenceTarget_not_fixed hproper' hevidence')
  · rcases Option.or_eq_some_iff.1 htarget' with hraw' | ⟨-, hevidence'⟩
    · exact absurd (rawTarget_fixed hraw') (evidenceTarget_not_fixed hproper hevidence)
    · exact evidenceTarget_injective hproper hproper' hevidence hevidence'

/-- A raw archive has everything of a session directory, and its listings say so. -/
structure LosesNothing (services : StagingServices N Content) (input : ArchiveStagingInput N)
    (session : Directory Content) (raw kept : ArchiveStaging N Content) : Prop where
  archived : ∀ path content target,
    (Entry.directory session).find? path = some (.file content) →
    archiveTarget path = some target →
    (Entry.directory raw.archiveRoot).find? (pathSegments target) =
      some (.file (archivedContent services input path content))
  apart : ∀ path other content content' target,
    (Entry.directory session).find? path = some (.file content) →
    (Entry.directory session).find? other = some (.file content') →
    archiveTarget path = some target → archiveTarget other = some target → path = other
  inventory : ExactInventory services.hashing raw.archiveRoot raw.manifest.toArchiveManifest
  verified : ∀ elsewhere,
    verifyInventory services.hashing elsewhere raw.archiveRoot raw.manifest.toArchiveManifest =
      .ok []
  /-- What staging leaves out without raw files is what it adds with them. -/
  excluded : ∀ target, target ∈ kept.manifest.excludedFiles.getD [] ↔
    target ∈ raw.manifest.includedFiles ∧ target ∉ raw.manifest.redactedArtifacts.getD []

/-- Redacted files and raw ones, each at a target of its own. -/
theorem stagedFiles_of_session [JsonNumber N] (hsession : SessionDirectory session)
    {redacted : List (String × Content)}
    (hredacted : (redacted.map Prod.fst).Sublist (fixedTargets.take 4))
    (receipts : List (DecisionReceipt N)) :
    StagedFiles (redacted ++
      (presentFiles (fixedFiles services input session receipts) ++ copyEvidence session)) := by
  let fixed := redacted ++ presentFiles (fixedFiles services input session receipts)
  have hsublist : (fixed.map Prod.fst).Sublist fixedTargets := by
    have hraw := presentFiles_targets (fixedFiles services input session receipts)
    rw [fixedFiles_targets] at hraw
    have hboth := hredacted.append hraw
    rwa [List.take_append_drop, ← List.map_append] at hboth
  have hevidence : ∀ file ∈ copyEvidence session, ∃ path,
      (∀ name ∈ path, ProperName name) ∧
      (Entry.directory session).find? path = some (.file file.2) ∧
      path.getLast? ≠ some archiveManifestFile ∧ evidenceTarget path = some file.1 := by
    rintro ⟨target, content⟩ hmem
    obtain ⟨path, hfound, hlast, htarget⟩ := (mem_copyEvidence hsession).1 hmem
    exact ⟨path, hsession.named.proper_of_find? hfound, hfound, hlast, htarget⟩
  have hfixedTarget : ∀ file ∈ fixed, file.1 ∈ fixedTargets :=
    fun file hmem => hsublist.subset (List.mem_map_of_mem hmem)
  rw [← List.append_assoc]
  refine ⟨fun file hmem => ?_, fun file hmem other hother htarget => ?_⟩
  · rcases List.mem_append.1 hmem with hmem | hmem
    · exact (stagingTarget_fixed _ (hfixedTarget file hmem)).1
    · obtain ⟨path, hproper, -, hlast, hpath⟩ := hevidence file hmem
      exact stagingTarget_evidence hproper hpath hlast
  · rcases List.mem_append.1 hmem with hmem | hmem
    · rcases List.mem_append.1 hother with hother | hother
      · exact List.inj_on_of_nodup_map (hsublist.nodup fixedTargets_nodup) hmem hother htarget
      · obtain ⟨path, hproper, -, -, hpath⟩ := hevidence other hother
        exact absurd (htarget ▸ hfixedTarget file hmem) (evidenceTarget_not_fixed hproper hpath)
    · obtain ⟨path, hproper, hfound, -, hpath⟩ := hevidence file hmem
      rcases List.mem_append.1 hother with hother | hother
      · exact absurd (htarget.symm ▸ hfixedTarget other hother)
          (evidenceTarget_not_fixed hproper hpath)
      · obtain ⟨path', hproper', hfound', -, hpath'⟩ := hevidence other hother
        rw [← htarget] at hpath'
        obtain rfl := evidenceTarget_injective hproper hproper' hpath hpath'
        rw [hfound, Option.some_inj, Entry.file.injEq] at hfound'
        exact Prod.ext htarget hfound'

theorem StagedFiles.subset {files others : List (String × Content)} (hfiles : StagedFiles files)
    (hsubset : others ⊆ files) : StagedFiles others :=
  ⟨fun file hmem => hfiles.target file (hsubset hmem),
    fun file hmem other hother => hfiles.same file (hsubset hmem) other (hsubset hother)⟩

/-- The root is left to the manifest. -/
theorem target_ne_manifest (hsession : SessionDirectory session)
    {redacted fixed : List (String × Content)}
    (hfixed : ∀ file ∈ redacted ++ fixed, file.1 ∈ fixedTargets) :
    ∀ file ∈ redacted ++ (fixed ++ copyEvidence session), file.1 ≠ archiveManifestFile := by
  rw [← List.append_assoc]
  rintro ⟨target, content⟩ hmem
  rcases List.mem_append.1 hmem with hmem | hmem
  · have hother : ∀ target ∈ fixedTargets, target ≠ archiveManifestFile := by decide
    exact hother _ (hfixed _ hmem)
  · obtain ⟨path, hfound, -, htarget⟩ := (mem_copyEvidence hsession).1 hmem
    have hsegments :=
      (pathSegments_evidenceTarget (hsession.named.proper_of_find? hfound) htarget).2
    rintro rfl
    rw [pathSegments_archiveManifestFile] at hsegments
    match path with
    | [] => cases htarget
    | [name] => simp [evidencePath] at hsegments
    | _ :: _ :: _ => simp [evidencePath] at hsegments

variable [JsonNumber N]

theorem fixedTargets_of_staged {redacted : List (String × Content)}
    (hredacted : (redacted.map Prod.fst).Sublist (fixedTargets.take 4))
    (receipts : List (DecisionReceipt N)) :
    ∀ file ∈ redacted ++ presentFiles (fixedFiles services input session receipts),
      file.1 ∈ fixedTargets := by
  intro file hmem
  rcases List.mem_append.1 hmem with hmem | hmem
  · exact List.mem_of_mem_take (hredacted.subset (List.mem_map_of_mem hmem))
  · have hraw := presentFiles_targets (fixedFiles services input session receipts)
    rw [fixedFiles_targets] at hraw
    exact List.mem_of_mem_drop (hraw.subset (List.mem_map_of_mem hmem))

/-- The excluded files are the targets of the raw payloads. -/
theorem computeExcludedFiles_ok (hsession : SessionDirectory session)
    {receipts : List (DecisionReceipt N)}
    (hreceipts : sessionReceipts services input = .ok receipts) :
    ∃ excluded, computeExcludedFiles services elsewhere input session = .ok excluded ∧
      ∀ target, target ∈ excluded ↔ ∃ content, (target, content) ∈
        presentFiles (fixedFiles services input session receipts) ++ copyEvidence session := by
  rw [computeExcludedFiles, hreceipts]
  refine ⟨_, rfl, fun target => ?_⟩
  have hsources : target ∈ (rawSourcePaths.filter fun (source, _) =>
      (sourceEntry elsewhere session source).isSome).map Prod.snd ↔
      ∃ content, (target, some content) ∈ rawSourcePaths.map fun source =>
        (source.2, sourceCopy services input session source.1) := by
    simp only [List.mem_map, List.mem_filter, Prod.mk.injEq]
    constructor
    · rintro ⟨⟨source, other⟩, ⟨hmem, hsome⟩, rfl⟩
      have hentry : sourceEntry elsewhere session source = session.lookup source :=
        sourceEntry_of_session hsession hmem
      dsimp only at hsome
      rw [hentry] at hsome
      obtain ⟨entry, hlookup⟩ := Option.isSome_iff_exists.1 hsome
      have hfile := hsession.sources _ hmem entry hlookup
      cases entry with
      | directory entries => cases hfile
      | special => cases hfile
      | file content =>
          refine ⟨archivedContent services input [source] content, _, hmem, rfl, ?_⟩
          rw [sourceCopy, hlookup]
    · rintro ⟨content, ⟨source, other⟩, hmem, rfl, hcopy⟩
      have hentry : sourceEntry elsewhere session source = session.lookup source :=
        sourceEntry_of_session hsession hmem
      refine ⟨_, ⟨hmem, ?_⟩, rfl⟩
      dsimp only at hcopy ⊢
      rw [hentry]
      rw [sourceCopy] at hcopy
      cases hlookup : session.lookup source with
      | none => simp [hlookup] at hcopy
      | some entry => rfl
  have hreceiptsFile : target ∈ (if receipts.isEmpty then [] else [ArchiveLayout.receipts]) ↔
      ∃ content, (target, some content) ∈
        [(ArchiveLayout.receipts, receiptsFile services input receipts)] := by
    cases receipts with
    | nil => simp [receiptsFile]
    | cons receipt rest => simp [receiptsFile]
  have hevidence : target ∈ ((listSessionFiles session).flatMap fun relPath =>
      (if startsWith relPath "artifacts/" then
        [archiveArtifactPath (basename relPath)] else []) ++
      if isImplementationDiff relPath then
        [archiveImplementationPath (basename relPath)] else []) ↔
      ∃ content, (target, content) ∈ copyEvidence session := by
    rw [mem_evidence hsession (fun _ other => [other]) target]
    simp only [mem_copyEvidence hsession, List.mem_singleton]
    constructor
    · rintro ⟨path, content, other, hfound, hlast, htarget, rfl⟩
      exact ⟨content, path, hfound, hlast, htarget⟩
    · rintro ⟨content, path, hfound, hlast, htarget⟩
      exact ⟨path, content, target, hfound, hlast, htarget, rfl⟩
  rw [List.mem_append, List.mem_append, hsources, hreceiptsFile, hevidence, ← exists_or,
    ← exists_or]
  simp only [List.mem_append, mem_presentFiles, fixedFiles]

/-- Payloads with targets of their own are staged. -/
theorem createArchiveStaging_ok {redacted raw : List (String × Content)} {excluded : List String}
    (hredacted : redactedPayloads services elsewhere input session = .ok redacted)
    (hraw : rawPhase services elsewhere input session = .ok raw)
    (hexcluded : excludedPhase services elsewhere input session = .ok excluded)
    (hfiles : StagedFiles (redacted ++ raw))
    (hapart : ∀ file ∈ redacted ++ raw, file.1 ≠ archiveManifestFile) :
    ∃ staging, createArchiveStaging services elsewhere input session = .ok staging ∧
      StagedArchive services (redacted ++ raw) (redacted.map Prod.fst) excluded staging := by
  obtain ⟨tree, htree, hhas⟩ := hfiles.hasFiles
  obtain ⟨manifest, hmanifest, hof⟩ := @buildManifest_ok N Content services input tree _ hhas.named
    (redacted.map Prod.fst) excluded
  obtain ⟨written, hwritten, harchive⟩ := hhas.archive hfiles hapart hof
    (services.textFile (services.stringifyIndented (services.manifestDocument manifest)))
  refine ⟨_, ?_, harchive⟩
  rw [createArchiveStaging]
  refine bind_eq_ok_iff.2 ⟨redacted, hredacted, ?_⟩
  refine bind_eq_ok_iff.2 ⟨raw, hraw, ?_⟩
  refine bind_eq_ok_iff.2 ⟨tree, htree, ?_⟩
  refine bind_eq_ok_iff.2 ⟨excluded, hexcluded, ?_⟩
  refine bind_eq_ok_iff.2 ⟨manifest, hmanifest, ?_⟩
  exact bind_eq_ok_iff.2 ⟨written, hwritten, rfl⟩

/-- A file with a target is among the payloads, one of the manifest's name apart. -/
theorem mem_payloads (hsession : SessionDirectory session) (receipts : List (DecisionReceipt N))
    {path : List String} {content : Content} {target : String}
    (hfound : (Entry.directory session).find? path = some (.file content))
    (htarget : archiveTarget path = some target)
    (hlast : path.getLast? ≠ some archiveManifestFile) :
    (target, archivedContent services input path content) ∈
      presentFiles (fixedFiles services input session receipts) ++ copyEvidence session := by
  rcases Option.or_eq_some_iff.1 htarget with hraw | ⟨hraw, hevidence⟩
  · obtain ⟨name, rfl, hmem⟩ := rawTarget_eq.1 hraw
    rw [Entry.find?_cons, Option.bind_eq_some_iff] at hfound
    obtain ⟨entry, hlookup, hentry⟩ := hfound
    rw [Entry.find?_nil, Option.some_inj] at hentry
    subst hentry
    refine List.mem_append_left _ (mem_presentFiles.2 (List.mem_append_left _ ?_))
    refine List.mem_map.2 ⟨_, hmem, Prod.ext rfl ?_⟩
    dsimp only
    rw [sourceCopy, hlookup]
  · have hkept : archivedContent services input path content = content := by
      refine if_neg ?_
      rintro rfl
      cases hraw
    rw [hkept]
    exact List.mem_append_right _ ((mem_copyEvidence hsession).2 ⟨path, hfound, hlast, hevidence⟩)

theorem payload_not_redacted (hsession : SessionDirectory session)
    (receipts : List (DecisionReceipt N)) {target : String} {content : Content}
    (hmem : (target, content) ∈
      presentFiles (fixedFiles services input session receipts) ++ copyEvidence session) :
    target ∉ fixedTargets.take 4 := by
  rcases List.mem_append.1 hmem with hmem | hmem
  · have hraw := presentFiles_targets (fixedFiles services input session receipts)
    rw [fixedFiles_targets] at hraw
    have hapart : ∀ target ∈ fixedTargets.drop 4, target ∉ fixedTargets.take 4 := by decide
    exact hapart _ (hraw.subset (List.mem_map_of_mem hmem))
  · obtain ⟨path, hfound, -, htarget⟩ := (mem_copyEvidence hsession).1 hmem
    intro htake
    exact evidenceTarget_not_fixed (hsession.named.proper_of_find? hfound) htarget
      (List.mem_of_mem_take htake)

/-- The one file with a target that staging leaves out. -/
theorem path_of_manifestName {path : List String} {target : String}
    (htarget : archiveTarget path = some target)
    (hlast : path.getLast? = some archiveManifestFile) :
    path = ["artifacts", archiveManifestFile] := by
  match path with
  | [] => cases htarget
  | [name] =>
      obtain rfl : name = archiveManifestFile := Option.some_inj.1 hlast
      have hnone : archiveTarget [archiveManifestFile] = none := by decide
      rw [hnone] at htarget
      cases htarget
  | [directory, name] =>
      obtain rfl : name = archiveManifestFile := Option.some_inj.1 hlast
      have hevidence : evidenceTarget [directory, archiveManifestFile] = some target := htarget
      rw [evidenceTarget] at hevidence
      split_ifs at hevidence with hartifact
      rw [hartifact]
  | _ :: _ :: _ :: _ => cases htarget

/-- Staging of a session directory whose payloads can be redacted goes through, with raw
files and without.  It loses nothing if and only if no artifact has the name of the
manifest. -/
theorem raw_staging_loses_nothing_iff (services : StagingServices N Content)
    (elsewhere : String → Option (Entry Content)) (input : ArchiveStagingInput N)
    (hsession : SessionDirectory session) {redacted : List (String × Content)}
    (hredacted : redactedPayloads services elsewhere input session = .ok redacted)
    {receipts : List (DecisionReceipt N)}
    (hreceipts : sessionReceipts services input = .ok receipts) :
    ∃ raw kept,
      createArchiveStaging services elsewhere { input with includeRaw := true } session = .ok raw ∧
      createArchiveStaging services elsewhere { input with includeRaw := false } session =
        .ok kept ∧
      (LosesNothing services input session raw kept ↔
        ∀ content, (Entry.directory session).find? ["artifacts", archiveManifestFile] ≠
          some (.file content)) := by
  have htargets := redactedPayloads_targets hredacted
  let payloads := presentFiles (fixedFiles services input session receipts) ++ copyEvidence session
  have hfiles : StagedFiles (redacted ++ payloads) :=
    stagedFiles_of_session hsession htargets receipts
  have hfixed := @fixedTargets_of_staged N Content services input session _ _ htargets receipts
  have hapart : ∀ file ∈ redacted ++ payloads, file.1 ≠ archiveManifestFile :=
    target_ne_manifest hsession hfixed
  have hkept : redacted ++ [] ⊆ redacted ++ payloads := by simp
  obtain ⟨excluded, hexcluded, hmem⟩ :=
    @computeExcludedFiles_ok N Content services elsewhere input session _ hsession _ hreceipts
  obtain ⟨raw, hraw, harchive⟩ := @createArchiveStaging_ok N Content services elsewhere
    { input with includeRaw := true } session _ _ payloads [] hredacted
    (rawPayloads_eq hsession hreceipts) rfl hfiles hapart
  obtain ⟨kept, hkept, hkeptArchive⟩ := @createArchiveStaging_ok N Content services elsewhere
    { input with includeRaw := false } session _ _ [] excluded hredacted rfl hexcluded
    (hfiles.subset hkept) (fun file hmem => hapart file (hkept hmem))
  refine ⟨raw, kept, hraw, hkept, fun hlossless content hfound => ?_, fun hnone => ?_⟩
  · -- the target of the file is staged by no payload
    have harchived := hlossless.archived _ _ _ hfound rfl
    obtain ⟨target, hstaged, hpath⟩ :=
      (harchive.file _ _).1 ⟨harchived, by decide⟩
    have hstagingPath := (hfiles.target _ hstaged).path
    rw [← hpath] at hstagingPath
    exact absurd hstagingPath (by decide)
  · refine ⟨fun path content target hfound htarget => ?_, ?_, harchive.inventory,
      fun elsewhere => ?_, fun target => ?_⟩
    · have hlast : path.getLast? ≠ some archiveManifestFile := by
        intro hlast
        rw [path_of_manifestName htarget hlast] at hfound
        exact hnone content hfound
      exact ((harchive.file _ _).2 ⟨target,
        List.mem_append_right _ (mem_payloads hsession receipts hfound htarget hlast), rfl⟩).1
    · intro path other content content' target hfound hfound'
      exact archiveTarget_injective hsession hfound hfound'
    · refine harchive.inventory.verified harchive.named fun hproto => ?_
      obtain ⟨content, hstaged⟩ := (harchive.listed _).1 hproto
      have hpath : ¬ stagingPaths (pathSegments "__proto__") := by decide
      exact hpath (hfiles.target _ hstaged).path
    · rw [hkeptArchive.excludedFiles, optionalArray_getD, hmem, harchive.listed,
        harchive.redactedArtifacts, optionalArray_getD]
      constructor
      · rintro ⟨content, hpayload⟩
        refine ⟨⟨content, List.mem_append_right _ hpayload⟩, fun hagain => ?_⟩
        exact payload_not_redacted hsession receipts hpayload (htargets.subset hagain)
      · rintro ⟨⟨content, hstaged⟩, hother⟩
        refine ⟨content, (List.mem_append.1 hstaged).resolve_left fun hagain => hother ?_⟩
        exact List.mem_map_of_mem hagain

end Loses

/-! ### An artifact of the manifest's name -/

/-- Staging over texts. -/
def textServices : StagingServices Nat String where
  env := { hashText := id, sanitizeDiagnosticString := id }
  hashing := textHash
  encode := id
  stringify := Json.stringify
  stringifyIndented := Json.stringify
  parse _ := none
  decisionReceipts _ := some []
  getLastChainHash _ := "genesis"
  manifestDocument manifest := .object
    [("includedFiles", .array (manifest.includedFiles.map .string)),
      ("contentDigest", .string manifest.contentDigest)]
  now := "2026-01-01T00:00:00.000Z"

def sampleInput : ArchiveStagingInput Nat where
  sessionId := "ses_1"
  fingerprint := "0123456789abcdef01234567"
  state := none
  events := []
  redactionMode := .none
  includeRaw := true

/-- A session directory with a state and some artifacts. -/
def artifactSession (artifacts : List String) : Directory String :=
  [("session-state.json", .file "state"),
    ("artifacts", .directory (artifacts.map fun name => (name, .file "evidence")))]

theorem sessionDirectory_artifactSession {artifacts : List String} (hnodup : artifacts.Nodup)
    (hproper : ∀ name ∈ artifacts, ProperName name) :
    SessionDirectory (artifactSession artifacts) := by
  have hfile : ∀ child ∈ artifacts.map fun name => (name, Entry.file "evidence"),
      child.1 ∈ artifacts ∧ child.2 = Entry.file "evidence" := by
    intro child hmem
    obtain ⟨name, hname, rfl⟩ := List.mem_map.1 hmem
    exact ⟨hname, rfl⟩
  have hnames : (artifacts.map fun name => (name, Entry.file "evidence")).map Prod.fst =
      artifacts := by
    rw [List.map_map]
    exact List.map_id artifacts
  refine ⟨.of_children ?_ ?_, ?_, ?_⟩
  · have hroot : ["session-state.json", "artifacts"].Nodup := by decide
    exact hroot
  · have hstate : ProperName "session-state.json" := properName_of (by decide)
    have hartifacts : ProperName "artifacts" := properName_of (by decide)
    rw [artifactSession, List.forall_mem_cons, List.forall_mem_singleton]
    refine ⟨⟨hstate, .of_leaf rfl⟩, hartifacts,
      .of_children (hnames.symm ▸ hnodup) fun child hmem => ?_⟩
    obtain ⟨hname, hentry⟩ := hfile child hmem
    rw [hentry]
    exact ⟨hproper _ hname, .of_leaf rfl⟩
  · intro entries hlookup child hmem
    obtain rfl := Entry.directory.inj (Option.some_inj.1 hlookup)
    rw [(hfile child hmem).2]
    rfl
  · have hsource : ∀ source ∈ rawSourcePaths,
        source.1 = "session-state.json" ∨
          source.1 ≠ "session-state.json" ∧ source.1 ≠ "artifacts" := by decide
    intro source hmem entry hlookup
    rcases hsource source hmem with hstate | ⟨hother, hother'⟩
    · rw [hstate] at hlookup
      rw [← Option.some_inj.1 hlookup]
      rfl
    · rw [artifactSession, List.lookup_cons, List.lookup_cons, beq_eq_false_iff_ne.2 hother,
        beq_eq_false_iff_ne.2 hother'] at hlookup
      cases hlookup

theorem raw_staging_loses_nothing_plan :
    ∃ raw kept,
      createArchiveStaging textServices (fun _ => none)
        { sampleInput with includeRaw := true } (artifactSession ["plan.v1.md"]) = .ok raw ∧
      createArchiveStaging textServices (fun _ => none)
        { sampleInput with includeRaw := false } (artifactSession ["plan.v1.md"]) = .ok kept ∧
      (LosesNothing textServices sampleInput (artifactSession ["plan.v1.md"]) raw kept ↔
        ∀ content, (Entry.directory (artifactSession ["plan.v1.md"])).find?
          ["artifacts", archiveManifestFile] ≠ some (.file content)) :=
  raw_staging_loses_nothing_iff textServices (fun _ => none) sampleInput
    (sessionDirectory_artifactSession (by decide)
      (List.forall_mem_singleton.2 (properName_of (by decide)))) rfl rfl

/-- An artifact of the manifest's name is neither staged nor reported. -/
theorem manifestNamed_artifact_lost :
    ¬ ∀ session : Directory String, SessionDirectory session → ∃ raw kept,
      createArchiveStaging textServices (fun _ => none)
        { sampleInput with includeRaw := true } session = .ok raw ∧
      createArchiveStaging textServices (fun _ => none)
        { sampleInput with includeRaw := false } session = .ok kept ∧
      LosesNothing textServices sampleInput session raw kept := by
  intro hlossless
  obtain ⟨raw, kept, hraw, -, hnothing⟩ := hlossless (artifactSession [archiveManifestFile])
    (sessionDirectory_artifactSession (by decide)
      (List.forall_mem_singleton.2 (properName_of (by decide))))
  have hstaged := hnothing.archived ["artifacts", archiveManifestFile] "evidence" _ rfl rfl
  have hlost : (createArchiveStaging textServices (fun _ => none)
      { sampleInput with includeRaw := true } (artifactSession [archiveManifestFile])).map
        (fun staging => ((Entry.directory staging.archiveRoot).find?
          (pathSegments (archiveArtifactPath archiveManifestFile))).isSome) = .ok false := by
    decide +kernel
  rw [hraw] at hlost
  have habsent : ((Entry.directory raw.archiveRoot).find?
      (pathSegments (archiveArtifactPath archiveManifestFile))).isSome = false :=
    Except.ok.inj hlost
  rw [hstaged] at habsent
  cases habsent

end GovernedRuntime.Archive
