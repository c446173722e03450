/-
What the artifacts directory is for: an append-only ledger of numbered artifacts,
each a markdown file with the metadata that vouches for it.
-/
import GovernedRuntime.Artifacts.Materialize

namespace GovernedRuntime.Artifacts

open GovernedRuntime.Activation (isSha256Hex)
open GovernedRuntime.Library GovernedRuntime.State

/-- A markdown text with metadata that is well formed and carries its hash. -/
structure Artifact (encoding : ArtifactEncoding) where
  markdown : String
  entry : EvidenceArtifactMeta
  shape : isArtifactMeta entry = true
  schema : entry.schemaVersion = evidenceArtifactSchemaVersion
  path : entry.markdownPath = ⟨entry.artifactType, entry.version, .markdown⟩
  integrity : entry.markdownHash = encoding.hashText markdown

variable {encoding : ArtifactEncoding}

/-- The two files of an artifact, in the order they are written. -/
def Artifact.files (artifact : Artifact encoding) : ArtifactFiles :=
  [(artifact.entry.markdownPath, .text artifact.markdown),
    ({ artifact.entry.markdownPath with extension := .metadata },
      .metadata artifact.entry)]

theorem Artifact.files_length (artifact : Artifact encoding) :
    artifact.files.length = 2 := rfl

theorem Artifact.parse (artifact : Artifact encoding) :
    parseArtifactMeta { artifact.entry.markdownPath with extension := .metadata }
      (.metadata artifact.entry) = .ok artifact.entry := by
  simp [parseArtifactMeta, artifact.shape, artifact.schema, artifact.path]

def ofType (artifacts : List (Artifact encoding)) (artifactType : ArtifactType) :
    List (Artifact encoding) :=
  artifacts.filter fun artifact => artifact.entry.artifactType == artifactType

theorem mem_ofType {artifacts : List (Artifact encoding)} {artifactType : ArtifactType}
    {artifact : Artifact encoding} :
    artifact ∈ ofType artifacts artifactType ↔
      artifact ∈ artifacts ∧ artifact.entry.artifactType = artifactType := by
  simp [ofType]

theorem ofType_append (first second : List (Artifact encoding))
    (artifactType : ArtifactType) :
    ofType (first ++ second) artifactType =
      ofType first artifactType ++ ofType second artifactType :=
  List.filter_append first second

theorem ofType_singleton (artifact : Artifact encoding) (artifactType : ArtifactType) :
    ofType [artifact] artifactType =
      if artifact.entry.artifactType = artifactType then [artifact] else [] := by
  by_cases htype : artifact.entry.artifactType = artifactType <;> simp [ofType, htype]

/-- The versions of each type are `1, 2, …` in order, and no two plan artifacts
carry the same record digest. -/
structure Ledger (encoding : ArtifactEncoding) where
  artifacts : List (Artifact encoding)
  numbered : ∀ artifactType,
    (ofType artifacts artifactType).map (·.entry.version) =
      List.range' 1 (ofType artifacts artifactType).length
  identified : ((ofType artifacts .plan).map (·.entry.recordDigest)).Nodup

def Ledger.empty : Ledger encoding :=
  ⟨[], by intro artifactType; rfl, List.nodup_nil⟩

def Ledger.files (ledger : Ledger encoding) : ArtifactFiles :=
  ledger.artifacts.flatMap Artifact.files

def Ledger.entries (ledger : Ledger encoding) (artifactType : ArtifactType) :
    List EvidenceArtifactMeta :=
  (ofType ledger.artifacts artifactType).map (·.entry)

theorem Ledger.entries_append {ledger after : Ledger encoding}
    {added : List (Artifact encoding)}
    (hartifacts : after.artifacts = ledger.artifacts ++ added)
    (artifactType : ArtifactType) :
    after.entries artifactType =
      ledger.entries artifactType ++ (ofType added artifactType).map (·.entry) := by
  rw [Ledger.entries, Ledger.entries, hartifacts, ofType_append, List.map_append]

/-! ### Reading -/

theorem filter_files (artifact : Artifact encoding) (artifactType : ArtifactType) :
    artifact.files.filter (fun file => file.1.isMetadataOf artifactType) =
      if artifact.entry.artifactType = artifactType then
        [({ artifact.entry.markdownPath with extension := .metadata },
          .metadata artifact.entry)]
      else [] := by
  by_cases htype : artifact.entry.artifactType = artifactType <;>
    simp [Artifact.files, ArtifactPath.isMetadataOf, artifact.path, htype]

/-- Every metadata file of a ledger parses to its entry. -/
theorem mapM_parse (artifacts : List (Artifact encoding)) (artifactType : ArtifactType) :
    ((artifacts.flatMap Artifact.files).filter
        fun file => file.1.isMetadataOf artifactType).mapM
      (fun file => parseArtifactMeta file.1 file.2) =
      .ok ((ofType artifacts artifactType).map (·.entry)) := by
  induction artifacts with
  | nil => rfl
  | cons artifact rest ih =>
      rw [List.flatMap_cons, List.filter_append, List.mapM_append, ih, filter_files]
      by_cases htype : artifact.entry.artifactType = artifactType
      · simp [htype, ofType, artifact.parse]
        rfl
      · simp [htype, ofType]

theorem Ledger.entries_sorted (ledger : Ledger encoding) (artifactType : ArtifactType) :
    (ledger.entries artifactType).Pairwise fun a b => a.version ≤ b.version := by
  have hversions : ((ledger.entries artifactType).map (·.version)).Pairwise (· ≤ ·) := by
    rw [Ledger.entries, List.map_map]
    have hnumbered := ledger.numbered artifactType
    simp only [Function.comp_def]
    rw [hnumbered]
    exact List.pairwise_le_range'
  exact List.pairwise_map.1 hversions

theorem Ledger.readArtifactVersions_files (ledger : Ledger encoding)
    (artifactType : ArtifactType) :
    readArtifactVersions ledger.files artifactType =
      .ok (ledger.entries artifactType) := by
  rw [readArtifactVersions, Ledger.files, mapM_parse]
  have hsorted := (ledger.entries_sorted artifactType).insertionSort_eq
  exact congrArg Except.ok hsorted

theorem Ledger.latestVersion_entries (ledger : Ledger encoding)
    (artifactType : ArtifactType) :
    latestVersion (ledger.entries artifactType) =
      (ofType ledger.artifacts artifactType).length := by
  have hlast : (ledger.entries artifactType).getLast?.map (·.version) =
      (List.range' 1 (ofType ledger.artifacts artifactType).length).getLast? := by
    rw [← ledger.numbered artifactType, Ledger.entries, List.getLast?_map,
      List.getLast?_map, Option.map_map]
    rfl
  rw [latestVersion, hlast, List.getLast?_range']
  by_cases hnone : (ofType ledger.artifacts artifactType).length = 0
  · simp [hnone]
  · simp [hnone]

theorem Ledger.version_le {ledger : Ledger encoding} {artifact : Artifact encoding}
    (hmem : artifact ∈ ledger.artifacts) :
    artifact.entry.version ≤
      (ofType ledger.artifacts artifact.entry.artifactType).length := by
  have hversion : artifact.entry.version ∈
      (ofType ledger.artifacts artifact.entry.artifactType).map (·.entry.version) :=
    List.mem_map_of_mem (mem_ofType.2 ⟨hmem, rfl⟩)
  rw [ledger.numbered, List.mem_range'_1] at hversion
  omega

/-- A version has one artifact. -/
theorem Ledger.eq_of_version {ledger : Ledger encoding}
    {first second : Artifact encoding} (hfirst : first ∈ ledger.artifacts)
    (hsecond : second ∈ ledger.artifacts)
    (htype : first.entry.artifactType = second.entry.artifactType)
    (hversion : first.entry.version = second.entry.version) : first = second := by
  have hnodup : ((ofType ledger.artifacts second.entry.artifactType).map
      (·.entry.version)).Nodup := by
    rw [ledger.numbered]
    exact List.nodup_range'
  exact List.inj_on_of_nodup_map hnodup (mem_ofType.2 ⟨hfirst, htype⟩)
    (mem_ofType.2 ⟨hsecond, rfl⟩) hversion

theorem Ledger.mem_files {ledger : Ledger encoding} {path : ArtifactPath}
    {content : ArtifactContent} (hmem : (path, content) ∈ ledger.files) :
    ∃ artifact ∈ ledger.artifacts, path.artifactType = artifact.entry.artifactType ∧
      path.version = artifact.entry.version ∧
      (path.extension = .markdown → content = .text artifact.markdown) := by
  obtain ⟨artifact, hartifact, hfile⟩ := List.mem_flatMap.1 hmem
  refine ⟨artifact, hartifact, ?_⟩
  simp only [Artifact.files, artifact.path, List.mem_cons, Prod.mk.injEq,
    List.not_mem_nil, or_false] at hfile
  rcases hfile with ⟨rfl, rfl⟩ | ⟨rfl, rfl⟩
  · exact ⟨rfl, rfl, fun _ => rfl⟩
  · exact ⟨rfl, rfl, nofun⟩

theorem Ledger.read_markdown {ledger : Ledger encoding} {artifact : Artifact encoding}
    (hmem : artifact ∈ ledger.artifacts) :
    ledger.files.read artifact.entry.markdownPath = some (.text artifact.markdown) := by
  have hfile : (artifact.entry.markdownPath, ArtifactContent.text artifact.markdown) ∈
      ledger.files :=
    List.mem_flatMap.2 ⟨artifact, hmem, List.mem_cons_self⟩
  cases hread : ledger.files.read artifact.entry.markdownPath with
  | none =>
      exact absurd (List.mem_map_of_mem hfile) (Files.read_eq_none_iff.1 hread)
  | some content =>
      obtain ⟨before, after, hsplit, _⟩ := List.lookup_eq_some_iff.1 hread
      have hfound : (artifact.entry.markdownPath, content) ∈ ledger.files := by
        rw [hsplit]
        simp
      obtain ⟨other, hother, htype, hversion, htext⟩ := Ledger.mem_files hfound
      rw [artifact.path] at htype hversion htext
      have hsame : artifact = other := Ledger.eq_of_version hmem hother htype hversion
      rw [htext rfl, hsame]

/-- The next version is free. -/
theorem Ledger.read_next (ledger : Ledger encoding) {path : ArtifactPath}
    (hversion : (ofType ledger.artifacts path.artifactType).length < path.version) :
    ledger.files.read path = none := by
  rw [Files.read_eq_none_iff]
  intro hmem
  obtain ⟨⟨other, content⟩, hfile, rfl⟩ := List.mem_map.1 hmem
  obtain ⟨artifact, hartifact, htype, hsame, _⟩ := Ledger.mem_files hfile
  have hle := Ledger.version_le hartifact
  simp only [htype, hsame] at hversion
  omega

theorem Ledger.assertMarkdownIntegrity_files {ledger : Ledger encoding}
    {artifact : Artifact encoding} (hmem : artifact ∈ ledger.artifacts)
    (artifactType : ArtifactType) :
    assertMarkdownIntegrity encoding ledger.files artifact.entry artifactType = .ok () := by
  simp [assertMarkdownIntegrity, Ledger.read_markdown hmem, ArtifactContent.bytes,
    artifact.integrity]

/-! ### Growing -/

/-- A ledger grows by the next version of a type. -/
def Ledger.append (ledger : Ledger encoding) (artifact : Artifact encoding)
    (hversion : artifact.entry.version =
      (ofType ledger.artifacts artifact.entry.artifactType).length + 1)
    (hfresh : artifact.entry.artifactType = .plan → artifact.entry.recordDigest ∉
      (ofType ledger.artifacts .plan).map (·.entry.recordDigest)) : Ledger encoding where
  artifacts := ledger.artifacts ++ [artifact]
  numbered := by
    intro artifactType
    rw [ofType_append, List.map_append, ledger.numbered, ofType_singleton]
    by_cases htype : artifact.entry.artifactType = artifactType
    · subst htype
      rw [if_pos rfl, List.length_append, List.map_singleton, List.length_singleton,
        List.range'_1_concat, hversion, Nat.add_comm]
    · simp [htype]
  identified := by
    rw [ofType_append, List.map_append, ofType_singleton]
    by_cases htype : artifact.entry.artifactType = .plan
    · rw [if_pos htype, List.nodup_append]
      refine ⟨ledger.identified, List.nodup_singleton _, ?_⟩
      intro digest hold other hnew hsame
      rw [List.map_singleton, List.mem_singleton] at hnew
      subst hsame hnew
      exact hfresh htype hold
    · simpa [htype] using ledger.identified

/-- The first artifacts of a ledger are one. -/
def Ledger.restrict (ledger : Ledger encoding) (kept dropped : List (Artifact encoding))
    (hsplit : ledger.artifacts = kept ++ dropped) : Ledger encoding where
  artifacts := kept
  numbered := by
    intro artifactType
    have hnumbered := ledger.numbered artifactType
    rw [hsplit, ofType_append, List.map_append, List.length_append,
      ← List.range'_append_1] at hnumbered
    exact (List.append_inj hnumbered (by simp)).1
  identified := by
    have hidentified := ledger.identified
    rw [hsplit, ofType_append, List.map_append] at hidentified
    exact (List.nodup_append.1 hidentified).1

/-! ### Verification -/

theorem forM_eq_ok_iff {α ε : Type} {check : α → Except ε Unit} {items : List α} :
    items.forM check = .ok () ↔ ∀ item ∈ items, check item = .ok () := by
  induction items with
  | nil => simp [pure, Except.pure]
  | cons item rest ih =>
      rw [List.forall_mem_cons, ← ih]
      change (check item >>= fun _ => rest.forM check) = .ok () ↔ _
      cases hitem : check item with
      | error error => simp [bind, Except.bind]
      | ok done => simp [bind, Except.bind]

/-- With no record digest carried twice, the entries of one digest are one. -/
theorem filter_recordDigest {entries : List EvidenceArtifactMeta}
    (hnodup : (entries.map (·.recordDigest)).Nodup) {entry : EvidenceArtifactMeta}
    (hmem : entry ∈ entries) {digest : Option String} (hdigest : entry.recordDigest = digest) :
    entries.filter (fun other => other.recordDigest == digest) = [entry] := by
  induction entries with
  | nil => simp at hmem
  | cons head rest ih =>
      rw [List.map_cons, List.nodup_cons] at hnodup
      obtain ⟨hhead, hrest⟩ := hnodup
      rcases List.mem_cons.1 hmem with rfl | htail
      · have hnone : rest.filter (fun other => other.recordDigest == digest) = [] := by
          rw [List.filter_eq_nil_iff]
          intro other hother hsame
          apply hhead
          rw [hdigest, ← beq_iff_eq.1 hsame]
          exact List.mem_map_of_mem hother
        rw [List.filter_cons, hnone]
        simp [hdigest]
      · have hother : head.recordDigest ≠ digest := by
          rintro hsame
          apply hhead
          rw [hsame, ← hdigest]
          exact List.mem_map_of_mem htail
        rw [List.filter_cons, ih hrest htail]
        simp [hother]

/-- An entry is the record of a revision. -/
def Records (entry : EvidenceArtifactMeta) (revision : PlanEvidence) : Prop :=
  entry.recordDigest = some revision.recordDigest ∧
    entry.contentHash = revision.digest ∧ entry.createdAt = revision.createdAt

instance (entry : EvidenceArtifactMeta) (revision : PlanEvidence) :
    Decidable (Records entry revision) :=
  inferInstanceAs (Decidable (_ ∧ _ ∧ _))

theorem assertRevisionCovered_eq_ok_iff {entries : List EvidenceArtifactMeta}
    (hnodup : (entries.map (·.recordDigest)).Nodup) {revision : PlanEvidence} :
    assertRevisionCovered entries revision = .ok () ↔
      ∃ entry ∈ entries, Records entry revision := by
  constructor
  · intro hcovered
    rw [assertRevisionCovered] at hcovered
    split at hcovered
    · cases hcovered
    · rename_i artifact hfilter
      have hmem : artifact ∈ entries.filter
          fun entry => entry.recordDigest == some revision.recordDigest := by
        rw [hfilter]
        exact List.mem_singleton_self artifact
      obtain ⟨hentry, hdigest⟩ := List.mem_filter.1 hmem
      split_ifs at hcovered with hcontent hcreated
      refine ⟨artifact, hentry, beq_iff_eq.1 hdigest, ?_, ?_⟩
      · simpa using hcontent
      · simpa using hcreated
    · cases hcovered
  · rintro ⟨entry, hentry, hdigest, hcontent, hcreated⟩
    rw [assertRevisionCovered, filter_recordDigest hnodup hentry hdigest]
    simp [hcontent, hcreated]

/-- The latest ticket artifact is of the ticket, and every plan revision has its
record. -/
structure Ledger.Vouches (ledger : Ledger encoding) (state : SessionState) : Prop where
  ticket : ∀ ticket, state.ticket = some ticket →
    (ledger.entries .ticket).getLast?.map (·.contentHash) = some ticket.digest
  plan : ∀ plan, state.plan = some plan → ∀ revision ∈ orderedPlanRevisions plan,
    ∃ entry ∈ ledger.entries .plan, Records entry revision

theorem Ledger.entries_nodup (ledger : Ledger encoding) :
    ((ledger.entries .plan).map (·.recordDigest)).Nodup := by
  rw [Ledger.entries, List.map_map]
  exact ledger.identified

theorem Ledger.forM_integrity (ledger : Ledger encoding) (artifactType : ArtifactType) :
    ∀ entry ∈ ledger.entries artifactType,
      assertMarkdownIntegrity encoding ledger.files entry artifactType = .ok () := by
  intro entry hentry
  obtain ⟨artifact, hartifact, rfl⟩ := List.mem_map.1 hentry
  exact Ledger.assertMarkdownIntegrity_files (mem_ofType.1 hartifact).1 artifactType

theorem Ledger.verifyTicketArtifacts_iff (ledger : Ledger encoding)
    (state : SessionState) :
    verifyTicketArtifacts encoding ledger.files state = .ok () ↔
      ∀ ticket, state.ticket = some ticket →
        (ledger.entries .ticket).getLast?.map (·.contentHash) = some ticket.digest := by
  rw [verifyTicketArtifacts]
  cases state.ticket with
  | none => simp
  | some ticket =>
      simp only [ledger.readArtifactVersions_files, bind, Except.bind, Option.some.injEq,
        forall_eq']
      cases hlast : (ledger.entries .ticket).getLast? with
      | none => simp
      | some latest =>
          simp only [forM_eq_ok_iff.2 (ledger.forM_integrity .ticket)]
          simp

theorem isSha256Hex_empty : isSha256Hex "" = false := by decide

theorem Artifact.sourceStateHash_ne (artifact : Artifact encoding) :
    artifact.entry.sourceStateHash ≠ "" := by
  intro hempty
  have hshape := artifact.shape
  simp [isArtifactMeta, checkHashAndDerivedFields, hempty, isSha256Hex_empty] at hshape

theorem Ledger.forM_planEntry (ledger : Ledger encoding) :
    ∀ entry ∈ ledger.entries .plan,
      assertPlanEntry encoding ledger.files entry = .ok () := by
  intro entry hentry
  obtain ⟨artifact, _, hartifact⟩ := List.mem_map.1 hentry
  have hhash : entry.sourceStateHash ≠ "" := hartifact ▸ artifact.sourceStateHash_ne
  simp [assertPlanEntry, hhash, ledger.forM_integrity .plan entry hentry]

/-- The coverage check of a chain that has a revision. -/
theorem Ledger.assertPlanRevisionCoverage_iff (ledger : Ledger encoding)
    {chain : List PlanEvidence} (hchain : chain ≠ []) :
    assertPlanRevisionCoverage (ledger.entries .plan) chain = .ok () ↔
      ∀ revision ∈ chain, ∃ entry ∈ ledger.entries .plan, Records entry revision := by
  have hcovered : chain.forM (assertRevisionCovered (ledger.entries .plan)) = .ok () ↔
      ∀ revision ∈ chain, ∃ entry ∈ ledger.entries .plan, Records entry revision := by
    rw [forM_eq_ok_iff]
    constructor
    · intro hall revision hrevision
      exact (assertRevisionCovered_eq_ok_iff ledger.entries_nodup).1 (hall revision hrevision)
    · intro hall revision hrevision
      exact (assertRevisionCovered_eq_ok_iff ledger.entries_nodup).2 (hall revision hrevision)
  rw [assertPlanRevisionCoverage]
  by_cases hempty : (ledger.entries .plan).isEmpty = true
  · obtain ⟨revision, hrevision⟩ := List.exists_mem_of_ne_nil chain hchain
    rw [if_pos hempty]
    constructor
    · nofun
    · intro hall
      obtain ⟨entry, hentry, _⟩ := hall revision hrevision
      rw [List.isEmpty_iff.1 hempty] at hentry
      cases hentry
  · rw [if_neg hempty]
    exact hcovered

theorem orderedPlanRevisions_ne_nil (plan : PlanRecord) : orderedPlanRevisions plan ≠ [] :=
  List.ne_nil_of_mem (mem_orderedPlanRevisions.2 (Or.inr rfl))

theorem Ledger.verifyPlanArtifacts_iff (ledger : Ledger encoding)
    (state : SessionState) :
    verifyPlanArtifacts encoding ledger.files state = .ok () ↔
      ∀ plan, state.plan = some plan → ∀ revision ∈ orderedPlanRevisions plan,
        ∃ entry ∈ ledger.entries .plan, Records entry revision := by
  rw [verifyPlanArtifacts]
  cases state.plan with
  | none => simp
  | some plan =>
      simp only [ledger.readArtifactVersions_files, bind, Except.bind, Option.some.injEq,
        forall_eq']
      rw [← ledger.assertPlanRevisionCoverage_iff (orderedPlanRevisions_ne_nil plan)]
      by_cases hempty : (ledger.entries .plan).isEmpty = true
      · simp [hempty, assertPlanRevisionCoverage]
      · rw [if_neg hempty]
        cases assertPlanRevisionCoverage (ledger.entries .plan)
            (orderedPlanRevisions plan) with
        | error error => simp
        | ok done => simp [forM_eq_ok_iff.2 ledger.forM_planEntry]

/-- Over a ledger, verification asks exactly that it vouches for the state. -/
theorem Ledger.verifyEvidenceArtifacts_iff (ledger : Ledger encoding)
    (state : SessionState) :
    verifyEvidenceArtifacts encoding ledger.files state = .ok () ↔
      ledger.Vouches state := by
  have hboth : verifyEvidenceArtifacts encoding ledger.files state = .ok () ↔
      verifyTicketArtifacts encoding ledger.files state = .ok () ∧
        verifyPlanArtifacts encoding ledger.files state = .ok () := by
    simp only [verifyEvidenceArtifacts, bind, Except.bind]
    cases verifyTicketArtifacts encoding ledger.files state with
    | error error => simp
    | ok done => simp
  rw [hboth, ledger.verifyTicketArtifacts_iff, ledger.verifyPlanArtifacts_iff]
  constructor
  · rintro ⟨hticket, hplan⟩
    exact ⟨hticket, hplan⟩
  · rintro ⟨hticket, hplan⟩
    exact ⟨hticket, hplan⟩

end GovernedRuntime.Artifacts
