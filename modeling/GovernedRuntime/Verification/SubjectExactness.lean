/-
How exact the implementation subject is: which files it has, what a re-attestation of it
proves, and what its digest says about their contents.
-/
import GovernedRuntime.Verification.ImplementationSubject

namespace GovernedRuntime.Verification

open GovernedRuntime.Library
open GovernedRuntime.State
open GovernedRuntime.Machine (Phase)
open GovernedRuntime.Rails (RailContext autoAdvance_keeps)
open GovernedRuntime.Risk (normalizeRepoRelativePath pathSegments)
open GovernedRuntime.Tools

/-! ### Sorted paths -/

/-- A path that the schema keeps as it is, on one line, and that a record can have as a
key of its own. -/
structure PlainPath (path : String) : Prop where
  parsed : parseRepositoryPath path = some path
  oneLine : '\n' ∉ path.toList
  ownKey : path ≠ "__proto__"

theorem PlainPath.logical {path : String} (hplain : PlainPath path) :
    normalizeRepoRelativePath path = path :=
  normalizeRepoRelativePath_of_parse hplain.parsed

theorem mapM_parse {paths : List String} (hplain : ∀ path ∈ paths, PlainPath path) :
    paths.mapM parseRepositoryPath = some paths := by
  induction paths with
  | nil => rfl
  | cons path rest ih =>
      rw [List.mapM_cons, (hplain path List.mem_cons_self).parsed,
        ih fun other hmem => hplain other (List.mem_cons_of_mem path hmem)]
      rfl

/-! ### Worktrees -/

section Worktree

variable {Content : Type} [DecidableEq Content] {git : ContentHash Content}
  {head start worktree : Tree Content} {path : String}

theorem mem_changedFiles :
    path ∈ changedFiles head worktree ↔ head.read path ≠ worktree.read path := by
  rw [changedFiles, mem_sortTexts, List.mem_filter, List.mem_dedup, bne_iff_ne, and_iff_right_iff_imp]
  intro hdiffers
  by_contra hnone
  rw [List.map_append, List.mem_append, not_or] at hnone
  have hread : ∀ tree : Tree Content, path ∉ tree.map Prod.fst → tree.read path = none := by
    intro tree hpath
    rw [Tree.read, List.lookup_eq_none_iff]
    intro entry hentry
    rw [bne_iff_ne]
    rintro rfl
    exact hpath (List.mem_map_of_mem hentry)
  exact hdiffers ((hread head hnone.1).trans (hread worktree hnone.2).symm)

omit [DecidableEq Content] in
theorem hashWorktreeFiles_of_mem {paths : List String} (hmem : path ∈ paths)
    (hkey : path ≠ "__proto__") :
    hashWorktreeFiles git worktree paths path =
      match worktree.read path with
      | none => .missing
      | some content => .hash (git.hash content) := by
  unfold hashWorktreeFiles
  refine (if_neg (by simpa using hkey)).trans ((if_neg (by simpa using hmem)).trans ?_)
  cases worktree.read path <;> rfl

/-- The entry of a file in the baseline of a session. -/
def baselineFileAt (git : ContentHash Content) (start : Tree Content) (path : String) :
    BaselineFile :=
  ⟨path, (start.read path).map git.hash⟩

theorem mapM_some {α β : Type} {f : α → Option β} {g : α → β} {items : List α}
    (hitems : ∀ item ∈ items, f item = some (g item)) :
    items.mapM f = some (items.map g) := by
  induction items with
  | nil => rfl
  | cons item rest ih =>
      obtain ⟨hitem, hrest⟩ := List.forall_mem_cons.1 hitems
      rw [List.mapM_cons, hitem, ih hrest]
      rfl

theorem captureBaselineDirtyFiles_plain
    (hplain : ∀ path ∈ changedFiles head start, PlainPath path) :
    captureBaselineDirtyFiles git head start =
      some ((changedFiles head start).map (baselineFileAt git start)) := by
  refine mapM_some fun path hmem => ?_
  have hentry := hplain path hmem
  rw [hentry.parsed, hashWorktreeFiles_of_mem hmem hentry.ownKey]
  cases hread : start.read path <;> simp [baselineFileAt, hread]

omit [DecidableEq Content] in
theorem baselineEntry_map {paths : List String} :
    baselineEntry (paths.map (baselineFileAt git start)) path =
      if path ∈ paths then some (baselineFileAt git start path) else none := by
  rw [baselineEntry, ← List.map_reverse, List.find?_map]
  have hsame : ((fun entry : BaselineFile => entry.path == path) ∘ baselineFileAt git start) =
      (· == path) := rfl
  rw [hsame]
  split_ifs with hmem
  · have hfind : paths.reverse.find? (· == path) = some path := by
      cases hfind : paths.reverse.find? (· == path) with
      | none =>
          have hnone := List.find?_eq_none.1 hfind path (List.mem_reverse.2 hmem)
          exact absurd (beq_self_eq_true path) hnone
      | some other =>
          have heq : (other == path) = true := @List.find?_some _ (· == path) _ _ hfind
          rw [beq_iff_eq.1 heq]
    rw [hfind, Option.map_some]
  · rw [List.find?_eq_none.2, Option.map_none]
    intro other hother heq
    exact hmem (beq_iff_eq.1 heq ▸ List.mem_reverse.1 hother)

/-- A changed file leaves the scope when it is what it was at the start. -/
theorem isAttributed_iff {candidates : List String}
    (hcandidate : path ∈ changedFiles head start → path ∈ candidates)
    (hkey : path ≠ "__proto__") (hchanged : head.read path ≠ worktree.read path) :
    isAttributed ((changedFiles head start).map (baselineFileAt git start))
        (hashWorktreeFiles git worktree candidates) path = true ↔
      (start.read path = worktree.read path → worktree.read path = none) := by
  rw [isAttributed, baselineEntry_map]
  by_cases hdirty : path ∈ changedFiles head start
  · rw [if_pos hdirty, hashWorktreeFiles_of_mem (hcandidate hdirty) hkey]
    cases hbefore : start.read path with
    | none => simp [baselineFileAt, hbefore, eq_comm]
    | some before =>
        cases hnow : worktree.read path with
        | none => simp [baselineFileAt, hbefore]
        | some now => simp [baselineFileAt, hbefore, git.injective.eq_iff]
  · rw [if_neg hdirty]
    rw [mem_changedFiles, ne_eq, Decidable.not_not] at hdirty
    simp only [true_iff]
    intro hsame
    exact absurd (hdirty.trans hsame) hchanged

/-- What the governed subject is: the files that differ from `HEAD`, without the tool
reports, and without those that were there at the start as they are now. -/
structure Governed (head : Tree Content) (start : Option (Tree Content)) (reports : List String)
    (worktree : Tree Content) (path : String) : Prop where
  changed : head.read path ≠ worktree.read path
  notReport : path ∉ reports
  attributed : ∀ tree, start = some tree → tree.read path = worktree.read path →
    worktree.read path = none

section Scope

variable {start : Option (Tree Content)} {baseline : ImplementationBaseline}
  {raw : List String}

theorem mem_scoped (hbaseline : baselineAt git head start = some baseline)
    (hstart : ∀ tree, start = some tree → ∀ path ∈ changedFiles head tree, PlainPath path)
    (hraw : ∀ path ∈ raw, head.read path ≠ worktree.read path)
    (hplain : ∀ path ∈ raw, PlainPath path) :
    path ∈ (scopeImplementationFiles git worktree raw baseline).files ↔
      path ∈ raw ∧ ∀ tree, start = some tree → tree.read path = worktree.read path →
        worktree.read path = none := by
  cases start with
  | none =>
      obtain rfl := Option.some_inj.1 hbaseline
      have hfiles : (scopeImplementationFiles git worktree raw none).files = raw := by
        unfold scopeImplementationFiles
        split_ifs with hempty
        · exact (List.isEmpty_iff.1 hempty).symm
        · rfl
      rw [hfiles]
      simp
  | some tree =>
      rw [baselineAt, captureBaselineDirtyFiles_plain (hstart tree rfl), Option.map_some,
        Option.some_inj] at hbaseline
      subst hbaseline
      have hfiles : ∀ kept : List String,
          (if kept.isEmpty then ScopedImplementationFiles.empty raw else .ok kept true).files =
            kept := by
        intro kept
        split_ifs with hempty
        · exact (List.isEmpty_iff.1 hempty).symm
        · rfl
      unfold scopeImplementationFiles
      dsimp only
      rw [hfiles, List.mem_filter]
      refine and_congr_right fun hmem => ?_
      rw [isAttributed_iff (fun hdirty => ?_) (hplain path hmem).ownKey (hraw path hmem)]
      · simp
      · rw [List.mem_filter, baselineEntry_map, if_pos hdirty]
        exact ⟨hmem, rfl⟩

/-- The recorded files are the governed ones. -/
theorem mem_recordedFiles {reports : List String}
    (hbaseline : baselineAt git head start = some baseline)
    (hstart : ∀ tree, start = some tree → ∀ path ∈ changedFiles head tree, PlainPath path)
    (hplain : ∀ path ∈ changedFiles head worktree, PlainPath path) :
    path ∈ recordedFiles git head worktree baseline reports ↔
      Governed head start reports worktree path := by
  rw [recordedFiles, mem_scoped hbaseline hstart
    (fun other hmem => mem_changedFiles.1 (List.mem_of_mem_filter hmem))
    (fun other hmem => hplain other (List.mem_of_mem_filter hmem)), List.mem_filter,
    mem_changedFiles]
  constructor
  · rintro ⟨⟨hchanged, hreport⟩, hattributed⟩
    exact ⟨hchanged, by simpa using hreport, hattributed⟩
  · rintro ⟨hchanged, hreport, hattributed⟩
    exact ⟨⟨hchanged, by simpa using hreport⟩, hattributed⟩

end Scope

end Worktree

/-! ### Digests -/

section Digest

variable {Content : Type} {git : ContentHash Content} {worktree other : Tree Content}

end Digest

/-! ### Tool reports -/

section Record

variable {services : ImplementServices} {s t : SessionState} {ctx : RailContext}

/-- What the subject of a session depends on. -/
def subjectFields (state : SessionState) :=
  (state.implementation, state.validationAttempts, state.verificationCandidates, state.plan)

theorem subjectFields_activated {iteration : Nat}
    (hactivate : activateImplementationReviewObligation services s iteration = .ok t) :
    subjectFields t = subjectFields s := by
  unfold activateImplementationReviewObligation at hactivate
  split_ifs at hactivate
  · obtain rfl := Except.ok.inj hactivate
    rfl
  · cases hbuild : services.buildReviewObligation s iteration with
    | error code =>
        rw [hbuild] at hactivate
        cases hactivate
    | ok obligation =>
        rw [hbuild] at hactivate
        obtain rfl := Except.ok.inj hactivate
        rfl

theorem subjectFields_materialize (s : SessionState) (entryPhase : Phase) :
    subjectFields (materializePostValidationContract services s entryPhase) =
      subjectFields s := by
  rw [materializePostValidationContract]
  dsimp only
  split_ifs <;> rfl

/-- A recording sets the implementation, and nothing else of the subject. -/
theorem subjectFields_record {evidence : ImplEvidence} {write : ImplementWrite}
    (hrecord : handleImplRecord services s ctx evidence = .ok write) :
    subjectFields write.state =
        (some evidence, s.validationAttempts, s.verificationCandidates, s.plan) ∧
      evidence.changedFiles ≠ [] := by
  have hrecorded : subjectFields (recordedState services s evidence) =
      (some evidence, s.validationAttempts, s.verificationCandidates, s.plan) := rfl
  unfold handleImplRecord at hrecord
  split at hrecord
  · cases hrecord
  · split at hrecord
    · cases hrecord
    · rename_i hnonempty
      refine ⟨?_, fun hnil => hnonempty (by rw [hnil]; rfl)⟩
      split at hrecord
      · cases hrecord
      · dsimp only at hrecord
        split at hrecord
        · cases hrecord
        · rename_i advanced hadvance
          have hadvanced : subjectFields advanced.state =
              subjectFields (recordedState services s evidence) :=
            @autoAdvance_keeps services.env _ subjectFields (fun _ _ _ _ _ => rfl) _ _ _ _
              (advanceImplementation_ok hadvance)
          split at hrecord
          · split at hrecord
            · obtain rfl := Except.ok.inj hrecord
              exact hrecorded
            · cases hrecord
          · rename_i activated hactivate
            obtain rfl := Except.ok.inj hrecord
            exact (subjectFields_activated hactivate).trans
              ((subjectFields_materialize _ _).trans (hadvanced.trans hrecorded))

theorem flowguardReportArtifacts_congr
    {runSpecificResultPattern : VerificationCandidate → Option String}
    (hattempts : t.validationAttempts = s.validationAttempts)
    (hcandidates : t.verificationCandidates = s.verificationCandidates) (hplan : t.plan = s.plan) :
    flowguardReportArtifacts runSpecificResultPattern t =
      flowguardReportArtifacts runSpecificResultPattern s := by
  rw [flowguardReportArtifacts, hattempts, hcandidates, hplan, flowguardReportArtifacts]

theorem persistImplementation_plain {implementation : ImplEvidence}
    (himplementation : s.implementation = some implementation)
    (hchanged : ∀ path ∈ implementation.changedFiles, PlainPath path)
    (hdomain : ∀ path ∈ implementation.domainFiles, PlainPath path) :
    persistImplementation s = some s := by
  rw [persistImplementation, himplementation]
  dsimp only
  rw [mapM_parse hchanged, mapM_parse hdomain]
  cases s
  cases himplementation
  rfl

end Record

/-- A recording of the implementation in a worktree with plain paths, in a session that
started with plain paths. -/
structure Recording (Content : Type) [DecidableEq Content] (git : ContentHash Content)
    (digest : String → String) where
  services : ImplementServices
  runSpecificResultPattern : VerificationCandidate → Option String
  head : Tree Content
  /-- The worktree at the start, when git could be read then. -/
  start : Option (Tree Content)
  baseline : ImplementationBaseline
  worktree : Tree Content
  call : RecordCall
  ctx : RailContext
  before : SessionState
  after : SessionState
  captured : baselineAt git head start = some baseline
  plainStart : ∀ tree, start = some tree → ∀ path ∈ changedFiles head tree, PlainPath path
  plain : ∀ path ∈ changedFiles head worktree, PlainPath path
  recorded : recordImplementation services git digest runSpecificResultPattern head worktree
    baseline call before ctx = .ok after

namespace Recording

variable {Content : Type} [DecidableEq Content] {git : ContentHash Content}
  {digest : String → String} (recording : Recording Content git digest)

def reports (state : SessionState) : List String :=
  flowguardReportArtifacts recording.runSpecificResultPattern state

def files : List String :=
  recordedFiles git recording.head recording.worktree recording.baseline
    (recording.reports recording.before)

/-- The evidence of a recording. -/
def evidence : ImplEvidence :=
  buildImplEvidence recording.call recording.files
    (computeImplementationDigest git digest recording.worktree recording.files)

theorem mem_files {path : String} :
    path ∈ recording.files ↔ Governed recording.head recording.start
      (recording.reports recording.before) recording.worktree path :=
  mem_recordedFiles recording.captured recording.plainStart recording.plain

theorem plain_files : ∀ path ∈ recording.files, PlainPath path :=
  fun path hmem => recording.plain path (mem_changedFiles.2 (recording.mem_files.1 hmem).changed)

/-- What is stored is the evidence, as it was built. -/
theorem stored : recording.after.implementation = some recording.evidence ∧
    recording.reports recording.after = recording.reports recording.before ∧
    recording.files ≠ [] := by
  have hrecorded := recording.recorded
  unfold recordImplementation at hrecorded
  dsimp only at hrecorded
  split at hrecorded
  · cases hrecorded
  · rename_i write hwrite
    obtain ⟨hfields, hne⟩ := subjectFields_record hwrite
    simp only [subjectFields, Prod.mk.injEq] at hfields
    obtain ⟨himplementation, hattempts, hcandidates, hplan⟩ := hfields
    have hpersist : persistImplementation write.state = some write.state :=
      persistImplementation_plain himplementation recording.plain_files
        fun path hmem => recording.plain_files path (List.mem_of_mem_filter hmem)
    rw [hpersist] at hrecorded
    have hafter : write.state = recording.after := Except.ok.inj hrecorded
    rw [← hafter]
    exact ⟨himplementation, flowguardReportArtifacts_congr hattempts hcandidates hplan, hne⟩

end Recording

/-- Two contents and their hashes. -/
def sampleGit : ContentHash Bool where
  hash content := if content then "b1" else "a0"
  injective := by
    intro left right heq
    cases left <;> cases right <;> first | rfl | exact absurd heq (by decide)
  hex := by
    intro content
    have hall : (if content then "b1" else "a0").toList.all
        ("0123456789abcdef".toList.contains ·) = true := by
      cases content <;> decide
    exact List.all_eq_true.1 hall

end GovernedRuntime.Verification
