/-
Repository changes in a git patch (`src/adapters/repository-change.ts`): the sections of the
patch, the change each of them describes, and the changes that touch given paths.
-/
import GovernedRuntime.Library.TextSearch
import GovernedRuntime.Risk.PathClassifier

namespace GovernedRuntime.Adapters

open GovernedRuntime.Library

/-! ### Changes -/

inductive RepositoryChangeKind
  | add
  | modify
  | delete
  | rename
  | copy
deriving DecidableEq, Repr

inductive RepositoryChangeRepresentation
  | text
  | binary
deriving DecidableEq, Repr

/-- A change; an added file has no old path and a deleted one no new path. -/
structure RepositoryChange where
  kind : RepositoryChangeKind
  oldPath : Option (List Char)
  newPath : Option (List Char)
  representation : RepositoryChangeRepresentation
  modeChange : Option (List Char × List Char)
  reviewerMaterial : List Char
deriving DecidableEq, Repr

/-! ### Headers -/

/-- The rest of a quoted path, with what follows the closing quote. -/
def readQuoted : List Char → Option (List Char × List Char)
  | [] => none
  | '"' :: rest => some ([], rest)
  | '\\' :: escaped :: rest =>
      if escaped == '\\' || escaped == '"' then
        (readQuoted rest).map (Prod.map (escaped :: ·) id)
      else none
  | c :: rest => (readQuoted rest).map (Prod.map (c :: ·) id)

/-- A path and what follows it; one space before it and one after it are skipped. -/
def readGitPath (input : List Char) : Option (List Char × List Char) :=
  match (afterWord? [' '] input).getD input with
  | '"' :: rest => readQuoted rest
  | token => some (token.takeWhile (· != ' '), (token.dropWhile (· != ' ')).drop 1)

def sectionMark : List Char := "diff --git ".toList

def parseDiffHeader (header : List Char) : Option (List Char × List Char) := do
  let tokens ← afterWord? sectionMark header
  let (oldToken, rest) ← readGitPath tokens
  let (newToken, rest) ← readGitPath rest
  let oldPath ← afterWord? "a/".toList oldToken
  let newPath ← afterWord? "b/".toList newToken
  if rest.isEmpty && !oldPath.isEmpty && !newPath.isEmpty then some (oldPath, newPath) else none

structure LifecycleHeaders where
  renameFrom : List (List Char)
  renameTo : List (List Char)
  copyFrom : List (List Char)
  copyTo : List (List Char)
  newFileModes : List (List Char)
  deletedFileModes : List (List Char)
  oldModes : List (List Char)
  newModes : List (List Char)

namespace LifecycleHeaders

variable (headers : LifecycleHeaders)

def isAdd : Bool := !headers.newFileModes.isEmpty

def isDelete : Bool := !headers.deletedFileModes.isEmpty

def isMode : Bool := !headers.oldModes.isEmpty || !headers.newModes.isEmpty

def isRename : Bool := !headers.renameFrom.isEmpty || !headers.renameTo.isEmpty

def isCopy : Bool := !headers.copyFrom.isEmpty || !headers.copyTo.isEmpty

def hasSingleLifecycle : Bool :=
  let count := [headers.isAdd, headers.isDelete, headers.isRename, headers.isCopy].count true
  count ≤ 1 && !((headers.isAdd || headers.isDelete) && headers.isMode)

def hasConsistentModeHeaders : Bool :=
  !(headers.isAdd && headers.newFileModes.length != 1) &&
    !(headers.isDelete && headers.deletedFileModes.length != 1) &&
    !(headers.isMode && (headers.oldModes.length != 1 || headers.newModes.length != 1))

def hasConsistentLifecycle (oldPath newPath : List Char) : Bool :=
  headers.hasSingleLifecycle &&
    (!headers.isRename || headers.renameFrom == [oldPath] && headers.renameTo == [newPath]) &&
    (!headers.isCopy || headers.copyFrom == [oldPath] && headers.copyTo == [newPath]) &&
    headers.hasConsistentModeHeaders

end LifecycleHeaders

def parseLifecycleHeaders (preamble : List (List Char)) : LifecycleHeaders :=
  let values (marker : String) := preamble.filterMap (afterWord? marker.toList)
  { renameFrom := values "rename from "
    renameTo := values "rename to "
    copyFrom := values "copy from "
    copyTo := values "copy to "
    newFileModes := values "new file mode "
    deletedFileModes := values "deleted file mode "
    oldModes := values "old mode "
    newModes := values "new mode " }

/-! ### Sections -/

def isBodyLine (line : List Char) : Bool :=
  "@@ ".toList.isPrefixOf line || "--- ".toList.isPrefixOf line ||
    line == "GIT binary patch".toList || "Binary files ".toList.isPrefixOf line

def isBinarySection (lines : List (List Char)) (oldPath newPath : List Char) : Bool :=
  lines.any fun line => line == "GIT binary patch".toList ||
    line == "Binary files a/".toList ++ oldPath ++ " and b/".toList ++ newPath ++
      " differ".toList

def isRepositoryPath (path : List Char) : Bool :=
  !path.isEmpty && path.head? != some '/' && !path.contains '\x00' &&
    (path.splitOn '/').all fun segment =>
      !segment.isEmpty && segment != ['.'] && segment != ['.', '.']

def buildChange (headers : LifecycleHeaders) (oldPath newPath : List Char)
    (representation : RepositoryChangeRepresentation) (reviewerMaterial : List Char) :
    RepositoryChange :=
  let modeChange := headers.oldModes.head?.bind fun oldMode =>
    headers.newModes.head?.map (oldMode, ·)
  if headers.isAdd then ⟨.add, none, some newPath, representation, none, reviewerMaterial⟩
  else if headers.isDelete then
    ⟨.delete, some oldPath, none, representation, none, reviewerMaterial⟩
  else
    { kind := if headers.isRename then .rename else if headers.isCopy then .copy else .modify
      oldPath := some oldPath
      newPath := some newPath
      representation := representation
      modeChange := modeChange
      reviewerMaterial := reviewerMaterial }

def parseChange (text oldPath newPath : List Char) : Option RepositoryChange :=
  let lines := text.splitOn '\n'
  let headers := parseLifecycleHeaders (lines.tail.takeWhile (!isBodyLine ·))
  if isRepositoryPath oldPath && isRepositoryPath newPath &&
      headers.hasConsistentLifecycle oldPath newPath then
    some (buildChange headers oldPath newPath
      (if isBinarySection lines oldPath newPath then .binary else .text) text)
  else none

def parseSection (text : List Char) : Option RepositoryChange :=
  (parseDiffHeader (text.takeWhile (· != '\n'))).bind fun paths =>
    parseChange text paths.1 paths.2

/-- After these a line starts. -/
def isLineTerminator (c : Char) : Bool :=
  ['\n', '\r', '\u2028', '\u2029'].contains c

/-- `diff.split(/(?=^diff --git )/m)` -/
def splitSections : List Char → List (List Char)
  | [] => [[]]
  | c :: rest =>
      if isLineTerminator c && sectionMark.isPrefixOf rest then [c] :: splitSections rest
      else (splitSections rest).modifyHead (c :: ·)

def parseCanonicalRepositoryChanges (diff : List Char) : Option (List RepositoryChange) :=
  let sections := (splitSections diff).filter (!·.isEmpty)
  if sections.isEmpty || sections.any (!sectionMark.isPrefixOf ·) then none
  else sections.mapM parseSection

/-! ### Projections -/

def RepositoryChange.paths (change : RepositoryChange) : List (List Char) :=
  change.oldPath.toList ++ change.newPath.toList

def repositoryChangePaths (changes : List RepositoryChange) : List (List Char) :=
  (changes.flatMap (·.paths)).dedup.insertionSort
    fun a b => textLE (String.ofList a) (String.ofList b)

/-- Nothing when a requested path is not one of the changes. -/
def filterRepositoryChanges (changes : List RepositoryChange)
    (targetPaths : Option (List (List Char))) : Option (List RepositoryChange) :=
  match targetPaths with
  | none => some changes
  | some requested =>
      if requested.isEmpty ||
          requested.any (fun path =>
            path.isEmpty || !(repositoryChangePaths changes).contains path) then none
      else some (changes.filter fun change => change.paths.any (requested.contains ·))

def projectRepositoryReviewerMaterial (changes : List RepositoryChange) : List Char :=
  changes.flatMap (·.reviewerMaterial)

/-! ### What the sections are -/

theorem splitSections_ne_nil (text : List Char) : splitSections text ≠ [] := by
  induction text with
  | nil => exact List.cons_ne_nil _ _
  | cons c rest ih =>
      rw [splitSections]
      split_ifs
      · exact List.cons_ne_nil _ _
      · rwa [Ne, List.modifyHead_eq_nil_iff]

theorem splitSections_singleton (c : Char) : splitSections [c] = [[c]] := by
  have hempty : sectionMark.isPrefixOf [] = false := rfl
  rw [splitSections, hempty, Bool.and_false, if_neg Bool.false_ne_true]
  rfl

/-- A section that is not cut, and ends a line when another one follows. -/
structure Sections (pieces : List (List Char)) : Prop where
  whole : ∀ piece ∈ pieces, splitSections piece = [piece]
  lines : pieces.Pairwise fun piece _ => ∃ mark ∈ piece.getLast?, isLineTerminator mark = true

theorem Sections.sublist {pieces others : List (List Char)} (hsections : Sections others)
    (hsub : pieces.Sublist others) : Sections pieces :=
  ⟨fun piece hmem => hsections.whole piece (hsub.subset hmem), hsections.lines.sublist hsub⟩

theorem splitSections_spec (text : List Char) :
    (splitSections text).flatten = text ∧ Sections (splitSections text) := by
  induction text with
  | nil => exact ⟨rfl, by simp [splitSections], List.pairwise_singleton _ _⟩
  | cons c rest ih =>
      obtain ⟨hjoined, hwhole, hlines⟩ := ih
      obtain ⟨piece, more, hpieces⟩ := List.exists_cons_of_ne_nil (splitSections_ne_nil rest)
      rw [hpieces, List.flatten_cons] at hjoined
      rw [hpieces, List.forall_mem_cons] at hwhole
      rw [hpieces] at hlines
      rw [splitSections]
      split_ifs with hcut
      · rw [Bool.and_eq_true] at hcut
        rw [hpieces]
        refine ⟨by rw [List.flatten_cons, List.flatten_cons, hjoined]; rfl, ?_, ?_⟩
        · exact List.forall_mem_cons.2 ⟨splitSections_singleton c,
            List.forall_mem_cons.2 hwhole⟩
        · exact List.pairwise_cons.2 ⟨fun _ _ => ⟨c, rfl, hcut.1⟩, hlines⟩
      · rw [hpieces, List.modifyHead_cons]
        refine ⟨by rw [List.flatten_cons, List.cons_append, hjoined], ?_, ?_⟩
        · refine List.forall_mem_cons.2 ⟨?_, hwhole.2⟩
          rw [splitSections, if_neg, hwhole.1, List.modifyHead_cons]
          intro hinside
          simp only [Bool.and_eq_true, List.isPrefixOf_iff_prefix] at hcut hinside
          exact hcut ⟨hinside.1, hjoined ▸ hinside.2.trans (List.prefix_append _ _)⟩
        · obtain ⟨hfirst, hmore⟩ := List.pairwise_cons.1 hlines
          refine List.pairwise_cons.2 ⟨fun other hother => ?_, hmore⟩
          obtain ⟨mark, hmark, hends⟩ := hfirst other hother
          exact ⟨mark, by simp [List.getLast?_cons, Option.mem_def.1 hmark], hends⟩

theorem terminator_notMem_sectionMark {mark : Char} (hmark : isLineTerminator mark = true) :
    mark ∉ sectionMark := by
  intro hmem
  have hclean : sectionMark.all (!isLineTerminator ·) = true := by decide +kernel
  have hother := List.all_eq_true.1 hclean mark hmem
  rw [hmark] at hother
  cases hother

/-- A section that ends a line is cut off before a mark. -/
theorem splitSections_append {piece rest : List Char} {mark : Char}
    (hwhole : splitSections piece = [piece]) (hends : mark ∈ piece.getLast?)
    (hmark : isLineTerminator mark = true) (hstart : sectionMark <+: rest) :
    splitSections (piece ++ rest) = piece :: splitSections rest := by
  induction piece with
  | nil => cases hends
  | cons c tail ih =>
      rw [List.cons_append, splitSections]
      cases tail with
      | nil =>
          have hsame : c = mark := by simpa using hends
          rw [List.nil_append, hsame, if_pos (by simp [hmark, hstart])]
      | cons d tail =>
          rw [splitSections] at hwhole
          split_ifs at hwhole with hcut
          · exact absurd (List.cons.inj hwhole).2 (splitSections_ne_nil _)
          · obtain ⟨piece, more, hpieces⟩ :=
              List.exists_cons_of_ne_nil (splitSections_ne_nil (d :: tail))
            rw [hpieces, List.modifyHead_cons, List.cons.injEq, List.cons.injEq] at hwhole
            obtain ⟨⟨-, rfl⟩, rfl⟩ := hwhole
            have hlast : mark ∈ (d :: tail).getLast? := by simpa using hends
            rw [ih hpieces hlast, if_neg, List.modifyHead_cons]
            intro hlater
            simp only [Bool.and_eq_true, List.isPrefixOf_iff_prefix] at hcut hlater
            obtain ⟨e, after, hinside⟩ := starts_piece (terminator_notMem_sectionMark hmark)
              (List.mem_of_getLast? hlast) hlater.2
            exact hcut ⟨hlater.1, e :: after, hinside.symm⟩

theorem splitSections_flatten {pieces : List (List Char)} (hne : pieces ≠ [])
    (hsections : Sections pieces) (hmarked : ∀ piece ∈ pieces, sectionMark <+: piece) :
    splitSections pieces.flatten = pieces := by
  induction pieces with
  | nil => exact absurd rfl hne
  | cons piece rest ih =>
      obtain ⟨hpiece, hrest⟩ := List.forall_mem_cons.1 hsections.whole
      obtain ⟨hlast, hlines⟩ := List.pairwise_cons.1 hsections.lines
      cases rest with
      | nil => rwa [List.flatten_cons, List.flatten_nil, List.append_nil]
      | cons next rest =>
          obtain ⟨mark, hmark, hends⟩ := hlast next List.mem_cons_self
          have hmarked' := (List.forall_mem_cons.1 hmarked).2
          rw [List.flatten_cons, splitSections_append hpiece hmark hends,
            ih (List.cons_ne_nil _ _) ⟨hrest, hlines⟩ hmarked']
          rw [List.flatten_cons]
          exact (hmarked' next List.mem_cons_self).trans (List.prefix_append _ _)

/-! ### Projections of what was parsed -/

/-- Changes that were each parsed from their own section. -/
structure Parsed (changes : List RepositoryChange) : Prop where
  sections : Sections (changes.map (·.reviewerMaterial))
  change : ∀ change ∈ changes, sectionMark <+: change.reviewerMaterial ∧
    parseSection change.reviewerMaterial = some change

theorem parseSection_spec {text : List Char} {change : RepositoryChange}
    (hparsed : parseSection text = some change) :
    change.reviewerMaterial = text ∧ ∀ path ∈ change.paths, isRepositoryPath path = true := by
  obtain ⟨⟨oldPath, newPath⟩, -, hchange⟩ := Option.bind_eq_some_iff.1 hparsed
  obtain ⟨hchecked, hbuilt⟩ := Option.ite_none_right_eq_some.1 hchange
  obtain rfl := Option.some_inj.1 hbuilt
  simp only [Bool.and_eq_true] at hchecked
  rw [buildChange]
  split_ifs <;> simp [RepositoryChange.paths, hchecked.1.1, hchecked.1.2]

theorem mapM_parseSection {texts : List (List Char)} {changes : List RepositoryChange} :
    texts.mapM parseSection = some changes ↔ texts = changes.map (·.reviewerMaterial) ∧
      ∀ change ∈ changes, parseSection change.reviewerMaterial = some change := by
  induction texts generalizing changes with
  | nil => cases changes <;> simp
  | cons text texts ih =>
      simp only [List.mapM_cons, Option.bind_eq_bind, Option.bind_eq_some_iff,
        Option.pure_def, Option.some_inj]
      constructor
      · rintro ⟨change, hchange, rest, hrest, rfl⟩
        obtain ⟨rfl, hall⟩ := ih.1 hrest
        obtain ⟨rfl, -⟩ := parseSection_spec hchange
        exact ⟨rfl, List.forall_mem_cons.2 ⟨hchange, hall⟩⟩
      · rintro ⟨htexts, hall⟩
        obtain ⟨change, rest, rfl, rfl, rfl⟩ := List.map_eq_cons_iff.1 htexts.symm
        obtain ⟨hchange, hrest⟩ := List.forall_mem_cons.1 hall
        exact ⟨change, hchange, rest, ih.2 ⟨rfl, hrest⟩, rfl⟩

theorem parse_eq_some_iff {diff : List Char} {changes : List RepositoryChange} :
    parseCanonicalRepositoryChanges diff = some changes ↔
      changes ≠ [] ∧ Parsed changes ∧ projectRepositoryReviewerMaterial changes = diff := by
  have hfull : ∀ {piece : List Char}, sectionMark <+: piece → (!piece.isEmpty) = true := by
    rintro _ ⟨after, rfl⟩
    rfl
  obtain ⟨hjoined, hsections⟩ := splitSections_spec diff
  rw [projectRepositoryReviewerMaterial, List.flatMap_def, parseCanonicalRepositoryChanges]
  constructor
  · intro hparsed
    split_ifs at hparsed with hrefused
    obtain ⟨htexts, hchanges⟩ := mapM_parseSection.1 hparsed
    have hkept := hsections.sublist (List.filter_sublist (p := (!·.isEmpty)))
    rw [htexts] at hrefused hkept
    simp only [Bool.or_eq_true, not_or, List.isEmpty_iff, List.map_eq_nil_iff,
      Bool.not_eq_true, List.any_eq_false, List.forall_mem_map, Bool.not_eq_eq_eq_not,
      Bool.not_true] at hrefused
    exact ⟨hrefused.1, ⟨hkept, fun change hmem => ⟨by simpa using hrefused.2 change hmem,
      hchanges change hmem⟩⟩, by rw [← htexts, List.flatten_filter_not_isEmpty, hjoined]⟩
  · rintro ⟨hne, hparsed, rfl⟩
    have hmarked : ∀ piece ∈ changes.map (·.reviewerMaterial), sectionMark <+: piece :=
      List.forall_mem_map.2 fun change hmem => (hparsed.change change hmem).1
    rw [splitSections_flatten (by simpa using hne) hparsed.sections hmarked,
      List.filter_eq_self.2 fun piece hmem => hfull (hmarked piece hmem), if_neg]
    · exact mapM_parseSection.2 ⟨rfl, fun change hmem => (hparsed.change change hmem).2⟩
    · simpa [hne] using hmarked

theorem mem_repositoryChangePaths {changes : List RepositoryChange} {path : List Char} :
    path ∈ repositoryChangePaths changes ↔ ∃ change ∈ changes, path ∈ change.paths := by
  rw [repositoryChangePaths, List.mem_insertionSort, List.mem_dedup, List.mem_flatMap]

/-- The material of the changes is the patch, the material of those that touch requested
paths parses to exactly these, in their order, and all paths lie in the repository. -/
theorem parsed_changes_project {diff : List Char} {changes : List RepositoryChange}
    (hparsed : parseCanonicalRepositoryChanges diff = some changes) :
    projectRepositoryReviewerMaterial changes = diff ∧
    (∀ path ∈ repositoryChangePaths changes, isRepositoryPath path = true) ∧
    ∀ requested result, filterRepositoryChanges changes (some requested) = some result →
      parseCanonicalRepositoryChanges (projectRepositoryReviewerMaterial result) =
        some result ∧
      result.Sublist changes ∧
      (∀ change, change ∈ result ↔
        change ∈ changes ∧ ∃ path ∈ requested, path ∈ change.paths) ∧
      ∀ path ∈ requested, path ∈ repositoryChangePaths result := by
  obtain ⟨-, hchanges, hmaterial⟩ := parse_eq_some_iff.1 hparsed
  refine ⟨hmaterial, fun path hpath => ?_, fun requested result hresult => ?_⟩
  · obtain ⟨change, hmem, hown⟩ := mem_repositoryChangePaths.1 hpath
    exact (parseSection_spec (hchanges.change change hmem).2).2 path hown
  · rw [filterRepositoryChanges] at hresult
    split_ifs at hresult with hrefused
    obtain rfl := Option.some_inj.1 hresult
    have htouches : ∀ change, change ∈ changes.filter (·.paths.any (requested.contains ·)) ↔
        change ∈ changes ∧ ∃ path ∈ requested, path ∈ change.paths := by
      intro change
      simp [List.mem_filter, and_comm]
    have hall : ∀ path ∈ requested, path ∈ repositoryChangePaths
        (changes.filter (·.paths.any (requested.contains ·))) := by
      intro path hpath
      simp only [Bool.or_eq_true, List.any_eq_true, not_or, not_exists, not_and] at hrefused
      have hknown : path ∈ repositoryChangePaths changes := by
        simpa using (hrefused.2 path hpath).2
      obtain ⟨change, hmem, hown⟩ := mem_repositoryChangePaths.1 hknown
      exact mem_repositoryChangePaths.2
        ⟨change, (htouches change).2 ⟨hmem, path, hpath, hown⟩, hown⟩
    refine ⟨parse_eq_some_iff.2 ⟨?_, ⟨?_, ?_⟩, rfl⟩, List.filter_sublist, htouches, hall⟩
    · rintro hnone
      obtain ⟨path, hpath⟩ := List.exists_mem_of_ne_nil requested (by simp_all)
      have hsome := hall path hpath
      rw [hnone] at hsome
      cases hsome
    · exact hchanges.sections.sublist (List.filter_sublist.map _)
    · exact fun change hmem => hchanges.change change ((htouches change).1 hmem).1

/-- A request for the added file keeps its section alone. -/
theorem addedSection_projects :
    let added := "diff --git a/x b/x\nnew file mode 1\n".toList
    let changed := "diff --git a/y b/y\n".toList
    let add : RepositoryChange := ⟨.add, none, some ['x'], .text, none, added⟩
    let modify : RepositoryChange := ⟨.modify, some ['y'], some ['y'], .text, none, changed⟩
    parseCanonicalRepositoryChanges (added ++ changed) = some [add, modify] ∧
      filterRepositoryChanges [add, modify] (some [['x']]) = some [add] ∧
      parseCanonicalRepositoryChanges added = some [add] := by
  intro added changed add modify
  have hparsed : parseCanonicalRepositoryChanges (added ++ changed) = some [add, modify] := by
    decide +kernel
  have hfiltered : filterRepositoryChanges [add, modify] (some [['x']]) = some [add] := by
    decide +kernel
  refine ⟨hparsed, hfiltered, ?_⟩
  have hagain := ((parsed_changes_project hparsed).2.2 _ _ hfiltered).1
  simpa [projectRepositoryReviewerMaterial] using hagain

end GovernedRuntime.Adapters
