/-
The inventory of an archive payload (`src/adapters/workspace/archive-verify-manifest.ts`,
`archive-files.ts`): the files a manifest lists against the files a payload has.
-/
import GovernedRuntime.Archive.ContentDigest
import GovernedRuntime.Library.FileTree
import GovernedRuntime.State.RepositoryPath

namespace GovernedRuntime.Archive

open GovernedRuntime.Library
open GovernedRuntime.Risk (pathSegments)
open GovernedRuntime.State (resolveSegments)

/-! ### Paths -/

/-- A name that a file system gives an entry. -/
structure ProperName (name : String) : Prop where
  nonempty : name ≠ ""
  notDot : name ≠ "."
  notUp : name ≠ ".."
  noSlash : '/' ∉ name.toList

theorem childPath_of_ne {parent : String} (hparent : parent ≠ "") (name : String) :
    Entry.childPath parent name = parent ++ "/" ++ name := if_neg hparent

theorem append_slash_ne (parent name : String) : parent ++ "/" ++ name ≠ "" := by
  intro hempty
  have hchars := congrArg String.toList hempty
  simp at hchars

theorem toList_joinFrom {parent : String} (hparent : parent ≠ "") (path : List String) :
    (Entry.joinFrom parent path).toList =
      ['/'].intercalate (parent.toList :: path.map String.toList) := by
  induction path generalizing parent with
  | nil => simp [Entry.joinFrom]
  | cons name rest ih =>
      rw [Entry.joinFrom, List.foldl_cons, childPath_of_ne hparent, ← Entry.joinFrom,
        ih (append_slash_ne parent name), List.map_cons, List.intercalate_cons_cons]
      cases rest with
      | nil => simp
      | cons other more => simp [List.intercalate_cons_cons]

/-- The text of a path splits into its names. -/
theorem pathSegments_joinFrom {path : List String} (hne : path ≠ [])
    (hproper : ∀ name ∈ path, ProperName name) :
    pathSegments (Entry.joinFrom "" path) = path := by
  cases path with
  | nil => exact absurd rfl hne
  | cons name rest =>
      have hname := hproper name List.mem_cons_self
      have hpieces : ∀ piece ∈ (name :: rest).map String.toList, '/' ∉ piece := by
        intro piece hpiece
        obtain ⟨other, hother, rfl⟩ := List.mem_map.1 hpiece
        exact (hproper other hother).noSlash
      rw [pathSegments, Entry.joinFrom, List.foldl_cons, Entry.childPath, if_pos rfl,
        ← Entry.joinFrom, toList_joinFrom hname.nonempty, ← List.map_cons,
        List.splitOn_intercalate '/' hpieces (by simp), List.map_map]
      simp

theorem resolveSegments_proper {path : List String} (hproper : ∀ name ∈ path, ProperName name)
    (resolved : List String) : resolveSegments resolved path = some (resolved ++ path) := by
  induction path generalizing resolved with
  | nil => simp [resolveSegments]
  | cons name rest ih =>
      obtain ⟨hname, hrest⟩ := List.forall_mem_cons.1 hproper
      rw [resolveSegments, if_neg (by simp [hname.nonempty, hname.notDot]),
        if_neg (by simp [hname.notUp]), ih hrest, List.append_assoc, List.singleton_append]

/-- A path in the spelling of the inventory: nothing in it is resolved away. -/
def IsPlainPath (relPath : String) : Prop :=
  resolveSegments [] (pathSegments relPath) = some (pathSegments relPath)

instance : DecidablePred IsPlainPath := fun relPath =>
  inferInstanceAs (Decidable (resolveSegments [] (pathSegments relPath) = some _))

theorem isPlainPath_joinFrom {path : List String} (hne : path ≠ [])
    (hproper : ∀ name ∈ path, ProperName name) : IsPlainPath (Entry.joinFrom "" path) := by
  rw [IsPlainPath, pathSegments_joinFrom hne hproper, resolveSegments_proper hproper,
    List.nil_append]

theorem proper_of_resolveSegments {segments resolved out : List String}
    (hout : resolveSegments resolved segments = some out)
    (hsegments : ∀ segment ∈ segments, '/' ∉ segment.toList)
    (hresolved : ∀ segment ∈ resolved, ProperName segment) :
    ∀ segment ∈ out, ProperName segment := by
  induction segments generalizing resolved with
  | nil =>
      obtain rfl := Option.some_inj.1 hout
      exact hresolved
  | cons segment rest ih =>
      obtain ⟨hslash, hrest⟩ := List.forall_mem_cons.1 hsegments
      rw [resolveSegments] at hout
      split_ifs at hout with hskip hup hempty
      · exact ih hout hrest hresolved
      · exact ih hout hrest fun other hmem => hresolved other (List.dropLast_subset _ hmem)
      · rw [Bool.or_eq_true, beq_iff_eq, beq_iff_eq, not_or] at hskip
        rw [beq_iff_eq] at hup
        refine ih hout hrest (List.forall_mem_append.2 ⟨hresolved, ?_⟩)
        rw [List.forall_mem_singleton]
        exact ⟨hskip.1, hskip.2, hup, hslash⟩

theorem IsPlainPath.proper {relPath : String} (hplain : IsPlainPath relPath) :
    ∀ name ∈ pathSegments relPath, ProperName name := by
  refine proper_of_resolveSegments hplain (fun segment hmem => ?_) nofun
  obtain ⟨piece, hpiece, rfl⟩ := List.mem_map.1 hmem
  rw [String.toList_ofList]
  exact notMem_of_mem_splitOn hpiece

/-- A plain path is the text of its names. -/
theorem IsPlainPath.joinFrom_eq {relPath : String} (hplain : IsPlainPath relPath) :
    Entry.joinFrom "" (pathSegments relPath) = relPath := by
  have hproper := hplain.proper
  have hjoined : ['/'].intercalate (relPath.toList.splitOn '/') = relPath.toList :=
    List.intercalate_splitOn '/'
  rw [pathSegments] at hproper ⊢
  cases hsplit : relPath.toList.splitOn '/' with
  | nil => exact absurd hsplit (List.splitOn_ne_nil '/' _)
  | cons piece pieces =>
      rw [hsplit] at hproper hjoined
      have hpiece := (hproper (String.ofList piece) List.mem_cons_self).nonempty
      rw [List.map_cons, Entry.joinFrom, List.foldl_cons, Entry.childPath, if_pos rfl,
        ← Entry.joinFrom]
      apply String.toList_injective
      rw [toList_joinFrom hpiece, List.map_map, String.toList_ofList]
      simpa using hjoined

/-! ### The two passes -/

def archiveManifestFile : String := "archive-manifest.json"

/-- A finding about a file. -/
structure FileFinding extends ArchiveFinding where
  file : String
deriving DecidableEq, Repr

/-- What an expression on `fileDigests` gives: an entry of it, nothing, or what every
object inherits. -/
inductive DigestSlot
  | own (digest : String)
  | missing
  | inherited
deriving DecidableEq, Repr

/-- The names every object answers to.  No schema keeps a `__proto__` of its own. -/
def inheritedNames : List String :=
  ["constructor", "__defineGetter__", "__defineSetter__", "hasOwnProperty", "__lookupGetter__",
    "__lookupSetter__", "isPrototypeOf", "propertyIsEnumerable", "toString", "valueOf",
    "__proto__", "toLocaleString"]

def digestSlot (fileDigests : List (String × String)) (relPath : String) : DigestSlot :=
  match fileDigests.lookup relPath with
  | some digest => if relPath = "__proto__" then .inherited else .own digest
  | none => if inheritedNames.contains relPath then .inherited else .missing

/-- An error that no finding reports. -/
inductive VerificationError
  | readDirectory (relPath : String)
  | notAText (relPath : String)
deriving DecidableEq, Repr

/-- A hash of file contents. -/
structure FileHash (Content : Type) where
  hashBuffer : Content → String
  injective : Function.Injective hashBuffer
  nonempty : ∀ content, hashBuffer content ≠ ""

section Passes

variable {N Content : Type} (hashing : FileHash Content)
  (elsewhere : String → Option (Entry Content)) (payload : Directory Content)

/-- What is found at a path.  Paths that leave the payload, or go through something
that is neither a file nor a directory, are found elsewhere. -/
def locate (relPath : String) : Option (Entry Content) :=
  match resolveSegments [] (pathSegments relPath) with
  | none => elsewhere relPath
  | some segments =>
      if (Entry.directory payload).meetsSpecial segments then elsewhere relPath
      else
        ((Entry.directory payload).find? segments).filter fun entry =>
          entry.isDirectory || relPath.toList.getLast? != some '/'

def missingFile (relPath : String) : FileFinding :=
  { code := "missing_file"
    severity := "error"
    message := "File listed in manifest is missing: " ++ relPath
    file := relPath }

def fileDigestMismatch (relPath expected actual : String) : FileFinding :=
  { code := "file_digest_mismatch"
    severity := "error"
    message := "File digest mismatch for " ++ relPath ++ ": expected " ++
      String.ofList (expected.toList.take 12) ++ "..., got " ++
      String.ofList (actual.toList.take 12) ++ "..."
    file := relPath }

/-- One turn of the loop over the listed files. -/
def verifyManifestFile (fileDigests : List (String × String)) (relPath : String) :
    Except VerificationError (List FileFinding) :=
  match locate elsewhere payload relPath with
  | none => .ok [missingFile relPath]
  | some entry =>
      match digestSlot fileDigests relPath with
      | .missing => .ok []
      | .own digest =>
          if digest = "" then .ok []
          else
            match entry with
            | .file content =>
                if hashing.hashBuffer content != digest then
                  .ok [fileDigestMismatch relPath digest (hashing.hashBuffer content)]
                else .ok []
            | _ => .error (.readDirectory relPath)
      | .inherited =>
          match entry with
          -- the inherited value is no text to take a part of
          | .file _ => .error (.notAText relPath)
          | _ => .error (.readDirectory relPath)

def verifyManifestFiles (manifest : ArchiveManifest N) :
    Except VerificationError (List FileFinding) :=
  (manifest.includedFiles.mapM
    (verifyManifestFile hashing elsewhere payload manifest.fileDigests)).map List.flatten

/-- Everything in a payload that is not a directory, and whether it is a file. -/
def walkArchiveFiles : List (String × Bool) :=
  Entry.walkEntries
    (fun relPath name entry =>
      if name != archiveManifestFile then some (relPath, entry.isFile) else none)
    "" payload

def unexpectedFile (file : String) (regular : Bool) : FileFinding :=
  { code := "unexpected_file"
    severity := "error"
    message :=
      if regular then "File not listed in manifest: " ++ file
      else "Archive contains non-regular filesystem entry: " ++ file
    file := file }

def checkUnexpectedFiles (manifest : ArchiveManifest N) : List FileFinding :=
  (walkArchiveFiles payload).filterMap fun (file, regular) =>
    if !regular || !manifest.includedFiles.contains file then
      some (unexpectedFile file regular)
    else none

/-- Both passes. -/
def verifyInventory (manifest : ArchiveManifest N) :
    Except VerificationError (List FileFinding) :=
  (verifyManifestFiles hashing elsewhere payload manifest).map
    (· ++ checkUnexpectedFiles payload manifest)

end Passes

/-! ### The exact inventory -/

section Inventory

variable {N Content : Type} (hashing : FileHash Content)
  {elsewhere : String → Option (Entry Content)} (payload : Directory Content)
  (manifest : ArchiveManifest N)

/-- The tree of a payload, with the names that a file system allows. -/
def WellNamedPayload : Prop := (Entry.directory payload).WellNamed ProperName

/-- The regular file at a path of the payload, other than the manifest at its root. -/
def PayloadFile (path : List String) (content : Content) : Prop :=
  (Entry.directory payload).find? path = some (.file content) ∧ path ≠ [archiveManifestFile]

/-- The manifest lists the files of the payload with their digests, and there is nothing
else in it. -/
structure ExactInventory : Prop where
  files : ∀ relPath, relPath ∈ manifest.includedFiles ↔
    ∃ path content, PayloadFile payload path content ∧ relPath = Entry.joinFrom "" path
  digests : ∀ path content, PayloadFile payload path content →
    manifest.fileDigests.lookup (Entry.joinFrom "" path) = some (hashing.hashBuffer content)
  filesOnly : ∀ path, (Entry.directory payload).find? path ≠ some .special

/-- What the passes take for granted. -/
structure CoversInventory : Prop where
  /-- A listed path is spelled as the walk spells it, and not that of the manifest. -/
  plain : ∀ relPath ∈ manifest.includedFiles, IsPlainPath relPath ∧ relPath ≠ archiveManifestFile
  /-- A listed path has a digest to compare with. -/
  digested : ∀ relPath ∈ manifest.includedFiles, ∃ digest,
    manifest.fileDigests.lookup relPath = some digest ∧ digest ≠ ""
  /-- An entry of the name of the manifest is a file, and below the root a listed one. -/
  manifestName : ∀ path entry, (Entry.directory payload).find? path = some entry →
    entry.isDirectory = false → path.getLast? = some archiveManifestFile →
    entry.isFile = true ∧
      (path = [archiveManifestFile] ∨ Entry.joinFrom "" path ∈ manifest.includedFiles)

variable {hashing payload manifest}

theorem forall_nil_of_forall₂ {α β ε : Type} {f : α → Except ε (List β)} {items : List α}
    {values : List (List β)} (hpairs : List.Forall₂ (fun item value => f item = .ok value) items
      values) (hempty : ∀ value ∈ values, value = []) : ∀ item ∈ items, f item = .ok [] := by
  induction hpairs with
  | nil => nofun
  | cons hfirst hrest ih =>
      obtain ⟨rfl, hothers⟩ := List.forall_mem_cons.1 hempty
      exact List.forall_mem_cons.2 ⟨hfirst, ih hothers⟩

theorem mapM_flatten_nil {α β ε : Type} {f : α → Except ε (List β)} {items : List α} :
    (items.mapM f).map List.flatten = .ok [] ↔ ∀ item ∈ items, f item = .ok [] := by
  constructor
  · intro hok
    cases hmap : items.mapM f with
    | error error => simp [hmap, Except.map] at hok
    | ok values =>
        rw [hmap] at hok
        exact forall_nil_of_forall₂ (mapM_eq_ok_iff.1 hmap)
          (List.flatten_eq_nil_iff.1 (Except.ok.inj hok))
  · intro hall
    have hmap : items.mapM f = .ok (items.map fun _ => []) := by
      rw [mapM_eq_ok_iff, List.forall₂_map_right_iff, List.forall₂_same]
      exact hall
    rw [hmap]
    simp [Except.map]

theorem verifyInventory_nil :
    verifyInventory hashing elsewhere payload manifest = .ok [] ↔
      (∀ relPath ∈ manifest.includedFiles,
        verifyManifestFile hashing elsewhere payload manifest.fileDigests relPath = .ok []) ∧
      checkUnexpectedFiles payload manifest = [] := by
  rw [verifyInventory, ← mapM_flatten_nil, ← verifyManifestFiles]
  cases verifyManifestFiles hashing elsewhere payload manifest with
  | error error => simp [Except.map]
  | ok findings => simp [Except.map]

/-- The second pass is silent when every visited entry is a listed file. -/
theorem checkUnexpectedFiles_nil (hnamed : WellNamedPayload payload) :
    checkUnexpectedFiles payload manifest = [] ↔
      ∀ path entry, (Entry.directory payload).find? path = some entry →
        entry.isDirectory = false → path.getLast? ≠ some archiveManifestFile →
        entry.isFile = true ∧ Entry.joinFrom "" path ∈ manifest.includedFiles := by
  rw [checkUnexpectedFiles, List.filterMap_eq_nil_iff]
  have hwalk : ∀ item, item ∈ walkArchiveFiles payload ↔ _ :=
    fun item => @Entry.mem_walkEntry _ _ _ _ _ hnamed "" "" item
  constructor
  · intro hnone path entry hfound hleaf hother
    have hname : (path.getLastD "" != archiveManifestFile) = true := by
      rw [bne_iff_ne, List.getLastD_eq_getLast?]
      cases hlast : path.getLast? with
      | none => decide
      | some last =>
          rintro rfl
          exact hother hlast
    have hvisited := (hwalk (Entry.joinFrom "" path, entry.isFile)).2
      ⟨path, entry, hfound, hleaf, by rw [if_pos hname]⟩
    have hsilent := hnone _ hvisited
    by_contra hunlisted
    rw [not_and_or] at hunlisted
    dsimp only at hsilent
    rw [if_pos (by simpa using hunlisted)] at hsilent
    cases hsilent
  · intro hlisted item hitem
    obtain ⟨path, entry, hfound, hleaf, hvisit⟩ := (hwalk item).1 hitem
    split_ifs at hvisit with hname
    cases hvisit
    have hlast : path.getLast? ≠ some archiveManifestFile := by
      rintro hlast
      rw [bne_iff_ne, List.getLastD_eq_getLast?, hlast] at hname
      exact hname rfl
    obtain ⟨hfile, hmem⟩ := hlisted path entry hfound hleaf hlast
    dsimp only
    rw [if_neg (by simp [hfile, hmem])]

/-- Without entries of another kind a plain path is looked up as it stands. -/
theorem locate_plain (hfiles : ∀ path, (Entry.directory payload).find? path ≠ some .special)
    {relPath : String} (hplain : IsPlainPath relPath) :
    locate elsewhere payload relPath =
      (Entry.directory payload).find? (pathSegments relPath) := by
  have hmeets : (Entry.directory payload).meetsSpecial (pathSegments relPath) = false := by
    rw [Bool.eq_false_iff]
    intro hmeets
    obtain ⟨before, -, hspecial⟩ := Entry.exists_special hmeets
    exact hfiles before hspecial
  have hlast : (relPath.toList.getLast? != some '/') = true := by
    rw [bne_iff_ne]
    intro hslash
    obtain ⟨front, hfront⟩ := List.getLast?_eq_some_iff.1 hslash
    have hempty : "" ∈ pathSegments relPath := by
      rw [pathSegments, hfront, List.splitOn_append_cons_self, List.splitOn_nil]
      simp
    exact (hplain.proper "" hempty).nonempty rfl
  rw [IsPlainPath] at hplain
  rw [locate, hplain]
  dsimp only
  rw [hmeets, if_neg Bool.false_ne_true]
  cases (Entry.directory payload).find? (pathSegments relPath) with
  | none => rfl
  | some entry => simp [Option.filter, hlast]

/-- A silent turn on a digest compared the bytes of a file. -/
theorem file_of_verified {relPath digest : String} {fileDigests : List (String × String)}
    (hverified : verifyManifestFile hashing elsewhere payload fileDigests relPath = .ok [])
    (hdigest : fileDigests.lookup relPath = some digest) (hne : digest ≠ "") :
    ∃ content, locate elsewhere payload relPath = some (.file content) ∧
      digest = hashing.hashBuffer content := by
  rw [verifyManifestFile] at hverified
  cases hlocate : locate elsewhere payload relPath with
  | none => simp [hlocate] at hverified
  | some entry =>
      rw [hlocate, digestSlot, hdigest] at hverified
      dsimp only at hverified
      by_cases hproto : relPath = "__proto__"
      · rw [if_pos hproto] at hverified
        cases entry <;> cases hverified
      · rw [if_neg hproto] at hverified
        dsimp only at hverified
        rw [if_neg hne] at hverified
        cases entry with
        | file content =>
            refine ⟨content, rfl, ?_⟩
            dsimp only at hverified
            split_ifs at hverified with hsame
            · cases hverified
            · rw [bne_iff_ne, not_not] at hsame
              exact hsame.symm
        | directory entries => cases hverified
        | special => cases hverified

theorem PayloadFile.ne_nil {path : List String} {content : Content}
    (hfile : PayloadFile payload path content) : path ≠ [] := by
  rintro rfl
  have hfound := hfile.1
  rw [Entry.find?_nil] at hfound
  cases hfound

/-- The files of a verified payload are listed, the name of the manifest apart. -/
theorem CoversInventory.listed (hcovers : CoversInventory payload manifest)
    (hnamed : WellNamedPayload payload) (hunexpected : checkUnexpectedFiles payload manifest = [])
    {path : List String} {content : Content} (hfile : PayloadFile payload path content) :
    Entry.joinFrom "" path ∈ manifest.includedFiles := by
  by_cases hlast : path.getLast? = some archiveManifestFile
  · exact ((hcovers.manifestName path _ hfile.1 rfl hlast).2).resolve_left hfile.2
  · exact ((checkUnexpectedFiles_nil hnamed).1 hunexpected path _ hfile.1 rfl hlast).2

theorem CoversInventory.filesOnly (hcovers : CoversInventory payload manifest)
    (hnamed : WellNamedPayload payload) (hunexpected : checkUnexpectedFiles payload manifest = [])
    (path : List String) : (Entry.directory payload).find? path ≠ some .special := by
  intro hspecial
  by_cases hlast : path.getLast? = some archiveManifestFile
  · exact absurd (hcovers.manifestName path _ hspecial rfl hlast).1 Bool.false_ne_true
  · exact absurd ((checkUnexpectedFiles_nil hnamed).1 hunexpected path _ hspecial rfl hlast).1
      Bool.false_ne_true

/-- A listed path is that of a file with the listed digest. -/
theorem CoversInventory.file (hcovers : CoversInventory payload manifest)
    (hnamed : WellNamedPayload payload)
    (hverified : verifyInventory hashing elsewhere payload manifest = .ok []) {relPath : String}
    (hlisted : relPath ∈ manifest.includedFiles) :
    ∃ content, PayloadFile payload (pathSegments relPath) content ∧
      relPath = Entry.joinFrom "" (pathSegments relPath) ∧
      manifest.fileDigests.lookup relPath = some (hashing.hashBuffer content) := by
  obtain ⟨hfiles, hunexpected⟩ := verifyInventory_nil.1 hverified
  obtain ⟨hplain, hother⟩ := hcovers.plain relPath hlisted
  obtain ⟨digest, hdigest, hne⟩ := hcovers.digested relPath hlisted
  obtain ⟨content, hlocate, rfl⟩ := file_of_verified (hfiles relPath hlisted) hdigest hne
  rw [locate_plain (hcovers.filesOnly hnamed hunexpected) hplain] at hlocate
  refine ⟨content, ⟨hlocate, fun hroot => hother ?_⟩, hplain.joinFrom_eq.symm, hdigest⟩
  rw [← hplain.joinFrom_eq, hroot]
  rfl

theorem CoversInventory.exact (hcovers : CoversInventory payload manifest)
    (hnamed : WellNamedPayload payload)
    (hverified : verifyInventory hashing elsewhere payload manifest = .ok []) :
    ExactInventory hashing payload manifest := by
  have hunexpected := (verifyInventory_nil.1 hverified).2
  refine ⟨fun relPath => ⟨fun hlisted => ?_, ?_⟩, fun path content hfile => ?_,
    hcovers.filesOnly hnamed hunexpected⟩
  · obtain ⟨content, hfile, hspelled, -⟩ := hcovers.file hnamed hverified hlisted
    exact ⟨_, content, hfile, hspelled⟩
  · rintro ⟨path, content, hfile, rfl⟩
    exact hcovers.listed hnamed hunexpected hfile
  · obtain ⟨content', hfile', -, hdigest⟩ :=
      hcovers.file hnamed hverified (hcovers.listed hnamed hunexpected hfile)
    rw [pathSegments_joinFrom hfile.ne_nil (hnamed.proper_of_find? hfile.1)] at hfile'
    obtain rfl : content = content' := by
      have hsame := hfile.1.symm.trans hfile'.1
      simpa using hsame
    exact hdigest

theorem ExactInventory.covers (hexact : ExactInventory hashing payload manifest)
    (hnamed : WellNamedPayload payload) : CoversInventory payload manifest := by
  refine ⟨fun relPath hlisted => ?_, fun relPath hlisted => ?_,
    fun path entry hfound hleaf hlast => ?_⟩
  · obtain ⟨path, content, hfile, rfl⟩ := (hexact.files relPath).1 hlisted
    have hproper := hnamed.proper_of_find? hfile.1
    refine ⟨isPlainPath_joinFrom hfile.ne_nil hproper, fun hroot => hfile.2 ?_⟩
    rw [← pathSegments_joinFrom hfile.ne_nil hproper, hroot]
    decide
  · obtain ⟨path, content, hfile, rfl⟩ := (hexact.files relPath).1 hlisted
    exact ⟨_, hexact.digests path content hfile, hashing.nonempty content⟩
  · cases entry with
    | directory entries => cases hleaf
    | special => exact absurd hfound (hexact.filesOnly path)
    | file content =>
        refine ⟨rfl, ?_⟩
        by_cases hroot : path = [archiveManifestFile]
        · exact .inl hroot
        · exact .inr ((hexact.files _).2 ⟨path, content, ⟨hfound, hroot⟩, rfl⟩)

/-- The exact inventory passes. -/
theorem ExactInventory.verified (hexact : ExactInventory hashing payload manifest)
    (hnamed : WellNamedPayload payload) (hproto : "__proto__" ∉ manifest.includedFiles) :
    verifyInventory hashing elsewhere payload manifest = .ok [] := by
  refine verifyInventory_nil.2 ⟨fun relPath hlisted => ?_, ?_⟩
  · obtain ⟨path, content, hfile, hspelled⟩ := (hexact.files relPath).1 hlisted
    have hproper := hnamed.proper_of_find? hfile.1
    have hdigest := hexact.digests path content hfile
    rw [← hspelled] at hdigest
    have hlocate : locate elsewhere payload relPath = some (.file content) := by
      rw [hspelled, locate_plain hexact.filesOnly (isPlainPath_joinFrom hfile.ne_nil hproper),
        pathSegments_joinFrom hfile.ne_nil hproper]
      exact hfile.1
    have hown : digestSlot manifest.fileDigests relPath = .own (hashing.hashBuffer content) := by
      rw [digestSlot, hdigest]
      refine if_neg ?_
      rintro rfl
      exact hproto hlisted
    rw [verifyManifestFile, hlocate, hown]
    simp
  · refine (checkUnexpectedFiles_nil hnamed).2 fun path entry hfound hleaf hlast => ?_
    cases entry with
    | directory entries => cases hleaf
    | special => exact absurd hfound (hexact.filesOnly path)
    | file content =>
        refine ⟨rfl, (hexact.files _).2 ⟨path, content, ⟨hfound, ?_⟩, rfl⟩⟩
        rintro rfl
        exact hlast rfl

/-- Of a payload that both passes accept: its inventory is the exact one if and only if
every listed path is a plain one with a digest, other than that of the manifest, and every
entry below the root that has the manifest's name is a listed file.  Two such payloads of
one manifest have the same files. -/
theorem verified_inventory_exact_iff (hnamed : WellNamedPayload payload)
    (hverified : verifyInventory hashing elsewhere payload manifest = .ok []) :
    (ExactInventory hashing payload manifest ↔ CoversInventory payload manifest) ∧
    ∀ other : Directory Content, WellNamedPayload other →
      verifyInventory hashing elsewhere other manifest = .ok [] →
      CoversInventory payload manifest → CoversInventory other manifest →
      ∀ path content, PayloadFile payload path content ↔ PayloadFile other path content := by
  have hfiles : ∀ {payload other : Directory Content}, WellNamedPayload payload →
      WellNamedPayload other → ExactInventory hashing payload manifest →
      ExactInventory hashing other manifest → ∀ {path content},
        PayloadFile payload path content → PayloadFile other path content := by
    intro payload other hnamed hnamed' hexact hexact' path content hfile
    have hlisted := (hexact.files _).2 ⟨path, content, hfile, rfl⟩
    obtain ⟨path', content', hfile', hsame⟩ := (hexact'.files _).1 hlisted
    have hproper := hnamed.proper_of_find? hfile.1
    have hproper' := hnamed'.proper_of_find? hfile'.1
    obtain rfl : path = path' := by
      rw [← pathSegments_joinFrom hfile.ne_nil hproper, hsame,
        pathSegments_joinFrom hfile'.ne_nil hproper']
    have hdigest := hexact.digests path content hfile
    rw [hexact'.digests path content' hfile', Option.some_inj] at hdigest
    rwa [← hashing.injective hdigest]
  refine ⟨⟨fun hexact => hexact.covers hnamed, fun hcovers => hcovers.exact hnamed hverified⟩,
    fun other hnamed' hverified' hcovers hcovers' path content => ?_⟩
  have hexact := hcovers.exact hnamed hverified
  have hexact' := hcovers'.exact hnamed' hverified'
  exact ⟨hfiles hnamed hnamed' hexact hexact', hfiles hnamed' hnamed hexact' hexact⟩

end Inventory

/-! ### A file of the manifest's name -/

/-- The bytes of a file as a text, and a hash that keeps them apart. -/
def textHash : FileHash String where
  hashBuffer text := "#" ++ text
  injective := fun a b hsame => String.append_right_inj "#" |>.1 hsame
  nonempty text hempty := by
    have hlength := congrArg String.length hempty
    simp at hlength

/-- A manifest of two files. -/
def reportManifest : ArchiveManifest Nat :=
  { archiveOf "report.md" with
    fileDigests := [("session-state.json", "#complete"), ("report.md", "#done")]
    contentDigest := "" }

def reportPayload : Directory String :=
  [(archiveManifestFile, .file "manifest"), ("session-state.json", .file "complete"),
    ("report.md", .file "done")]

/-- The same payload with another file in a directory. -/
def hiddenFilePayload : Directory String :=
  reportPayload ++ [("state", .directory [(archiveManifestFile, .file "anything")])]

theorem properName_of {name : String}
    (hname : (name != "" && name != "." && name != ".." && !name.toList.contains '/') = true) :
    ProperName name := by
  simp only [Bool.and_eq_true, bne_iff_ne, Bool.not_eq_true', List.contains_eq_mem,
    decide_eq_false_iff_not] at hname
  exact ⟨hname.1.1.1, hname.1.1.2, hname.1.2, hname.2⟩

theorem reportPayload_children : ∀ child ∈ reportPayload,
    ProperName child.1 ∧ child.2.WellNamed ProperName := by
  rw [reportPayload, List.forall_mem_cons, List.forall_mem_cons, List.forall_mem_singleton]
  exact ⟨⟨properName_of (by decide), .of_leaf rfl⟩, ⟨properName_of (by decide), .of_leaf rfl⟩,
    properName_of (by decide), .of_leaf rfl⟩

theorem wellNamed_reportPayload : WellNamedPayload reportPayload :=
  .of_children (by decide) reportPayload_children

theorem wellNamed_hiddenFilePayload : WellNamedPayload hiddenFilePayload := by
  refine .of_children (by decide) ?_
  rw [hiddenFilePayload, List.forall_mem_append, List.forall_mem_singleton]
  refine ⟨reportPayload_children, properName_of (by decide), .of_children (by decide) ?_⟩
  rw [List.forall_mem_singleton]
  exact ⟨properName_of (by decide), .of_leaf rfl⟩

/-- No pass sees the file, and the manifest does not list it. -/
theorem hiddenFile_verified :
    ¬ ∀ payload : Directory String, WellNamedPayload payload →
      verifyInventory textHash (fun _ => none) payload reportManifest = .ok [] →
      ExactInventory textHash payload reportManifest := by
  intro hsound
  have hexact := hsound hiddenFilePayload wellNamed_hiddenFilePayload (by decide +kernel)
  have hlisted := (hexact.files "state/archive-manifest.json").2
    ⟨["state", archiveManifestFile], "anything", ⟨rfl, by decide⟩, by decide⟩
  exact absurd hlisted (by decide)

theorem verified_inventory_exact_report :
    verifyInventory textHash (fun _ => none) reportPayload reportManifest = .ok [] ∧
    (ExactInventory textHash reportPayload reportManifest ↔
      CoversInventory reportPayload reportManifest) := by
  have hverified : verifyInventory textHash (fun _ => none) reportPayload reportManifest =
      .ok [] := by decide +kernel
  exact ⟨hverified, (verified_inventory_exact_iff wellNamed_reportPayload hverified).1⟩

end GovernedRuntime.Archive
