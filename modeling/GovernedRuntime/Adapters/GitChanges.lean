/-
The changed files of a worktree (`src/adapters/git-changes.ts`): reading the
NUL-separated records of `git status --porcelain=v1 -z`.
-/
import GovernedRuntime.State.RepositoryPath

namespace GovernedRuntime.Adapters

open GovernedRuntime.Library (codeUnit length_le_flatMap_codeUnit)
open GovernedRuntime.Risk (normalizeRepoRelativePath)
open GovernedRuntime.State (normalizeRepoRelativePath_eq_self)

/-! ### What Git writes -/

/-- The code of one column of a short status. -/
inductive StatusCode
  | unmodified
  | modified
  | typeChanged
  | added
  | deleted
  | renamed
  | copied
  | unmerged
  | untracked
  | ignored
deriving DecidableEq, Repr

def StatusCode.char : StatusCode → Char
  | .unmodified => ' '
  | .modified => 'M'
  | .typeChanged => 'T'
  | .added => 'A'
  | .deleted => 'D'
  | .renamed => 'R'
  | .copied => 'C'
  | .unmerged => 'U'
  | .untracked => '?'
  | .ignored => '!'

def StatusCode.isRenameOrCopy (code : StatusCode) : Bool :=
  code == .renamed || code == .copied

/-- A path as Git knows it: some characters, and none of them NUL. -/
structure GitPath where
  text : List Char
  nonempty : text ≠ []
  noNul : '\x00' ∉ text

/-- A status record: an old path is there exactly for a rename or a copy. -/
structure StatusRecord where
  index : StatusCode
  worktree : StatusCode
  path : GitPath
  oldPath : Option GitPath
  oldPath_iff : oldPath.isSome = (index.isRenameOrCopy || worktree.isRenameOrCopy)

/-- The fields of a record: the codes, a blank and the path, then the old path. -/
def StatusRecord.fields (record : StatusRecord) : List (List Char) :=
  ([record.index.char, record.worktree.char, ' '] ++ record.path.text) ::
    record.oldPath.toList.map (·.text)

/-- Every field ends in a NUL. -/
def encodeFields (fields : List (List Char)) : List Char :=
  fields.flatMap (· ++ ['\x00'])

/-- The output of Git on some records. -/
def porcelainZ (records : List StatusRecord) : String :=
  String.ofList (encodeFields (records.flatMap (·.fields)))

/-! ### What the adapter reads -/

/-- The status codes are ASCII, so that the path begins at the fourth character. -/
def fieldPath (field : List Char) : List Char := field.drop 3

def fieldIsRenameOrCopy (field : List Char) : Bool :=
  (field.take 2).any fun code => code == 'R' || code == 'C'

/-- An empty field adds no path. -/
def oldPaths (field : List Char) : List String :=
  if field.isEmpty then [] else [normalizeRepoRelativePath (String.ofList field)]

def parseFields : List (List Char) → List String
  | [] => []
  | field :: fields =>
      if (field.flatMap codeUnit).length < 4 then parseFields fields
      else
        let path := normalizeRepoRelativePath (String.ofList (fieldPath field))
        if fieldIsRenameOrCopy field then
          -- the next field is the old path, and never a record
          match fields with
          | [] => [path]
          | oldPath :: rest => path :: (oldPaths oldPath ++ parseFields rest)
        else path :: parseFields fields

def parsePorcelainZ (raw : String) : List String :=
  parseFields (raw.toList.splitOn '\x00')

/-! ### Reading back what Git wrote -/

theorem StatusCode.char_ne_nul (code : StatusCode) : code.char ≠ '\x00' := by
  cases code <;> decide

theorem StatusCode.char_isRenameOrCopy (code : StatusCode) :
    (code.char == 'R' || code.char == 'C') = code.isRenameOrCopy := by
  cases code <;> rfl

theorem splitOn_encodeFields {fields : List (List Char)}
    (hclean : ∀ field ∈ fields, '\x00' ∉ field) :
    (encodeFields fields).splitOn '\x00' = fields ++ [[]] := by
  induction fields with
  | nil => rfl
  | cons field fields ih =>
      have hfield := hclean field List.mem_cons_self
      have hrest := fun other hmem => hclean other (List.mem_cons_of_mem field hmem)
      have htext : encodeFields (field :: fields) = field ++ '\x00' :: encodeFields fields := by
        rw [encodeFields, List.flatMap_cons, List.append_assoc, List.singleton_append]
        rfl
      rw [htext, List.splitOn_append_cons_self_of_not_mem hfield, ih hrest, List.cons_append]

theorem StatusRecord.nul_notMem {record : StatusRecord} :
    ∀ field ∈ record.fields, '\x00' ∉ field := by
  intro field hfield
  rcases List.mem_cons.1 hfield with rfl | hold
  · have hindex := record.index.char_ne_nul.symm
    have hworktree := record.worktree.char_ne_nul.symm
    simp [hindex, hworktree, record.path.noNul]
  · obtain ⟨oldPath, -, rfl⟩ := List.mem_map.1 hold
    exact oldPath.noNul

theorem fieldIsRenameOrCopy_record (index worktree : StatusCode) (rest : List Char) :
    fieldIsRenameOrCopy (index.char :: worktree.char :: rest) =
      (index.isRenameOrCopy || worktree.isRenameOrCopy) := by
  rw [← index.char_isRenameOrCopy, ← worktree.char_isRenameOrCopy]
  simp [fieldIsRenameOrCopy]

/-- The paths of a record: the new one, then the old one of a rename or a copy. -/
def StatusRecord.paths (record : StatusRecord) : List GitPath :=
  record.path :: record.oldPath.toList

/-- One record is read off whole, whatever follows it. -/
theorem parseFields_record (record : StatusRecord) (rest : List (List Char)) :
    parseFields (record.fields ++ rest) =
      record.paths.map (fun path => normalizeRepoRelativePath (String.ofList path.text)) ++
        parseFields rest := by
  obtain ⟨index, worktree, path, oldPath, hiff⟩ := record
  obtain ⟨c, cs, htext⟩ := List.exists_cons_of_ne_nil path.nonempty
  have hlong : ¬ (([index.char, worktree.char, ' '] ++ path.text).flatMap codeUnit).length < 4 := by
    have hunits := length_le_flatMap_codeUnit ([index.char, worktree.char, ' '] ++ path.text)
    rw [htext] at hunits ⊢
    simp only [List.length_append, List.length_cons] at hunits
    omega
  have hrename := fieldIsRenameOrCopy_record index worktree (' ' :: path.text)
  rw [StatusRecord.fields, List.cons_append, parseFields, if_neg hlong]
  cases oldPath with
  | none =>
      have hplain : fieldIsRenameOrCopy ([index.char, worktree.char, ' '] ++ path.text) = false :=
        hrename.trans hiff.symm
      rw [hplain]
      rfl
  | some oldPath =>
      have hmoved := hrename.trans hiff.symm
      rw [Option.isSome_some] at hmoved
      have hold : oldPaths oldPath.text =
          [normalizeRepoRelativePath (String.ofList oldPath.text)] :=
        if_neg (by simpa using oldPath.nonempty)
      simp only [StatusRecord.paths, Option.toList_some, List.map_cons, List.map_nil,
        List.cons_append, List.nil_append, hmoved, hold, if_true]
      rfl

theorem parseFields_records (records : List StatusRecord) (rest : List (List Char)) :
    parseFields (records.flatMap (·.fields) ++ rest) =
      (records.flatMap (·.paths)).map
          (fun path => normalizeRepoRelativePath (String.ofList path.text)) ++
        parseFields rest := by
  induction records with
  | nil => rfl
  | cons record records ih =>
      rw [List.flatMap_cons, List.append_assoc, parseFields_record, ih, List.flatMap_cons,
        List.map_append, List.append_assoc]

/-- Every record is read, in order, as its path and the old path it has, and
nothing else is. -/
theorem parsePorcelainZ_porcelainZ (records : List StatusRecord) :
    parsePorcelainZ (porcelainZ records) =
      (records.flatMap (·.paths)).map
        fun path => normalizeRepoRelativePath (String.ofList path.text) := by
  have hclean : ∀ field ∈ records.flatMap (·.fields), '\x00' ∉ field := by
    intro field hmem
    obtain ⟨record, -, hfield⟩ := List.mem_flatMap.1 hmem
    exact record.nul_notMem field hfield
  rw [parsePorcelainZ, porcelainZ, String.toList_ofList, splitOn_encodeFields hclean,
    parseFields_records]
  exact List.append_nil _

/-- A path without a backslash and without `./` in front is read as it is. -/
theorem parsePorcelainZ_plain {records : List StatusRecord}
    (hplain : ∀ path ∈ records.flatMap (·.paths),
      '\\' ∉ path.text ∧ ∀ rest, path.text ≠ '.' :: '/' :: rest) :
    parsePorcelainZ (porcelainZ records) =
      (records.flatMap (·.paths)).map fun path => String.ofList path.text := by
  rw [parsePorcelainZ_porcelainZ]
  refine List.map_congr_left fun path hmem => normalizeRepoRelativePath_eq_self ?_ ?_
  · rw [String.toList_ofList]
    exact (hplain path hmem).1
  · rw [String.toList_ofList]
    exact (hplain path hmem).2

end GovernedRuntime.Adapters
