/-
Repository-relative paths (`src/state/repository-path.ts`), as the state schema keeps
them.
-/
import GovernedRuntime.Activation.Revision
import GovernedRuntime.Library.Lines
import GovernedRuntime.Risk.PathClassifier

namespace GovernedRuntime.State

open GovernedRuntime.Activation (trim)
open GovernedRuntime.Library
open GovernedRuntime.Risk (normalizeRepoRelativePath pathSegments)

inductive RepositoryPathClassification
  | valid (normalizedPath : String)
  | escapesRepository
  | invalid
deriving DecidableEq, Repr

/-- `/^[a-zA-Z][a-zA-Z0-9+.-]*:/`. -/
def hasScheme : List Char → Bool
  | [] => false
  | head :: rest =>
      head.isAlpha &&
        (rest.dropWhile fun c => c.isAlphanum || ['+', '.', '-'].contains c).head? == some ':'

/-- The segments that are left of a path, or `none` when it leaves the repository. -/
def resolveSegments (resolved : List String) : List String → Option (List String)
  | [] => some resolved
  | segment :: rest =>
      if segment == "" || segment == "." then resolveSegments resolved rest
      else if segment == ".." then
        if resolved.isEmpty then none else resolveSegments resolved.dropLast rest
      else resolveSegments (resolved ++ [segment]) rest

/-- Empty, absolute, with a scheme, or with a character that no path has. -/
def isUnusablePath (path : String) : Bool :=
  path == "" || path.toList.head? == some '/' || hasScheme path.toList ||
    path.toList.contains '\\' || path.toList.contains '\x00'

def classifyRepositoryPath (value : String) : RepositoryPathClassification :=
  if isUnusablePath (trim value) then .invalid
  else
    match resolveSegments [] (pathSegments (trim value)) with
    | none => .escapesRepository
    | some [] => .invalid
    | some resolved => .valid ("/".intercalate resolved)

/-- `RepositoryPathSchema`. -/
def parseRepositoryPath (value : String) : Option String :=
  match classifyRepositoryPath value with
  | .valid normalizedPath => some normalizedPath
  | _ => none

/-! ### What a parsed path looks like -/

/-- A segment of a path that is as short as it gets. -/
structure PlainSegment (segment : String) : Prop where
  nonempty : segment ≠ ""
  notDot : segment ≠ "."
  noSlash : '/' ∉ segment.toList
  noBackslash : '\\' ∉ segment.toList

theorem plainSegment_of_resolve {segments resolved out : List String}
    (hout : resolveSegments resolved segments = some out)
    (hsegments : ∀ segment ∈ segments, '/' ∉ segment.toList ∧ '\\' ∉ segment.toList)
    (hresolved : ∀ segment ∈ resolved, PlainSegment segment) :
    ∀ segment ∈ out, PlainSegment segment := by
  induction segments generalizing resolved with
  | nil =>
      obtain rfl := Option.some_inj.1 hout
      exact hresolved
  | cons segment rest ih =>
      have hrest := fun other hmem => hsegments other (List.mem_cons_of_mem segment hmem)
      rw [resolveSegments] at hout
      split_ifs at hout with hskip hup hempty
      · exact ih hout hrest hresolved
      · exact ih hout hrest fun other hmem => hresolved other (List.dropLast_subset _ hmem)
      · rw [Bool.or_eq_true, beq_iff_eq, beq_iff_eq, not_or] at hskip
        obtain ⟨hslash, hbackslash⟩ := hsegments segment List.mem_cons_self
        refine ih hout hrest fun other hmem => ?_
        rcases List.mem_append.1 hmem with hmem | hmem
        · exact hresolved other hmem
        · obtain rfl := List.mem_singleton.1 hmem
          exact ⟨hskip.1, hskip.2, hslash, hbackslash⟩

theorem toList_joined (segments : List String) :
    ("/".intercalate segments).toList = ['/'].intercalate (segments.map String.toList) :=
  String.toList_intercalate

/-- A parsed path is made of plain segments. -/
theorem plainSegments_of_parse {value path : String}
    (hparse : parseRepositoryPath value = some path) :
    ∃ segments, segments ≠ [] ∧ path = "/".intercalate segments ∧
      ∀ segment ∈ segments, PlainSegment segment := by
  rw [parseRepositoryPath, classifyRepositoryPath] at hparse
  generalize trim value = trimmed at hparse
  cases hunusable : isUnusablePath trimmed with
  | true =>
      rw [hunusable, if_pos rfl] at hparse
      cases hparse
  | false =>
      rw [hunusable, if_neg Bool.false_ne_true] at hparse
      simp only [isUnusablePath, Bool.or_eq_false_iff] at hunusable
      have hbackslash : '\\' ∉ trimmed.toList := by
        simpa using hunusable.1.2
      cases hresolve : resolveSegments [] (pathSegments trimmed) with
      | none =>
          rw [hresolve] at hparse
          cases hparse
      | some segments =>
          rw [hresolve] at hparse
          cases segments with
          | nil => cases hparse
          | cons first rest =>
              refine ⟨first :: rest, List.cons_ne_nil _ _, (Option.some_inj.1 hparse).symm,
                plainSegment_of_resolve hresolve (fun segment hmem => ?_)
                  fun _ hmem => absurd hmem List.not_mem_nil⟩
              obtain ⟨piece, hpiece, rfl⟩ := List.mem_map.1 hmem
              rw [String.toList_ofList]
              exact ⟨notMem_of_mem_splitOn hpiece,
                fun hback => hbackslash (mem_of_mem_splitOn hpiece hback)⟩

theorem backslash_notMem_joined {segments : List String}
    (hplain : ∀ segment ∈ segments, PlainSegment segment) :
    '\\' ∉ ("/".intercalate segments).toList := by
  rw [toList_joined]
  intro hmem
  rcases mem_of_mem_intercalate hmem with heq | ⟨piece, hpiece, hmem⟩
  · exact absurd heq (by decide)
  · obtain ⟨segment, hsegment, rfl⟩ := List.mem_map.1 hpiece
    exact (hplain segment hsegment).noBackslash hmem

/-- Plain segments do not begin with a dot segment. -/
theorem joined_ne_dot_slash {segments : List String} (hne : segments ≠ [])
    (hplain : ∀ segment ∈ segments, PlainSegment segment) {tail : List Char}
    (htail : tail = [] ∨ tail.head? = some '/') (rest : List Char) :
    ("/".intercalate segments).toList ++ tail ≠ '.' :: '/' :: rest := by
  rw [toList_joined]
  cases segments with
  | nil => exact absurd rfl hne
  | cons first others =>
      have hfirst := hplain first List.mem_cons_self
      have hhead : ∃ more, ['/'].intercalate ((first :: others).map String.toList) ++ tail =
          first.toList ++ more ∧ (more = [] ∨ more.head? = some '/') := by
        cases others with
        | nil => exact ⟨tail, by simp, htail⟩
        | cons second others => exact ⟨_, by simp; rfl, .inr rfl⟩
      obtain ⟨more, hjoined, hmore⟩ := hhead
      rw [hjoined]
      intro heq
      cases hchars : first.toList with
      | nil => exact hfirst.nonempty (String.toList_eq_nil_iff.1 hchars)
      | cons c cs =>
          rw [hchars, List.cons_append] at heq
          obtain ⟨rfl, htail⟩ := List.cons.inj heq
          cases cs with
          | nil => exact hfirst.notDot (String.toList_injective hchars)
          | cons d ds =>
              obtain ⟨rfl, -⟩ := List.cons.inj htail
              exact hfirst.noSlash (hchars ▸ List.mem_cons_of_mem _ List.mem_cons_self)

theorem normalizeRepoRelativePath_eq_self {path : String} (hbackslash : '\\' ∉ path.toList)
    (hdot : ∀ rest, path.toList ≠ '.' :: '/' :: rest) : normalizeRepoRelativePath path = path := by
  have hslashed : (path.toList.map fun c => if c == '\\' then '/' else c) = path.toList := by
    conv_rhs => rw [← List.map_id path.toList]
    refine List.map_congr_left fun c hmem => if_neg fun hback => hbackslash ?_
    exact beq_iff_eq.1 hback ▸ hmem
  rw [normalizeRepoRelativePath, hslashed]
  split
  · rename_i rest heq
    exact absurd heq (hdot rest)
  · rename_i slashed hnot
    exact String.ofList_toList

/-- The logical spelling of a parsed path is the path. -/
theorem normalizeRepoRelativePath_of_parse {value path : String}
    (hparse : parseRepositoryPath value = some path) : normalizeRepoRelativePath path = path := by
  obtain ⟨segments, hne, rfl, hplain⟩ := plainSegments_of_parse hparse
  refine normalizeRepoRelativePath_eq_self (backslash_notMem_joined hplain) fun rest => ?_
  have hjoined := joined_ne_dot_slash hne hplain (.inl rfl) rest
  rwa [List.append_nil] at hjoined

end GovernedRuntime.State
