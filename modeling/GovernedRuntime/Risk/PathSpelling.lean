/-
What the class of a set of paths depends on (`src/state/risk-path-classifier.ts`): the
greatest class of its paths, and of each path more than the file it denotes.
-/
import Mathlib.Data.List.TakeWhile
import Mathlib.Logic.Relation
import Mathlib.Order.Lattice
import Mathlib.Order.MinMax
import GovernedRuntime.Risk.GlobMatching

namespace GovernedRuntime.Risk

open GovernedRuntime.Library
open GovernedRuntime.State

/-! ### The class of a set -/

theorem maxTaskClass_trivial (a : TaskClass) : maxTaskClass .trivial a = a := by
  cases a <;> rfl

section Assessment

variable {configured : List RiskTriggerRule} {path : String} {paths paths' : List String}

theorem assess_minimumTaskClass :
    (assessMinimumTaskClass paths configured).minimumTaskClass =
      (paths.map fun path => (classifyPath configured path).minimumTaskClass).foldl
        maxTaskClass .trivial := by
  cases paths with
  | nil => rfl
  | cons path rest =>
      rw [assessMinimumTaskClass, if_neg (by simp)]
      dsimp only
      rw [List.foldl_map, List.foldl_map]

theorem assess_singleton :
    (assessMinimumTaskClass [path] configured).minimumTaskClass =
      (classifyPath configured path).minimumTaskClass := by
  rw [assess_minimumTaskClass, List.map_singleton, List.foldl_cons, List.foldl_nil,
    maxTaskClass_trivial]

theorem foldl_maxTaskClass_order_le_iff {classes : List TaskClass} {least bound : TaskClass} :
    (classes.foldl maxTaskClass least).order ≤ bound.order ↔
      least.order ≤ bound.order ∧ ∀ taskClass ∈ classes, taskClass.order ≤ bound.order := by
  induction classes generalizing least with
  | nil => simp
  | cons taskClass rest ih =>
      rw [List.foldl_cons, ih, order_maxTaskClass, max_le_iff, List.forall_mem_cons, and_assoc]

/-- The class of a set is the least that no path of it exceeds. -/
theorem assess_order_le_iff {bound : TaskClass} :
    (assessMinimumTaskClass paths configured).minimumTaskClass.order ≤ bound.order ↔
      ∀ path ∈ paths, (classifyPath configured path).minimumTaskClass.order ≤ bound.order := by
  rw [assess_minimumTaskClass, foldl_maxTaskClass_order_le_iff, List.forall_mem_map]
  exact and_iff_right (Nat.zero_le _)

theorem assess_mono (hsubset : ∀ path ∈ paths, path ∈ paths') :
    (assessMinimumTaskClass paths configured).minimumTaskClass.order ≤
      (assessMinimumTaskClass paths' configured).minimumTaskClass.order :=
  assess_order_le_iff.2 fun path hpath => assess_order_le_iff.1 le_rfl path (hsubset path hpath)

theorem assess_congr (hsame : ∀ path, path ∈ paths ↔ path ∈ paths') :
    (assessMinimumTaskClass paths configured).minimumTaskClass =
      (assessMinimumTaskClass paths' configured).minimumTaskClass :=
  TaskClass.order_injective (le_antisymm (assess_mono fun path => (hsame path).1)
    (assess_mono fun path => (hsame path).2))

end Assessment

/-! ### Spellings of one file -/

/-- One path written in two ways: with a leading dot segment, with a backslash for a
slash, with a slash doubled. -/
inductive Rewrites : List Char → List Char → Prop
  | leadingDot (path : List Char) (hrelative : path.head? ≠ some '/' ∧ path.head? ≠ some '\\') :
      Rewrites ('.' :: '/' :: path) path
  | backslash (before after : List Char) :
      Rewrites (before ++ '\\' :: after) (before ++ '/' :: after)
  | doubled (before after : List Char) :
      Rewrites (before ++ '/' :: '/' :: after) (before ++ '/' :: after)

/-- Two spellings of one repository file. -/
def Respelling (path other : String) : Prop :=
  Relation.EqvGen Rewrites path.toList other.toList

def slashed (text : List Char) : List Char :=
  text.map fun c => if c == '\\' then '/' else c

/-- The directories on the way to the file. -/
def directories (segments : List (List Char)) : List (List Char) :=
  (segments.dropLast.filter (· ≠ [])).dropWhile (· = ['.'])

/-- What a spelling says of the file: its directories and its name. -/
def denoted (segments : List (List Char)) : List (List Char) × Option (List Char) :=
  (directories segments, segments.getLast?)

section Denoted

variable {segments others : List (List Char)}

theorem denoted_dot (hne : segments ≠ []) :
    denoted (['.'] :: segments) = denoted segments := by
  rw [denoted, denoted, directories, List.dropLast_cons_of_ne_nil hne,
    List.getLast?_cons_of_ne_nil hne, directories]
  simp

theorem denoted_empty (hne : others ≠ []) :
    denoted (segments ++ [] :: others) = denoted (segments ++ others) := by
  rw [denoted, denoted, directories, directories, List.dropLast_append_of_ne_nil (by simp),
    List.dropLast_append_of_ne_nil hne, List.dropLast_cons_of_ne_nil hne]
  simp [List.getLast?_append, List.getLast?_cons_of_ne_nil hne]

end Denoted

def spelled (path : String) : List (List Char) := (slashed path.toList).splitOn '/'

theorem splitOn_append_slash (before after : List Char) :
    (before ++ '/' :: after).splitOn '/' = before.splitOn '/' ++ after.splitOn '/' :=
  List.splitOn_append_cons_self before after

theorem denoted_eq_of_rewrites {text other : List Char} (hrewrites : Rewrites text other) :
    denoted ((slashed text).splitOn '/') = denoted ((slashed other).splitOn '/') := by
  induction hrewrites with
  | leadingDot path =>
      have hdot : (slashed ('.' :: '/' :: path)).splitOn '/' =
          ['.'] :: (slashed path).splitOn '/' := splitOn_append_slash ['.'] (slashed path)
      rw [hdot, denoted_dot (List.splitOn_ne_nil _ _)]
  | backslash before after =>
      have hsame : slashed (before ++ '\\' :: after) = slashed (before ++ '/' :: after) := by
        simp [slashed]
      rw [hsame]
  | doubled before after =>
      have hempty : (slashed (before ++ '/' :: '/' :: after)).splitOn '/' =
          (slashed before).splitOn '/' ++ [] :: (slashed after).splitOn '/' := by
        have hslashed : slashed (before ++ '/' :: '/' :: after) =
            slashed before ++ '/' :: ([] ++ '/' :: slashed after) := by
          simp [slashed]
        rw [hslashed, splitOn_append_slash, splitOn_append_slash]
        rfl
      have hone : (slashed (before ++ '/' :: after)).splitOn '/' =
          (slashed before).splitOn '/' ++ (slashed after).splitOn '/' := by
        have hslashed : slashed (before ++ '/' :: after) =
            slashed before ++ '/' :: slashed after := by
          simp [slashed]
        rw [hslashed, splitOn_append_slash]
      rw [hempty, hone, denoted_empty (List.splitOn_ne_nil _ _)]

theorem denoted_eq_of_respelling {path other : String} (hspelling : Respelling path other) :
    denoted (spelled path) = denoted (spelled other) := by
  rw [Respelling] at hspelling
  rw [spelled, spelled]
  generalize path.toList = text at hspelling
  generalize other.toList = text' at hspelling
  induction hspelling with
  | rel _ _ hrewrites => exact denoted_eq_of_rewrites hrewrites
  | refl => rfl
  | symm _ _ _ ih => exact ih.symm
  | trans _ _ _ _ _ ih ih' => exact ih.trans ih'

/-! ### The normal form -/

theorem slashed_notMem (text : List Char) : '\\' ∉ slashed text := by
  intro hmem
  obtain ⟨c, -, hc⟩ := List.mem_map.1 hmem
  split_ifs at hc with hback
  · exact absurd hc (by decide)
  · exact hback (hc ▸ beq_self_eq_true _)

theorem slashed_eq_self {text : List Char} (hclean : '\\' ∉ text) : slashed text = text := by
  conv_rhs => rw [← List.map_id text]
  refine List.map_congr_left fun c hmem => if_neg fun hback => hclean ?_
  exact beq_iff_eq.1 hback ▸ hmem

theorem normalizeRepoRelativePath_eq (path : String) :
    normalizeRepoRelativePath path =
      match slashed path.toList with
      | '.' :: '/' :: rest => String.ofList rest
      | slashed => String.ofList slashed := rfl

/-- The normal form is the path with slashes, less one leading dot segment. -/
theorem normalize_cases (path : String) :
    slashed path.toList = '.' :: '/' :: (normalizeRepoRelativePath path).toList ∨
      slashed path.toList = (normalizeRepoRelativePath path).toList := by
  rw [normalizeRepoRelativePath_eq]
  split
  · rename_i rest heq
    exact .inl (by rw [heq, String.toList_ofList])
  · exact .inr (by rw [String.toList_ofList])

theorem normalize_notMem (path : String) :
    '\\' ∉ (normalizeRepoRelativePath path).toList := by
  have hclean := slashed_notMem path.toList
  rcases normalize_cases path with heq | heq
  · rw [heq] at hclean
    exact fun hmem => hclean (List.mem_cons_of_mem _ (List.mem_cons_of_mem _ hmem))
  · rwa [heq] at hclean

theorem spelled_normalize (path : String) :
    spelled (normalizeRepoRelativePath path) =
      (normalizeRepoRelativePath path).toList.splitOn '/' := by
  rw [spelled, slashed_eq_self (normalize_notMem path)]

theorem denoted_normalize (path : String) :
    denoted (spelled (normalizeRepoRelativePath path)) = denoted (spelled path) := by
  rw [spelled_normalize]
  rcases normalize_cases path with heq | heq
  · have hdot : spelled path =
        ['.'] :: (normalizeRepoRelativePath path).toList.splitOn '/' := by
      rw [spelled, heq]
      exact splitOn_append_slash ['.'] _
    rw [hdot, denoted_dot (List.splitOn_ne_nil _ _)]
  · rw [spelled, heq]

/-! ### Telling two normal forms apart -/

/-- Segments that spellings of one file may differ in. -/
def Redundant (segment : List Char) : Prop := segment = [] ∨ segment = ['.']

theorem exists_first_difference {α : Type} {xs ys : List α} (hlength : xs.length = ys.length)
    (hne : xs ≠ ys) :
    ∃ pre x y xs' ys', xs = pre ++ x :: xs' ∧ ys = pre ++ y :: ys' ∧ x ≠ y := by
  induction xs generalizing ys with
  | nil => exact absurd (List.length_eq_zero_iff.1 hlength.symm).symm hne
  | cons x xs ih =>
      cases ys with
      | nil => exact absurd hlength (Nat.succ_ne_zero _)
      | cons y ys =>
          by_cases heq : x = y
          · subst heq
            obtain ⟨pre, x', y', xs', ys', rfl, rfl, hxy⟩ :=
              ih (Nat.succ.inj hlength) fun htail => hne (htail ▸ rfl)
            exact ⟨x :: pre, x', y', xs', ys', rfl, rfl, hxy⟩
          · exact ⟨[], x, y, xs, ys, rfl, rfl, heq⟩

theorem directories_append {pre rest : List (List Char)} {segment : List Char}
    (hplain : ¬ Redundant segment) (hne : rest ≠ []) :
    ∃ tail, directories (pre ++ segment :: rest) =
      (pre.filter (· ≠ [])).dropWhile (· = ['.']) ++ segment :: tail := by
  obtain ⟨hempty, hdot⟩ := not_or.1 hplain
  refine ⟨rest.dropLast.filter (· ≠ []), ?_⟩
  rw [directories, List.dropLast_append_of_ne_nil (List.cons_ne_nil _ _),
    List.dropLast_cons_of_ne_nil hne, List.filter_append, List.dropWhile_append]
  split_ifs with hdropped
  · rw [List.isEmpty_iff.1 hdropped]
    simp [hempty, hdot]
  · simp [hempty]

/-- Two spellings of one file first differ in a segment that is redundant in one. -/
theorem redundant_of_denoted_eq {pre xs ys : List (List Char)} {x y : List Char}
    (hlength : xs.length = ys.length) (hxy : x ≠ y)
    (hdenoted : denoted (pre ++ x :: xs) = denoted (pre ++ y :: ys)) :
    Redundant x ∨ Redundant y := by
  obtain ⟨hdirectories, hlast⟩ := Prod.mk.inj hdenoted
  by_cases hxs : xs = []
  · subst hxs
    obtain rfl := List.length_eq_zero_iff.1 hlength.symm
    simp only [List.getLast?_append, List.getLast?_singleton, Option.some_or,
      Option.some_inj] at hlast
    exact absurd hlast hxy
  · have hys : ys ≠ [] := fun hnil => hxs (List.length_eq_zero_iff.1 (by rw [hlength, hnil]; rfl))
    by_contra hplain
    obtain ⟨hx, hy⟩ := not_or.1 hplain
    obtain ⟨tail, htail⟩ := @directories_append pre _ _ hx hxs
    obtain ⟨tail', htail'⟩ := @directories_append pre _ _ hy hys
    rw [htail, htail'] at hdirectories
    exact hxy (List.cons.inj (List.append_cancel_left hdirectories)).1

/-- A pattern of stars, but for one segment. -/
def probe (before : Nat) (segment : List Char) (after : Nat) : List String :=
  List.replicate before "*" ++ String.ofList segment :: List.replicate after "*"

theorem probe_parts {before after : Nat} {segment : List Char} (hredundant : Redundant segment) :
    ∀ part ∈ probe before segment after,
      '/' ∉ part.toList ∧ BasicPlane part ∧ part ≠ "**" := by
  have hstar : '/' ∉ "*".toList ∧ BasicPlane "*" ∧ "*" ≠ "**" := by decide
  have hsegment : '/' ∉ (String.ofList segment).toList ∧ BasicPlane (String.ofList segment) ∧
      String.ofList segment ≠ "**" := by
    rcases hredundant with rfl | rfl <;> decide
  intro part hmem
  simp only [probe, List.mem_append, List.mem_cons, List.mem_replicate] at hmem
  rcases hmem with ⟨-, rfl⟩ | rfl | ⟨-, rfl⟩
  · exact hstar
  · exact hsegment
  · exact hstar

theorem forall₂_stars (segments : List String) :
    List.Forall₂ SegmentProduces (List.replicate segments.length "*") segments := by
  induction segments with
  | nil => exact List.Forall₂.nil
  | cons segment segments ih => exact List.Forall₂.cons (segmentProduces_star segment) ih

theorem probe_matches_iff {value : String} {pre post : List (List Char)}
    {segment found : List Char} (hredundant : Redundant segment)
    (hvalue : value.toList.splitOn '/' = pre ++ found :: post) :
    matchesRepositoryGlob ("/".intercalate (probe pre.length segment post.length)) value =
      true ↔ found = segment := by
  have hliteral : '*' ∉ (String.ofList segment).toList := by
    rcases hredundant with rfl | rfl <;> decide
  have hsegments : pathSegments value =
      pre.map String.ofList ++ String.ofList found :: post.map String.ofList := by
    rw [pathSegments, hvalue, List.map_append, List.map_cons]
  rw [matchesRepositoryGlob_parts (by simp [probe]) (probe_parts hredundant), hsegments, probe]
  have hpre := forall₂_stars (pre.map String.ofList)
  have hpost := forall₂_stars (post.map String.ofList)
  rw [List.length_map] at hpre hpost
  constructor
  · intro hall
    have hdrop := List.forall₂_drop pre.length hall
    rw [List.drop_left' (by simp), List.drop_left' (by simp), List.forall₂_cons,
      segmentProduces_literal hliteral] at hdrop
    exact String.ofList_injective hdrop.1
  · rintro rfl
    exact List.rel_append hpre
      (List.Forall₂.cons ((segmentProduces_literal hliteral).2 rfl) hpost)

theorem stars_match_iff {value : String} {count : Nat} (hpos : count ≠ 0) :
    matchesRepositoryGlob ("/".intercalate (List.replicate count "*")) value = true ↔
      (value.toList.splitOn '/').length = count := by
  have hlength : (pathSegments value).length = (value.toList.splitOn '/').length :=
    List.length_map _
  rw [matchesRepositoryGlob_parts (by simpa using hpos) fun part hmem => by
    rw [List.eq_of_mem_replicate hmem]
    decide]
  constructor
  · intro hall
    rw [← hlength, ← hall.length_eq, List.length_replicate]
  · rintro rfl
    exact hlength ▸ forall₂_stars (pathSegments value)

/-- Some pattern matches one of two normal forms of a file and not the other. -/
theorem exists_separating_pattern {path other : String}
    (hdenoted : denoted (path.toList.splitOn '/') = denoted (other.toList.splitOn '/'))
    (hne : path ≠ other) :
    ∃ pattern, ¬ (matchesRepositoryGlob pattern path = true ↔
      matchesRepositoryGlob pattern other = true) := by
  by_cases hlength :
      (path.toList.splitOn '/').length = (other.toList.splitOn '/').length
  · have hsegments : path.toList.splitOn '/' ≠ other.toList.splitOn '/' := fun heq =>
      hne (String.toList_injective (by
        have hjoined : ['/'].intercalate (path.toList.splitOn '/') = path.toList :=
          List.intercalate_splitOn '/'
        rw [← hjoined, heq, List.intercalate_splitOn]))
    obtain ⟨pre, x, y, xs, ys, hpath, hother, hxy⟩ :=
      exists_first_difference hlength hsegments
    rw [hpath, hother] at hlength hdenoted
    have hrest : xs.length = ys.length := by simpa using hlength
    rcases redundant_of_denoted_eq hrest hxy hdenoted with hx | hy
    · refine ⟨"/".intercalate (probe pre.length x xs.length), fun hiff => hxy.symm ?_⟩
      exact (probe_matches_iff hx hother).1 (hrest ▸ hiff.1 ((probe_matches_iff hx hpath).2 rfl))
    · refine ⟨"/".intercalate (probe pre.length y ys.length), fun hiff => hxy ?_⟩
      exact (probe_matches_iff hy hpath).1 (hrest ▸ hiff.2 ((probe_matches_iff hy hother).2 rfl))
  · refine ⟨"/".intercalate (List.replicate (path.toList.splitOn '/').length "*"),
      fun hiff => hlength ?_⟩
    exact ((stars_match_iff (by simp [List.splitOn_ne_nil])).1
      (hiff.1 ((stars_match_iff (by simp [List.splitOn_ne_nil])).2 rfl))).symm

/-! ### Classes of spellings -/

/-- The surfaces that are high risk whatever is configured. -/
def builtInHighRisk (p : String) : Bool :=
  riskTriggerRules.any (·.2.test p.toList) || distributionPaths.test p.toList ||
    (highRiskExact.contains p || highRiskPrefixes.any (·.toList.isPrefixOf p.toList) ||
      highRiskPatterns.any (·.test p.toList))

theorem sortTriggers_isEmpty (triggers : List SpecificRiskTrigger) :
    (sortTriggers triggers).isEmpty = triggers.isEmpty := by
  have hperm := (List.perm_insertionSort (fun a b => a.name ≤ b.name) triggers.dedup).isEmpty_eq
  rw [sortTriggers, hperm]
  cases triggers with
  | nil => rfl
  | cons trigger rest =>
      rw [List.isEmpty_eq_false_iff.2 (by simp : (trigger :: rest).dedup ≠ [])]
      rfl

theorem isEmpty_filter {α : Type} (p : α → Bool) (list : List α) :
    (list.filter p).isEmpty = !list.any p := by
  rw [Bool.eq_not_iff, ne_eq, Bool.eq_iff_iff, List.isEmpty_iff, List.filter_eq_nil_iff,
    List.any_eq_true]
  grind

theorem riskTriggersForPath_isEmpty (p : String) (configured : List RiskTriggerRule) :
    (!(riskTriggersForPath p configured).isEmpty) =
      (riskTriggerRules.any (·.2.test p.toList) || distributionPaths.test p.toList ||
        configured.any (matchesRepositoryGlob ·.pattern p)) := by
  have happend : ∀ xs ys : List SpecificRiskTrigger,
      (xs ++ ys).isEmpty = (xs.isEmpty && ys.isEmpty) := fun xs ys => by
    cases xs <;> rfl
  rw [riskTriggersForPath, sortTriggers_isEmpty, happend, happend, List.isEmpty_map,
    List.isEmpty_map, isEmpty_filter, isEmpty_filter]
  cases distributionPaths.test p.toList <;> simp

theorem classifyPath_highRisk_iff {configured : List RiskTriggerRule} {path : String} :
    (classifyPath configured path).minimumTaskClass = .highRisk ↔
      builtInHighRisk (normalizeRepoRelativePath path) = true ∨
        configured.any
          (matchesRepositoryGlob ·.pattern (normalizeRepoRelativePath path)) = true := by
  rw [classifyPath, builtInHighRisk]
  rw [riskTriggersForPath_isEmpty]
  generalize normalizeRepoRelativePath path = p
  generalize configured.any (matchesRepositoryGlob ·.pattern p) = configuredHigh
  generalize (riskTriggerRules.any (·.2.test p.toList) || distributionPaths.test p.toList) =
    triggered
  generalize (highRiskExact.contains p || highRiskPrefixes.any (·.toList.isPrefixOf p.toList) ||
    highRiskPatterns.any (·.test p.toList)) = surface
  by_cases hhigh : (triggered || configuredHigh) = true
  · rw [if_pos hhigh]
    refine iff_of_true rfl ?_
    rcases Bool.or_eq_true_iff.1 hhigh with h | h
    · exact .inl (by rw [h, Bool.true_or])
    · exact .inr h
  · rw [if_neg hhigh]
    rw [Bool.or_eq_true_iff, not_or, Bool.not_eq_true] at hhigh
    rw [hhigh.1, Bool.false_or, or_iff_left hhigh.2]
    cases surface with
    | true => exact iff_of_true rfl rfl
    | false =>
        rw [if_neg Bool.false_ne_true]
        refine iff_of_false ?_ Bool.false_ne_true
        split_ifs <;> exact nofun

theorem classifyPath_congr {configured : List RiskTriggerRule} {path other : String}
    (hnormal : normalizeRepoRelativePath path = normalizeRepoRelativePath other) :
    (classifyPath configured path).minimumTaskClass =
      (classifyPath configured other).minimumTaskClass := by
  rw [classifyPath, classifyPath, hnormal]

theorem ceremonyEligiblePath_congr {path other : String}
    (hnormal : normalizeRepoRelativePath path = normalizeRepoRelativePath other) :
    ceremonyEligiblePath path = ceremonyEligiblePath other := by
  rw [ceremonyEligiblePath, ceremonyEligiblePath, hnormal]

theorem mem_iff_of_plain {segments : List (List Char)} {segment : List Char}
    (hplain : ¬ Redundant segment) :
    segment ∈ segments ↔
      segment ∈ (denoted segments).1 ∨ (denoted segments).2 = some segment := by
  obtain ⟨hempty, hdot⟩ := not_or.1 hplain
  rcases List.eq_nil_or_concat' segments with rfl | ⟨init, last, rfl⟩
  · simp [denoted, directories]
  · have hinit : segment ∈ directories (init ++ [last]) ↔ segment ∈ init := by
      rw [directories, List.dropLast_concat]
      constructor
      · intro hmem
        exact List.mem_of_mem_filter ((List.dropWhile_sublist _).subset hmem)
      · intro hmem
        have hkept : segment ∈ init.filter (· ≠ []) :=
          List.mem_filter.2 ⟨hmem, by simpa using hempty⟩
        rw [← @List.takeWhile_append_dropWhile _ (fun x => decide (x = ['.']))
          (init.filter (· ≠ []))] at hkept
        rcases List.mem_append.1 hkept with hdots | hrest
        · exact absurd (by simpa using List.mem_takeWhile_imp hdots) hdot
        · exact hrest
    rw [denoted, hinit, List.getLast?_concat, Option.some_inj, List.mem_append,
      List.mem_singleton, eq_comm (a := segment)]

/-- A name that is no built-in high-risk surface, with a leading dot segment or without. -/
abbrev NotHighRisk (name : String) : Prop :=
  builtInHighRisk name = false ∧
    builtInHighRisk (String.ofList ('.' :: '/' :: name.toList)) = false

/-- Tool configuration is never a built-in high-risk surface. -/
theorem nonDomainConfig_not_builtInHighRisk (name : String)
    (hmem : name ∈ nonDomainConfigBasenames) : NotHighRisk name := by
  -- one evaluation of all the names takes too much memory
  have htake : ∀ name ∈ nonDomainConfigBasenames.take 7, NotHighRisk name := by
    decide +kernel
  have htakeDrop : ∀ name ∈ (nonDomainConfigBasenames.drop 7).take 7, NotHighRisk name := by
    decide +kernel
  have hdropDrop : ∀ name ∈ (nonDomainConfigBasenames.drop 7).drop 7, NotHighRisk name := by
    decide +kernel
  rw [← List.take_append_drop 7 nonDomainConfigBasenames,
    ← List.take_append_drop 7 (nonDomainConfigBasenames.drop 7)] at hmem
  rcases List.mem_append.1 hmem with hfirst | hrest
  · exact htake name hfirst
  · rcases List.mem_append.1 hrest with hmiddle | hlast
    · exact htakeDrop name hmiddle
    · exact hdropDrop name hlast

theorem isNonDomainConfigPath_of_builtInHighRisk {path : String}
    (hhigh : builtInHighRisk (normalizeRepoRelativePath path) = true) :
    isNonDomainConfigPath (normalizeRepoRelativePath path) = false := by
  have hslashed := slashed_eq_self (normalize_notMem path)
  generalize normalizeRepoRelativePath path = p at hhigh hslashed
  by_contra hconfig
  rw [Bool.not_eq_false, isNonDomainConfigPath, Bool.and_eq_true] at hconfig
  obtain ⟨hname, hdotted⟩ := nonDomainConfig_not_builtInHighRisk _
    (List.contains_iff_mem.1 hconfig.2)
  have hcases := normalize_cases p
  rw [hslashed] at hcases
  rcases hcases with heq | heq
  · rw [← heq, String.ofList_toList] at hdotted
    exact Bool.false_ne_true (hdotted.symm.trans hhigh)
  · rw [← String.toList_injective heq] at hname
    exact Bool.false_ne_true (hname.symm.trans hhigh)

/-- Among built-in high-risk spellings of one file, eligibility depends on the file. -/
theorem ceremonyEligiblePath_of_builtInHighRisk {path other : String}
    (hdenoted : denoted (spelled path) = denoted (spelled other))
    (hpath : builtInHighRisk (normalizeRepoRelativePath path) = true)
    (hother : builtInHighRisk (normalizeRepoRelativePath other) = true) :
    ceremonyEligiblePath path = ceremonyEligiblePath other := by
  rw [← denoted_normalize path, ← denoted_normalize other, spelled_normalize,
    spelled_normalize] at hdenoted
  rw [ceremonyEligiblePath, ceremonyEligiblePath]
  rw [isNonDomainConfigPath_of_builtInHighRisk hpath,
    isNonDomainConfigPath_of_builtInHighRisk hother]
  generalize normalizeRepoRelativePath path = p at hdenoted
  generalize normalizeRepoRelativePath other = p' at hdenoted
  have hlast : (pathSegments p).getLastD "" = (pathSegments p').getLastD "" := by
    rw [pathSegments, pathSegments, List.getLastD_eq_getLast?, List.getLastD_eq_getLast?,
      List.getLast?_map, List.getLast?_map]
    exact congrArg (fun last => (Option.map String.ofList last).getD "")
      (Prod.mk.inj hdenoted).2
  have hdirs : (pathSegments p).any (instructionDirNames.contains ·) =
      (pathSegments p').any (instructionDirNames.contains ·) := by
    have hplain : ∀ segment, instructionDirNames.contains (String.ofList segment) = true →
        ¬ Redundant segment := by
      rintro segment hcontains (rfl | rfl) <;> exact absurd hcontains (by decide)
    rw [pathSegments, pathSegments, List.any_map, List.any_map, Bool.eq_iff_iff,
      List.any_eq_true, List.any_eq_true]
    refine exists_congr fun segment => and_congr_left fun hcontains => ?_
    rw [mem_iff_of_plain (hplain segment hcontains), hdenoted,
      ← mem_iff_of_plain (hplain segment hcontains)]
  rw [hlast, hdirs]

/-! ### The laws -/

/-- What one path contributes to the decisions about a change. -/
def SameRisk (path other : String) : Prop :=
  ∀ configured before after,
    (assessMinimumTaskClass (before ++ path :: after) configured).minimumTaskClass =
      (assessMinimumTaskClass (before ++ other :: after) configured).minimumTaskClass ∧
    reducedCeremonyEligible (before ++ path :: after) =
      reducedCeremonyEligible (before ++ other :: after)

theorem sameRisk_of_paths {path other : String}
    (hclass : ∀ configured, (classifyPath configured path).minimumTaskClass =
      (classifyPath configured other).minimumTaskClass)
    (heligible : ceremonyEligiblePath path = ceremonyEligiblePath other) :
    SameRisk path other := by
  intro configured before after
  have hnonempty : ∀ path, (before ++ path :: after).isEmpty = false := fun path => by
    cases before <;> rfl
  constructor
  · rw [assess_minimumTaskClass, assess_minimumTaskClass, List.map_append, List.map_append,
      List.map_cons, List.map_cons, hclass]
  · rw [reducedCeremonyEligible, reducedCeremonyEligible, List.all_append, List.all_append,
      List.all_cons, List.all_cons, heligible, hnonempty, hnonempty]

/-- Two spellings of a file have the same risk under every configuration exactly when
they have the same normal form or are high risk by the built-in surfaces. -/
theorem sameRisk_iff {path other : String} (hspelling : Respelling path other) :
    SameRisk path other ↔
      normalizeRepoRelativePath path = normalizeRepoRelativePath other ∨
        builtInHighRisk (normalizeRepoRelativePath path) = true ∧
          builtInHighRisk (normalizeRepoRelativePath other) = true := by
  have hdenoted := denoted_eq_of_respelling hspelling
  constructor
  · intro hsame
    have hclass : ∀ configured, (classifyPath configured path).minimumTaskClass = .highRisk ↔
        (classifyPath configured other).minimumTaskClass = .highRisk := fun configured => by
      have hsingle := (hsame configured [] []).1
      rw [List.nil_append, List.nil_append, assess_singleton, assess_singleton] at hsingle
      rw [hsingle]
    simp only [classifyPath_highRisk_iff] at hclass
    by_contra hneither
    obtain ⟨hnormal, hhigh⟩ := not_or.1 hneither
    have hbuiltIn := hclass []
    simp only [List.any_nil, Bool.false_eq_true, or_false] at hbuiltIn
    have hlow : ¬ builtInHighRisk (normalizeRepoRelativePath path) = true := fun hpath =>
      hhigh ⟨hpath, hbuiltIn.1 hpath⟩
    have hlow' : ¬ builtInHighRisk (normalizeRepoRelativePath other) = true := fun hother =>
      hlow (hbuiltIn.2 hother)
    rw [← denoted_normalize path, ← denoted_normalize other, spelled_normalize,
      spelled_normalize] at hdenoted
    obtain ⟨pattern, hseparates⟩ := exists_separating_pattern hdenoted hnormal
    have hconfigured := hclass [⟨.stateIntegrity, pattern⟩]
    simp only [List.any_cons, List.any_nil, Bool.or_false] at hconfigured
    rw [or_iff_right hlow, or_iff_right hlow'] at hconfigured
    exact hseparates hconfigured
  · rintro (hnormal | ⟨hpath, hother⟩)
    · exact sameRisk_of_paths (fun configured => classifyPath_congr hnormal)
        (ceremonyEligiblePath_congr hnormal)
    · refine sameRisk_of_paths (fun configured => ?_)
        (ceremonyEligiblePath_of_builtInHighRisk hdenoted hpath hother)
      rw [classifyPath_highRisk_iff.2 (.inl hpath), classifyPath_highRisk_iff.2 (.inl hother)]

/-- The class of a set is the greatest of its paths, whatever their order and number,
and grows with the set; a spelling keeps the risk of a path exactly when normalization
undoes it or it hides nothing from the built-in surfaces. -/
theorem assessMinimumTaskClass_laws (configured : List RiskTriggerRule) :
    (∀ paths,
      (assessMinimumTaskClass paths configured).minimumTaskClass =
        (paths.map fun path =>
          (assessMinimumTaskClass [path] configured).minimumTaskClass).foldl
            maxTaskClass .trivial) ∧
    (∀ paths paths', (∀ path ∈ paths, path ∈ paths') →
      (assessMinimumTaskClass paths configured).minimumTaskClass.order ≤
        (assessMinimumTaskClass paths' configured).minimumTaskClass.order) ∧
    (∀ paths paths', (∀ path, path ∈ paths ↔ path ∈ paths') →
      (assessMinimumTaskClass paths configured).minimumTaskClass =
        (assessMinimumTaskClass paths' configured).minimumTaskClass) ∧
    ∀ path other, Respelling path other →
      (SameRisk path other ↔
        normalizeRepoRelativePath path = normalizeRepoRelativePath other ∨
          builtInHighRisk (normalizeRepoRelativePath path) = true ∧
            builtInHighRisk (normalizeRepoRelativePath other) = true) := by
  refine ⟨fun paths => ?_, fun _ _ => assess_mono, fun _ _ => assess_congr,
    fun path other => sameRisk_iff⟩
  simp only [assess_singleton]
  exact assess_minimumTaskClass

/-- A doubled slash hides a file of the state directory from the classifier. -/
theorem doubled_slash_lowers_class :
    ¬ ∀ configured path other, Respelling path other →
      (assessMinimumTaskClass [path] configured).minimumTaskClass =
        (assessMinimumTaskClass [other] configured).minimumTaskClass ∧
      reducedCeremonyEligible [path] = reducedCeremonyEligible [other] := by
  intro hall
  have hspelling : Respelling "src//state/session.ts" "src/state/session.ts" :=
    .rel _ _ (.doubled "src".toList "state/session.ts".toList)
  have hclasses := (hall [] _ _ hspelling).1
  rw [assess_singleton, assess_singleton] at hclasses
  have hdiffer : (classifyPath [] "src//state/session.ts").minimumTaskClass = .standard ∧
      (classifyPath [] "src/state/session.ts").minimumTaskClass = .highRisk := by
    decide +kernel
  rw [hdiffer.1, hdiffer.2] at hclasses
  exact absurd hclasses (by decide)

end GovernedRuntime.Risk
