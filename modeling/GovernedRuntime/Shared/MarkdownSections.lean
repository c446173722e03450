/-
The section index of a markdown text (`src/shared/markdown-sections.ts`): its headings
outside fences, their paths, and the excerpt of each.
-/
import GovernedRuntime.Library.FencedBlocks
import GovernedRuntime.Library.Lines
import GovernedRuntime.Risk.Declaration

namespace GovernedRuntime.Shared

open GovernedRuntime.Activation (isTrimmed trim)
open GovernedRuntime.Library
open GovernedRuntime.Library.Pattern (anyChar)
open GovernedRuntime.Risk (Fence fenceOf)

structure MarkdownSectionPathSegment where
  headingDepth : Nat
  siblingIndex : Nat
  headingText : String
deriving DecidableEq, Repr

structure MarkdownSection where
  headingDepth : Nat
  siblingIndex : Nat
  lineIndex : Nat
  sectionPath : List MarkdownSectionPathSegment
  headingText : String
  excerptText : String
  excerptDigest : String
deriving DecidableEq, Repr

structure ParsedHeading where
  lineIndex : Nat
  headingDepth : Nat
  headingText : String
deriving DecidableEq, Repr

/-! ### Headings -/

/-- `parseFence(line, OPENING_FENCE)`. -/
def parseOpeningFence (line : String) : Option Fence := (fenceOf line).map (·.1)

/-- `parseFence(line, CLOSING_FENCE)`. -/
def parseClosingFence (line : String) : Option Fence :=
  match fenceOf line with
  | none => none
  | some (fence, rest) => if rest.all (fun c => c == ' ' || c == '\t') then some fence else none

/-- `/^(#{1,6})\s(.*)$/`. -/
def parseAtxHeading (line : String) (lineIndex : Nat) : Option ParsedHeading :=
  let hashes := line.toList.takeWhile (· == '#')
  match line.toList.dropWhile (· == '#') with
  | [] => none
  | blank :: text =>
      if 1 ≤ hashes.length ∧ hashes.length ≤ 6 ∧ isTrimmed blank ∧ text.all anyChar then
        some ⟨lineIndex, hashes.length, trim (String.ofList text)⟩
      else none

structure HeadingScan where
  openFence : Option Fence
  headings : List ParsedHeading
deriving DecidableEq, Repr

/-- One line of the loop over `lines.entries()`. -/
def scanHeadingLine (scan : HeadingScan) (entry : String × Nat) : HeadingScan :=
  match scan.openFence with
  | some openFence =>
      match parseClosingFence entry.1 with
      | none => scan
      | some closingFence =>
          if closingFence.delimiter == openFence.delimiter &&
              openFence.length ≤ closingFence.length then
            { scan with openFence := none }
          else scan
  | none =>
      match parseOpeningFence entry.1 with
      | some openingFence => { scan with openFence := some openingFence }
      | none =>
          match parseAtxHeading entry.1 entry.2 with
          | none => scan
          | some heading => { scan with headings := scan.headings ++ [heading] }

def markdownLines (markdown : String) : List String :=
  (markdown.toList.splitOn '\n').map String.ofList

def parsedHeadings (lines : List String) : List ParsedHeading :=
  (lines.zipIdx.foldl scanHeadingLine ⟨none, []⟩).headings

/-! ### Paths -/

/-- The stack of open headings and the counters of their children. -/
structure SectionCursor where
  path : List MarkdownSectionPathSegment
  siblingCounts : String → Nat

/-- Headings that a heading of this depth closes are popped. -/
def openPath (depth : Nat) (path : List MarkdownSectionPathSegment) :
    List MarkdownSectionPathSegment :=
  path.rdropWhile fun segment => depth ≤ segment.headingDepth

def siblingKey (path : List MarkdownSectionPathSegment) (depth : Nat) : String :=
  "/".intercalate (path.map fun segment =>
    toString segment.headingDepth ++ ":" ++ toString segment.siblingIndex) ++
      "|" ++ toString depth

/-- `lines.slice(first, last).join('\n')`. -/
def sliceLines (lines : List String) (first last : Nat) : String :=
  "\n".intercalate ((lines.take last).drop first)

/-- The section of a heading, and what the next heading finds. -/
def indexHeading (hashText : String → String) (lines : List String) (cursor : SectionCursor)
    (heading : ParsedHeading) (following : List ParsedHeading) :
    MarkdownSection × SectionCursor :=
  let path := openPath heading.headingDepth cursor.path
  let key := siblingKey path heading.headingDepth
  let siblingIndex := cursor.siblingCounts key + 1
  let segment := ⟨heading.headingDepth, siblingIndex, heading.headingText⟩
  let nextBoundary := following.find? fun candidate =>
    candidate.headingDepth ≤ heading.headingDepth
  let excerptText := sliceLines lines heading.lineIndex
    ((nextBoundary.map (·.lineIndex)).getD lines.length)
  (⟨heading.headingDepth, siblingIndex, heading.lineIndex, path ++ [segment],
      heading.headingText, excerptText, hashText excerptText⟩,
    ⟨path ++ [segment], fun other =>
      if other = key then siblingIndex else cursor.siblingCounts other⟩)

def indexHeadings (hashText : String → String) (lines : List String) :
    SectionCursor → List ParsedHeading → List MarkdownSection
  | _, [] => []
  | cursor, heading :: following =>
      let indexed := indexHeading hashText lines cursor heading following
      indexed.1 :: indexHeadings hashText lines indexed.2 following

def indexMarkdownSections (hashText : String → String) (markdown : String) :
    List MarkdownSection :=
  let lines := markdownLines markdown
  indexHeadings hashText lines ⟨[], fun _ => 0⟩ (parsedHeadings lines)

example : (indexMarkdownSections id "# A\n### B\n```\n# no\n```\n## C\n### B").map
    (fun item => (item.lineIndex, item.sectionPath.map fun segment =>
      (segment.headingDepth, segment.siblingIndex))) =
    [(0, [(1, 1)]), (1, [(1, 1), (3, 1)]), (5, [(1, 1), (2, 1)]),
      (6, [(1, 1), (2, 1), (3, 1)])] := by decide +kernel

/-! ### Headings outside fences -/

def opensFence (entry : String × Nat) : Option Fence := parseOpeningFence entry.1

def closesFence (entry : String × Nat) (fence : Fence) : Bool :=
  (parseClosingFence entry.1).any fun closing =>
    closing.delimiter == fence.delimiter && fence.length ≤ closing.length

theorem scanHeadingLine_open (fence : Fence) (headings : List ParsedHeading)
    (entry : String × Nat) :
    scanHeadingLine ⟨some fence, headings⟩ entry =
      ⟨if closesFence entry fence then none else some fence, headings⟩ := by
  rw [scanHeadingLine, closesFence]
  cases parseClosingFence entry.1 with
  | none => rfl
  | some closing =>
      dsimp only [Option.any_some]
      split_ifs <;> rfl

/-- The scan for headings is a scan for the lines outside fences. -/
theorem headings_foldl (entries : List (String × Nat)) (fence : Option Fence)
    (headings : List ParsedHeading) :
    (entries.foldl scanHeadingLine ⟨fence, headings⟩).headings =
      headings ++ (unfenced opensFence closesFence fence entries).filterMap fun entry =>
        parseAtxHeading entry.1 entry.2 := by
  induction entries generalizing fence headings with
  | nil => cases fence <;> exact (List.append_nil _).symm
  | cons entry rest ih =>
      rw [List.foldl_cons]
      cases fence with
      | some fence => rw [scanHeadingLine_open, ih, unfenced]
      | none =>
          rw [scanHeadingLine, unfenced, opensFence]
          cases parseOpeningFence entry.1 with
          | some opened => exact ih (some opened) headings
          | none =>
              cases hheading : parseAtxHeading entry.1 entry.2 with
              | none => simp [hheading, ih]
              | some heading => simp [hheading, ih]

theorem parsedHeadings_eq (lines : List String) :
    parsedHeadings lines = (unfenced opensFence closesFence none lines.zipIdx).filterMap
      fun entry => parseAtxHeading entry.1 entry.2 := by
  rw [parsedHeadings, headings_foldl, List.nil_append]

theorem lineIndex_of_parse {entry : String × Nat} {heading : ParsedHeading}
    (hheading : parseAtxHeading entry.1 entry.2 = some heading) :
    heading.lineIndex = entry.2 := by
  rw [parseAtxHeading] at hheading
  split at hheading
  · cases hheading
  · split_ifs at hheading
    obtain rfl := Option.some_inj.1 hheading
    rfl

/-- Headings are found in the order of their lines. -/
theorem pairwise_parsedHeadings (lines : List String) :
    (parsedHeadings lines).Pairwise fun a b => a.lineIndex < b.lineIndex := by
  have hlines : lines.zipIdx.Pairwise fun a b => a.2 < b.2 := by
    rw [← List.pairwise_map (f := Prod.snd), List.zipIdx_map_snd]
    exact List.pairwise_lt_range'
  rw [parsedHeadings_eq, List.pairwise_filterMap]
  apply (hlines.sublist (unfenced_sublist _ _)).imp
  intro a b hlt heading hheading other hother
  rw [lineIndex_of_parse hheading, lineIndex_of_parse hother]
  exact hlt

theorem lineIndex_lt {lines : List String} {heading : ParsedHeading}
    (hheading : heading ∈ parsedHeadings lines) : heading.lineIndex < lines.length := by
  rw [parsedHeadings_eq] at hheading
  obtain ⟨entry, hentry, hparse⟩ := List.mem_filterMap.1 hheading
  rw [lineIndex_of_parse hparse]
  exact List.snd_lt_of_mem_zipIdx ((unfenced_sublist _ _).subset hentry)

/-! ### Open headings -/

variable {hashText : String → String} {lines : List String} {cursor : SectionCursor}
  {heading : ParsedHeading} {following : List ParsedHeading} {depth : Nat}
  {before after front between back : List MarkdownSection} {item other : MarkdownSection}
  {path : List MarkdownSectionPathSegment}

/-- A path ends with the nearest heading that is shallower; it is still open. -/
def ParentPath (before : List MarkdownSection) (depth : Nat)
    (path : List MarkdownSectionPathSegment) : Prop :=
  (∃ front parent between, before = front ++ parent :: between ∧ parent.headingDepth < depth ∧
      (∀ item ∈ between, depth ≤ item.headingDepth) ∧ path = parent.sectionPath) ∨
    (∀ item ∈ before, depth ≤ item.headingDepth) ∧ path = []

theorem ParentPath.deeper (hparent : ParentPath before depth path)
    (hdepth : depth ≤ item.headingDepth) : ParentPath (before ++ [item]) depth path := by
  rcases hparent with ⟨front, parent, between, rfl, hshallower, hbetween, hpath⟩ | ⟨hall, hpath⟩
  · refine .inl ⟨front, parent, between ++ [item], by simp, hshallower, ?_, hpath⟩
    exact List.forall_mem_append.2 ⟨hbetween, List.forall_mem_singleton.2 hdepth⟩
  · exact .inr ⟨List.forall_mem_append.2 ⟨hall, List.forall_mem_singleton.2 hdepth⟩, hpath⟩

theorem openPath_concat (depth : Nat) (path : List MarkdownSectionPathSegment)
    (segment : MarkdownSectionPathSegment) :
    openPath depth (path ++ [segment]) =
      if depth ≤ segment.headingDepth then openPath depth path else path ++ [segment] := by
  rw [openPath, List.rdropWhile_concat]
  simp only [decide_eq_true_eq]
  rfl

theorem openPath_openPath {less : Nat} (hless : less ≤ depth)
    (path : List MarkdownSectionPathSegment) :
    openPath less (openPath depth path) = openPath less path := by
  induction path using List.reverseRecOn with
  | nil => rfl
  | append_singleton path segment ih =>
      rw [openPath_concat depth]
      split_ifs with hdeeper
      · rw [ih, openPath_concat, if_pos (hless.trans hdeeper)]
      · rfl

/-- The headings that a heading leaves on the stack are shallower. -/
theorem lt_of_mem_openPath
    (hincreasing : path.Pairwise fun a b => a.headingDepth < b.headingDepth) :
    ∀ segment ∈ openPath depth path, segment.headingDepth < depth := by
  induction path using List.reverseRecOn with
  | nil => exact nofun
  | append_singleton path segment ih =>
      obtain ⟨hpath, -, hlast⟩ := List.pairwise_append.1 hincreasing
      rw [openPath_concat]
      split_ifs with hdeeper
      · exact ih hpath
      · have hshallower := Nat.lt_of_not_le hdeeper
        rw [List.forall_mem_append]
        constructor
        · intro other hother
          exact (hlast other hother segment (List.mem_singleton_self _)).trans hshallower
        · exact List.forall_mem_singleton.2 hshallower

/-- What the stack and the counters know of the sections so far. -/
structure Reached (before : List MarkdownSection) (cursor : SectionCursor) : Prop where
  increasing : cursor.path.Pairwise fun a b => a.headingDepth < b.headingDepth
  nearest : ∀ depth, ParentPath before depth (openPath depth cursor.path)
  counted : ∀ item ∈ before, item.siblingIndex ≤
    cursor.siblingCounts (siblingKey item.sectionPath.dropLast item.headingDepth)

theorem reached_nil : Reached [] ⟨[], fun _ => 0⟩ :=
  ⟨.nil, fun _ => .inr ⟨nofun, rfl⟩, nofun⟩

theorem Reached.step (hreached : Reached before cursor) (heading : ParsedHeading)
    (following : List ParsedHeading) :
    Reached (before ++ [(indexHeading hashText lines cursor heading following).1])
      (indexHeading hashText lines cursor heading following).2 := by
  constructor
  · apply List.pairwise_append.2
    refine ⟨hreached.increasing.sublist (List.rdropWhile_prefix _ _).sublist,
      List.pairwise_singleton _ _, ?_⟩
    intro segment hsegment last hlast
    rw [List.mem_singleton.1 hlast]
    exact lt_of_mem_openPath hreached.increasing segment hsegment
  · intro depth
    have hpath := openPath_concat depth (openPath heading.headingDepth cursor.path)
      ⟨heading.headingDepth, cursor.siblingCounts
        (siblingKey (openPath heading.headingDepth cursor.path) heading.headingDepth) + 1,
        heading.headingText⟩
    rw [indexHeading]
    dsimp only
    rw [hpath]
    split_ifs with hdeeper
    · rw [openPath_openPath hdeeper]
      exact (hreached.nearest depth).deeper hdeeper
    · exact .inl ⟨before, _, [], rfl, Nat.lt_of_not_le hdeeper, nofun, rfl⟩
  · intro item hitem
    rw [indexHeading]
    dsimp only
    rcases List.mem_append.1 hitem with hitem | hitem
    · have hcount := hreached.counted item hitem
      split_ifs with hkey
      · rw [hkey] at hcount
        omega
      · exact hcount
    · obtain rfl := List.mem_singleton.1 hitem
      simp [indexHeading]

/-! ### Every section is found from a reached state -/

theorem indexHeadings_headings (cursor : SectionCursor) (headings : List ParsedHeading) :
    (indexHeadings hashText lines cursor headings).map (fun item =>
      (⟨item.lineIndex, item.headingDepth, item.headingText⟩ : ParsedHeading)) = headings := by
  induction headings generalizing cursor with
  | nil => rfl
  | cons heading following ih =>
      rw [indexHeadings, List.map_cons, ih]
      rfl

theorem exists_reached {headings : List ParsedHeading} (hreached : Reached before cursor)
    (hsplit : indexHeadings hashText lines cursor headings = front ++ item :: back) :
    ∃ middle heading following, Reached (before ++ front) middle ∧
      item = (indexHeading hashText lines middle heading following).1 ∧
      back = indexHeadings hashText lines
        (indexHeading hashText lines middle heading following).2 following := by
  induction headings generalizing before cursor front with
  | nil => simp [indexHeadings] at hsplit
  | cons heading following ih =>
      rw [indexHeadings] at hsplit
      cases front with
      | nil =>
          obtain ⟨rfl, rfl⟩ := List.cons.inj hsplit
          exact ⟨cursor, heading, following, by rwa [List.append_nil], rfl, rfl⟩
      | cons first front =>
          obtain ⟨rfl, hrest⟩ := List.cons.inj hsplit
          obtain ⟨middle, next, later, hmiddle, hitem, hback⟩ :=
            ih (hreached.step heading following) hrest
          refine ⟨middle, next, later, ?_, hitem, hback⟩
          simpa using hmiddle

/-- Where the excerpt of a section ends. -/
def sectionEnd (lines : List String) (item : MarkdownSection) (after : List MarkdownSection) :
    Nat :=
  ((after.find? fun candidate => candidate.headingDepth ≤ item.headingDepth).map
    (·.lineIndex)).getD lines.length

/-- The section as it follows from the sections before and after it. -/
structure SectionFacts (lines : List String) (before : List MarkdownSection)
    (item : MarkdownSection) (after : List MarkdownSection) : Prop where
  increasing : item.sectionPath.Pairwise fun a b => a.headingDepth < b.headingDepth
  last : item.sectionPath.getLast? =
    some ⟨item.headingDepth, item.siblingIndex, item.headingText⟩
  parent : ParentPath before item.headingDepth item.sectionPath.dropLast
  counted : ∀ other ∈ before, other.headingDepth = item.headingDepth →
    siblingKey other.sectionPath.dropLast other.headingDepth =
      siblingKey item.sectionPath.dropLast item.headingDepth →
      other.siblingIndex < item.siblingIndex
  excerpt : item.excerptText =
    sliceLines lines item.lineIndex (sectionEnd lines item after)

theorem sectionFacts {headings : List ParsedHeading}
    (hsplit : indexHeadings hashText lines ⟨[], fun _ => 0⟩ headings = front ++ item :: back) :
    SectionFacts lines front item back := by
  obtain ⟨middle, heading, following, hreached, rfl, rfl⟩ := exists_reached reached_nil hsplit
  have hdrop : (indexHeading hashText lines middle heading following).1.sectionPath.dropLast =
      openPath heading.headingDepth middle.path := by
    simp [indexHeading]
  constructor
  · exact (@Reached.step hashText lines _ _ hreached heading following).increasing
  · simp [indexHeading]
  · rw [hdrop]
    exact hreached.nearest _
  · intro other hother hdepth hkey
    have hcount := hreached.counted other hother
    rw [hkey, hdrop] at hcount
    exact Nat.lt_succ_of_le hcount
  · have hfollowing := @indexHeadings_headings hashText lines
      (indexHeading hashText lines middle heading following).2 following
    have hboundary : (following.find? fun candidate =>
          decide (candidate.headingDepth ≤ heading.headingDepth)).map (·.lineIndex) =
        ((indexHeadings hashText lines (indexHeading hashText lines middle heading following).2
          following).find? fun candidate =>
            decide (candidate.headingDepth ≤ heading.headingDepth)).map (·.lineIndex) := by
      conv_lhs => rw [← hfollowing]
      rw [List.find?_map, Option.map_map]
      rfl
    rw [sectionEnd]
    exact congrArg (fun last => sliceLines lines heading.lineIndex (last.getD lines.length))
      hboundary

/-! ### Identities -/

/-- A section is identified by depths and ordinals; its text is for show. -/
def identityPath (path : List MarkdownSectionPathSegment) : List (Nat × Nat) :=
  path.map fun segment => (segment.headingDepth, segment.siblingIndex)

theorem siblingKey_congr {other : List MarkdownSectionPathSegment}
    (hidentity : identityPath path = identityPath other) (depth : Nat) :
    siblingKey path depth = siblingKey other depth := by
  have htexts := congrArg (List.map fun segment : Nat × Nat =>
    toString segment.1 ++ ":" ++ toString segment.2) hidentity
  simp only [identityPath, List.map_map, Function.comp_def] at htexts
  rw [siblingKey, siblingKey, htexts]

theorem SectionFacts.path_eq (hfacts : SectionFacts lines before item after) :
    item.sectionPath = item.sectionPath.dropLast ++
      [⟨item.headingDepth, item.siblingIndex, item.headingText⟩] :=
  (List.dropLast_append_getLast? _ hfacts.last).symm

/-- Siblings are counted, so no two sections have the same identity. -/
theorem identityPath_ne {later otherLater : List MarkdownSection}
    (hother : SectionFacts lines front other otherLater)
    (hitem : SectionFacts lines before item later) (hmem : other ∈ before) :
    identityPath other.sectionPath ≠ identityPath item.sectionPath := by
  intro hsame
  rw [hother.path_eq, hitem.path_eq, identityPath, identityPath, List.map_append,
    List.map_append] at hsame
  obtain ⟨hparent, hlast⟩ := List.append_inj' hsame rfl
  obtain ⟨hdepth, hsibling⟩ := Prod.mk.inj (List.cons.inj hlast).1
  dsimp only at hdepth hsibling
  have hkey := siblingKey_congr hparent other.headingDepth
  rw [hdepth] at hkey
  have hlt := hitem.counted other hmem hdepth (by rw [hdepth]; exact hkey)
  exact absurd hsibling hlt.ne

/-! ### Excerpts -/

/-- A section has the line of its heading. -/
theorem lineIndex_lt_sectionEnd (hlater : ∀ later ∈ back, item.lineIndex < later.lineIndex)
    (hinside : item.lineIndex < lines.length) : item.lineIndex < sectionEnd lines item back := by
  rw [sectionEnd]
  cases hfind : back.find? fun candidate => decide (candidate.headingDepth ≤ item.headingDepth) with
  | none => exact hinside
  | some boundary => exact hlater boundary (List.mem_of_find?_eq_some hfind)

/-- The next boundary of a deeper section comes first. -/
theorem sectionEnd_le (hordered : back.Pairwise fun a b => a.lineIndex < b.lineIndex)
    (hinside : ∀ later ∈ back, later.lineIndex < lines.length)
    (hdeeper : item.headingDepth < other.headingDepth) :
    sectionEnd lines other back ≤ sectionEnd lines item back := by
  rw [sectionEnd, sectionEnd]
  cases hother : back.find? fun candidate => decide (candidate.headingDepth ≤ other.headingDepth) with
  | none =>
      have hnone : (back.find? fun candidate =>
          decide (candidate.headingDepth ≤ item.headingDepth)) = none := by
        rw [List.find?_eq_none] at hother ⊢
        intro later hlater
        have hdeep := hother later hlater
        simp only [decide_eq_true_eq] at hdeep ⊢
        omega
      rw [hnone]
  | some first =>
      obtain ⟨hfirst, skipped, later, rfl, hskipped⟩ := List.find?_eq_some_iff_append.1 hother
      cases hitem : (skipped ++ first :: later).find? fun candidate =>
          decide (candidate.headingDepth ≤ item.headingDepth) with
      | none => exact (hinside first (by simp)).le
      | some boundary =>
          have hboundary := List.find?_some hitem
          simp only [decide_eq_true_eq] at hboundary
          rcases List.mem_append.1 (List.mem_of_find?_eq_some hitem) with hmem | hmem
          · have hdeep := hskipped boundary hmem
            simp only [Bool.not_eq_true', decide_eq_false_iff_not] at hdeep
            omega
          · rcases List.mem_cons.1 hmem with rfl | hmem
            · exact Nat.le_refl _
            · exact ((List.pairwise_cons.1 (List.pairwise_append.1 hordered).2.1).1 _ hmem).le

/-- The lines of a later section are lines of an earlier one if every heading up to it is
deeper, and come after them otherwise. -/
theorem sectionEnd_cases
    (hordered : (between ++ other :: back).Pairwise fun a b => a.lineIndex < b.lineIndex)
    (hinside : ∀ later ∈ back, later.lineIndex < lines.length) :
    sectionEnd lines item (between ++ other :: back) ≤ other.lineIndex ∨
      (∀ later ∈ between ++ [other], item.headingDepth < later.headingDepth) ∧
        sectionEnd lines other back ≤ sectionEnd lines item (between ++ other :: back) := by
  obtain ⟨-, htail, hbefore⟩ := List.pairwise_append.1 hordered
  obtain ⟨-, hback⟩ := List.pairwise_cons.1 htail
  have hsplit : between ++ other :: back = (between ++ [other]) ++ back := by simp
  cases hfind : (between ++ [other]).find? fun candidate =>
      decide (candidate.headingDepth ≤ item.headingDepth) with
  | some boundary =>
      left
      rw [sectionEnd, hsplit, List.find?_append, hfind]
      rcases List.mem_append.1 (List.mem_of_find?_eq_some hfind) with hmem | hmem
      · exact (hbefore boundary hmem other List.mem_cons_self).le
      · rw [List.mem_singleton.1 hmem]
        exact Nat.le_refl _
  | none =>
      have hdeeper : ∀ later ∈ between ++ [other], item.headingDepth < later.headingDepth := by
        intro later hlater
        simpa using List.find?_eq_none.1 hfind later hlater
      refine .inr ⟨hdeeper, ?_⟩
      have hend : sectionEnd lines item (between ++ other :: back) =
          sectionEnd lines item back := by
        rw [sectionEnd, hsplit, List.find?_append, hfind]
        rfl
      rw [hend]
      exact sectionEnd_le hback hinside (hdeeper other (by simp))

/-- A section that no heading has closed has the next one below it. -/
theorem path_isPrefix {headings : List ParsedHeading}
    (hsplit : indexHeadings hashText lines ⟨[], fun _ => 0⟩ headings =
      front ++ item :: between ++ other :: back)
    (hdeeper : ∀ later ∈ between ++ [other], item.headingDepth < later.headingDepth) :
    item.sectionPath <+: other.sectionPath.dropLast := by
  induction hlength : between.length using Nat.strongRecOn generalizing between other back with
  | _ length ih =>
      subst hlength
      have hother : item.headingDepth < other.headingDepth := hdeeper other (by simp)
      rcases (sectionFacts hsplit).parent with
        ⟨outer, parent, skipped, hbefore, hparent, hskipped, hpath⟩ | ⟨hall, -⟩
      · rw [hpath]
        rcases List.append_eq_append_iff.1 hbefore with
          ⟨more, rfl, hmore⟩ | ⟨more, rfl, hmore⟩
        · cases more with
          | nil =>
              obtain rfl := (List.cons.inj hmore).1
              exact List.prefix_rfl
          | cons head more =>
              obtain ⟨rfl, rfl⟩ := List.cons.inj hmore
              have hrest : indexHeadings hashText lines ⟨[], fun _ => 0⟩ headings =
                  front ++ item :: more ++ parent :: (skipped ++ other :: back) := by
                rw [hsplit]
                simp
              refine (ih more.length (by simp) hrest ?_ rfl).trans (List.dropLast_prefix _)
              intro later hlater
              apply hdeeper later
              rcases List.mem_append.1 hlater with hlater | hlater
              · simp [hlater]
              · simp [List.mem_singleton.1 hlater]
        · cases more with
          | nil =>
              obtain rfl := (List.cons.inj hmore).1
              exact List.prefix_rfl
          | cons head more =>
              obtain ⟨-, rfl⟩ := List.cons.inj hmore
              exact absurd (hskipped item (by simp)) (by omega)
      · exact absurd (hall item (by simp)) (by omega)

/-! ### The index -/

/-- What the section index of a text promises. -/
structure SectionIndexLaws (hashText : String → String) (markdown : String) : Prop where
  distinct : ((indexMarkdownSections hashText markdown).map fun item =>
    identityPath item.sectionPath).Nodup
  increasing : ∀ item ∈ indexMarkdownSections hashText markdown,
    item.sectionPath.Pairwise fun a b => a.headingDepth < b.headingDepth
  parent : ∀ before item after,
    indexMarkdownSections hashText markdown = before ++ item :: after →
      item.sectionPath = item.sectionPath.dropLast ++
          [⟨item.headingDepth, item.siblingIndex, item.headingText⟩] ∧
        ParentPath before item.headingDepth item.sectionPath.dropLast
  /-- The headings outside fences, and no others. -/
  indexed : ∀ out, Outside opensFence closesFence (markdownLines markdown).zipIdx out →
    (indexMarkdownSections hashText markdown).map (fun item =>
        (⟨item.lineIndex, item.headingDepth, item.headingText⟩ : ParsedHeading)) =
      out.filterMap fun entry => parseAtxHeading entry.1 entry.2
  excerpt : ∀ before item after,
    indexMarkdownSections hashText markdown = before ++ item :: after →
      markdownLines item.excerptText =
        ((markdownLines markdown).take (sectionEnd (markdownLines markdown) item after)).drop
          item.lineIndex
  /-- The lines of a later section lie in those of an earlier one, whose path leads to it, or
  come after them. -/
  laminar : ∀ before item between other after,
    indexMarkdownSections hashText markdown =
        before ++ item :: between ++ other :: after →
      sectionEnd (markdownLines markdown) item (between ++ other :: after) ≤ other.lineIndex ∨
        item.sectionPath <+: other.sectionPath.dropLast ∧ item.lineIndex < other.lineIndex ∧
          sectionEnd (markdownLines markdown) other after ≤
            sectionEnd (markdownLines markdown) item (between ++ other :: after)

theorem pairwise_indexMarkdownSections (hashText : String → String) (markdown : String) :
    (indexMarkdownSections hashText markdown).Pairwise fun a b => a.lineIndex < b.lineIndex := by
  have hheadings := pairwise_parsedHeadings (markdownLines markdown)
  rw [← @indexHeadings_headings hashText (markdownLines markdown) ⟨[], fun _ => 0⟩
    (parsedHeadings _), List.pairwise_map] at hheadings
  exact hheadings

theorem lineIndex_lt_of_mem {markdown : String}
    (hitem : item ∈ indexMarkdownSections hashText markdown) :
    item.lineIndex < (markdownLines markdown).length := by
  have hheading := List.mem_map_of_mem (f := fun item : MarkdownSection =>
    (⟨item.lineIndex, item.headingDepth, item.headingText⟩ : ParsedHeading)) hitem
  rw [indexMarkdownSections, indexHeadings_headings] at hheading
  exact lineIndex_lt hheading

theorem markdownLines_sliceLines {markdown : String} {first last : Nat} (hlt : first < last)
    (hfirst : first < (markdownLines markdown).length) :
    markdownLines (sliceLines (markdownLines markdown) first last) =
      ((markdownLines markdown).take last).drop first := by
  have hne : ((markdownLines markdown).take last).drop first ≠ [] := by
    rw [ne_eq, ← List.length_eq_zero_iff, List.length_drop, List.length_take]
    omega
  have hbroken : ∀ line ∈ (((markdownLines markdown).take last).drop first).map String.toList,
      '\n' ∉ line := by
    intro line hline
    obtain ⟨text, htext, rfl⟩ := List.mem_map.1 hline
    obtain ⟨piece, hpiece, rfl⟩ := List.mem_map.1
      (List.mem_of_mem_take (List.mem_of_mem_drop htext))
    rw [String.toList_ofList]
    exact notMem_of_mem_splitOn hpiece
  rw [sliceLines, markdownLines, String.toList_intercalate]
  refine (congrArg (List.map String.ofList) (List.splitOn_intercalate '\n' hbroken ?_)).trans ?_
  · simpa using hne
  · simp

theorem pairwise_of_splits {α : Type} {related : α → α → Prop} {items : List α}
    (hsplits : ∀ before item after, items = before ++ item :: after →
      ∀ other ∈ before, related other item) : items.Pairwise related := by
  induction items using List.reverseRecOn with
  | nil => exact .nil
  | append_singleton items last ih =>
      apply List.pairwise_append.2
      refine ⟨ih ?_, List.pairwise_singleton _ _, ?_⟩
      · rintro before item after rfl
        exact hsplits before item (after ++ [last]) (by simp)
      · intro other hother item hitem
        rw [List.mem_singleton.1 hitem]
        exact hsplits items last [] rfl other hother

theorem sectionIndexLaws (hashText : String → String) (markdown : String) :
    SectionIndexLaws hashText markdown := by
  have hordered := pairwise_indexMarkdownSections hashText markdown
  constructor
  · apply List.pairwise_map.2
    apply pairwise_of_splits
    intro before item after hsplit other hother
    obtain ⟨front, between, rfl⟩ := List.append_of_mem hother
    have hbefore : indexMarkdownSections hashText markdown =
        front ++ other :: (between ++ item :: after) := by
      rw [hsplit]
      simp
    exact identityPath_ne (sectionFacts hbefore) (sectionFacts hsplit) hother
  · intro item hitem
    obtain ⟨before, after, hsplit⟩ := List.append_of_mem hitem
    exact (sectionFacts hsplit).increasing
  · intro before item after hsplit
    exact ⟨(sectionFacts hsplit).path_eq, (sectionFacts hsplit).parent⟩
  · intro out hout
    rw [indexMarkdownSections, indexHeadings_headings, parsedHeadings_eq, outside_iff.1 hout]
  · intro before item after hsplit
    have hitem : item ∈ indexMarkdownSections hashText markdown := by
      rw [hsplit]
      simp
    have hinside := lineIndex_lt_of_mem hitem
    rw [hsplit] at hordered
    have hlater := (List.pairwise_cons.1 (List.pairwise_append.1 hordered).2.1).1
    rw [(sectionFacts hsplit).excerpt]
    exact markdownLines_sliceLines (lineIndex_lt_sectionEnd hlater hinside) hinside
  · intro before item between other after hsplit
    rw [hsplit, List.append_assoc, List.cons_append] at hordered
    obtain ⟨hfirst, hrest⟩ := List.pairwise_cons.1 (List.pairwise_append.1 hordered).2.1
    have hinside : ∀ later ∈ after, later.lineIndex < (markdownLines markdown).length := by
      intro later hlater
      apply lineIndex_lt_of_mem
      rw [hsplit]
      simp [hlater]
    rcases sectionEnd_cases hrest hinside with hend | ⟨hdeeper, hend⟩
    · exact .inl hend
    · exact .inr ⟨path_isPrefix hsplit hdeeper, hfirst other (by simp), hend⟩

end GovernedRuntime.Shared
