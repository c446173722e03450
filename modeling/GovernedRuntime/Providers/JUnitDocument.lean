/-
JUnit documents, the tests they report, and where the patterns of the scanner look for them.
-/
import GovernedRuntime.Library.Xml
import GovernedRuntime.Providers.JUnitXml

namespace GovernedRuntime.Providers.JUnit

open GovernedRuntime.Library
open GovernedRuntime.Library.Xml

/-! ### What a document reports -/

/-- The class and the name of a test, as they are written. -/
def identityOf (tag : Tag) : Option (Text × Text) :=
  match tag.value? classnameKey, tag.value? nameKey with
  | some classname, some name => some (classname, name)
  | _, _ => none

/-- The test cases that have a class and a name. -/
def identifiedTests (document : Content) : List (Tag × Content) :=
  (document.elementsNamed testcase).filter fun test => (identityOf test.1).isSome

def Fails (body : Content) : Prop := failure ∈ body.childNames ∨ error ∈ body.childNames

/-- The status is that of the child elements. -/
def StatusOf (body : Content) : AssertionStatus → Prop
  | .errored => error ∈ body.childNames
  | .failed => failure ∈ body.childNames
  | .skipped => skipped ∈ body.childNames ∧ ¬ Fails body
  | .passed => skipped ∉ body.childNames ∧ ¬ Fails body

/-- A number in decimal digits. -/
def decimal? (value : Text) : Option Nat :=
  if value ≠ [] ∧ value.all Char.isDigit = true then
    some (value.foldl (fun number digit => 10 * number + (digit.toNat - '0'.toNat)) 0)
  else none

def reportedErrors (tag : Tag) : Option Nat := (tag.value? errorsKey).bind decimal?

/-- A suite reports more errors than its test cases carry. -/
def HasUncarriedErrors (document : Content) : Prop :=
  ∃ suite ∈ document.elementsNamed testsuite,
    ((suite.2.elementsNamed testcase).filter fun test =>
      decide (error ∈ test.2.childNames)).length < (reportedErrors suite.1).getD 0

/-- One assertion for each test with an identity, in their order, with the status of its child
elements, and a flag for errors no test carries. -/
structure ReadsEveryTest {N : Type} (document : Content) (result : ParserResult N) : Prop where
  tests : List.Forall₂
    (fun test (assertion : AssertionEvidence N) =>
      some assertion.localId = (identityOf test.1).map (fun identity =>
        buildJUnitLocalId (String.ofList identity.1) (String.ofList identity.2)) ∧
      StatusOf test.2 assertion.status)
    (identifiedTests document) result.assertions
  infrastructure : HasUncarriedErrors document → result.summary.suiteInfrastructureError = true

/-! ### Where the identity of a test is looked for -/

/-- `key="` stands in the text, not behind a word letter. -/
def mentions (key : Text) : Bool → Text → Bool
  | _, [] => false
  | afterWord, c :: rest =>
      (!afterWord && (afterWord? (key ++ ['=', '"']) (c :: rest)).isSome) ||
        mentions key (isWord c) rest

/-- In double quotes, with no blank around the equals sign. -/
structure SpelledTight (a : Attribute) : Prop where
  beforeEq : a.beforeEq.val = []
  afterEq : a.afterEq.val = []
  quote : a.quote = '"'

/-- Up to the attribute of the key no `>` ends the tag, and no attribute before it is taken for
it. -/
def FoundUnder (key : Text) : List Attribute → Prop
  | [] => False
  | a :: rest =>
      '>' ∉ a.value ∧
        if a.name = key then SpelledTight a
        else mentions key false a.render = false ∧ FoundUnder key rest

def IsTest (tag : Tag) : Prop := tag.name = testcase ∧ (identityOf tag).isSome = true

instance (tag : Tag) : Decidable (IsTest tag) := instDecidableAnd

/-- What the pattern takes for a test case starts here. -/
def startsTest (text : Text) : Bool :=
  (openTag? testcase text).any fun opened => (testCaseRef opened.1 opened.2).isSome

/-- Nothing in the text is taken for a test case. -/
def Unread : Text → Prop
  | [] => True
  | c :: rest => startsTest (c :: rest) = false ∧ Unread rest

def PlainTag (tag : Tag) (text : Text) : Prop :=
  if IsTest tag then FoundUnder classnameKey tag.attributes ∧ FoundUnder nameKey tag.attributes
  else Unread text

/-- The patterns find the class and the name of every test, and take nothing else for a test. -/
def Plain : Content → Prop
  | .nil => True
  | .misc item rest => Unread item.render ∧ Plain rest
  | .empty tag rest => PlainTag tag tag.renderEmpty ∧ Plain rest
  | .element tag _ body rest => PlainTag tag tag.renderOpen ∧ Plain body ∧ Plain rest

/-! ### Where its outcome is looked for -/

/-- From the first `>` of the tag to the next end tag of a test case; nowhere, if a slash stands
before the sign. -/
def lookedIn (behind : Text) : Text :=
  match splitFirst ['>'] behind with
  | none => []
  | some (seen, after) =>
      if ['/'] <:+ seen then [] else ((splitFirst closeTag after).map (·.1)).getD []

/-- The identified tests, each with the text its outcome is looked for in. -/
def testsLookedIn : Content → Text → List ((Tag × Content) × Text)
  | .nil, _ => []
  | .misc _ rest, following => testsLookedIn rest following
  | .empty tag rest, following =>
      let behind := tag.inner ++ (['/'] ++ '>' :: (rest.render ++ following))
      (if IsTest tag then [((tag, .nil), lookedIn behind)] else []) ++
        testsLookedIn rest following
  | .element tag closing body rest, following =>
      let outside := tag.renderClose closing ++ (rest.render ++ following)
      let behind := tag.inner ++ ([] ++ '>' :: (body.render ++ outside))
      (if IsTest tag then [((tag, body), lookedIn behind)] else []) ++
        (testsLookedIn body outside ++ testsLookedIn rest following)

def outcomeNames : List Text := [failure, error, skipped]

/-- The first kind of outcome that stands in the text, skipped before error before failure, is
one of the test's child elements, skipped only if nothing fails; and one stands there if the
test has an outcome. -/
structure ShowsOutcome (body : Content) (text : Text) : Prop where
  skips : hasTag skipped text = true → skipped ∈ body.childNames ∧ ¬ Fails body
  errs : hasTag error text = true → hasTag skipped text = true ∨ error ∈ body.childNames
  fails : hasTag failure text = true →
    hasTag skipped text = true ∨ hasTag error text = true ∨ failure ∈ body.childNames
  shown : skipped ∈ body.childNames ∨ Fails body → ∃ name ∈ outcomeNames, hasTag name text = true

def OutcomesShow (document : Content) : Prop :=
  ∀ test ∈ testsLookedIn document [], ShowsOutcome test.1.2 test.2

/-- The errors of the first tag, or other piece, in which the pattern of the suites finds any. -/
def countedErrors : Content → Option Nat
  | .nil => none
  | .misc item rest => (suiteErrors? item.render).or (countedErrors rest)
  | .empty tag rest => (suiteErrors? tag.renderEmpty).or (countedErrors rest)
  | .element tag _ body rest =>
      (suiteErrors? tag.renderOpen).or ((countedErrors body).or (countedErrors rest))

/-- If errors stand in no test, then the errors counted first are some, and no test fails. -/
def ErrorsShow (document : Content) : Prop :=
  HasUncarriedErrors document →
    0 < (countedErrors document).getD 0 ∧ ∀ test ∈ identifiedTests document, ¬ Fails test.2

/-! ### Deciding -/

instance (body : Content) : Decidable (Fails body) := instDecidableOr

instance (document : Content) : Decidable (HasUncarriedErrors document) :=
  inferInstanceAs (Decidable (∃ suite ∈ document.elementsNamed testsuite, _ < _))

instance (a : Attribute) : Decidable (SpelledTight a) :=
  decidable_of_iff (a.beforeEq.val = [] ∧ a.afterEq.val = [] ∧ a.quote = '"')
    ⟨fun h => ⟨h.1, h.2.1, h.2.2⟩, fun h => ⟨h.beforeEq, h.afterEq, h.quote⟩⟩

instance decidableFoundUnder (key : Text) : (attributes : List Attribute) →
    Decidable (FoundUnder key attributes)
  | [] => isFalse id
  | a :: rest =>
      have := decidableFoundUnder key rest
      inferInstanceAs (Decidable ('>' ∉ a.value ∧ if a.name = key then SpelledTight a
        else mentions key false a.render = false ∧ FoundUnder key rest))

instance decidableUnread : (text : Text) → Decidable (Unread text)
  | [] => isTrue trivial
  | c :: rest =>
      have := decidableUnread rest
      inferInstanceAs (Decidable (startsTest (c :: rest) = false ∧ Unread rest))

instance (tag : Tag) (text : Text) : Decidable (PlainTag tag text) :=
  inferInstanceAs (Decidable (if IsTest tag then FoundUnder classnameKey tag.attributes ∧
    FoundUnder nameKey tag.attributes else Unread text))

instance decidablePlain : (document : Content) → Decidable (Plain document)
  | .nil => isTrue trivial
  | .misc item rest =>
      have := decidablePlain rest
      inferInstanceAs (Decidable (Unread item.render ∧ Plain rest))
  | .empty tag rest =>
      have := decidablePlain rest
      inferInstanceAs (Decidable (PlainTag tag tag.renderEmpty ∧ Plain rest))
  | .element tag _ body rest =>
      have := decidablePlain body
      have := decidablePlain rest
      inferInstanceAs (Decidable (PlainTag tag tag.renderOpen ∧ Plain body ∧ Plain rest))

instance (body : Content) (text : Text) : Decidable (ShowsOutcome body text) :=
  decidable_of_iff ((hasTag skipped text = true → skipped ∈ body.childNames ∧ ¬ Fails body) ∧
      (hasTag error text = true → hasTag skipped text = true ∨ error ∈ body.childNames) ∧
      (hasTag failure text = true →
        hasTag skipped text = true ∨ hasTag error text = true ∨ failure ∈ body.childNames) ∧
      (skipped ∈ body.childNames ∨ Fails body → ∃ name ∈ outcomeNames, hasTag name text = true))
    ⟨fun h => ⟨h.1, h.2.1, h.2.2.1, h.2.2.2⟩, fun h => ⟨h.skips, h.errs, h.fails, h.shown⟩⟩

instance (document : Content) : Decidable (OutcomesShow document) := List.decidableBAll _ _

instance (document : Content) : Decidable (ErrorsShow document) :=
  inferInstanceAs (Decidable (HasUncarriedErrors document → _ ∧ _))

/-! ### Texts that end in `>` -/

section Texts

variable {name piece rest : Text}

theorem letters_notMem (hletters : name.all Char.isAlpha = true) {c : Char}
    (hc : c.isAlpha = false) : c ∉ name := by
  intro hmem
  rw [List.all_eq_true.1 hletters c hmem] at hc
  cases hc

theorem gt_notMem_tagStart (hletters : name.all Char.isAlpha = true) : '>' ∉ '<' :: name := by
  rw [List.mem_cons, not_or]
  exact ⟨by decide, letters_notMem hletters rfl⟩

theorem afterTagName?_of_ne {c : Char} (hc : c ≠ '<') (text : Text) :
    afterTagName? name (c :: text) = none := by
  have hnone : ¬ '<' :: name <+: c :: text := by
    rintro ⟨after, hafter⟩
    exact hc (List.cons.inj hafter).1.symm
  rw [afterTagName?, afterWord?_eq_none_iff.2 hnone, Option.filter_none]

/-- A tag that starts in a closed text is found there, and ends there. -/
theorem afterTagName?_append (hletters : name.all Char.isAlpha = true) {c : Char}
    (hclosed : Closed (c :: piece)) :
    afterTagName? name (c :: (piece ++ rest)) =
        (afterTagName? name (c :: piece)).map (· ++ rest) ∧
      ∀ inner ∈ afterTagName? name (c :: piece), '>' ∈ inner := by
  rw [← List.cons_append]
  by_cases hstart : '<' :: name <+: c :: piece ++ rest
  · obtain rfl : '<' = c := by
      obtain ⟨after, hafter⟩ := hstart
      exact (List.cons.inj hafter).1
    have hgt : '>' ∈ '<' :: piece := List.mem_cons_of_mem _ hclosed.gt_mem
    obtain ⟨d, more, hpiece⟩ := starts_piece (gt_notMem_tagStart hletters) hgt hstart
    have hinner : '>' ∈ d :: more := by
      rw [hpiece] at hgt
      exact (List.mem_append.1 hgt).resolve_left (gt_notMem_tagStart hletters)
    have hend : atWordEnd (d :: more ++ rest) = atWordEnd (d :: more) := rfl
    rw [afterTagName?, afterTagName?, hpiece, List.append_assoc, afterWord?_append,
      afterWord?_append, Option.filter_some, Option.filter_some, hend]
    split_ifs
    · exact ⟨rfl, fun inner hmem => Option.some.inj hmem ▸ hinner⟩
    · exact ⟨rfl, fun inner hmem => nomatch hmem⟩
  · have hnone : ¬ '<' :: name <+: c :: piece := fun hpiece =>
      hstart (hpiece.trans (List.prefix_append _ _))
    rw [afterTagName?, afterTagName?, afterWord?_eq_none_iff.2 hstart,
      afterWord?_eq_none_iff.2 hnone]
    exact ⟨rfl, fun inner hmem => nomatch hmem⟩

theorem startsTest_append {c : Char} (hclosed : Closed (c :: piece)) :
    startsTest (c :: (piece ++ rest)) = startsTest (c :: piece) := by
  obtain ⟨happend, hends⟩ := @afterTagName?_append testcase _ rest (by rfl) _ hclosed
  rw [startsTest, startsTest, openTag?, openTag?, happend]
  cases hinner : afterTagName? testcase (c :: piece) with
  | none => rfl
  | some inner =>
      obtain ⟨seen, after, rfl, hseen⟩ := List.eq_append_cons_of_mem (hends inner hinner)
      rw [Option.map_some, Option.bind_some, Option.bind_some, List.append_assoc,
        List.cons_append, splitFirst_singleton hseen, splitFirst_singleton hseen,
        Option.any_some, Option.any_some, testCaseRef, testCaseRef]
      cases attributeValue classnameKey true seen with
      | none => rfl
      | some classname => cases attributeValue nameKey true seen <;> rfl

theorem unread_of_notMem (hclean : '<' ∉ piece) : Unread piece := by
  induction piece with
  | nil => trivial
  | cons c piece ih =>
      rw [List.mem_cons, not_or] at hclean
      refine ⟨?_, ih hclean.2⟩
      rw [startsTest, openTag?, afterTagName?_of_ne (Ne.symm hclean.1)]
      rfl

/-- The scanner passes over a text of which it reads nothing, also from inside of a tag that
ends there. -/
theorem collect_unread (hclosed : Closed piece) (hunread : Unread piece) {inside : Bool}
    (hinside : inside = true → '>' ∈ piece) :
    collectJUnitTestCases inside (piece ++ rest) = collectJUnitTestCases false rest := by
  induction piece generalizing inside with
  | nil =>
      cases inside with
      | false => rfl
      | true => cases hinside rfl
  | cons c piece ih =>
      rw [List.cons_append]
      cases inside with
      | true =>
          rw [collectJUnitTestCases]
          apply ih hclosed.tail hunread.2
          intro hc
          exact (List.mem_cons.1 (hinside rfl)).resolve_left fun heq => bne_iff_ne.1 hc heq.symm
      | false =>
          rw [collectJUnitTestCases]
          cases hopen : openTag? testcase (c :: (piece ++ rest)) with
          | none => exact ih hclosed.tail hunread.2 fun h => nomatch h
          | some opened =>
              have hnot := hunread.1
              rw [← @startsTest_append _ rest _ hclosed, startsTest, hopen, Option.any_some,
                Option.isSome_eq_false_iff, Option.isNone_iff_eq_none] at hnot
              obtain rfl : c = '<' := by
                by_contra hne
                rw [openTag?, afterTagName?_of_ne hne] at hopen
                cases hopen
              simp only [hnot]
              exact ih hclosed.tail hunread.2 fun _ => hclosed.gt_mem

theorem collect_append (hclosed : Closed piece) (hunread : Unread piece) :
    collectJUnitTestCases false (piece ++ rest) = collectJUnitTestCases false rest :=
  collect_unread hclosed hunread fun hfalse => absurd hfalse Bool.false_ne_true

/-! ### Errors within a tag -/

theorem readNumber_append (hends : '>' ∈ piece) :
    readNumber (piece ++ rest) = readNumber piece := by
  obtain ⟨seen, after, rfl, -⟩ := List.eq_append_cons_of_mem hends
  have hstop : Char.isDigit '>' = false := rfl
  have hdigits : ∀ text, (seen ++ '>' :: text).takeWhile Char.isDigit =
      seen.takeWhile Char.isDigit := by
    intro text
    induction seen with
    | nil => rfl
    | cons c seen ih => simp [List.takeWhile_cons, ih]
  have hdrop : ∀ text, (seen ++ '>' :: text).dropWhile Char.isDigit =
      seen.dropWhile Char.isDigit ++ '>' :: text := by
    intro text
    rw [List.dropWhile_append, List.dropWhile_cons, hstop]
    cases seen.dropWhile Char.isDigit <;> rfl
  rw [readNumber, readNumber, List.append_assoc, List.cons_append, hdigits, hdigits, hdrop, hdrop]
  cases seen.takeWhile Char.isDigit with
  | nil => rfl
  | cons digit digits =>
      cases seen.dropWhile Char.isDigit with
      | nil => rfl
      | cons c more =>
          by_cases hc : c = '"'
          · rw [hc]
            rfl
          · simp [hc]

theorem lastErrors_append (hends : '>' ∈ piece) : lastErrors (piece ++ rest) = lastErrors piece := by
  induction piece with
  | nil => cases hends
  | cons c piece ih =>
      by_cases hgt : c = '>'
      · rw [hgt]
        rfl
      have hlater : '>' ∈ piece := (List.mem_cons.1 hends).resolve_left (Ne.symm hgt)
      have hhere : (afterWord? errorsWord (c :: piece ++ rest)).bind readNumber =
          (afterWord? errorsWord (c :: piece)).bind readNumber := by
        by_cases hstart : errorsWord <+: c :: piece ++ rest
        · have hword : '>' ∉ errorsWord := by decide
          obtain ⟨d, more, hpiece⟩ := starts_piece hword hends hstart
          have hmore : '>' ∈ d :: more := by
            rw [hpiece] at hends
            exact (List.mem_append.1 hends).resolve_left hword
          rw [hpiece, List.append_assoc, afterWord?_append, afterWord?_append, Option.bind_some,
            Option.bind_some, readNumber_append hmore]
        · have hnone : ¬ errorsWord <+: c :: piece := fun hpiece =>
            hstart (hpiece.trans (List.prefix_append _ _))
          rw [afterWord?_eq_none_iff.2 hstart, afterWord?_eq_none_iff.2 hnone]
      rw [List.cons_append, lastErrors, lastErrors, ih hlater, ← List.cons_append, hhere] <;>
        exact fun heq => hgt heq

theorem suiteErrors?_append (hclosed : Closed piece) :
    suiteErrors? (piece ++ rest) = (suiteErrors? piece).or (suiteErrors? rest) := by
  induction piece with
  | nil => rfl
  | cons c piece ih =>
      obtain ⟨happend, hends⟩ := @afterTagName?_append testsuite _ rest (by rfl) _ hclosed
      have hhere : (afterTagName? testsuite (c :: (piece ++ rest))).bind lastErrors =
          (afterTagName? testsuite (c :: piece)).bind lastErrors := by
        rw [happend]
        cases hinner : afterTagName? testsuite (c :: piece) with
        | none => rfl
        | some inner => exact lastErrors_append (hends inner hinner)
      rw [List.cons_append, suiteErrors?, suiteErrors?, hhere, ih hclosed.tail]
      cases (afterTagName? testsuite (c :: piece)).bind lastErrors <;> rfl

theorem suiteErrors?_of_notMem (hclean : '<' ∉ piece) : suiteErrors? piece = none := by
  induction piece with
  | nil => rfl
  | cons c piece ih =>
      rw [List.mem_cons, not_or] at hclean
      rw [suiteErrors?, afterTagName?_of_ne (Ne.symm hclean.1), ih hclean.2]
      rfl

end Texts

/-! ### Tags -/

theorem not_isWord_of_isBlank {c : Char} (hblank : isBlank c = true) :
    isWord c = false := by
  simp only [isBlank, List.contains_eq_mem, List.mem_cons, List.not_mem_nil, or_false,
    decide_eq_true_eq] at hblank
  rcases hblank with rfl | rfl | rfl | rfl <;> rfl

theorem isWord_of_isAlpha {c : Char} (halpha : c.isAlpha = true) : isWord c = true := by
  simp [isWord, Char.isAlphanum, halpha]

section Tags

variable {name tail : Text} {tag : Tag}

/-- A name ends where the tag goes on. -/
theorem atWordEnd_inner {c : Char} (hc : isWord c = false) (rest : Text) :
    atWordEnd (tag.inner ++ c :: rest) = true := by
  cases hinner : tag.inner with
  | nil => simp [atWordEnd, hc]
  | cons d inner =>
      have hblank := tag.head_inner (c := d) (by rw [hinner]; rfl)
      simp [atWordEnd, not_isWord_of_isBlank hblank]

theorem afterTagName?_self (hend : atWordEnd tail = true) :
    afterTagName? name ('<' :: (name ++ tail)) = some tail := by
  rw [afterTagName?, afterWord?_cons_cons, afterWord?_append, Option.filter_some, if_pos hend]

theorem lt_notMem_closing (tag : Tag) (closing : Blanks) :
    '<' ∉ '/' :: (tag.name ++ (closing.val ++ ['>'])) := by
  simp only [List.mem_cons, List.mem_append, List.not_mem_nil, or_false, not_or]
  exact ⟨by decide, notMem_name tag.name_ok rfl, notMem_blanks closing rfl, by decide⟩

/-- An end tag is taken for no tag. -/
theorem afterTagName?_closing {first : Char} (hfirst : first ≠ '/') (text : Text) :
    afterTagName? (first :: name) ('<' :: '/' :: text) = none := by
  have hstart : ¬ first :: name <+: '/' :: text := by
    rintro ⟨after, hafter⟩
    exact hfirst (List.cons.inj hafter).1
  rw [afterTagName?, afterWord?_cons_cons, afterWord?_eq_none_iff.2 hstart, Option.filter_none]

theorem unread_renderClose (tag : Tag) (closing : Blanks) : Unread (tag.renderClose closing) := by
  refine ⟨?_, unread_of_notMem (lt_notMem_closing tag closing)⟩
  rw [startsTest, openTag?, testcase, afterTagName?_closing (by decide)]
  rfl

theorem suiteErrors?_renderClose (tag : Tag) (closing : Blanks) :
    suiteErrors? (tag.renderClose closing) = none := by
  rw [Tag.renderClose, suiteErrors?, testsuite, afterTagName?_closing (by decide),
    suiteErrors?_of_notMem (lt_notMem_closing tag closing)]
  rfl

end Tags

/-! ### Attributes -/

section Attributes

variable {key piece rest : Text} {flag : Bool}

theorem ne_of_isAlpha {first c : Char} (hfirst : first.isAlpha = true) (hc : c.isAlpha = false) :
    first ≠ c := by
  rintro rfl
  rw [hfirst] at hc
  cases hc

theorem not_isAlpha_of_isBlank {c : Char} (hblank : isBlank c = true) : c.isAlpha = false := by
  rw [← Bool.not_eq_true]
  intro halpha
  have hword := isWord_of_isAlpha halpha
  rw [not_isWord_of_isBlank hblank] at hword
  cases hword

/-- The key starts within the piece, which ends in a quotation mark. -/
theorem starts_key (hletters : key.all Char.isAlpha = true) {quote : Char}
    (hquote : quote = '"' ∨ quote = '\'')
    (hstart : key ++ ['=', '"'] <+: piece ++ quote :: rest) :
    key ++ ['=', '"'] <+: piece ++ [quote] := by
  have hpiece : piece ++ quote :: rest = (piece ++ [quote]) ++ rest := by simp
  rw [hpiece] at hstart
  have hmark : quote ∈ piece ++ [quote] := by simp
  have hkey : quote ∉ key ++ ['='] := by
    rw [List.mem_append, not_or]
    rcases hquote with rfl | rfl <;> exact ⟨letters_notMem hletters rfl, by decide⟩
  rcases hquote with rfl | rfl
  · have hword : key ++ ['=', '"'] = (key ++ ['=']) ++ ['"'] := by simp
    rw [hword] at hstart ⊢
    exact starts_piece_concat hkey hmark hstart
  · obtain ⟨c, more, heq⟩ := @starts_piece _ _ (key ++ ['=', '"']) _ _
      (by simpa using hkey) hmark hstart
    exact ⟨c :: more, heq.symm⟩

section Key

variable (hletters : key.all Char.isAlpha = true) (hne : key ≠ [])

include hletters hne

/-- A key starts at a letter only. -/
theorem afterKey?_eq_none {c : Char} (hc : c.isAlpha = false) (text : Text) :
    afterWord? (key ++ ['=', '"']) (c :: text) = none := by
  rw [afterWord?_eq_none_iff]
  obtain ⟨first, more, rfl⟩ := List.exists_cons_of_ne_nil hne
  rintro ⟨after, hafter⟩
  exact ne_of_isAlpha (List.all_eq_true.1 hletters first List.mem_cons_self) hc
    (List.cons.inj hafter).1

theorem attributeValue_cons {c : Char} (hc : c.isAlpha = false) (text : Text) :
    attributeValue key flag (c :: text) = attributeValue key (isWord c) text := by
  rw [attributeValue, afterKey?_eq_none hletters hne hc]
  cases flag <;> rfl

theorem attributeValue_blanks {blanks : Text} (hblank : ∀ c ∈ blanks, isBlank c = true)
    (hgap : blanks ≠ []) :
    attributeValue key flag (blanks ++ rest) = attributeValue key false rest := by
  induction blanks generalizing flag with
  | nil => exact absurd rfl hgap
  | cons c blanks ih =>
      have hc := hblank c List.mem_cons_self
      rw [List.cons_append, attributeValue_cons hletters hne (not_isAlpha_of_isBlank hc),
        not_isWord_of_isBlank hc]
      by_cases hlast : blanks = []
      · rw [hlast, List.nil_append]
      · exact ih (fun d hd => hblank d (List.mem_cons_of_mem _ hd)) hlast

theorem attributeValue_append {quote : Char} (hquote : quote = '"' ∨ quote = '\'')
    (hnone : mentions key flag (piece ++ [quote]) = false) :
    attributeValue key flag (piece ++ quote :: rest) = attributeValue key false rest := by
  induction piece generalizing flag with
  | nil =>
      rw [List.nil_append]
      rcases hquote with rfl | rfl <;> exact attributeValue_cons hletters hne rfl _
  | cons c piece ih =>
      rw [List.cons_append, mentions, Bool.or_eq_false_iff] at hnone
      rw [List.cons_append, attributeValue]
      have hvalue : (if flag then none
          else (afterWord? (key ++ ['=', '"']) (c :: (piece ++ quote :: rest))).bind
            (splitFirst ['"'])) = none := by
        cases flag with
        | true => rfl
        | false =>
            have hnot : ¬ key ++ ['=', '"'] <+: c :: (piece ++ quote :: rest) := by
              intro hstart
              obtain ⟨after, hafter⟩ := @starts_key _ (c :: piece) _ hletters _ hquote hstart
              have hnone := hnone.1
              rw [← List.cons_append, ← hafter, afterWord?_append] at hnone
              cases hnone
            rw [afterWord?_eq_none_iff.2 hnot]
            rfl
      rw [hvalue]
      exact ih hnone.2

theorem mentions_blanks {blanks : Text} (hblank : ∀ c ∈ blanks, isBlank c = true)
    (hgap : blanks ≠ []) : mentions key flag (blanks ++ rest) = mentions key false rest := by
  induction blanks generalizing flag with
  | nil => exact absurd rfl hgap
  | cons c blanks ih =>
      have hc := hblank c List.mem_cons_self
      rw [List.cons_append, mentions, afterKey?_eq_none hletters hne (not_isAlpha_of_isBlank hc),
        not_isWord_of_isBlank hc, Option.isSome_none, Bool.and_false, Bool.false_or]
      by_cases hlast : blanks = []
      · rw [hlast, List.nil_append]
      · exact ih (fun d hd => hblank d (List.mem_cons_of_mem _ hd)) hlast

theorem attributeValue_other {a : Attribute} (hfound : mentions key false a.render = false) :
    attributeValue key flag (a.render ++ rest) = attributeValue key false rest := by
  have hblank : ∀ c ∈ a.gap.val, isBlank c = true := List.all_eq_true.1 a.gap.2
  rw [Attribute.render, mentions_blanks hletters hne hblank a.gap_ne] at hfound
  rw [Attribute.render, List.append_assoc, attributeValue_blanks hletters hne hblank a.gap_ne]
  have happend := @attributeValue_append key
    (a.name ++ (a.beforeEq.val ++ '=' :: (a.afterEq.val ++ a.quote :: a.value))) rest false
    hletters hne a.quote a.quote_ok (by simpa using hfound)
  simpa using happend

theorem attributeValue_key {a : Attribute} (hkey : a.name = key) (htight : SpelledTight a) :
    attributeValue key flag (a.render ++ rest) = some a.value := by
  have hblank : ∀ c ∈ a.gap.val, isBlank c = true := List.all_eq_true.1 a.gap.2
  have hquote : '"' ∉ a.value := htight.quote ▸ a.value_ok.2
  have hrender : a.render ++ rest =
      a.gap.val ++ ((key ++ ['=', '"']) ++ (a.value ++ '"' :: rest)) := by
    simp [Attribute.render, htight.beforeEq, htight.afterEq, htight.quote, hkey]
  rw [hrender, attributeValue_blanks hletters hne hblank a.gap_ne]
  have hfound := afterWord?_append (key ++ ['=', '"']) (a.value ++ '"' :: rest)
  obtain ⟨first, more, hcons⟩ := List.exists_cons_of_ne_nil hne
  subst hcons
  simp only [List.cons_append] at hfound ⊢
  rw [attributeValue]
  simp only [List.cons_append, Bool.false_eq_true, if_false, hfound, Option.bind_some,
    splitFirst_singleton hquote]

/-- The key finds the attribute of its name, before the first `>`. -/
theorem attributeValue_attributes {attributes : List Attribute} (tail : Text)
    (hfound : FoundUnder key attributes) :
    attributeValue key flag
        ((attributes.flatMap (·.render) ++ tail).takeWhile fun c => c != '>') =
      (attributes.find? (·.name == key)).map (·.value) := by
  induction attributes generalizing flag with
  | nil => exact hfound.elim
  | cons a attributes ih =>
      obtain ⟨hgt, ha⟩ := hfound
      have hrender : ∀ c ∈ a.render, (c != '>') = true := by
        intro c hc
        rw [bne_iff_ne]
        rintro rfl
        exact a.notMem_render rfl rfl (by decide) (a.quote_ne (by decide) (by decide)) hgt hc
      rw [List.flatMap_cons, List.append_assoc, List.takeWhile_append_of_pos hrender,
        List.find?_cons]
      by_cases hkey : a.name = key
      · rw [if_pos hkey] at ha
        rw [attributeValue_key hletters hne hkey ha, beq_iff_eq.2 hkey]
        rfl
      · rw [if_neg hkey] at ha
        rw [attributeValue_other hletters hne ha.1, beq_false_of_ne hkey]
        exact ih ha.2

end Key

end Attributes

end GovernedRuntime.Providers.JUnit
