/-
What the scanner makes of a JUnit document in which its patterns find the tests: a test case for
each of them, with the outcome that stands where the scanner looks for it.
-/
import GovernedRuntime.Providers.JUnitDocument

namespace GovernedRuntime.Providers.JUnit

open GovernedRuntime.Library
open GovernedRuntime.Library.Xml

/-! ### Test cases -/

/-- The reference of a test, with the text its outcome is looked for in. -/
def caseRef (test : (Tag × Content) × Text) : Option JUnitTestCaseRef :=
  (identityOf test.1.1).map fun identity => ⟨identity.1, identity.2, test.2⟩

section Tags

variable {tag : Tag}

/-- The keys of the scanner find the identity of the test. -/
theorem testCaseRef_seen (hclass : FoundUnder classnameKey tag.attributes)
    (hname : FoundUnder nameKey tag.attributes) (tail after : Text) :
    testCaseRef ((tag.inner ++ tail).takeWhile (· != '>')) after =
      (identityOf tag).map fun identity => ⟨identity.1, identity.2,
        if ['/'] <:+ (tag.inner ++ tail).takeWhile (· != '>') then []
        else ((splitFirst closeTag after).map (·.1)).getD []⟩ := by
  have hvalue : ∀ key : Text, key.all Char.isAlpha = true → key ≠ [] →
      FoundUnder key tag.attributes →
      attributeValue key true ((tag.inner ++ tail).takeWhile (· != '>')) = tag.value? key := by
    intro key hletters hne hfound
    rw [Tag.inner, List.append_assoc]
    exact attributeValue_attributes hletters hne _ hfound
  have hfirst := hvalue classnameKey rfl (List.cons_ne_nil _ _) hclass
  have hsecond := hvalue nameKey rfl (List.cons_ne_nil _ _) hname
  rw [testCaseRef, hfirst, hsecond, identityOf]
  cases tag.value? classnameKey with
  | none => rfl
  | some classname => cases tag.value? nameKey <;> rfl

/-- Within a tag no test starts. -/
theorem unread_tag {mark : Text} (hmark : '<' ∉ mark) :
    Unread (tag.name ++ (tag.inner ++ (mark ++ ['>']))) := by
  apply unread_of_notMem
  simp only [List.mem_append, not_or]
  exact ⟨notMem_name tag.name_ok rfl, tag.lt_notMem_inner, hmark, by decide⟩

theorem collect_test (htest : IsTest tag) (hplain : FoundUnder classnameKey tag.attributes ∧
      FoundUnder nameKey tag.attributes) (body : Content) {mark : Text}
    (hmark : mark = [] ∨ mark = ['/']) (rest : Text) :
    collectJUnitTestCases false ('<' :: (tag.name ++ (tag.inner ++ (mark ++ '>' :: rest)))) =
      [((tag, body), lookedIn (tag.inner ++ (mark ++ '>' :: rest)))].filterMap caseRef ++
        collectJUnitTestCases false rest := by
  have hend : atWordEnd (tag.inner ++ (mark ++ '>' :: rest)) = true := by
    rcases hmark with rfl | rfl <;> exact atWordEnd_inner rfl _
  have hgt : '>' ∈ tag.inner ++ (mark ++ '>' :: rest) := by simp
  obtain ⟨after, hsplit⟩ := splitFirst_eq_takeWhile hgt
  have hopen : openTag? testcase ('<' :: (tag.name ++ (tag.inner ++ (mark ++ '>' :: rest)))) =
      some ((tag.inner ++ (mark ++ '>' :: rest)).takeWhile (· != '>'), after) := by
    rw [openTag?, htest.1, afterTagName?_self hend, Option.bind_some, hsplit]
  have hclean : '<' ∉ mark := by rcases hmark with rfl | rfl <;> decide
  have hunread := @unread_tag tag mark hclean
  have hskip := @collect_unread _ rest (closed_of_notMem ?_) hunread true (by simp)
  · simp only [List.append_assoc, List.singleton_append] at hskip
    rw [collectJUnitTestCases, hopen]
    dsimp only
    rw [hskip, testCaseRef_seen hplain.1 hplain.2, lookedIn, hsplit, List.filterMap_cons,
      List.filterMap_nil, caseRef]
    cases identityOf tag <;> rfl
  · simp only [List.mem_append, not_or]
    exact ⟨notMem_name tag.name_ok rfl, tag.lt_notMem_inner, hclean, by decide⟩

end Tags

/-! ### The document -/

theorem isTest_iff (tag : Tag) (body : Content) :
    (if tag.name = testcase then [(tag, body)] else []).filter
        (fun test => (identityOf test.1).isSome) =
      if IsTest tag then [(tag, body)] else [] := by
  by_cases hname : tag.name = testcase
  · cases hidentity : (identityOf tag).isSome <;> simp [IsTest, hname, hidentity]
  · simp [IsTest, hname]

/-- The tests that are looked for are the identified tests of the document. -/
theorem map_testsLookedIn (content : Content) (following : Text) :
    (testsLookedIn content following).map (·.1) = identifiedTests content := by
  rw [identifiedTests]
  induction content generalizing following with
  | nil => rfl
  | misc item rest ih => exact ih following
  | empty tag rest ih =>
      rw [testsLookedIn, List.map_append, ih, Content.elementsNamed, List.filter_append, isTest_iff]
      split_ifs <;> rfl
  | element tag closing body rest ihBody ih =>
      rw [testsLookedIn, List.map_append, List.map_append, ihBody, ih, Content.elementsNamed,
        List.filter_append, List.filter_append, isTest_iff]
      split_ifs <;> rfl

/-- The scanner finds the tests of the document. -/
theorem collect_content {content : Content} (hplain : Plain content) (following : Text) :
    collectJUnitTestCases false (content.render ++ following) =
      (testsLookedIn content following).filterMap caseRef ++
        collectJUnitTestCases false following := by
  induction content generalizing following with
  | nil => rfl
  | misc item content ih =>
      rw [Content.render, List.append_assoc,
        collect_append item.closed_render hplain.1, ih hplain.2, testsLookedIn]
  | empty tag content ih =>
      obtain ⟨htag, hrest⟩ := hplain
      rw [Content.render, List.append_assoc, testsLookedIn, List.filterMap_append,
        List.append_assoc, ← ih hrest]
      by_cases htest : IsTest tag
      · rw [PlainTag, if_pos htest] at htag
        rw [if_pos htest, ← collect_test htest htag .nil (Or.inr rfl)]
        simp [Tag.renderEmpty]
      · rw [PlainTag, if_neg htest] at htag
        rw [if_neg htest, collect_append tag.closed_renderEmpty htag]
        rfl
  | element tag closing body content ihBody ih =>
      obtain ⟨htag, hbody, hrest⟩ := hplain
      have hclose := @collect_append _ (content.render ++ following)
        (tag.closed_renderClose closing) (unread_renderClose tag closing)
      rw [Content.render, List.append_assoc, List.append_assoc, List.append_assoc, testsLookedIn,
        List.filterMap_append, List.filterMap_append, List.append_assoc, List.append_assoc,
        ← ih hrest, ← hclose, ← ihBody hbody]
      by_cases htest : IsTest tag
      · rw [PlainTag, if_pos htest] at htag
        rw [if_pos htest, ← collect_test htest htag body (Or.inl rfl)]
        simp [Tag.renderOpen]
      · rw [PlainTag, if_neg htest] at htag
        rw [if_neg htest, collect_append tag.closed_renderOpen htag]
        rfl

theorem suiteErrors?_content (content : Content) (following : Text) :
    suiteErrors? (content.render ++ following) =
      (countedErrors content).or (suiteErrors? following) := by
  induction content generalizing following with
  | nil => rfl
  | misc item content ih =>
      rw [Content.render, List.append_assoc, suiteErrors?_append item.closed_render, ih,
        countedErrors, Option.or_assoc]
  | empty tag content ih =>
      rw [Content.render, List.append_assoc, suiteErrors?_append tag.closed_renderEmpty, ih,
        countedErrors, Option.or_assoc]
  | element tag closing body content ihBody ih =>
      rw [Content.render, List.append_assoc, List.append_assoc, List.append_assoc,
        suiteErrors?_append tag.closed_renderOpen, ihBody,
        suiteErrors?_append (tag.closed_renderClose closing), suiteErrors?_renderClose, ih,
        countedErrors, Option.or_assoc, Option.or_assoc, Option.none_or]

/-! ### Outcomes -/

section Outcomes

variable {N : Type} (env : ReportEnvironment N)

theorem regionStatus_eq (text : Text) :
    (regionStatus env text).1 =
      if hasTag skipped text then .skipped
      else if hasTag error text then .errored
      else if hasTag failure text then .failed
      else .passed := by
  rw [regionStatus]
  split_ifs <;> rfl

/-- Skipping is looked for first, errors before failures. -/
theorem statusOf_regionStatus_iff (body : Content) (text : Text) :
    StatusOf body (regionStatus env text).1 ↔ ShowsOutcome body text := by
  rw [regionStatus_eq]
  constructor
  · intro hstatus
    split_ifs at hstatus with hskipped herror hfailure
    · exact ⟨fun _ => hstatus, fun _ => .inl hskipped, fun _ => .inl hskipped,
        fun _ => ⟨skipped, by decide, hskipped⟩⟩
    · exact ⟨fun h => absurd h hskipped, fun _ => .inr hstatus, fun _ => .inr (.inl herror),
        fun _ => ⟨error, by decide, herror⟩⟩
    · exact ⟨fun h => absurd h hskipped, fun h => absurd h herror, fun _ => .inr (.inr hstatus),
        fun _ => ⟨failure, by decide, hfailure⟩⟩
    · refine ⟨fun h => absurd h hskipped, fun h => absurd h herror, fun h => absurd h hfailure,
        fun h => ?_⟩
      exact (h.elim hstatus.1 hstatus.2).elim
  · rintro ⟨hskips, herrs, hfails, hshown⟩
    split_ifs with hskipped herror hfailure
    · exact hskips hskipped
    · exact (herrs herror).resolve_left hskipped
    · exact ((hfails hfailure).resolve_left hskipped).resolve_left herror
    · have hnone : ¬ ∃ name ∈ outcomeNames, hasTag name text = true := by
        simp [outcomeNames, hskipped, herror, hfailure]
      exact ⟨fun h => hnone (hshown (.inl h)), fun h => hnone (hshown (.inr h))⟩

theorem isFailure_iff_of_statusOf {body : Content} {status : AssertionStatus}
    (hstatus : StatusOf body status) : status.isFailure = true ↔ Fails body := by
  cases status with
  | passed => simpa [AssertionStatus.isFailure] using hstatus.2
  | skipped => simpa [AssertionStatus.isFailure] using hstatus.2
  | failed => exact iff_of_true rfl (.inl hstatus)
  | errored => exact iff_of_true rfl (.inr hstatus)

/-! ### The parsed report -/

def SameIdentity (test : Tag × Content) (assertion : AssertionEvidence N) : Prop :=
  some assertion.localId = (identityOf test.1).map (fun identity =>
    buildJUnitLocalId (String.ofList identity.1) (String.ofList identity.2))

/-- The assertions of the scanner. -/
def scannedAssertions (document : Content) : List (AssertionEvidence N) :=
  ((testsLookedIn document []).filterMap caseRef).map (buildJUnitAssertion env)

theorem isSome_identityOf {document : Content} :
    ∀ test ∈ testsLookedIn document [], (identityOf test.1.1).isSome = true := by
  intro test hmem
  have hidentified := List.mem_map_of_mem (f := (·.1)) hmem
  rw [map_testsLookedIn] at hidentified
  exact (List.mem_filter.1 hidentified).2

theorem forall₂_scanned_iff {tests : List ((Tag × Content) × Text)}
    (hidentified : ∀ test ∈ tests, (identityOf test.1.1).isSome = true) :
    List.Forall₂ (fun test (assertion : AssertionEvidence N) =>
        SameIdentity test assertion ∧ StatusOf test.2 assertion.status)
      (tests.map (·.1)) ((tests.filterMap caseRef).map (buildJUnitAssertion env)) ↔
      ∀ test ∈ tests, StatusOf test.1.2 (regionStatus env test.2).1 := by
  induction tests with
  | nil => simp
  | cons test tests ih =>
      obtain ⟨identity, hidentity⟩ := Option.isSome_iff_exists.1
        (hidentified test List.mem_cons_self)
      have href : caseRef test = some ⟨identity.1, identity.2, test.2⟩ := by
        rw [caseRef, hidentity]
        rfl
      rw [List.map_cons, List.filterMap_cons_some href, List.map_cons, List.forall₂_cons,
        List.forall_mem_cons, ih fun other hmem => hidentified other (List.mem_cons_of_mem _ hmem)]
      apply and_congr_left
      intro _
      apply and_iff_right
      rw [SameIdentity, hidentity]
      rfl

theorem countByStatus_eq_zero_iff {assertions : List (AssertionEvidence N)} :
    (countByStatus assertions .failed + countByStatus assertions .errored == 0) = true ↔
      ∀ assertion ∈ assertions, assertion.status.isFailure = false := by
  rw [beq_iff_eq, Nat.add_eq_zero_iff, countByStatus, countByStatus, List.length_eq_zero_iff,
    List.length_eq_zero_iff, List.filter_eq_nil_iff, List.filter_eq_nil_iff, ← forall₂_and]
  apply forall₂_congr
  intro assertion _
  cases assertion.status <;> simp [AssertionStatus.isFailure]

theorem forall_not_isFailure_iff {tests : List (Tag × Content)}
    {assertions : List (AssertionEvidence N)}
    (hread : List.Forall₂ (fun test assertion =>
      SameIdentity test assertion ∧ StatusOf test.2 assertion.status) tests assertions) :
    (∀ assertion ∈ assertions, assertion.status.isFailure = false) ↔
      ∀ test ∈ tests, ¬ Fails test.2 := by
  induction hread with
  | nil => simp
  | cons hhead _ ih =>
      rw [List.forall_mem_cons, List.forall_mem_cons, ih, ← Bool.not_eq_true,
        isFailure_iff_of_statusOf hhead.2]

/-- The report is read as its scanned test cases, with the errors counted first. -/
theorem parseJUnitXml_eq {document : Content} (hplain : Plain document)
    (hshape : hasReportShape document.render = true) :
    parseJUnitXml env (String.ofList document.render) =
      .ok ⟨scannedAssertions env document,
        buildJUnitSummary (scannedAssertions env document)
          ((countedErrors document).getD 0)⟩ := by
  have hcollect := collect_content hplain []
  have herrors := suiteErrors?_content document []
  rw [List.append_nil] at hcollect herrors
  have hcases : collectJUnitTestCases false document.render =
      (testsLookedIn document []).filterMap caseRef := by
    rw [hcollect]
    exact List.append_nil _
  have hfirst : suiteErrors? document.render = countedErrors document := by
    rw [herrors]
    exact Option.or_none
  simp only [parseJUnitXml, String.toList_ofList, hshape, Bool.not_true, Bool.false_eq_true,
    if_false, hcases, readSuiteErrors, hfirst, scannedAssertions]
  split_ifs with hempty
  · simp only [Bool.and_eq_true, List.isEmpty_iff, decide_eq_true_eq] at hempty
    simp [hempty.1, hempty.2, buildJUnitSummary, countByStatus]
  · rfl

/-! ### What is read right -/

def ReadsReport (document : Content) : Prop :=
  ∃ result, parseJUnitXml env (String.ofList document.render) = .ok result ∧
    ReadsEveryTest document result

theorem readsEveryTest_iff (document : Content) :
    ReadsEveryTest document (N := N) ⟨scannedAssertions env document,
      buildJUnitSummary (scannedAssertions env document) ((countedErrors document).getD 0)⟩ ↔
      OutcomesShow document ∧ ErrorsShow document := by
  have htests : List.Forall₂ (fun test (assertion : AssertionEvidence N) =>
      SameIdentity test assertion ∧ StatusOf test.2 assertion.status)
      (identifiedTests document) (scannedAssertions env document) ↔ OutcomesShow document := by
    rw [← map_testsLookedIn document [], scannedAssertions,
      forall₂_scanned_iff env isSome_identityOf]
    exact forall₂_congr fun test _ => statusOf_regionStatus_iff env test.1.2 test.2
  have hflag : OutcomesShow document →
      ((buildJUnitSummary (scannedAssertions env document)
          ((countedErrors document).getD 0)).suiteInfrastructureError = true ↔
        0 < (countedErrors document).getD 0 ∧
          ∀ test ∈ identifiedTests document, ¬ Fails test.2) := by
    intro hshow
    rw [buildJUnitSummary, Bool.and_eq_true, decide_eq_true_eq, countByStatus_eq_zero_iff,
      forall_not_isFailure_iff (htests.2 hshow)]
  constructor
  · intro hreads
    have hshow := htests.1 hreads.tests
    exact ⟨hshow, fun herrors => (hflag hshow).1 (hreads.infrastructure herrors)⟩
  · rintro ⟨hshow, herrors⟩
    exact ⟨htests.2 hshow, fun huncarried => (hflag hshow).2 (herrors huncarried)⟩

/-- A report that is read right has an assertion for each identified test. -/
theorem ReadsReport.length_eq {document : Content} (hreads : ReadsReport env document) :
    (identifiedTests document).length =
      (collectJUnitTestCases false document.render).length := by
  obtain ⟨result, hparse, hevery⟩ := hreads
  rw [hevery.tests.length_eq]
  simp only [parseJUnitXml, String.toList_ofList] at hparse
  split_ifs at hparse with hshape hempty
  · cases hparse
    simp only [Bool.and_eq_true, List.isEmpty_iff] at hempty
    rw [hempty.1]
    rfl
  · cases hparse
    rw [List.length_map]

/-- A document in which the patterns find the tests is read right exactly when it has the shape
of a report, the outcome of each test stands where it is looked for, and the errors no test
carries show. -/
theorem readsReport_iff (document : Content) (hplain : Plain document) :
    ReadsReport env document ↔
      hasReportShape document.render = true ∧ OutcomesShow document ∧ ErrorsShow document := by
  cases hshape : hasReportShape document.render with
  | false =>
      simp [ReadsReport, parseJUnitXml, hshape]
  | true =>
      rw [ReadsReport, parseJUnitXml_eq env hplain hshape, ← readsEveryTest_iff env document]
      simp

end Outcomes

/-! ### Two reports -/

section Samples

def sampleEnvironment : ReportEnvironment Nat where
  providerId := "junit"
  hashText text := text
  valueText _ := none

def spelled (name value : Text) (hname : isName name = true)
    (hvalue : '<' ∉ value ∧ '"' ∉ value) : Attribute where
  gap := ⟨[' '], rfl⟩
  name := name
  beforeEq := noBlanks
  afterEq := noBlanks
  quote := '"'
  value := value
  gap_ne := List.cons_ne_nil _ _
  name_ok := hname
  quote_ok := Or.inl rfl
  value_ok := hvalue

def bareTag (name : Text) (hname : isName name = true) : Tag :=
  ⟨name, [], noBlanks, hname, List.nodup_nil⟩

/-- `classname="Range"` -/
def rangeClass : Attribute := spelled classnameKey ['R', 'a', 'n', 'g', 'e'] rfl (by decide)

/-- `<testcase classname="Range" name="…">` -/
def testTag (name : Text) (hname : '<' ∉ name ∧ '"' ∉ name) : Tag :=
  ⟨testcase, [rangeClass, spelled nameKey name rfl hname], noBlanks, rfl,
    (by decide : [classnameKey, nameKey].Nodup)⟩

def failureElement : Content := .empty (bareTag failure rfl) .nil

/-- `<testsuite><testcase classname="Range" name="x &gt; 5"><failure/></testcase></testsuite>`
with the sign itself in the name. -/
def signReport : Content :=
  .element (bareTag testsuite rfl) noBlanks
    (.element (testTag ['x', ' ', '>', ' ', '5'] (by decide)) noBlanks failureElement .nil) .nil

/-- The failing test is not read. -/
theorem not_readsReport_sign : ¬ ReadsReport sampleEnvironment signReport := by
  intro hreads
  have hlength := hreads.length_eq
  revert hlength
  decide

/-- `<testsuite errors="0" name="a > b">` -/
def rangeSuite : Tag :=
  ⟨testsuite, [spelled errorsKey ['0'] rfl (by decide),
    spelled nameKey ['a', ' ', '>', ' ', 'b'] rfl (by decide)], noBlanks, rfl, by decide⟩

/-- `<testcase classname="Range" name="low" data-name="x"/>` -/
def lowTag : Tag :=
  ⟨testcase, [rangeClass, spelled nameKey ['l', 'o', 'w'] rfl (by decide),
    spelled ['d', 'a', 't', 'a', '-', 'n', 'a', 'm', 'e'] ['x'] rfl (by decide)], noBlanks, rfl,
    by decide⟩

/-- A suite with a passing and a failing test. -/
def rangeReport : Content :=
  .element rangeSuite noBlanks
    (.empty lowTag
      (.element (testTag ['h', 'i', 'g', 'h'] (by decide)) noBlanks failureElement .nil)) .nil

theorem readsReport_range : ReadsReport sampleEnvironment rangeReport :=
  (readsReport_iff sampleEnvironment rangeReport (by decide)).2
    ⟨by decide, by decide, by decide⟩

end Samples

end GovernedRuntime.Providers.JUnit
