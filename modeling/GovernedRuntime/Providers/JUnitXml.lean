/-
The scanner of JUnit XML reports (`src/providers/assertion-parsers/junit-xml.ts`): regular
expressions over the text stand in for a parser.
-/
import GovernedRuntime.Library.TextSearch
import GovernedRuntime.Providers.JsonReports

namespace GovernedRuntime.Providers.JUnit

open GovernedRuntime.Library

/-! ### The patterns -/

def testcase : List Char := ['t', 'e', 's', 't', 'c', 'a', 's', 'e']
def testsuite : List Char := ['t', 'e', 's', 't', 's', 'u', 'i', 't', 'e']
def failure : List Char := ['f', 'a', 'i', 'l', 'u', 'r', 'e']
def error : List Char := ['e', 'r', 'r', 'o', 'r']
def skipped : List Char := ['s', 'k', 'i', 'p', 'p', 'e', 'd']
def classnameKey : List Char := ['c', 'l', 'a', 's', 's', 'n', 'a', 'm', 'e']
def nameKey : List Char := ['n', 'a', 'm', 'e']
def errorsKey : List Char := ['e', 'r', 'r', 'o', 'r', 's']

/-- `\b` after a letter. -/
def atWordEnd (text : List Char) : Bool := !text.head?.any isWord

/-- `<name\b` at the start of the text, with what follows it. -/
def afterTagName? (name text : List Char) : Option (List Char) :=
  (afterWord? ('<' :: name) text).filter atWordEnd

/-- `<name\b[^>]*>`: what stands before the `>`, and what follows it. -/
def openTag? (name text : List Char) : Option (List Char × List Char) :=
  (afterTagName? name text).bind (splitFirst ['>'])

/-- `/<name\b/.test(text)` -/
def hasTag (name : List Char) : List Char → Bool
  | [] => false
  | c :: rest => (afterTagName? name (c :: rest)).isSome || hasTag name rest

/-- `\bkey="([^"]*)"` of a tag; the flag says that a word letter stands before. -/
def attributeValue (key : List Char) : Bool → List Char → Option (List Char)
  | _, [] => none
  | afterWord, c :: rest =>
      let value :=
        if afterWord then none
        else (afterWord? (key ++ ['=', '"']) (c :: rest)).bind (splitFirst ['"'])
      match value with
      | some (value, _) => some value
      | none => attributeValue key (isWord c) rest

/-! ### Test cases -/

structure JUnitTestCaseRef where
  classname : List Char
  name : List Char
  /-- `xmlContent.slice(offset, endOffset)` -/
  region : List Char
deriving DecidableEq, Repr

def closeTag : List Char := ['<', '/', 't', 'e', 's', 't', 'c', 'a', 's', 'e', '>']

/-- The test case of a matched tag, from what stands in the tag behind its name and what
follows it. -/
def testCaseRef (inner after : List Char) : Option JUnitTestCaseRef :=
  match attributeValue classnameKey true inner,
      attributeValue nameKey true inner with
  | some classname, some name =>
      let region :=
        if ['/'] <:+ inner then []
        else ((splitFirst closeTag after).map (·.1)).getD []
      some ⟨classname, name, region⟩
  | _, _ => none

/-- The matches of `/<testcase\b[^>]*>/g`; the flag says that the text goes on inside of the
last match. -/
def collectJUnitTestCases : Bool → List Char → List JUnitTestCaseRef
  | _, [] => []
  | true, c :: rest => collectJUnitTestCases (c != '>') rest
  | false, c :: rest =>
      match openTag? testcase (c :: rest) with
      | some (inner, after) =>
          (testCaseRef inner after).toList ++ collectJUnitTestCases true rest
      | none => collectJUnitTestCases false rest

/-! ### Errors of suites -/

/-- `(\d+)"` -/
def readNumber (text : List Char) : Option Nat :=
  match text.takeWhile Char.isDigit, text.dropWhile Char.isDigit with
  | c :: digits, '"' :: _ =>
      some ((c :: digits).foldl (fun value digit => 10 * value + (digit.toNat - '0'.toNat)) 0)
  | _, _ => none

def errorsWord : List Char := errorsKey ++ ['=', '"']

/-- `[^>]*errors="(\d+)"`: the last such attribute of the tag. -/
def lastErrors : List Char → Option Nat
  | [] => none
  | '>' :: _ => none
  | c :: rest =>
      match lastErrors rest with
      | some errors => some errors
      | none => (afterWord? errorsWord (c :: rest)).bind readNumber

/-- `/<testsuite\b[^>]*errors="(\d+)"/`: of the first tag that has them. -/
def suiteErrors? : List Char → Option Nat
  | [] => none
  | c :: rest =>
      match (afterTagName? testsuite (c :: rest)).bind lastErrors with
      | some errors => some errors
      | none => suiteErrors? rest

def readSuiteErrors (xmlContent : List Char) : Nat := (suiteErrors? xmlContent).getD 0

/-! ### Failure details -/

/-- What follows a run of characters that are not `>`, the longest run first. -/
def afterRuns : List Char → List (List Char)
  | [] => [[]]
  | '>' :: rest => ['>' :: rest]
  | c :: rest => afterRuns rest ++ [c :: rest]

/-- `[^>]*key="([^"]*)"`, in the order the matcher tries. -/
def attributesAfter (key text : List Char) : List (List Char × List Char) :=
  (afterRuns text).filterMap fun rest =>
    (afterWord? (key ++ ['=', '"']) rest).bind (splitFirst ['"'])

/-- `<name\b[^>]*type="([^"]*)"[^>]*message="([^"]*)"[^>]*>` at the start of the text. -/
def detailsAt (name text : List Char) : Option (List Char × List Char) :=
  ((afterTagName? name text).elim [] (attributesAfter "type".toList)).findSome? fun type =>
    (attributesAfter "message".toList type.2).findSome? fun message =>
      if '>' ∈ message.2 then some (type.1, message.1) else none

def failureDetails (name : List Char) : List Char → Option (List Char × List Char)
  | [] => none
  | c :: rest => (detailsAt name (c :: rest)).or (failureDetails name rest)

/-! ### The parser -/

section Parser

variable {N : Type} (env : ReportEnvironment N)

/-- `classname.split('.').slice(0, -1).join('.') || undefined` -/
def suiteNameOf (classname : List Char) : Option String :=
  let name := ".".intercalate ((classname.splitOn '.').dropLast.map String.ofList)
  if name = "" then none else some name

def buildFailure (name region : List Char) : AssertionFailure :=
  let details := failureDetails name region
  ⟨details.map fun found => String.ofList found.1, details.map fun found => String.ofList found.2,
    some (env.hashText (String.ofList region))⟩

/-- The status of a region, with the failure it shows. -/
def regionStatus (region : List Char) : AssertionStatus × Option AssertionFailure :=
  if hasTag skipped region then (.skipped, none)
  else if hasTag error region then
    (.errored, some (buildFailure env error region))
  else if hasTag failure region then
    (.failed, some (buildFailure env failure region))
  else (.passed, none)

def buildJUnitAssertion (testCase : JUnitTestCaseRef) : AssertionEvidence N :=
  let status := regionStatus env testCase.region
  { providerId := env.providerId
    localId := buildJUnitLocalId (String.ofList testCase.classname) (String.ofList testCase.name)
    status := status.1
    suiteName := suiteNameOf testCase.classname
    testName := .string (String.ofList testCase.name)
    sourceFile := none
    failure := status.2 }

def buildJUnitSummary (assertions : List (AssertionEvidence N)) (suiteErrors : Nat) :
    AssertionExtractionSummary :=
  { assertionCount := assertions.length
    passedCount := countByStatus assertions .passed
    failedCount := countByStatus assertions .failed
    erroredCount := countByStatus assertions .errored
    skippedCount := countByStatus assertions .skipped
    suiteInfrastructureError := decide (0 < suiteErrors) &&
      countByStatus assertions .failed + countByStatus assertions .errored == 0 }

/-- ASCII letters only are lowered: no other character is folded into the letters of the tags. -/
def hasReportShape (xmlContent : List Char) : Bool :=
  hasTag testsuite (lowered xmlContent) || hasTag testcase (lowered xmlContent)

def parseJUnitXml (xmlContent : String) : Except ReportError (ParserResult N) :=
  let text := xmlContent.toList
  let suiteErrors := readSuiteErrors text
  if !hasReportShape text then
    .error (.parseFailed
      "junit_xml: not a valid JUnit XML report — no <testsuite> or <testcase> tags found")
  else
    let testCases := collectJUnitTestCases false text
    if testCases.isEmpty && decide (0 < suiteErrors) then .ok ⟨[], ⟨0, 0, 0, 0, 0, true⟩⟩
    else
      let assertions := testCases.map (buildJUnitAssertion env)
      .ok ⟨assertions, buildJUnitSummary assertions suiteErrors⟩

end Parser

end GovernedRuntime.Providers.JUnit
