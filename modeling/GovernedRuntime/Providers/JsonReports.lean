/-
Test reports in JSON and what the parsers of jest, vitest, pytest and `go test` reports make
of them (`src/providers/assertion-parsers/`, `src/verification/assertion-extractor.ts`).
-/
import GovernedRuntime.Activation.Revision
import GovernedRuntime.Library.JsonText
import GovernedRuntime.Providers.LocalIdentity
import Mathlib.Algebra.GroupWithZero.Nat

namespace GovernedRuntime.Providers

open GovernedRuntime.Activation (trim)
open GovernedRuntime.Library (Json JsonNumber)

variable {N : Type} [JsonNumber N]

/-! ### Evidence -/

inductive AssertionStatus
  | passed
  | failed
  | errored
  | skipped
deriving DecidableEq, Repr

def AssertionStatus.isFailure : AssertionStatus → Bool
  | .failed => true
  | .errored => true
  | _ => false

structure AssertionFailure where
  type : Option String
  message : Option String
  detailDigest : Option String
deriving DecidableEq, Repr

/-- The evidence of one test; its duration is left out. -/
structure AssertionEvidence (N : Type) where
  providerId : String
  localId : String
  status : AssertionStatus
  suiteName : Option String
  testName : Json N
  sourceFile : Option String
  failure : Option AssertionFailure

structure AssertionExtractionSummary where
  assertionCount : Nat
  passedCount : Nat
  failedCount : Nat
  erroredCount : Nat
  skippedCount : Nat
  suiteInfrastructureError : Bool
deriving DecidableEq, Repr

structure ParserResult (N : Type) where
  assertions : List (AssertionEvidence N)
  summary : AssertionExtractionSummary

def countByStatus (assertions : List (AssertionEvidence N)) (status : AssertionStatus) : Nat :=
  (assertions.filter (·.status == status)).length

def buildSummary (assertions : List (AssertionEvidence N)) : AssertionExtractionSummary :=
  { assertionCount := assertions.length
    passedCount := countByStatus assertions .passed
    failedCount := countByStatus assertions .failed
    erroredCount := countByStatus assertions .errored
    skippedCount := countByStatus assertions .skipped
    suiteInfrastructureError := false }

def emptyResult : ParserResult N := ⟨[], ⟨0, 0, 0, 0, 0, false⟩⟩

/-! ### Reading values -/

/-- Why a parser throws: its own error, or a property read or a call that a value does not
have. -/
inductive ReportError
  | parseFailed (message : String)
  | typeError
deriving DecidableEq, Repr

/-- What the parsers take from the runtime: hashing, and the text of a value that is not a
string; a value without one throws. -/
structure ReportEnvironment (N : Type) where
  providerId : String
  hashText : String → String
  valueText : Json N → Option String

/-- `value.key` -/
def property (value : Json N) (key : String) : Except ReportError (Option (Json N)) :=
  match value with
  | .null => .error .typeError
  | value => .ok (value.get? key)

/-- `value ?? undefined` -/
def defined : Option (Json N) → Option (Json N)
  | some .null => none
  | value => value

def isTruthy : Option (Json N) → Bool
  | none => false
  | some .null => false
  | some (.bool value) => value
  | some (.number value) => JsonNumber.natural value != some 0
  | some (.string text) => text != ""
  | some _ => true

/-- The value is the given text. -/
def isText (value : Option (Json N)) (text : String) : Bool :=
  match value with
  | some (.string found) => found == text
  | _ => false

section Reading

variable (env : ReportEnvironment N)

def textOf : Json N → Except ReportError String
  | .string text => .ok text
  | value => (env.valueText value).elim (.error .typeError) .ok

/-- An item as `join` writes it. -/
def itemText : Json N → Except ReportError String
  | .null => .ok ""
  | item => textOf env item

def firstLine (text : String) : String := String.ofList (text.toList.takeWhile (· != '\n'))

/-! ### jest and vitest -/

def mapScriptStatus : Json N → AssertionStatus
  | .string "passed" => .passed
  | .string "failed" => .failed
  | _ => .skipped

/-- `messages?.[0]` -/
def firstMessage (messages : Option (Json N)) : Option (Json N) :=
  match messages with
  | some (.array items) => items.head?
  | some (.string text) => text.toList.head?.map fun c => .string (String.singleton c)
  | some value => value.get? "0"
  | none => none

def buildScriptFailure (message : Option (Json N)) : Except ReportError AssertionFailure :=
  if !isTruthy message then .ok ⟨none, none, none⟩
  else
    match message with
    | some (.string text) => .ok ⟨none, some (firstLine text), some (env.hashText text)⟩
    | _ => .error .typeError

/-- Drops `:line:column` at the end. -/
def withoutPosition (location : String) : String :=
  let reversed := location.toList.reverse
  let column := reversed.takeWhile Char.isDigit
  match reversed.dropWhile Char.isDigit with
  | ':' :: rest =>
      match rest.dropWhile Char.isDigit with
      | ':' :: path =>
          if column.isEmpty || (rest.takeWhile Char.isDigit).isEmpty then location
          else String.ofList path.reverse
      | _ => location
  | _ => location

def readLocation (location : Option (Json N)) : Except ReportError (Option String) :=
  if !isTruthy location then .ok none
  else
    match location with
    | some (.string text) => .ok (some (withoutPosition text))
    | _ => .error .typeError

def readTitles (ancestorTitles : Option (Json N)) : Except ReportError (List String) :=
  match defined ancestorTitles with
  | none => .ok []
  | some (.array items) => items.mapM (itemText env)
  | some _ => .error .typeError

/-- The identity of an entry of a file's results. -/
def scriptLocalId (fileName ar : Json N) : Except ReportError String := do
  let ancestors ← readTitles env (← property ar "ancestorTitles")
  let title ← textOf env ((defined (← property ar "title")).getD (.string "unknown"))
  match fileName with
  | .string filePath => .ok (buildScriptLocalId filePath ancestors title)
  | _ => .error .typeError

/-- Only jest reports where a test stands. -/
def scriptSourceFile (readsLocation : Bool) (ar : Json N) :
    Except ReportError (Option String) :=
  if readsLocation then do readLocation (← property ar "location") else .ok none

def scriptFailure (status : AssertionStatus) (ar : Json N) :
    Except ReportError (Option AssertionFailure) :=
  if status = .failed then do
    some <$> buildScriptFailure env (firstMessage (← property ar "failureMessages"))
  else .ok none

def buildScriptAssertion (readsLocation : Bool) (fileName ar : Json N) :
    Except ReportError (AssertionEvidence N) := do
  let ancestors ← readTitles env (← property ar "ancestorTitles")
  let status := mapScriptStatus ((defined (← property ar "status")).getD (.string "passed"))
  let localId ← scriptLocalId env fileName ar
  let sourceFile ← scriptSourceFile readsLocation ar
  let failure ← scriptFailure env status ar
  .ok
    { providerId := env.providerId
      localId := localId
      status := status
      suiteName := if ancestors.isEmpty then none else some (" > ".intercalate ancestors)
      testName := (defined (← property ar "title")).getD (.string "unknown")
      sourceFile := sourceFile
      failure := failure }

def scriptFileAssertions (readsLocation : Bool) (testResult : Json N) :
    Except ReportError (List (AssertionEvidence N)) := do
  let fileName := (defined (← property testResult "name")).getD (.string "unknown")
  match ← property testResult "assertionResults" with
  | some (.array items) => items.mapM (buildScriptAssertion env readsLocation fileName)
  | _ => .ok []

def parseScriptJson (format : String) (readsLocation : Bool) (jsonText : String) :
    Except ReportError (ParserResult N) :=
  match (Json.parse jsonText : Option (Json N)) with
  | none => .error (.parseFailed (format ++ ": failed to parse JSON report"))
  | some report =>
      match report.get? "testResults" with
      | some (.array (first :: rest)) => do
          let assertions ← (first :: rest).mapM (scriptFileAssertions env readsLocation)
          .ok ⟨assertions.flatten, buildSummary assertions.flatten⟩
      | _ => .ok emptyResult

def parseJestJson := parseScriptJson env "jest_json" true

def parseVitestJson := parseScriptJson env "vitest_json" false

/-! ### pytest -/

def mapPytestStatus : Json N → AssertionStatus
  | .string "passed" => .passed
  | .string "failed" => .failed
  | .string "error" => .errored
  | _ => .skipped

/-- `test.phase?.outcome` -/
def phaseOutcome (test : Json N) (phase : String) : Option (Json N) :=
  (test.get? phase).bind (·.get? "outcome")

def buildPytestCallFailure (longrepr : Option (Json N)) :
    Except ReportError (Option AssertionFailure) :=
  if !isTruthy longrepr then .ok none
  else
    match longrepr with
    | some (.string text) =>
        let message := firstLine text
        .ok (some ⟨none, if message = "" then none else some message, some (env.hashText text)⟩)
    | _ => .error .typeError

def buildPytestFailure (test : Json N) (status : AssertionStatus) :
    Except ReportError (Option AssertionFailure) :=
  let longrepr := (test.get? "call").bind (·.get? "longrepr")
  match status with
  | .failed => buildPytestCallFailure env longrepr
  | .errored =>
      if isText (phaseOutcome test "setup") "error" ||
          isText (phaseOutcome test "teardown") "error" then
        buildPytestCallFailure env longrepr
      else .ok none
  | _ => .ok none

/-- The call phase decides where it has an outcome, else the test as a whole. -/
def pytestOutcome (test : Json N) : Json N :=
  (defined (phaseOutcome test "call")).getD
    ((defined (test.get? "outcome")).getD (.string "skipped"))

/-- What follows the last `::`. -/
def lastNodePart (nodeId : String) : String :=
  let rec scan : List Char → List Char → List Char
    | _, ':' :: ':' :: rest => scan rest rest
    | part, _ :: rest => scan part rest
    | part, [] => part
  String.ofList (scan nodeId.toList nodeId.toList)

def buildPytestAssertion (test : Json N) :
    Except ReportError (Option (AssertionEvidence N)) := do
  let nodeId ← property test "nodeid"
  if !isTruthy nodeId then .ok none
  else
    match nodeId with
    | some (.string nodeId) => do
        let status := mapPytestStatus (pytestOutcome test)
        let failure ← buildPytestFailure env test status
        .ok (some
          { providerId := env.providerId
            localId := buildPytestLocalId nodeId
            status := status
            suiteName := none
            testName := .string (lastNodePart nodeId)
            sourceFile := none
            failure := failure })
    | _ => .error .typeError

def parsePytestJson (jsonText : String) : Except ReportError (ParserResult N) :=
  match (Json.parse jsonText : Option (Json N)) with
  | none => .error (.parseFailed "pytest_json: failed to parse JSON report")
  | some report =>
      match report.get? "tests" with
      | some (.array (first :: rest)) => do
          let built ← (first :: rest).mapM (buildPytestAssertion env)
          let assertions := built.filterMap id
          .ok ⟨assertions, buildSummary assertions⟩
      | _ => .ok emptyResult

/-! ### go test -/

def mapGoStatus (action : Option (Json N)) : AssertionStatus :=
  if isText action "pass" then .passed
  else if isText action "fail" then .failed
  else .skipped

/-- An event of a line; a line that is no JSON value, or the value null, is passed over. -/
def parseGoEventLine (line : String) : Option (Json N) :=
  if trim line = "" then none
  else
    match (Json.parse (trim line) : Option (Json N)) with
    | some .null => none
    | event => event

def goEvents (eventsJson : String) : List (Json N) :=
  (eventsJson.toList.splitOn '\n').filterMap fun line => parseGoEventLine (String.ofList line)

/-- The package and the test an event is about; only tests with a truthy name are. -/
def goTest (event : Json N) : Except ReportError (Option (String × String)) := do
  match event.get? "Test" with
  | some test =>
      if !isTruthy (some test) then .ok none
      else do
        let pkg ← textOf env ((defined (event.get? "Package")).getD (.string ""))
        let name ← textOf env test
        .ok (some (pkg, name))
  | none => .ok none

def testKey (test : String × String) : String := test.1 ++ "\x00" ++ test.2

def isTerminalGoAction (action : Option (Json N)) : Bool :=
  isText action "pass" || isText action "fail" || isText action "skip"

/-- The first output that is not blank, without surrounding blanks. -/
def firstGoOutput : List (Json N) → Except ReportError (Option String)
  | [] => .ok none
  | .string text :: rest => if trim text = "" then firstGoOutput rest else .ok (some (trim text))
  | _ :: _ => .error .typeError

def buildFailedGoFailure (outputs : List (Json N)) : Except ReportError AssertionFailure := do
  let line ← firstGoOutput outputs
  let joined ← outputs.mapM (itemText env)
  .ok ⟨none, line.map firstLine,
    if outputs.isEmpty then none else some (env.hashText (String.join joined))⟩

/-- The outputs of the tests that have not ended, by their keys. -/
abbrev GoOutputs (N : Type) := List (String × List (Json N))

def recordGoTestOutput (outputs : GoOutputs N) (test : String × String) (event : Json N) :
    GoOutputs N :=
  let text := (defined (event.get? "Output")).getD (.string "")
  (testKey test, ((outputs.lookup (testKey test)).getD []) ++ [text]) ::
    outputs.filter (·.1 != testKey test)

def goFailure (status : AssertionStatus) (outputs : List (Json N)) :
    Except ReportError (Option AssertionFailure) :=
  if status = .failed then some <$> buildFailedGoFailure env outputs else .ok none

def buildTerminalGoAssertion (outputs : GoOutputs N) (test : String × String) (event : Json N) :
    Except ReportError (AssertionEvidence N) := do
  let status := mapGoStatus (event.get? "Action")
  let failure ← goFailure env status ((outputs.lookup (testKey test)).getD [])
  .ok
    { providerId := env.providerId
      localId := buildGoLocalId test.1 test.2
      status := status
      suiteName := if isTruthy (event.get? "Package") then some test.1 else none
      testName := (event.get? "Test").getD .null
      sourceFile := none
      failure := failure }

/-- The outputs seen so far and the assertion the event ends a test with. -/
def processGoTestEvent (outputs : GoOutputs N) (event : Json N) :
    Except ReportError (GoOutputs N × Option (AssertionEvidence N)) := do
  let action := event.get? "Action"
  if isText action "output" then
    match ← goTest env event with
    | some test => .ok (recordGoTestOutput outputs test event, none)
    | none => .ok (outputs, none)
  else if isTerminalGoAction action then
    match ← goTest env event with
    | some test => do
        let assertion ← buildTerminalGoAssertion env outputs test event
        .ok (outputs.filter (·.1 != testKey test), some assertion)
    | none => .ok (outputs, none)
  else .ok (outputs, none)

def goAssertions : GoOutputs N → List (Json N) → Except ReportError (List (AssertionEvidence N))
  | _, [] => .ok []
  | outputs, event :: rest => do
      let (outputs, assertion) ← processGoTestEvent env outputs event
      let assertions ← goAssertions outputs rest
      .ok (assertion.toList ++ assertions)

def parseGoTestJson (eventsJson : String) : Except ReportError (ParserResult N) := do
  let assertions ← goAssertions env [] (goEvents eventsJson)
  if assertions.isEmpty then .ok emptyResult
  else .ok ⟨assertions, buildSummary assertions⟩

/-! ### Collected reports -/

inductive JsonReportFormat
  | jestJson
  | vitestJson
  | pytestJson
  | goTestJson
deriving DecidableEq, Repr

def parseWithFormat (format : JsonReportFormat) (content : String) :
    Except ReportError (ParserResult N) :=
  match format with
  | .jestJson => parseJestJson env content
  | .vitestJson => parseVitestJson env content
  | .pytestJson => parsePytestJson env content
  | .goTestJson => parseGoTestJson env content

end Reading

def mergeSummaries (summaries : List AssertionExtractionSummary) : AssertionExtractionSummary :=
  { assertionCount := (summaries.map (·.assertionCount)).sum
    passedCount := (summaries.map (·.passedCount)).sum
    failedCount := (summaries.map (·.failedCount)).sum
    erroredCount := (summaries.map (·.erroredCount)).sum
    skippedCount := (summaries.map (·.skippedCount)).sum
    suiteInfrastructureError := summaries.any (·.suiteInfrastructureError) }

/-- The report files of one check, parsed one by one and put together. -/
def parseCollectedFiles (env : ReportEnvironment N) (format : JsonReportFormat)
    (contents : List String) : Except ReportError (ParserResult N) := do
  let parsed ← contents.mapM (parseWithFormat env format)
  .ok ⟨parsed.flatMap (·.assertions), mergeSummaries (parsed.map (·.summary))⟩

end GovernedRuntime.Providers
