/-
What the frameworks report about their tests, and when the parsed evidence says the same: no
failure is lost, and no pass comes from anything but a reported one.
-/
import GovernedRuntime.Library.Outcomes
import GovernedRuntime.Providers.JsonReports

namespace GovernedRuntime.Providers

open GovernedRuntime.Library (Json JsonNumber bind_eq_ok_iff)

variable {N : Type}

/-! ### Reported tests -/

/-- A test as its framework reports it. -/
structure TestEntry where
  localId : Option String
  /-- Failed or errored, in any phase; for Go also a test that never ended. -/
  failing : Bool
  /-- Passed by an explicit status. -/
  passing : Bool

section Entries

variable [JsonNumber N] (env : ReportEnvironment N)

/-- The entries of a file's results, each with the file's name. -/
def scriptFileTests (testResult : Json N) : List (Json N × Json N) :=
  match testResult.get? "assertionResults" with
  | some (.array items) =>
      items.map fun ar => ((defined (testResult.get? "name")).getD (.string "unknown"), ar)
  | _ => []

def scriptTests (report : Json N) : List (Json N × Json N) :=
  match report.get? "testResults" with
  | some (.array testResults) => testResults.flatMap scriptFileTests
  | _ => []

def scriptEntry (test : Json N × Json N) : TestEntry where
  localId := (scriptLocalId env test.1 test.2).toOption
  failing := isText (test.2.get? "status") "failed"
  passing := isText (test.2.get? "status") "passed"

def pytestTests (report : Json N) : List (Json N) :=
  match report.get? "tests" with
  | some (.array tests) => tests
  | _ => []

def isFailureOutcome (outcome : Option (Json N)) : Bool :=
  isText outcome "failed" || isText outcome "error"

def pytestFails (test : Json N) : Bool :=
  isFailureOutcome (test.get? "outcome") || isFailureOutcome (phaseOutcome test "setup") ||
    isFailureOutcome (phaseOutcome test "call") || isFailureOutcome (phaseOutcome test "teardown")

def pytestNodeId (test : Json N) : Option String :=
  match test.get? "nodeid" with
  | some (.string nodeId) => if nodeId = "" then none else some nodeId
  | _ => none

def pytestEntry (test : Json N) : TestEntry where
  localId := pytestNodeId test
  failing := pytestFails test
  passing := isText (test.get? "outcome") "passed" || isText (phaseOutcome test "call") "passed"

/-- The test of an event that ends one. -/
def endedGoTest (event : Json N) : Option (String × String) :=
  if isTerminalGoAction (event.get? "Action") then (goTest env event).toOption.join else none

/-- The test of an event that starts one. -/
def startedGoTest (event : Json N) : Option (String × String) :=
  if isText (event.get? "Action") "run" then (goTest env event).toOption.join else none

def endsIn (test : String × String) (events : List (Json N)) : Bool :=
  events.any fun event => endedGoTest env event == some test

/-- The end of a test, or its start when no end follows. -/
def goEntry (event : Json N) (later : List (Json N)) : Option TestEntry :=
  match endedGoTest env event, startedGoTest env event with
  | some test, _ => some
      { localId := some (buildGoLocalId test.1 test.2)
        failing := isText (event.get? "Action") "fail"
        passing := isText (event.get? "Action") "pass" }
  | none, some test =>
      if endsIn env test later then none
      else some ⟨some (buildGoLocalId test.1 test.2), true, false⟩
  | none, none => none

def goEntries : List (Json N) → List TestEntry
  | [] => []
  | event :: later => (goEntry env event later).toList ++ goEntries later

def reportEntries (format : JsonReportFormat) (content : String) : List TestEntry :=
  match format with
  | .goTestJson => goEntries env (goEvents content)
  | .pytestJson => ((Json.parse content).toList.flatMap pytestTests).map (pytestEntry (N := N))
  | _ => ((Json.parse content).toList.flatMap scriptTests).map (scriptEntry env)

end Entries

/-- The evidence loses no failing test, makes no pass of its own and counts what it has. -/
structure Faithful (entries : List TestEntry) (result : ParserResult N) : Prop where
  failures : ∀ localId,
    entries.countP (fun entry => entry.failing && entry.localId == localId) ≤
      result.assertions.countP fun a => a.status.isFailure && some a.localId == localId
  passes : ∀ localId,
    result.assertions.countP (fun a => a.status == .passed && some a.localId == localId) ≤
      entries.countP fun entry => entry.passing && entry.localId == localId
  total : result.summary.assertionCount = result.assertions.length
  counted : result.summary.passedCount + result.summary.failedCount +
    result.summary.erroredCount + result.summary.skippedCount = result.summary.assertionCount

/-! ### Entries and what is made of them -/

/-- An entry with the status of the assertion it becomes, when it becomes one. -/
structure ReadEntry extends TestEntry where
  reported : Option AssertionStatus

namespace ReadEntry

def reportedFailure (read : ReadEntry) : Bool := read.reported.any (·.isFailure)

def reportedPass (read : ReadEntry) : Bool := read.reported == some .passed

/-- The entry is reported as what it is, as far as failures and passes go. -/
def WellRead (read : ReadEntry) : Prop :=
  (read.failing = true → read.reportedFailure = true) ∧
    (read.reportedPass = true → read.passing = true)

end ReadEntry

/-- The identity and the status of the assertion an entry becomes. -/
def ReadEntry.shown (read : ReadEntry) : Option (Option String × AssertionStatus) :=
  read.reported.map (read.localId, ·)

def AssertionEvidence.shown (assertion : AssertionEvidence N) : Option String × AssertionStatus :=
  (some assertion.localId, assertion.status)

/-- How assertions come from entries: in their order, failures from failing entries only, and
passes either only from passing entries or from all of these. -/
structure ReadsOf (allPasses : Bool) (reads : List ReadEntry)
    (assertions : List (AssertionEvidence N)) : Prop where
  same : assertions.map (·.shown) = reads.filterMap (·.shown)
  sound : ∀ read ∈ reads, read.reportedFailure = true → read.failing = true
  passes : ∀ read ∈ reads,
    if allPasses then read.passing = true → read.reportedPass = true
    else read.reportedPass = true → read.passing = true

theorem countP_le_iff {α : Type} {items : List α} {p q : α → Bool}
    (himp : ∀ item ∈ items, q item = true → p item = true) :
    items.countP p ≤ items.countP q ↔ ∀ item ∈ items, p item = true → q item = true := by
  induction items with
  | nil => simp
  | cons first rest ih =>
      have hrest := ih fun item hitem => himp item (List.mem_cons_of_mem _ hitem)
      have hfirst := himp first List.mem_cons_self
      have hmono : rest.countP q ≤ rest.countP p :=
        List.countP_mono_left fun item hitem => himp item (List.mem_cons_of_mem _ hitem)
      rw [List.forall_mem_cons, ← hrest, List.countP_cons, List.countP_cons]
      by_cases hp : p first = true <;> by_cases hq : q first = true <;> simp [hp, hq] <;>
        first | omega | exact absurd (hfirst hq) hp

/-- A count over the assertions is a count over the entries. -/
theorem ReadsOf.countP_eq {allPasses : Bool} {reads : List ReadEntry}
    {assertions : List (AssertionEvidence N)} (hreads : ReadsOf allPasses reads assertions)
    (p : AssertionStatus → Bool) (localId : Option String) :
    assertions.countP (fun a => p a.status && some a.localId == localId) =
      reads.countP fun read => read.reported.any p && read.localId == localId := by
  have hmap : assertions.countP (fun a => p a.status && some a.localId == localId) =
      (assertions.map (·.shown)).countP fun pair => p pair.2 && pair.1 == localId := by
    rw [List.countP_map]
    rfl
  rw [hmap, hreads.same, List.countP_filterMap]
  apply List.countP_congr
  intro read _
  rw [ReadEntry.shown]
  cases read.reported <;> simp

theorem countByStatus_sum (assertions : List (AssertionEvidence N)) :
    countByStatus assertions .passed + countByStatus assertions .failed +
      countByStatus assertions .errored + countByStatus assertions .skipped =
        assertions.length := by
  induction assertions with
  | nil => rfl
  | cons first rest ih =>
      simp only [countByStatus, List.filter_cons, List.length_cons] at ih ⊢
      rw [← ih]
      cases first.status <;> simp <;> omega

/-- Counts for every identity compare as the tests they count do. -/
theorem countP_localId_le_iff {reads : List ReadEntry} {p q : ReadEntry → Bool}
    (himp : ∀ read ∈ reads, q read = true → p read = true) :
    (∀ localId, reads.countP (fun read => p read && read.localId == localId) ≤
      reads.countP fun read => q read && read.localId == localId) ↔
      ∀ read ∈ reads, p read = true → q read = true := by
  have himp' : ∀ localId, ∀ read ∈ reads, (q read && read.localId == localId) = true →
      (p read && read.localId == localId) = true := by
    intro localId read hread hboth
    rw [Bool.and_eq_true] at hboth ⊢
    exact ⟨himp read hread hboth.1, hboth.2⟩
  constructor
  · intro hle read hread hp
    have hq := (countP_le_iff (himp' read.localId)).1 (hle read.localId) read hread
    simp only [hp, beq_self_eq_true, Bool.and_self, Bool.and_true, forall_const] at hq
    exact hq
  · intro hall localId
    rw [countP_le_iff (himp' localId)]
    intro read hread hboth
    rw [Bool.and_eq_true] at hboth ⊢
    exact ⟨hall read hread hboth.1, hboth.2⟩

section ReadsOf

variable {allPasses : Bool} {reads : List ReadEntry} {result : ParserResult N}

theorem ReadsOf.failures_iff (hreads : ReadsOf allPasses reads result.assertions) :
    (∀ localId, (reads.map (·.toTestEntry)).countP
        (fun entry => entry.failing && entry.localId == localId) ≤
      result.assertions.countP fun a => a.status.isFailure && some a.localId == localId) ↔
      ∀ read ∈ reads, read.failing = true → read.reportedFailure = true := by
  rw [← countP_localId_le_iff hreads.sound]
  apply forall_congr'
  intro localId
  rw [List.countP_map, hreads.countP_eq AssertionStatus.isFailure]
  rfl

theorem ReadsOf.passes_iff (hreads : ReadsOf allPasses reads result.assertions) :
    (∀ localId, result.assertions.countP
        (fun a => a.status == .passed && some a.localId == localId) ≤
      (reads.map (·.toTestEntry)).countP
        fun entry => entry.passing && entry.localId == localId) ↔
      ∀ read ∈ reads, read.reportedPass = true → read.passing = true := by
  have hcount : ∀ localId, result.assertions.countP
      (fun a => a.status == .passed && some a.localId == localId) =
        reads.countP fun read => read.reportedPass && read.localId == localId := by
    intro localId
    rw [hreads.countP_eq (· == .passed)]
    apply List.countP_congr
    intro read _
    rw [ReadEntry.reportedPass]
    cases read.reported <;> simp
  simp only [hcount, List.countP_map]
  have hpasses := hreads.passes
  cases allPasses with
  | true => exact countP_localId_le_iff hpasses
  | false =>
      refine iff_of_true (fun localId => List.countP_mono_left ?_) hpasses
      intro read hread hboth
      rw [Bool.and_eq_true] at hboth
      simp only [Function.comp_apply, Bool.and_eq_true]
      exact ⟨hpasses read hread hboth.1, hboth.2⟩

/-- A result that is made of entries is faithful exactly when each entry is well read. -/
theorem ReadsOf.faithful_iff (hreads : ReadsOf allPasses reads result.assertions)
    (htotal : result.summary.assertionCount = result.assertions.length)
    (hcounted : result.summary.passedCount + result.summary.failedCount +
      result.summary.erroredCount + result.summary.skippedCount =
        result.summary.assertionCount) :
    Faithful (reads.map (·.toTestEntry)) result ↔ ∀ read ∈ reads, read.WellRead := by
  constructor
  · intro hfaithful read hread
    exact ⟨hreads.failures_iff.1 hfaithful.failures read hread,
      hreads.passes_iff.1 hfaithful.passes read hread⟩
  · intro hwell
    exact ⟨hreads.failures_iff.2 fun read hread => (hwell read hread).1,
      hreads.passes_iff.2 fun read hread => (hwell read hread).2, htotal, hcounted⟩

end ReadsOf

/-! ### What the parsers make of an entry -/

theorem property_ok {value : Json N} {key : String} {found : Option (Json N)}
    (hread : property value key = .ok found) : found = value.get? key := by
  unfold property at hread
  split at hread
  · cases hread
  · exact (Except.ok.inj hread).symm

theorem isText_iff {value : Option (Json N)} {text : String} :
    isText value text = true ↔ value = some (.string text) := by
  unfold isText
  split
  · simp
  · rename_i hother
    exact iff_of_false (by simp) fun h => hother text h

theorem not_terminal_of_output {action : Option (Json N)} (houtput : isText action "output" = true) :
    isTerminalGoAction action = false := by
  rw [isText_iff] at houtput
  subst houtput
  rfl

theorem mapScriptStatus_passed {value : Json N} :
    mapScriptStatus value = .passed ↔ value = .string "passed" := by
  unfold mapScriptStatus
  split <;> simp_all

theorem mapScriptStatus_failure {value : Json N} :
    (mapScriptStatus value).isFailure = true ↔ value = .string "failed" := by
  unfold mapScriptStatus
  split <;> simp_all [AssertionStatus.isFailure]

theorem defined_eq_string {value : Option (Json N)} {text : String} :
    defined value = some (.string text) ↔ value = some (.string text) := by
  unfold defined
  split <;> simp_all

section Statuses

variable {env : ReportEnvironment N}

/-- What a jest or vitest entry becomes. -/
def scriptRead (env : ReportEnvironment N) (test : Json N × Json N) : ReadEntry :=
  { scriptEntry env test with
    reported := some (mapScriptStatus
      ((defined (test.2.get? "status")).getD (.string "passed"))) }

/-- What a pytest entry becomes. -/
def pytestRead (test : Json N) : ReadEntry :=
  { pytestEntry test with
    reported := (pytestNodeId test).map fun _ => mapPytestStatus (pytestOutcome test) }

theorem scriptRead_failure (test : Json N × Json N) :
    (scriptRead env test).reportedFailure = true ↔ (scriptRead env test).failing = true := by
  simp only [ReadEntry.reportedFailure, scriptRead, scriptEntry, Option.any_some,
    mapScriptStatus_failure, isText_iff]
  cases hstatus : defined (test.2.get? "status") with
  | none =>
      have hne : test.2.get? "status" ≠ some (.string "failed") := by
        rw [Ne, ← defined_eq_string, hstatus]
        simp
      simp [hne]
  | some status => rw [← defined_eq_string, hstatus]; simp

theorem scriptRead_pass (test : Json N × Json N) :
    (scriptRead env test).reportedPass = true ↔
      (scriptRead env test).passing = true ∨ defined (test.2.get? "status") = none := by
  simp only [ReadEntry.reportedPass, scriptRead, scriptEntry, beq_iff_eq, Option.some.injEq,
    mapScriptStatus_passed, isText_iff]
  cases hstatus : defined (test.2.get? "status") with
  | none => simp
  | some status => rw [← defined_eq_string, hstatus]; simp

theorem scriptRead_wellRead (test : Json N × Json N) :
    (scriptRead env test).WellRead ↔ (defined (test.2.get? "status")).isSome = true := by
  rw [ReadEntry.WellRead, scriptRead_failure, scriptRead_pass]
  constructor
  · rintro ⟨-, hpass⟩
    rw [Option.isSome_iff_ne_none]
    intro hnone
    have hpassing := hpass (.inr hnone)
    rw [scriptRead, scriptEntry, isText_iff, ← defined_eq_string, hnone] at hpassing
    cases hpassing
  · intro hsome
    refine ⟨id, fun hpass => hpass.resolve_right ?_⟩
    exact Option.isSome_iff_ne_none.1 hsome

theorem isFailureOutcome_iff {value : Json N} :
    isFailureOutcome (some value) = true ↔ (mapPytestStatus value).isFailure = true := by
  simp only [isFailureOutcome, Bool.or_eq_true, isText_iff, Option.some.injEq]
  unfold mapPytestStatus
  split <;> simp_all [AssertionStatus.isFailure]

theorem mapPytestStatus_passed {value : Json N} :
    mapPytestStatus value = .passed ↔ value = .string "passed" := by
  unfold mapPytestStatus
  split <;> simp_all

/-- The outcome that decides is the call's or the test's own. -/
theorem pytestOutcome_eq {test : Json N} {text : String}
    (houtcome : pytestOutcome test = .string text) (htext : text ≠ "skipped") :
    phaseOutcome test "call" = some (.string text) ∨
      test.get? "outcome" = some (.string text) := by
  unfold pytestOutcome at houtcome
  cases hcall : defined (phaseOutcome test "call") with
  | some outcome =>
      rw [hcall, Option.getD_some] at houtcome
      exact .inl (defined_eq_string.1 (hcall.trans (by rw [houtcome])))
  | none =>
      rw [hcall, Option.getD_none] at houtcome
      cases hown : defined (test.get? "outcome") with
      | some outcome =>
          rw [hown, Option.getD_some] at houtcome
          exact .inr (defined_eq_string.1 (hown.trans (by rw [houtcome])))
      | none =>
          rw [hown, Option.getD_none] at houtcome
          exact absurd (Json.string.inj houtcome).symm htext

theorem pytestRead_failure (test : Json N) :
    (pytestRead test).reportedFailure = true ↔ (pytestNodeId test).isSome = true ∧
      isFailureOutcome (some (pytestOutcome test)) = true := by
  rw [isFailureOutcome_iff, ReadEntry.reportedFailure, pytestRead]
  cases pytestNodeId test <;> simp

theorem pytestRead_sound {test : Json N} (hfailure : (pytestRead test).reportedFailure = true) :
    (pytestRead test).failing = true := by
  have houtcome := ((pytestRead_failure test).1 hfailure).2
  simp only [isFailureOutcome, Bool.or_eq_true, isText_iff, Option.some.injEq] at houtcome
  simp only [pytestRead, pytestEntry, pytestFails, isFailureOutcome, Bool.or_eq_true, isText_iff]
  obtain hfailed | herror := houtcome
  · obtain hcall | hown := pytestOutcome_eq hfailed (by decide) <;> simp [*]
  · obtain hcall | hown := pytestOutcome_eq herror (by decide) <;> simp [*]

theorem pytestRead_pass {test : Json N} (hpass : (pytestRead test).reportedPass = true) :
    (pytestRead test).passing = true := by
  rw [ReadEntry.reportedPass, pytestRead, beq_iff_eq, Option.map_eq_some_iff] at hpass
  obtain ⟨_, -, hstatus⟩ := hpass
  obtain hcall | hown := pytestOutcome_eq (mapPytestStatus_passed.1 hstatus) (by decide) <;>
    simp [pytestRead, pytestEntry, isText_iff, *]

theorem pytestRead_wellRead (test : Json N) :
    (pytestRead test).WellRead ↔ (pytestFails test = true → (pytestNodeId test).isSome = true ∧
      isFailureOutcome (some (pytestOutcome test)) = true) := by
  rw [ReadEntry.WellRead, pytestRead_failure]
  exact and_iff_left pytestRead_pass

theorem mapGoStatus_failure {action : Option (Json N)} :
    (mapGoStatus action).isFailure = true ↔ isText action "fail" = true := by
  unfold mapGoStatus
  by_cases hpass : isText action "pass" = true
  · rw [isText_iff] at hpass
    subst hpass
    simp [isText, AssertionStatus.isFailure]
  · by_cases hfail : isText action "fail" = true <;>
      simp [hpass, hfail, AssertionStatus.isFailure]

theorem mapGoStatus_passed {action : Option (Json N)} :
    mapGoStatus action = .passed ↔ isText action "pass" = true := by
  unfold mapGoStatus
  by_cases hpass : isText action "pass" = true <;>
    by_cases hfail : isText action "fail" = true <;> simp [hpass, hfail]

end Statuses

section Parsers

variable [JsonNumber N] {env : ReportEnvironment N}

theorem buildScriptAssertion_ok {readsLocation : Bool} {fileName ar : Json N}
    {assertion : AssertionEvidence N}
    (hbuilt : buildScriptAssertion env readsLocation fileName ar = .ok assertion) :
    some assertion.localId = (scriptRead env (fileName, ar)).localId ∧
      some assertion.status = (scriptRead env (fileName, ar)).reported := by
  unfold buildScriptAssertion at hbuilt
  obtain ⟨_, -, hbuilt⟩ := bind_eq_ok_iff.1 hbuilt
  obtain ⟨_, -, hbuilt⟩ := bind_eq_ok_iff.1 hbuilt
  obtain ⟨status, hstatus, hbuilt⟩ := bind_eq_ok_iff.1 hbuilt
  obtain rfl := property_ok hstatus
  obtain ⟨localId, hlocalId, hbuilt⟩ := bind_eq_ok_iff.1 hbuilt
  obtain ⟨_, -, hbuilt⟩ := bind_eq_ok_iff.1 hbuilt
  obtain ⟨_, -, hbuilt⟩ := bind_eq_ok_iff.1 hbuilt
  obtain ⟨_, -, hbuilt⟩ := bind_eq_ok_iff.1 hbuilt
  cases hbuilt
  exact ⟨by simp [scriptRead, scriptEntry, hlocalId, Except.toOption], rfl⟩

theorem shown_scriptAssertions {readsLocation : Bool} {fileName : Json N} {items : List (Json N)}
    {assertions : List (AssertionEvidence N)}
    (hbuilt : items.mapM (buildScriptAssertion env readsLocation fileName) = .ok assertions) :
    assertions.map (·.shown) =
      (items.map fun ar => scriptRead env (fileName, ar)).filterMap (·.shown) := by
  have hall := Library.forall₂_of_mapM hbuilt
  clear hbuilt
  induction hall with
  | nil => rfl
  | cons hfirst _ ih =>
      obtain ⟨hlocalId, hstatus⟩ := buildScriptAssertion_ok hfirst
      rw [List.map_cons, List.map_cons, List.filterMap_cons, ih, ReadEntry.shown, ← hstatus,
        ← hlocalId]
      rfl

theorem shown_scriptFile {readsLocation : Bool} {testResult : Json N}
    {assertions : List (AssertionEvidence N)}
    (hread : scriptFileAssertions env readsLocation testResult = .ok assertions) :
    assertions.map (·.shown) =
      ((scriptFileTests testResult).map (scriptRead env)).filterMap (·.shown) := by
  unfold scriptFileAssertions at hread
  obtain ⟨name, hname, hread⟩ := bind_eq_ok_iff.1 hread
  obtain ⟨results, hresults, hread⟩ := bind_eq_ok_iff.1 hread
  obtain rfl := property_ok hname
  obtain rfl := property_ok hresults
  rcases hitems : testResult.get? "assertionResults" with
    _ | (_ | _ | _ | _ | items | _)
  case some.array =>
    simp only [scriptFileTests, hitems, List.map_map] at hread ⊢
    exact shown_scriptAssertions hread
  all_goals
    simp only [scriptFileTests, hitems] at hread ⊢
    cases hread
    rfl

theorem shown_scriptReport {readsLocation : Bool} {testResults : List (Json N)}
    {files : List (List (AssertionEvidence N))}
    (hread : testResults.mapM (scriptFileAssertions env readsLocation) = .ok files) :
    files.flatten.map (·.shown) =
      ((testResults.flatMap scriptFileTests).map (scriptRead env)).filterMap (·.shown) := by
  have hall := Library.forall₂_of_mapM hread
  clear hread
  induction hall with
  | nil => rfl
  | cons hfirst _ ih =>
      rw [List.flatten_cons, List.map_append, List.flatMap_cons, List.map_append,
        List.filterMap_append, ih, shown_scriptFile hfirst]

/-- A result whose assertions are those of the reads, with its own summary. -/
def MadeOf (reads : List ReadEntry) (result : ParserResult N) : Prop :=
  result.assertions.map (·.shown) = reads.filterMap (·.shown) ∧
    result.summary = buildSummary result.assertions

theorem parseScriptJson_ok {format content : String} {readsLocation : Bool}
    {result : ParserResult N}
    (hparsed : parseScriptJson env format readsLocation content = .ok result) :
    MadeOf (((Json.parse content).toList.flatMap scriptTests).map (scriptRead env)) result := by
  unfold parseScriptJson at hparsed
  split at hparsed
  · cases hparsed
  · rename_i report hreport
    rw [hreport, Option.toList_some, List.flatMap_singleton, scriptTests]
    split at hparsed
    · rename_i first rest hresults
      rw [hresults]
      obtain ⟨files, hfiles, hparsed⟩ := bind_eq_ok_iff.1 hparsed
      cases hparsed
      exact ⟨shown_scriptReport hfiles, rfl⟩
    · rename_i hother
      cases hparsed
      split
      · rename_i testResults hresults
        cases testResults with
        | nil => exact ⟨rfl, rfl⟩
        | cons first rest => exact absurd hresults (hother first rest)
      · exact ⟨rfl, rfl⟩

theorem buildPytestAssertion_ok {test : Json N} {assertion : Option (AssertionEvidence N)}
    (hbuilt : buildPytestAssertion env test = .ok assertion) :
    assertion.map (·.shown) = (pytestRead test).shown := by
  unfold buildPytestAssertion at hbuilt
  obtain ⟨nodeId, hnodeId, hbuilt⟩ := bind_eq_ok_iff.1 hbuilt
  obtain rfl := property_ok hnodeId
  simp only [ReadEntry.shown, pytestRead, pytestEntry, pytestNodeId]
  split at hbuilt
  · rename_i hfalsy
    cases hbuilt
    split
    · rename_i text htext
      rw [htext] at hfalsy
      have hempty : text = "" := by simpa [isTruthy] using hfalsy
      simp [hempty]
    · rfl
  · rename_i htruthy
    rcases htext : test.get? "nodeid" with _ | (_ | _ | _ | text | _ | _)
    case some.string =>
      simp only [htext] at hbuilt htruthy ⊢
      have hne : text ≠ "" := by simpa [isTruthy] using htruthy
      obtain ⟨failure, -, hbuilt⟩ := bind_eq_ok_iff.1 hbuilt
      cases hbuilt
      simp [hne, AssertionEvidence.shown, buildPytestLocalId]
    all_goals
      simp only [htext] at hbuilt
      cases hbuilt

theorem shown_pytestAssertions {tests : List (Json N)}
    {built : List (Option (AssertionEvidence N))}
    (hbuilt : tests.mapM (buildPytestAssertion env) = .ok built) :
    (built.filterMap id).map (·.shown) =
      (tests.map (pytestRead (N := N))).filterMap (·.shown) := by
  have hall := Library.forall₂_of_mapM hbuilt
  clear hbuilt
  induction hall with
  | nil => rfl
  | @cons test assertion _ _ hfirst _ ih =>
      have hshown := buildPytestAssertion_ok hfirst
      rw [List.map_cons, List.filterMap_cons, List.filterMap_cons, ← hshown, ← ih]
      cases assertion <;> rfl

theorem parsePytestJson_ok {content : String} {result : ParserResult N}
    (hparsed : parsePytestJson env content = .ok result) :
    MadeOf (((Json.parse content).toList.flatMap pytestTests).map (pytestRead (N := N)))
      result := by
  unfold parsePytestJson at hparsed
  split at hparsed
  · cases hparsed
  · rename_i report hreport
    rw [hreport, Option.toList_some, List.flatMap_singleton, pytestTests]
    split at hparsed
    · rename_i first rest htests
      rw [htests]
      obtain ⟨built, hbuilt, hparsed⟩ := bind_eq_ok_iff.1 hparsed
      cases hparsed
      exact ⟨shown_pytestAssertions hbuilt, rfl⟩
    · rename_i hother
      cases hparsed
      split
      · rename_i tests htests
        cases tests with
        | nil => exact ⟨rfl, rfl⟩
        | cons first rest => exact absurd htests (hother first rest)
      · exact ⟨rfl, rfl⟩

/-! ### Events of go test -/

/-- What the events become: a test that ends becomes an assertion, one that does not end
nothing. -/
def goRead (env : ReportEnvironment N) (event : Json N) (later : List (Json N)) :
    Option ReadEntry :=
  (goEntry env event later).map fun entry =>
    { entry with
      reported := (endedGoTest env event).map fun _ => mapGoStatus (event.get? "Action") }

def goReads (env : ReportEnvironment N) : List (Json N) → List ReadEntry
  | [] => []
  | event :: later => (goRead env event later).toList ++ goReads env later

theorem map_goReads (events : List (Json N)) :
    (goReads env events).map (·.toTestEntry) = goEntries env events := by
  induction events with
  | nil => rfl
  | cons event later ih =>
      rw [goReads, goEntries, List.map_append, ih, goRead]
      cases goEntry env event later <;> rfl

theorem shown_goRead_of_ended {event : Json N} {test : String × String}
    (hended : endedGoTest env event = some test) (later : List (Json N)) :
    (goRead env event later).bind (·.shown) =
      some (some (buildGoLocalId test.1 test.2), mapGoStatus (event.get? "Action")) := by
  simp [goRead, goEntry, hended, ReadEntry.shown]

theorem shown_goRead_of_not_ended {event : Json N} (hended : endedGoTest env event = none)
    (later : List (Json N)) : (goRead env event later).bind (·.shown) = none := by
  cases hentry : goEntry env event later <;> simp [goRead, hentry, hended, ReadEntry.shown]

theorem buildTerminalGoAssertion_ok {outputs : GoOutputs N} {test : String × String}
    {event : Json N} {assertion : AssertionEvidence N}
    (hbuilt : buildTerminalGoAssertion env outputs test event = .ok assertion) :
    assertion.shown =
      (some (buildGoLocalId test.1 test.2), mapGoStatus (event.get? "Action")) := by
  unfold buildTerminalGoAssertion at hbuilt
  obtain ⟨failure, -, hbuilt⟩ := bind_eq_ok_iff.1 hbuilt
  cases hbuilt
  rfl

theorem processGoTestEvent_ok {outputs outputs' : GoOutputs N} {event : Json N}
    {assertion : Option (AssertionEvidence N)}
    (hprocessed : processGoTestEvent env outputs event = .ok (outputs', assertion))
    (later : List (Json N)) :
    assertion.map (·.shown) = (goRead env event later).bind (·.shown) := by
  unfold processGoTestEvent at hprocessed
  dsimp only at hprocessed
  split at hprocessed
  · rename_i houtput
    rw [shown_goRead_of_not_ended (by simp [endedGoTest, not_terminal_of_output houtput])]
    obtain ⟨test, -, hprocessed⟩ := bind_eq_ok_iff.1 hprocessed
    cases test <;> cases hprocessed <;> rfl
  split at hprocessed
  · rename_i hterminal
    obtain ⟨test, htest, hprocessed⟩ := bind_eq_ok_iff.1 hprocessed
    cases test with
    | none =>
        rw [shown_goRead_of_not_ended (by simp [endedGoTest, htest, Except.toOption])]
        cases hprocessed
        rfl
    | some test =>
        obtain ⟨built, hbuilt, hprocessed⟩ := bind_eq_ok_iff.1 hprocessed
        have hended : endedGoTest env event = some test := by
          simp [endedGoTest, hterminal, htest, Except.toOption]
        rw [shown_goRead_of_ended hended, ← buildTerminalGoAssertion_ok hbuilt]
        cases hprocessed
        rfl
  · rename_i hterminal
    rw [shown_goRead_of_not_ended (by simp [endedGoTest, hterminal])]
    cases hprocessed
    rfl

theorem goAssertions_ok {outputs : GoOutputs N} {events : List (Json N)}
    {assertions : List (AssertionEvidence N)}
    (hread : goAssertions env outputs events = .ok assertions) :
    assertions.map (·.shown) = (goReads env events).filterMap (·.shown) := by
  induction events generalizing outputs assertions with
  | nil =>
      cases hread
      rfl
  | cons event later ih =>
      rw [goAssertions] at hread
      obtain ⟨⟨outputs', assertion⟩, hfirst, hread⟩ := bind_eq_ok_iff.1 hread
      obtain ⟨rest, hrest, hread⟩ := bind_eq_ok_iff.1 hread
      cases hread
      have hshown := processGoTestEvent_ok hfirst later
      rw [List.map_append, goReads, List.filterMap_append, ih hrest]
      congr 1
      cases hgo : goRead env event later with
      | none =>
          rw [hgo, Option.bind_none, Option.map_eq_none_iff] at hshown
          rw [hshown]
          rfl
      | some read =>
          rw [hgo, Option.bind_some] at hshown
          rw [Option.toList_some, List.filterMap_cons, List.filterMap_nil, ← hshown]
          cases assertion <;> rfl

theorem parseGoTestJson_ok {content : String} {result : ParserResult N}
    (hparsed : parseGoTestJson env content = .ok result) :
    MadeOf (goReads env (goEvents content)) result := by
  unfold parseGoTestJson at hparsed
  obtain ⟨assertions, hassertions, hparsed⟩ := bind_eq_ok_iff.1 hparsed
  have hshown := goAssertions_ok hassertions
  split at hparsed
  · rename_i hempty
    obtain rfl := List.isEmpty_iff.1 hempty
    cases hparsed
    exact ⟨hshown, rfl⟩
  · cases hparsed
    exact ⟨hshown, rfl⟩

/-! ### When a result is faithful -/

/-- The reads of a report. -/
def reportReads (env : ReportEnvironment N) (format : JsonReportFormat) (content : String) :
    List ReadEntry :=
  match format with
  | .goTestJson => goReads env (goEvents content)
  | .pytestJson => ((Json.parse content).toList.flatMap pytestTests).map (pytestRead (N := N))
  | _ => ((Json.parse content).toList.flatMap scriptTests).map (scriptRead env)

theorem map_reportReads (format : JsonReportFormat) (content : String) :
    (reportReads env format content).map (·.toTestEntry) = reportEntries env format content := by
  cases format with
  | goTestJson => exact map_goReads _
  | _ => simp only [reportReads, reportEntries, List.map_map]; rfl

theorem parseWithFormat_ok {format : JsonReportFormat} {content : String}
    {result : ParserResult N} (hparsed : parseWithFormat env format content = .ok result) :
    MadeOf (reportReads env format content) result := by
  cases format with
  | jestJson => exact parseScriptJson_ok hparsed
  | vitestJson => exact parseScriptJson_ok hparsed
  | pytestJson => exact parsePytestJson_ok hparsed
  | goTestJson => exact parseGoTestJson_ok hparsed

/-- The JavaScript parsers pass every test that says so. -/
def JsonReportFormat.takesAllPasses : JsonReportFormat → Bool
  | .jestJson => true
  | .vitestJson => true
  | _ => false

/-- What an entry must say for the parser of its format to read it well. -/
def StatesOutcomes (env : ReportEnvironment N) (format : JsonReportFormat) (content : String) :
    Prop :=
  match format with
  | .goTestJson => ∀ before event later, goEvents content = before ++ event :: later →
      ∀ test, startedGoTest env event = some test → endsIn env test later = true
  | .pytestJson => ∀ test ∈ (Json.parse content : Option (Json N)).toList.flatMap pytestTests,
      pytestFails test = true →
        (pytestNodeId test).isSome = true ∧ isFailureOutcome (some (pytestOutcome test)) = true
  | _ => ∀ test ∈ (Json.parse content : Option (Json N)).toList.flatMap scriptTests,
      (defined (test.2.get? "status")).isSome = true

/-- A read is the end of a test, or the start of one that does not end. -/
theorem goRead_cases {event : Json N} {later : List (Json N)} {read : ReadEntry}
    (hread : goRead env event later = some read) :
    (read.reportedFailure = read.failing ∧ read.reportedPass = read.passing ∧
        startedGoTest env event = none) ∨
      (read.reported = none ∧ read.failing = true ∧
        ∃ test, startedGoTest env event = some test ∧ endsIn env test later = false) := by
  cases hended : endedGoTest env event with
  | some test =>
      left
      simp only [goRead, goEntry, hended, Option.map_some, Option.some.injEq] at hread
      subst hread
      refine ⟨?_, ?_, ?_⟩
      · rw [Bool.eq_iff_iff, ReadEntry.reportedFailure, Option.any_some, mapGoStatus_failure]
      · rw [Bool.eq_iff_iff, ReadEntry.reportedPass, beq_iff_eq, Option.some.injEq,
          mapGoStatus_passed]
      · rw [startedGoTest, if_neg]
        intro hrun
        rw [endedGoTest, if_neg] at hended
        · cases hended
        · rw [isText_iff] at hrun
          simp [hrun, isTerminalGoAction, isText]
  | none =>
      right
      cases hstarted : startedGoTest env event with
      | none => simp [goRead, goEntry, hended, hstarted] at hread
      | some test =>
          by_cases hends : endsIn env test later = true
          · simp [goRead, goEntry, hended, hstarted, hends] at hread
          · simp only [goRead, goEntry, hended, hstarted, hends, Bool.false_eq_true, if_false,
              Option.map_some, Option.map_none, Option.some.injEq] at hread
            subst hread
            exact ⟨rfl, rfl, test, rfl, by simpa using hends⟩

theorem mem_goReads {events : List (Json N)} {read : ReadEntry}
    (hmem : read ∈ goReads env events) :
    ∃ event later, goRead env event later = some read := by
  induction events with
  | nil => cases hmem
  | cons event later ih =>
      rw [goReads, List.mem_append, Option.mem_toList] at hmem
      exact hmem.elim (fun hread => ⟨event, later, hread⟩) ih

theorem goRead_wellRead {event : Json N} {later : List (Json N)} :
    (∀ read ∈ goRead env event later, read.WellRead) ↔
      ∀ test, startedGoTest env event = some test → endsIn env test later = true := by
  constructor
  · intro hwell test hstarted
    by_contra hends
    have hended : endedGoTest env event = none := by
      rw [endedGoTest, if_neg]
      intro hterminal
      rw [startedGoTest] at hstarted
      split_ifs at hstarted with hrun
      rw [isText_iff] at hrun
      simp [hrun, isTerminalGoAction, isText] at hterminal
    have hread : goRead env event later =
        some ⟨⟨some (buildGoLocalId test.1 test.2), true, false⟩, none⟩ := by
      simp [goRead, goEntry, hended, hstarted, hends]
    have hfailure := (hwell _ hread).1 rfl
    cases hfailure
  · intro hends read hread
    obtain ⟨hfailure, hpass, -⟩ | ⟨-, -, test, hstarted, hopen⟩ := goRead_cases hread
    · exact ⟨fun hfailing => hfailure.trans hfailing, fun hpassed => hpass ▸ hpassed⟩
    · rw [hends test hstarted] at hopen
      cases hopen

theorem goReads_wellRead (events : List (Json N)) :
    (∀ read ∈ goReads env events, read.WellRead) ↔
      ∀ before event later, events = before ++ event :: later →
        ∀ test, startedGoTest env event = some test → endsIn env test later = true := by
  induction events with
  | nil => simp [goReads]
  | cons first rest ih =>
      have hsplit : (∀ read ∈ goReads env (first :: rest), read.WellRead) ↔
          (∀ read ∈ goRead env first rest, read.WellRead) ∧
            ∀ read ∈ goReads env rest, read.WellRead := by
        simp only [goReads, List.mem_append, Option.mem_toList, or_imp, forall_and]
        rfl
      rw [hsplit, goRead_wellRead, ih]
      constructor
      · rintro ⟨hfirst, hrest⟩ before event later heq
        cases before with
        | nil =>
            obtain ⟨rfl, rfl⟩ := List.cons.inj heq
            exact hfirst
        | cons head before =>
            obtain ⟨-, htail⟩ := List.cons.inj heq
            exact hrest before event later htail
      · intro hall
        refine ⟨hall [] first rest rfl, ?_⟩
        intro before event later heq
        exact hall (first :: before) event later (by rw [heq]; rfl)

theorem reportReads_wellRead (format : JsonReportFormat) (content : String) :
    (∀ read ∈ reportReads env format content, read.WellRead) ↔
      StatesOutcomes env format content := by
  cases format with
  | goTestJson => exact goReads_wellRead _
  | pytestJson =>
      simp only [reportReads, StatesOutcomes, List.forall_mem_map, pytestRead_wellRead]
  | _ => simp only [reportReads, StatesOutcomes, List.forall_mem_map, scriptRead_wellRead]

theorem reportReads_readsOf {format : JsonReportFormat} {content : String}
    {result : ParserResult N} (hmade : MadeOf (reportReads env format content) result) :
    ReadsOf format.takesAllPasses (reportReads env format content) result.assertions where
  same := hmade.1
  sound := by
    intro read hread hfailure
    cases format with
    | goTestJson =>
        obtain ⟨event, later, hgo⟩ := mem_goReads hread
        obtain ⟨heq, -, -⟩ | ⟨-, hfailing, -⟩ := goRead_cases hgo
        · exact heq.symm.trans hfailure
        · exact hfailing
    | pytestJson =>
        obtain ⟨test, -, rfl⟩ := List.mem_map.1 hread
        exact pytestRead_sound hfailure
    | _ =>
        obtain ⟨test, -, rfl⟩ := List.mem_map.1 hread
        exact (scriptRead_failure test).1 hfailure
  passes := by
    intro read hread
    cases format with
    | goTestJson =>
        intro hpass
        obtain ⟨event, later, hgo⟩ := mem_goReads hread
        obtain ⟨-, heq, -⟩ | ⟨hnone, -, -⟩ := goRead_cases hgo
        · exact heq.symm.trans hpass
        · simp [ReadEntry.reportedPass, hnone] at hpass
    | pytestJson =>
        obtain ⟨test, -, rfl⟩ := List.mem_map.1 hread
        exact pytestRead_pass
    | _ =>
        obtain ⟨test, -, rfl⟩ := List.mem_map.1 hread
        exact fun hpassing => (scriptRead_pass test).2 (.inl hpassing)

/-! ### Reports put together -/

theorem parseWithFormat_faithful_iff {format : JsonReportFormat} {content : String}
    {result : ParserResult N} (hparsed : parseWithFormat env format content = .ok result) :
    Faithful (reportEntries env format content) result ↔ StatesOutcomes env format content := by
  have hmade := parseWithFormat_ok hparsed
  rw [← map_reportReads, ← reportReads_wellRead]
  apply (reportReads_readsOf hmade).faithful_iff
  · rw [hmade.2]
    rfl
  · rw [hmade.2]
    exact countByStatus_sum result.assertions

/-- What the files of one collection are made of, and their merged counts. -/
theorem collected_made {format : JsonReportFormat} {contents : List String}
    {parsed : List (ParserResult N)}
    (hall : List.Forall₂ (fun content result => parseWithFormat env format content = .ok result)
      contents parsed) :
    ReadsOf format.takesAllPasses (contents.flatMap (reportReads env format))
        (parsed.flatMap (·.assertions)) ∧
      (mergeSummaries (parsed.map (·.summary))).assertionCount =
        (parsed.flatMap (·.assertions)).length ∧
      (mergeSummaries (parsed.map (·.summary))).passedCount +
        (mergeSummaries (parsed.map (·.summary))).failedCount +
        (mergeSummaries (parsed.map (·.summary))).erroredCount +
        (mergeSummaries (parsed.map (·.summary))).skippedCount =
          (mergeSummaries (parsed.map (·.summary))).assertionCount := by
  induction hall with
  | nil => exact ⟨⟨rfl, nofun, nofun⟩, rfl, rfl⟩
  | @cons content result contents parsed hfirst _ ih =>
      obtain ⟨hreads, htotal, hcounted⟩ := ih
      have hmade := parseWithFormat_ok hfirst
      have hfirstReads := reportReads_readsOf hmade
      have hfirstCounted : result.summary.passedCount + result.summary.failedCount +
          result.summary.erroredCount + result.summary.skippedCount =
            result.summary.assertionCount := by
        rw [hmade.2]
        exact countByStatus_sum result.assertions
      have hfirstTotal : result.summary.assertionCount = result.assertions.length := by
        rw [hmade.2]
        rfl
      refine ⟨⟨?_, ?_, ?_⟩, ?_, ?_⟩
      · rw [List.flatMap_cons, List.flatMap_cons, List.map_append, List.filterMap_append,
          hfirstReads.same, hreads.same]
      · rw [List.flatMap_cons, List.forall_mem_append]
        exact ⟨hfirstReads.sound, hreads.sound⟩
      · rw [List.flatMap_cons, List.forall_mem_append]
        exact ⟨hfirstReads.passes, hreads.passes⟩
      · simp only [mergeSummaries, List.map_cons, List.sum_cons, List.flatMap_cons,
          List.length_append] at htotal ⊢
        omega
      · simp only [mergeSummaries, List.map_cons, List.sum_cons] at hcounted ⊢
        omega

/-- A parsed report, and the files of a collection put together, are faithful to what their
frameworks report exactly when these state the outcomes where the parser looks for them. -/
theorem jsonReports_faithful_iff :
    (∀ (env : ReportEnvironment N) format content result,
      parseWithFormat env format content = .ok result →
        (Faithful (reportEntries env format content) result ↔
          StatesOutcomes env format content)) ∧
      ∀ (env : ReportEnvironment N) format contents result,
        parseCollectedFiles env format contents = .ok result →
          (Faithful (contents.flatMap (reportEntries env format)) result ↔
            ∀ content ∈ contents, StatesOutcomes env format content) := by
  refine ⟨fun env format content result hparsed => parseWithFormat_faithful_iff hparsed, ?_⟩
  intro env format contents result hparsed
  obtain ⟨parsed, hmap, hparsed⟩ := bind_eq_ok_iff.1 hparsed
  cases hparsed
  obtain ⟨hreads, htotal, hcounted⟩ := collected_made (Library.forall₂_of_mapM hmap)
  have hentries : contents.flatMap (reportEntries env format) =
      (contents.flatMap (reportReads env format)).map (·.toTestEntry) := by
    simp only [List.map_flatMap, map_reportReads]
  rw [hentries, hreads.faithful_iff htotal hcounted]
  simp only [List.mem_flatMap, forall_exists_index, and_imp, ← reportReads_wellRead]
  exact ⟨fun hall content hcontent read hread => hall read content hcontent hread,
    fun hall read content hcontent hread => hall content hcontent read hread⟩

end Parsers

/-! ### Reports that are misread -/

def sampleReportEnvironment : ReportEnvironment Nat where
  providerId := "sample"
  hashText text := text
  valueText _ := none

/-- The call passes and the teardown fails. -/
def teardownReport : String :=
  "\x7b\"tests\":[\x7b\"nodeid\":\"t.py::a\",\"outcome\":\"error\",\"call\":" ++
    "\x7b\"outcome\":\"passed\"\x7d,\"teardown\":\x7b\"outcome\":\"failed\"\x7d\x7d]\x7d"

/-- An entry without a status. -/
def statuslessReport : String :=
  "\x7b\"testResults\":[\x7b\"name\":\"a.ts\",\"assertionResults\":" ++
    "[\x7b\"title\":\"t\"\x7d]\x7d]\x7d"

/-- A test that starts and does not end. -/
def unendedReport : String :=
  "\x7b\"Action\":\"run\",\"Package\":\"p\",\"Test\":\"A\"\x7d"

theorem unfaithful_of_failure {format : JsonReportFormat} {content : String}
    (localId : String)
    (hparsed : (parseWithFormat sampleReportEnvironment format content).toOption.map
      (·.assertions.countP fun a => a.status.isFailure && some a.localId == some localId) = some 0)
    (hentries : (reportEntries sampleReportEnvironment format content).countP
      (fun entry => entry.failing && entry.localId == some localId) = 1) :
    ∃ result, parseWithFormat sampleReportEnvironment format content = .ok result ∧
      ¬ Faithful (reportEntries sampleReportEnvironment format content) result := by
  cases hresult : parseWithFormat sampleReportEnvironment format content with
  | error _ => simp [hresult, Except.toOption] at hparsed
  | ok result =>
      refine ⟨result, rfl, fun hfaithful => ?_⟩
      have hle := hfaithful.failures (some localId)
      simp only [hresult, Except.toOption, Option.map_some, Option.some.injEq] at hparsed
      omega

theorem unfaithful_of_pass {format : JsonReportFormat} {content : String} (localId : String)
    (hparsed : (parseWithFormat sampleReportEnvironment format content).toOption.map
      (·.assertions.countP fun a => a.status == .passed && some a.localId == some localId) = some 1)
    (hentries : (reportEntries sampleReportEnvironment format content).countP
      (fun entry => entry.passing && entry.localId == some localId) = 0) :
    ∃ result, parseWithFormat sampleReportEnvironment format content = .ok result ∧
      ¬ Faithful (reportEntries sampleReportEnvironment format content) result := by
  cases hresult : parseWithFormat sampleReportEnvironment format content with
  | error _ => simp [hresult, Except.toOption] at hparsed
  | ok result =>
      refine ⟨result, rfl, fun hfaithful => ?_⟩
      have hle := hfaithful.passes (some localId)
      simp only [hresult, Except.toOption, Option.map_some, Option.some.injEq] at hparsed
      omega

/-- A failed teardown is reported passed, an entry without a status too, and a test that does
not end is not reported. -/
theorem jsonReports_unfaithful :
    (∃ result, parseWithFormat sampleReportEnvironment .pytestJson teardownReport = .ok result ∧
      ¬ Faithful (reportEntries sampleReportEnvironment .pytestJson teardownReport) result) ∧
    (∃ result, parseWithFormat sampleReportEnvironment .jestJson statuslessReport = .ok result ∧
      ¬ Faithful (reportEntries sampleReportEnvironment .jestJson statuslessReport) result) ∧
    ∃ result, parseWithFormat sampleReportEnvironment .goTestJson unendedReport = .ok result ∧
      ¬ Faithful (reportEntries sampleReportEnvironment .goTestJson unendedReport) result := by
  refine ⟨unfaithful_of_failure "t.py::a" ?_ ?_, unfaithful_of_pass "a.ts::t" ?_ ?_,
    unfaithful_of_failure "p::A" ?_ ?_⟩
  all_goals decide +kernel

/-- A call that fails. -/
def failedReport : String :=
  "\x7b\"tests\":[\x7b\"nodeid\":\"t.py::a\",\"outcome\":\"failed\",\"call\":" ++
    "\x7b\"outcome\":\"failed\"\x7d\x7d]\x7d"

theorem jsonReports_faithful_iff_failedReport :
    ∃ result, parseWithFormat sampleReportEnvironment .pytestJson failedReport = .ok result ∧
      Faithful (reportEntries sampleReportEnvironment .pytestJson failedReport) result := by
  have haccepted : (parseWithFormat sampleReportEnvironment .pytestJson
      failedReport).toOption.isSome = true := by
    decide +kernel
  have hstates : ∀ test ∈ (Json.parse failedReport : Option (Json Nat)).toList.flatMap pytestTests,
      pytestFails test = true → (pytestNodeId test).isSome = true ∧
        isFailureOutcome (some (pytestOutcome test)) = true := by
    decide +kernel
  cases hresult : parseWithFormat sampleReportEnvironment .pytestJson failedReport with
  | error _ => simp [hresult, Except.toOption] at haccepted
  | ok result => exact ⟨result, rfl, (jsonReports_faithful_iff.1 _ _ _ _ hresult).2 hstates⟩

end GovernedRuntime.Providers
