/-
Classification of repository paths (`src/state/risk-path-classifier.ts`,
`src/shared/repo-path.ts`): the least task class of a set of files, and the files
that never qualify for reduced ceremony.
-/
import GovernedRuntime.Library.Pattern
import GovernedRuntime.Library.Texts
import GovernedRuntime.Library.Wildcard
import GovernedRuntime.State.Session

namespace GovernedRuntime.Risk

open GovernedRuntime.Library
open GovernedRuntime.State
open Pattern

/-! ### Logical repository paths -/

def normalizeRepoRelativePath (value : String) : String :=
  match value.toList.map fun c => if c == '\\' then '/' else c with
  | '.' :: '/' :: rest => String.ofList rest
  | slashed => String.ofList slashed

/-- `value.split('/')`. -/
def pathSegments (value : String) : List String :=
  (value.toList.splitOn '/').map String.ofList

/-- `*` within one segment.  A token outside the basic plane is two code units of
the value and equals neither. -/
def matchesSegment (pattern value : String) : Bool :=
  wildcardMatches (· == '*') (fun token c => token == c && token.toNat < 0x10000)
    pattern.toList value.toList

def matchesRepositoryGlob (pattern value : String) : Bool :=
  wildcardMatches (· == "**") matchesSegment (pathSegments pattern)
    (pathSegments value)

/-! ### Surfaces -/

def highRiskPrefixes : List String :=
  ["src/state/", "src/machine/", "src/audit/", "src/archive/", "src/config/",
    "src/evidence/", "src/identity/", "src/security/", "src/adapters/persistence",
    "src/adapters/persistence-lock", "src/adapters/persistence-audit",
    "src/adapters/persistence-config", "src/adapters/persistence-discovery",
    "src/cli/uninstall", "src/integration/review/", "src/integration/plugin",
    "src/integration/phase-tool-gate", "src/rails/review",
    "src/templates/commands/", "scripts/release", "scripts/install",
    "scripts/uninstall", ".github/", ".opencode/"]

def highRiskExact : List String :=
  ["AGENTS.md", "CLAUDE.md", "GEMINI.md", "docs/admin-model.md", "docs/commands.md",
    "docs/configuration.md", "docs/data-classification.md", "docs/phases.md",
    "docs/policies.md", "docs/profiles.md", "docs/retention-recovery.md",
    "docs/release-policy.md", "docs/security-hardening.md",
    "docs/trust-boundaries.md", "docs/upgrade-rollback.md", "package.json",
    "package-lock.json", "npm-shrinkwrap.json", "pnpm-lock.yaml", "yarn.lock",
    "bun.lockb", "src/templates/mandates.ts",
    "src/rendering/mandates-renderer.ts",
    "src/templates/mandates-reviewer-criteria.ts"]

/-- `(^|\/)`. -/
def segmentStart : Pattern := .alt textStart (word "/")

/-- `[-_].*`. -/
def dashed : Pattern := .seq (.char (['-', '_'].contains ·)) (.many anyChar)

/-- `(\/|[-_].*)`. -/
def slashOrDashed : Pattern := .alt (word "/") dashed

/-- `[^/]*`. -/
def withinSegment : Pattern := .many (· != '/')

def installer : Pattern := .seq (word "installe") (optional (word "r"))

def migrations : Pattern := .seq (word "migration") (optional (word "s"))

/-- `HIGH_RISK_RE`. -/
def highRiskPatterns : List Pattern :=
  [concat [textStart, word "docs/agent-guidance/", .many anyChar,
      words ["mandate", "guidance", "high-risk", "review"]],
    concat [textStart, word "docs/", .many anyChar,
      oneOf [.seq (word "mandate") (optional (word "s")), word "governance",
        word "mapping"], word ".md", textEnd],
    concat [textStart, word "src/cli/",
      words ["install", "uninstall", "doctor", "release"]],
    concat [textStart, word "src/config/policy"],
    concat [textStart, word "src/integration/",
      oneOf [word "phase-tool-gate", word "plugin", word "review",
        .seq (.many anyChar) (word "policy")]],
    concat [textStart, word "src/", migrations, word "/"],
    concat [textStart, word "src/rails/", words ["review", "review-decision"]],
    concat [textStart, word "src/templates/commands/"],
    concat [segmentStart, word "release", slashOrDashed],
    concat [segmentStart, installer, slashOrDashed],
    concat [segmentStart, migrations, slashOrDashed],
    concat [segmentStart, words ["AGENTS", "CLAUDE", "GEMINI"], word ".md", textEnd],
    concat [segmentStart, word "copilot-instructions.md", textEnd],
    concat [segmentStart, word ".", words ["claude", "gemini", "opencode"],
      .alt (word "/") textEnd]]

/-- `GOVERNANCE_DOC_RE`. -/
def governanceDoc : Pattern :=
  concat [segmentStart,
    words ["architecture", "security", "compliance", "release", "governance",
      "policy"],
    oneOf [word "/", concat [dashed, word ".md", textEnd],
      concat [word ".md", textEnd]]]

def nonDomainConfigBasenames : List String :=
  ["opencode.json", "opencode.jsonc", "tsconfig.json", "tsconfig.base.json",
    "vitest.config.ts", "vitest.config.js", "vitest.config.mts", "eslint.config.js",
    "eslint.config.mjs", ".eslintrc", ".eslintrc.js", ".eslintrc.cjs",
    ".eslintrc.json", ".prettierrc", ".prettierrc.json", ".prettierrc.js",
    ".editorconfig", ".gitignore", ".gitattributes", ".npmrc", ".nvmrc"]

/-- Only a path without a directory is tool configuration. -/
def isNonDomainConfigPath (filePath : String) : Bool :=
  let p := normalizeRepoRelativePath filePath
  !p.toList.contains '/' && nonDomainConfigBasenames.contains p

def instructionBasenames : List String :=
  ["AGENTS.md", "CLAUDE.md", "GEMINI.md", "copilot-instructions.md"]

def instructionDirNames : List String := [".claude", ".gemini", ".opencode"]

/-- The test `reducedCeremonyEligible` makes of one file. -/
def ceremonyEligiblePath (filePath : String) : Bool :=
  let normalized := normalizeRepoRelativePath filePath
  let segments := pathSegments normalized
  !instructionBasenames.contains (segments.getLastD "") &&
    !segments.any (instructionDirNames.contains ·) &&
    !isNonDomainConfigPath normalized

def reducedCeremonyEligible (changedFiles : List String) : Bool :=
  !changedFiles.isEmpty && changedFiles.all ceremonyEligiblePath

/-! ### Triggers -/

/-- `RISK_TRIGGER_RULES`. -/
def riskTriggerRules : List (SpecificRiskTrigger × Pattern) :=
  [(.stateIntegrity, concat [textStart, word "src/", words ["state", "machine"],
      word "/"]),
    (.auditAuthority, concat [textStart, word "src/",
      words ["audit/", "adapters/persistence-audit"]]),
    (.identityBoundary, concat [textStart, word "src/",
      words ["identity", "security"], word "/"]),
    (.approvalAuthority, concat [textStart, word "src/",
      words ["integration/review/", "rails/review"]]),
    (.policyAuthority, concat [textStart, word "src/config/",
      oneOf [concat [.many anyChar,
          words ["policy", "schema", "resolver", "preset", "default"],
          .many anyChar],
        word "flowguard-config.ts"], textEnd]),
    (.migration, concat [segmentStart, migrations, slashOrDashed]),
    (.distributionIntegrity, oneOf
      [.seq textStart (oneOf
          [concat [word "package", optional (word "-lock"), word ".json"],
            word "npm-shrinkwrap.json", word "pnpm-lock.yaml", word "yarn.lock",
            word "bun.lockb",
            .seq (word "scripts/") (words ["release", "install", "uninstall"]),
            .seq (word "src/cli/") (words ["install", "uninstall", "release"])]),
        concat [segmentStart, .alt (word "release") installer, slashOrDashed]]),
    (.commandContract, concat [textStart, word "src/",
      words ["templates/commands/", "templates/mandates.ts",
        "rendering/mandates-renderer.ts",
        "templates/mandates-reviewer-criteria.ts"]])]

/-- `DISTRIBUTION_PATHS`. -/
def distributionPaths : Pattern :=
  .alt
    (concat [segmentStart,
      oneOf [word "pom.xml",
        .seq (word "build.gradle") (optional (word ".kts")),
        .seq (word "settings.gradle") (optional (word ".kts")),
        word "gradle.properties", .seq (word "mvnw") (optional (word ".cmd")),
        word "pyproject.toml", .seq (word "setup.") (words ["py", "cfg"]),
        concat [word "requirements", withinSegment, word ".txt"],
        .seq (word "Pipfile") (optional (word ".lock")), word "poetry.lock",
        word "uv.lock", .seq (word "go.") (words ["mod", "sum"]),
        .seq (word "Cargo.") (words ["toml", "lock"]), word "Jenkinsfile",
        word "Dockerfile",
        concat [word "docker-compose", withinSegment, word ".y",
          optional (word "a"), word "ml"],
        word ".gitlab-ci.yml"],
      textEnd])
    (concat [segmentStart, words [".github/workflows", ".mvn", "gradle/wrapper"],
      word "/"])

/-- `VERIFICATION_CONFIG`. -/
def verificationConfig : Pattern :=
  concat [segmentStart,
    oneOf [concat [word "vitest.config.", .char (· != '/'), withinSegment],
      concat [word "jest.config.", .char (· != '/'), withinSegment],
      word "pytest.ini", word "tox.ini", word "conftest.py"],
    textEnd]

def sortTriggers (triggers : List SpecificRiskTrigger) : List SpecificRiskTrigger :=
  triggers.dedup.insertionSort fun a b => a.name ≤ b.name

def riskTriggersForPath (p : String) (configured : List RiskTriggerRule) :
    List SpecificRiskTrigger :=
  sortTriggers
    ((riskTriggerRules.filter (·.2.test p.toList)).map (·.1) ++
      (if distributionPaths.test p.toList then [.distributionIntegrity] else []) ++
      (configured.filter (matchesRepositoryGlob ·.pattern p)).map (·.trigger))

/-! ### Classes -/

structure ClassifiedPath where
  minimumTaskClass : TaskClass
  surface : String
  riskTriggers : List SpecificRiskTrigger
deriving DecidableEq, Repr

def classifyPath (configured : List RiskTriggerRule) (filePath : String) :
    ClassifiedPath :=
  let p := normalizeRepoRelativePath filePath
  let text := p.toList
  let riskTriggers := riskTriggersForPath p configured
  if !riskTriggers.isEmpty then ⟨.highRisk, p, riskTriggers⟩
  else if highRiskExact.contains p ||
      highRiskPrefixes.any (·.toList.isPrefixOf text) ||
      highRiskPatterns.any (·.test text) then ⟨.highRisk, p, []⟩
  else if verificationConfig.test text then ⟨.standard, p, []⟩
  else if isNonDomainConfigPath p then ⟨.trivial, p, []⟩
  else if p == "CHANGELOG.md" || governanceDoc.test text then ⟨.standard, p, []⟩
  else if ".test.ts".toList.isSuffixOf text || ".spec.ts".toList.isSuffixOf text then
    ⟨.standard, p, []⟩
  else if ".md".toList.isSuffixOf text then ⟨.trivial, p, []⟩
  else ⟨.standard, p, []⟩

def assessMinimumTaskClass (paths : List String)
    (configured : List RiskTriggerRule) : RecomputedRisk :=
  if paths.isEmpty then ⟨.trivial, [], []⟩
  else
    let classified := paths.map (classifyPath configured)
    let minimumTaskClass := classified.foldl
      (fun least entry => maxTaskClass least entry.minimumTaskClass) .trivial
    let riskTriggers := sortTriggers (classified.flatMap (·.riskTriggers))
    ⟨minimumTaskClass,
      sortTexts (classified.map (·.surface)).dedup,
      if minimumTaskClass == .highRisk && riskTriggers.isEmpty then [.ceremonyOnly]
      else riskTriggers.map .specific⟩

theorem maxTaskClass_eq_trivial {a b : TaskClass} :
    maxTaskClass a b = .trivial ↔ a = .trivial ∧ b = .trivial := by
  cases a <;> cases b <;> decide

theorem foldl_maxTaskClass_eq_trivial {classified : List ClassifiedPath}
    {least : TaskClass} :
    classified.foldl (fun least entry => maxTaskClass least entry.minimumTaskClass)
        least = .trivial ↔
      least = .trivial ∧ ∀ entry ∈ classified, entry.minimumTaskClass = .trivial := by
  induction classified generalizing least with
  | nil => simp
  | cons entry rest ih =>
      rw [List.foldl_cons, ih, maxTaskClass_eq_trivial, List.forall_mem_cons,
        and_assoc]

/-- One file above the trivial class raises the whole set. -/
theorem minimumTaskClass_eq_trivial_iff {paths : List String}
    {configured : List RiskTriggerRule} :
    (assessMinimumTaskClass paths configured).minimumTaskClass = .trivial ↔
      ∀ path ∈ paths, (classifyPath configured path).minimumTaskClass = .trivial := by
  cases paths with
  | nil => simp [assessMinimumTaskClass]
  | cons path rest =>
      have hfold : ((path :: rest).map (classifyPath configured)).foldl
            (fun least entry => maxTaskClass least entry.minimumTaskClass) .trivial =
              .trivial ↔ _ := foldl_maxTaskClass_eq_trivial
      simpa [assessMinimumTaskClass] using hfold

end GovernedRuntime.Risk
