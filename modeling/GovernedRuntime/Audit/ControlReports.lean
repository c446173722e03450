/-
The evidence-to-control report (`src/audit/iso27001/project.ts`,
`mapping-schema.ts`, `control-catalog.ts`): rules from selectors, controls from rules.
-/
import GovernedRuntime.Library.Json
import GovernedRuntime.State.Evidence
import Mathlib.Data.List.Dedup
import Mathlib.Data.List.Perm.Basic

namespace GovernedRuntime.Audit

open GovernedRuntime.Library
open GovernedRuntime.State (CanonicalText)

/-! ### The catalog and the mapping -/

/-- The candidate controls of the annex. -/
inductive AnnexAControlId
  | a815
  | a825
  | a826
  | a827
  | a828
  | a829
  | a832
deriving DecidableEq, Repr

/-- `ANNEX_A_CONTROL_NAMES`. -/
def AnnexAControlId.controlName : AnnexAControlId → String
  | .a815 => "Logging"
  | .a825 => "Secure development life cycle"
  | .a826 => "Application security requirements"
  | .a827 => "Secure system architecture and engineering principles"
  | .a828 => "Secure coding"
  | .a829 => "Security testing in development and acceptance"
  | .a832 => "Change management"

/-- `ISO27001_2022_ANNEX_A_CONTROLS`. -/
def annexAControls : List AnnexAControlId := [.a815, .a825, .a826, .a827, .a828, .a829, .a832]

inductive ControlRef
  | annexA (controlId : AnnexAControlId)
  | organization (controlId : String)
deriving DecidableEq, Repr

inductive ApplicabilityAssertion
  | assertedApplicable
  | assertedExcluded
  | notAsserted
deriving DecidableEq, Repr

/-- A rule of the mapping; its evidence is a list of selectors. -/
structure MappingRule (Selector : Type) where
  ruleId : String
  controlRef : ControlRef
  policyRequirementId : String
  /-- Whether the organization asserts that the control does not apply. -/
  excluded : Bool
  evidence : List Selector
deriving DecidableEq, Repr

variable {Selector : Type}

/-- What the mapping schema asks of the rules together. -/
structure ValidRules (rules : List (MappingRule Selector)) : Prop where
  ruleIds : (rules.map (·.ruleId)).Nodup
  requirements : (rules.map fun rule => (rule.controlRef, rule.policyRequirementId)).Nodup
  count : 1 ≤ rules.length ∧ rules.length ≤ 200
  selectors : ∀ rule ∈ rules, 1 ≤ rule.evidence.length ∧ rule.evidence.length ≤ 20

structure EvidenceMapping (Selector : Type) where
  rules : List (MappingRule Selector)
  valid : ValidRules rules

/-! ### Statuses -/

inductive RuleStatus
  | evidenceLinkedVerified
  | evidencePresentUnverified
  | evidenceMissing
  | notVerified
deriving DecidableEq, Repr

/-- `STATUS_SEVERITY`. -/
def RuleStatus.severity : RuleStatus → Nat
  | .evidenceLinkedVerified => 0
  | .evidencePresentUnverified => 1
  | .evidenceMissing => 2
  | .notVerified => 3

def worstStatus (statuses : List RuleStatus) : RuleStatus :=
  statuses.foldl (fun worst status => if worst.severity < status.severity then status else worst)
    .evidenceLinkedVerified

inductive ControlStatus
  | mapped (status : RuleStatus)
  | notMapped
deriving DecidableEq, Repr

/-! ### Reports -/

structure SelectorResolution (Selector : Type) where
  selector : Selector
  status : RuleStatus
  /-- The findings and the evidence references. -/
  other : CanonicalText
deriving DecidableEq, Repr

structure SelectorFinding where
  code : String
  detail : Option String
deriving DecidableEq, Repr

structure RuleReport (Selector : Type) where
  ruleId : String
  controlRef : ControlRef
  policyRequirementId : String
  applicability : ApplicabilityAssertion
  status : RuleStatus
  findings : List SelectorFinding
  selectors : List (SelectorResolution Selector)
deriving DecidableEq, Repr

structure ControlReport (Selector : Type) where
  controlRef : ControlRef
  controlName : Option String
  applicability : ApplicabilityAssertion
  status : ControlStatus
  rules : List (RuleReport Selector)
deriving DecidableEq, Repr

/-- The one assertion of all rules, if there is one. -/
def controlApplicability (rules : List (RuleReport Selector)) : ApplicabilityAssertion :=
  match (rules.map (·.applicability)).dedup with
  | [only] => only
  | _ => .notAsserted

def exclusionFinding : SelectorFinding where
  code := "APPLICABILITY_ASSERTION_UNVERIFIED"
  detail := "organization-asserted exclusion has no independently verified applicability source"

section Projection

variable (resolveSelector : Selector → SelectorResolution Selector)

def resolveRule (rule : MappingRule Selector) : RuleReport Selector :=
  let selectors := rule.evidence.map resolveSelector
  { ruleId := rule.ruleId
    controlRef := rule.controlRef
    policyRequirementId := rule.policyRequirementId
    applicability := if rule.excluded then .assertedExcluded else .assertedApplicable
    status := if rule.excluded then .notVerified else worstStatus (selectors.map (·.status))
    findings := if rule.excluded then [exclusionFinding] else []
    selectors := selectors }

def buildControlReport (controlRef : ControlRef) (controlName : Option String)
    (rules : List (RuleReport Selector)) : ControlReport Selector :=
  { controlRef := controlRef
    controlName := controlName
    applicability := controlApplicability rules
    status := if rules.isEmpty then .notMapped else .mapped (worstStatus (rules.map (·.status)))
    rules := rules }

def organizationControlIds (rules : List (MappingRule Selector)) : List String :=
  sortTexts (rules.filterMap fun rule =>
    match rule.controlRef with
    | .organization controlId => some controlId
    | .annexA _ => none).dedup

def resolvedRulesFor (rules : List (MappingRule Selector)) (controlRef : ControlRef) :
    List (RuleReport Selector) :=
  ((rules.filter (·.controlRef == controlRef)).map (resolveRule resolveSelector)).insertionSort
    fun a b => textLE a.ruleId b.ruleId

def buildAnnexControls (rules : List (MappingRule Selector)) : List (ControlReport Selector) :=
  annexAControls.map fun controlId =>
    buildControlReport (.annexA controlId) (some controlId.controlName)
      (resolvedRulesFor resolveSelector rules (.annexA controlId))

def buildOrganizationControls (rules : List (MappingRule Selector)) :
    List (ControlReport Selector) :=
  (organizationControlIds rules).map fun controlId =>
    buildControlReport (.organization controlId) none
      (resolvedRulesFor resolveSelector rules (.organization controlId))

/-- The controls of the projected report. -/
def projectControls (rules : List (MappingRule Selector)) : List (ControlReport Selector) :=
  buildAnnexControls resolveSelector rules ++ buildOrganizationControls resolveSelector rules

end Projection

/-! ### The worst of some statuses -/

variable {statuses others : List RuleStatus} {status : RuleStatus}

theorem severity_injective {a b : RuleStatus} (heq : a.severity = b.severity) : a = b := by
  cases a <;> cases b <;> first | rfl | exact absurd heq (by decide)

theorem foldl_worst (statuses : List RuleStatus) (least : RuleStatus) :
    let worst := statuses.foldl
      (fun worst status => if worst.severity < status.severity then status else worst) least
    worst ∈ least :: statuses ∧ ∀ status ∈ least :: statuses, status.severity ≤ worst.severity := by
  induction statuses generalizing least with
  | nil => simp
  | cons status rest ih =>
      obtain ⟨hmem, hworst⟩ := ih (if least.severity < status.severity then status else least)
      rw [List.foldl_cons]
      constructor
      · rcases List.mem_cons.1 hmem with heq | hrest
        · rw [heq]
          split_ifs <;> simp
        · exact List.mem_cons_of_mem _ (List.mem_cons_of_mem _ hrest)
      · obtain ⟨hfirst, hrest⟩ := List.forall_mem_cons.1 hworst
        have hbetter : least.severity ≤
              (if least.severity < status.severity then status else least).severity ∧
            status.severity ≤
              (if least.severity < status.severity then status else least).severity := by
          split_ifs with hlt
          · exact ⟨hlt.le, Nat.le_refl _⟩
          · exact ⟨Nat.le_refl _, Nat.le_of_not_lt hlt⟩
        exact List.forall_mem_cons.2 ⟨hbetter.1.trans hfirst,
          List.forall_mem_cons.2 ⟨hbetter.2.trans hfirst, hrest⟩⟩

theorem severity_le_worstStatus (hmem : status ∈ statuses) :
    status.severity ≤ (worstStatus statuses).severity :=
  (foldl_worst statuses .evidenceLinkedVerified).2 status (List.mem_cons_of_mem _ hmem)

theorem worstStatus_mem :
    worstStatus statuses = .evidenceLinkedVerified ∨ worstStatus statuses ∈ statuses :=
  List.mem_cons.1 (foldl_worst statuses .evidenceLinkedVerified).1

theorem worstStatus_eq_verified_iff :
    worstStatus statuses = .evidenceLinkedVerified ↔
      ∀ status ∈ statuses, status = .evidenceLinkedVerified := by
  constructor
  · intro hworst status hmem
    have hle := severity_le_worstStatus hmem
    rw [hworst] at hle
    exact severity_injective (Nat.le_zero.1 hle)
  · intro hall
    exact worstStatus_mem.elim id fun hmem => hall _ hmem

theorem severity_worstStatus_le
    (hdominated : ∀ status ∈ statuses, ∃ other ∈ others, status.severity ≤ other.severity) :
    (worstStatus statuses).severity ≤ (worstStatus others).severity := by
  rcases @worstStatus_mem statuses with hworst | hworst
  · rw [hworst]
    exact Nat.zero_le _
  · obtain ⟨other, hother, hle⟩ := hdominated _ hworst
    exact hle.trans (severity_le_worstStatus hother)

/-! ### Every rule under its control -/

section Coverage

variable (resolveSelector : Selector → SelectorResolution Selector)
  (rules : List (MappingRule Selector))

/-- The controls of the report, with their names. -/
def controlRefs : List (ControlRef × Option String) :=
  (annexAControls.map fun controlId => (.annexA controlId, some controlId.controlName)) ++
    (organizationControlIds rules).map fun controlId => (.organization controlId, none)

theorem projectControls_eq :
    projectControls resolveSelector rules = (controlRefs rules).map fun control =>
      buildControlReport control.1 control.2
        (resolvedRulesFor resolveSelector rules control.1) := by
  rw [projectControls, buildAnnexControls, buildOrganizationControls, controlRefs, List.map_append,
    List.map_map, List.map_map]
  rfl

theorem mem_organizationControlIds {controlId : String} :
    controlId ∈ organizationControlIds rules ↔
      ∃ rule ∈ rules, rule.controlRef = .organization controlId := by
  rw [organizationControlIds, mem_sortTexts, List.mem_dedup, List.mem_filterMap]
  apply exists_congr
  intro rule
  cases rule.controlRef <;> simp

theorem nodup_controlRefs : ((controlRefs rules).map (·.1)).Nodup := by
  have hannex : (annexAControls.map ControlRef.annexA).Nodup := by decide
  have horganization : (organizationControlIds rules).Nodup :=
    (sortTexts_perm _).nodup_iff.2 (List.nodup_dedup _)
  rw [controlRefs, List.map_append, List.map_map, List.map_map]
  apply List.nodup_append'.2
  refine ⟨hannex, horganization.map fun _ _ heq => ControlRef.organization.inj heq, ?_⟩
  intro controlRef hfirst hsecond
  obtain ⟨controlId, -, rfl⟩ := List.mem_map.1 hfirst
  obtain ⟨other, -, heq⟩ := List.mem_map.1 hsecond
  cases heq

theorem controlRef_mem {rule : MappingRule Selector} (hrule : rule ∈ rules) :
    rule.controlRef ∈ (controlRefs rules).map (·.1) := by
  rw [controlRefs, List.map_append, List.map_map, List.map_map, List.mem_append]
  cases href : rule.controlRef with
  | annexA controlId =>
      left
      cases controlId <;> decide
  | organization controlId =>
      right
      have hlisted := (mem_organizationControlIds rules).2 ⟨rule, hrule, href⟩
      exact List.mem_map.2 ⟨controlId, hlisted, rfl⟩

/-- Items split by their key, for every key there is. -/
theorem perm_flatMap_filter {α β : Type} [DecidableEq β] (key : α → β) {keys : List β}
    (hkeys : keys.Nodup) {items : List α} (hcovered : ∀ item ∈ items, key item ∈ keys) :
    (keys.flatMap fun k => items.filter fun item => key item == k).Perm items := by
  induction keys generalizing items with
  | nil =>
      cases items with
      | nil => exact .nil
      | cons item rest => exact absurd (hcovered item List.mem_cons_self) List.not_mem_nil
  | cons first keys ih =>
      obtain ⟨hfirst, hkeys⟩ := List.nodup_cons.1 hkeys
      have hrest : (keys.flatMap fun k => items.filter fun item => key item == k) =
          keys.flatMap fun k => (items.filter fun item => !(key item == first)).filter
            fun item => key item == k := by
        apply List.flatMap_congr
        intro k hk
        rw [List.filter_filter]
        apply List.filter_congr
        intro item _
        by_cases heq : key item = k
        · have hother : k ≠ first := fun hsame => hfirst (hsame ▸ hk)
          simp [heq, hother]
        · simp [heq]
      rw [List.flatMap_cons, hrest]
      refine ((List.Perm.refl _).append (ih hkeys ?_)).trans (List.filter_append_perm _ _)
      intro item hitem
      obtain ⟨hmem, hother⟩ := List.mem_filter.1 hitem
      rcases List.mem_cons.1 (hcovered item hmem) with heq | hkey
      · simp [heq] at hother
      · exact hkey

/-- Every rule appears once, under its control. -/
theorem perm_reports :
    ((projectControls resolveSelector rules).flatMap fun control =>
        control.rules.map fun report => (control.controlRef, report)).Perm
      (rules.map fun rule => (rule.controlRef, resolveRule resolveSelector rule)) := by
  have hsplit := perm_flatMap_filter (fun rule : MappingRule Selector => rule.controlRef)
    (nodup_controlRefs rules) fun rule => controlRef_mem rules
  have hreports := hsplit.map fun rule => (rule.controlRef, resolveRule resolveSelector rule)
  rw [projectControls_eq, List.flatMap_map]
  rw [List.map_flatMap, List.flatMap_map] at hreports
  refine List.Perm.trans (List.Perm.flatMap_left _ ?_) hreports
  intro control _
  refine ((List.perm_insertionSort _ _).map _).trans ?_
  rw [List.map_map]
  apply List.Perm.of_eq
  apply List.map_congr_left
  intro rule hrule
  obtain ⟨-, href⟩ := List.mem_filter.1 hrule
  exact congrArg (·, _) (beq_iff_eq.1 href).symm

end Coverage

/-! ### What aggregation keeps -/

/-- One more selector, or one more rule. -/
inductive Extends : List (MappingRule Selector) → List (MappingRule Selector) → Prop
  | rule (before after : List (MappingRule Selector)) (added : MappingRule Selector) :
      Extends (before ++ after) (before ++ added :: after)
  | selector (before after : List (MappingRule Selector)) (rule : MappingRule Selector)
      (front back : List Selector) (added : Selector) :
      Extends (before ++ { rule with evidence := front ++ back } :: after)
        (before ++ { rule with evidence := front ++ added :: back } :: after)

/-- The report of a mapping claims no more than its selectors give, where the rank says how bad a
status is. -/
structure HonestReport (rank : RuleStatus → Nat)
    (resolveSelector : Selector → SelectorResolution Selector)
    (rules : List (MappingRule Selector)) : Prop where
  covered : ((projectControls resolveSelector rules).flatMap fun control =>
      control.rules.map fun report => (control.controlRef, report)).Perm
    (rules.map fun rule => (rule.controlRef, resolveRule resolveSelector rule))
  verifiedRule : ∀ rule ∈ rules,
    (resolveRule resolveSelector rule).status = .evidenceLinkedVerified →
      rule.excluded = false ∧
        ∀ selector ∈ rule.evidence, (resolveSelector selector).status = .evidenceLinkedVerified
  verifiedControl : ∀ control ∈ projectControls resolveSelector rules,
    control.status = .mapped .evidenceLinkedVerified →
      ∀ report ∈ control.rules, report.status = .evidenceLinkedVerified
  /-- Missing evidence is reported as nothing better. -/
  missing : ∀ rule ∈ rules, rule.excluded = false → ∀ selector ∈ rule.evidence,
    (resolveSelector selector).status = .evidenceMissing →
      rank .evidenceMissing ≤ rank (resolveRule resolveSelector rule).status ∧
        ∀ control ∈ projectControls resolveSelector rules, control.controlRef = rule.controlRef →
          ∃ status, control.status = .mapped status ∧ rank .evidenceMissing ≤ rank status
  /-- An unknown does not hide behind a success. -/
  unknown : ∀ rule ∈ rules, ∀ selector ∈ rule.evidence,
    (resolveSelector selector).status = .notVerified →
      (resolveRule resolveSelector rule).status ≠ .evidenceLinkedVerified ∧
        ∀ control ∈ projectControls resolveSelector rules,
          control.controlRef = rule.controlRef →
            control.status ≠ .mapped .evidenceLinkedVerified
  /-- Nothing gets better by what was added last. -/
  monotone : ∀ fewer, Extends fewer rules →
    ∀ control ∈ projectControls resolveSelector fewer, ∀ status, control.status = .mapped status →
      ∃ larger ∈ projectControls resolveSelector rules, larger.controlRef = control.controlRef ∧
        (∃ worse, larger.status = .mapped worse ∧ rank status ≤ rank worse) ∧
        ∀ report ∈ control.rules, ∃ other ∈ larger.rules, other.ruleId = report.ruleId ∧
          rank report.status ≤ rank other.status
  permuted : ∀ others, rules.Perm others →
    projectControls resolveSelector others = projectControls resolveSelector rules

section Aggregation

variable {resolveSelector : Selector → SelectorResolution Selector}
  {rules fewer : List (MappingRule Selector)} {rule : MappingRule Selector}
  {control : ControlReport Selector}

theorem status_resolveRule (hexcluded : rule.excluded = false) :
    (resolveRule resolveSelector rule).status =
      worstStatus (rule.evidence.map fun selector => (resolveSelector selector).status) := by
  simp [resolveRule, hexcluded, Function.comp_def]

theorem status_resolveRule_excluded (hexcluded : rule.excluded = true) :
    (resolveRule resolveSelector rule).status = .notVerified := by
  simp [resolveRule, hexcluded]

theorem mem_resolvedRulesFor {controlRef : ControlRef} {report : RuleReport Selector} :
    report ∈ resolvedRulesFor resolveSelector rules controlRef ↔
      ∃ rule ∈ rules, rule.controlRef = controlRef ∧
        resolveRule resolveSelector rule = report := by
  simp only [resolvedRulesFor, List.mem_insertionSort, List.mem_map, List.mem_filter, beq_iff_eq,
    and_assoc]

/-- The reports and the status of a control of the report. -/
theorem control_spec (hcontrol : control ∈ projectControls resolveSelector rules) :
    control.rules = resolvedRulesFor resolveSelector rules control.controlRef ∧
      control.status = if control.rules.isEmpty then .notMapped
        else .mapped (worstStatus (control.rules.map (·.status))) := by
  rw [projectControls_eq] at hcontrol
  obtain ⟨ref, -, rfl⟩ := List.mem_map.1 hcontrol
  exact ⟨rfl, rfl⟩

theorem exists_control (hrule : rule ∈ rules) :
    ∃ control ∈ projectControls resolveSelector rules, control.controlRef = rule.controlRef := by
  obtain ⟨ref, href, heq⟩ := List.mem_map.1 (controlRef_mem rules hrule)
  rw [projectControls_eq]
  exact ⟨_, List.mem_map_of_mem href, heq⟩

theorem control_status (hrule : rule ∈ rules)
    (hcontrol : control ∈ projectControls resolveSelector rules)
    (href : control.controlRef = rule.controlRef) :
    resolveRule resolveSelector rule ∈ control.rules ∧
      control.status = .mapped (worstStatus (control.rules.map (·.status))) := by
  obtain ⟨hrules, hstatus⟩ := control_spec hcontrol
  have hmem : resolveRule resolveSelector rule ∈ control.rules := by
    rw [hrules, mem_resolvedRulesFor]
    exact ⟨rule, hrule, href.symm, rfl⟩
  rw [if_neg (by simpa using List.ne_nil_of_mem hmem)] at hstatus
  exact ⟨hmem, hstatus⟩

theorem mapped_iff (hcontrol : control ∈ projectControls resolveSelector rules)
    {status : RuleStatus} (hmapped : control.status = .mapped status) :
    status = worstStatus (control.rules.map (·.status)) ∧ control.rules ≠ [] := by
  obtain ⟨-, hstatus⟩ := control_spec hcontrol
  rw [hmapped] at hstatus
  split_ifs at hstatus with hempty
  exact ⟨ControlStatus.mapped.inj hstatus, by simpa using hempty⟩

theorem verifiedRule_spec
    (hverified : (resolveRule resolveSelector rule).status = .evidenceLinkedVerified) :
    rule.excluded = false ∧
      ∀ selector ∈ rule.evidence, (resolveSelector selector).status = .evidenceLinkedVerified := by
  cases hexcluded : rule.excluded with
  | true =>
      rw [status_resolveRule_excluded hexcluded] at hverified
      cases hverified
  | false =>
      rw [status_resolveRule hexcluded, worstStatus_eq_verified_iff] at hverified
      exact ⟨rfl, List.forall_mem_map.1 hverified⟩

theorem verifiedControl_spec (hcontrol : control ∈ projectControls resolveSelector rules)
    (hverified : control.status = .mapped .evidenceLinkedVerified) :
    ∀ report ∈ control.rules, report.status = .evidenceLinkedVerified := by
  have hworst := (mapped_iff hcontrol hverified).1
  exact List.forall_mem_map.1 (worstStatus_eq_verified_iff.1 hworst.symm)

/-- No selector of an applicable rule is better than the rule, or than its control. -/
theorem severity_le_aggregated (hrule : rule ∈ rules) (hexcluded : rule.excluded = false)
    {selector : Selector} (hselector : selector ∈ rule.evidence) :
    (resolveSelector selector).status.severity ≤
        (resolveRule resolveSelector rule).status.severity ∧
      ∀ control ∈ projectControls resolveSelector rules, control.controlRef = rule.controlRef →
        ∃ status, control.status = .mapped status ∧
          (resolveSelector selector).status.severity ≤ status.severity := by
  have hle : (resolveSelector selector).status.severity ≤
      (resolveRule resolveSelector rule).status.severity := by
    rw [status_resolveRule hexcluded]
    exact severity_le_worstStatus (List.mem_map.2 ⟨selector, hselector, rfl⟩)
  refine ⟨hle, fun control hcontrol href => ?_⟩
  obtain ⟨hmem, hstatus⟩ := control_status hrule hcontrol href
  exact ⟨_, hstatus, hle.trans (severity_le_worstStatus (List.mem_map_of_mem hmem))⟩

/-- Whatever is added, a rule keeps its place and its selectors. -/
theorem Extends.counterpart (hextends : Extends fewer rules) (hrule : rule ∈ fewer) :
    ∃ other ∈ rules, other.ruleId = rule.ruleId ∧ other.controlRef = rule.controlRef ∧
      other.excluded = rule.excluded ∧ ∀ selector ∈ rule.evidence, selector ∈ other.evidence := by
  cases hextends with
  | rule before after added =>
      refine ⟨rule, ?_, rfl, rfl, rfl, fun _ hselector => hselector⟩
      rcases List.mem_append.1 hrule with hmem | hmem
      · exact List.mem_append_left _ hmem
      · exact List.mem_append_right _ (List.mem_cons_of_mem _ hmem)
  | selector before after changed front back added =>
      rcases List.mem_append.1 hrule with hmem | hmem
      · exact ⟨rule, List.mem_append_left _ hmem, rfl, rfl, rfl, fun _ hselector => hselector⟩
      · rcases List.mem_cons.1 hmem with rfl | hmem
        · refine ⟨_, List.mem_append_right _ List.mem_cons_self, rfl, rfl, rfl, ?_⟩
          intro selector hselector
          rcases List.mem_append.1 hselector with hselector | hselector
          · exact List.mem_append_left _ hselector
          · exact List.mem_append_right _ (List.mem_cons_of_mem _ hselector)
        · exact ⟨rule, List.mem_append_right _ (List.mem_cons_of_mem _ hmem), rfl, rfl, rfl,
            fun _ hselector => hselector⟩

/-- A rule with more selectors is no better. -/
theorem severity_resolveRule_le {other : MappingRule Selector}
    (hexcluded : other.excluded = rule.excluded)
    (hmore : ∀ selector ∈ rule.evidence, selector ∈ other.evidence) :
    (resolveRule resolveSelector rule).status.severity ≤
      (resolveRule resolveSelector other).status.severity := by
  cases hrule : rule.excluded with
  | true =>
      rw [status_resolveRule_excluded hrule, status_resolveRule_excluded (hexcluded.trans hrule)]
  | false =>
      rw [status_resolveRule hrule, status_resolveRule (hexcluded.trans hrule)]
      apply severity_worstStatus_le
      intro status hstatus
      obtain ⟨selector, hselector, rfl⟩ := List.mem_map.1 hstatus
      exact ⟨_, List.mem_map.2 ⟨selector, hmore selector hselector, rfl⟩, Nat.le_refl _⟩

theorem Extends.severity_le (hextends : Extends fewer rules)
    (hcontrol : control ∈ projectControls resolveSelector fewer) {status : RuleStatus}
    (hmapped : control.status = .mapped status) :
    ∃ larger ∈ projectControls resolveSelector rules, larger.controlRef = control.controlRef ∧
      (∃ worse, larger.status = .mapped worse ∧ status.severity ≤ worse.severity) ∧
      ∀ report ∈ control.rules, ∃ other ∈ larger.rules, other.ruleId = report.ruleId ∧
        report.status.severity ≤ other.status.severity := by
  obtain ⟨rfl, hne⟩ := mapped_iff hcontrol hmapped
  have hcounterparts : ∀ report ∈ control.rules, ∃ rule ∈ rules,
      rule.controlRef = control.controlRef ∧ rule.ruleId = report.ruleId ∧
        report.status.severity ≤ (resolveRule resolveSelector rule).status.severity := by
    intro report hreport
    rw [(control_spec hcontrol).1, mem_resolvedRulesFor] at hreport
    obtain ⟨rule, hrule, href, rfl⟩ := hreport
    obtain ⟨other, hother, hid, hotherRef, hexcluded, hmore⟩ := hextends.counterpart hrule
    exact ⟨other, hother, hotherRef.trans href, hid, severity_resolveRule_le hexcluded hmore⟩
  obtain ⟨report, hreport⟩ := List.exists_mem_of_ne_nil _ hne
  obtain ⟨rule, hrule, href, -⟩ := hcounterparts report hreport
  obtain ⟨larger, hlarger, hlargerRef⟩ := @exists_control _ resolveSelector _ _ hrule
  have hinside : ∀ report ∈ control.rules, ∃ other ∈ larger.rules, other.ruleId = report.ruleId ∧
      report.status.severity ≤ other.status.severity := by
    intro report hreport
    obtain ⟨other, hother, hotherRef, hid, hseverity⟩ := hcounterparts report hreport
    have hsame := hlargerRef.trans (href.trans hotherRef.symm)
    exact ⟨_, (control_status hother hlarger hsame).1, hid, hseverity⟩
  have hstatus := (control_status hrule hlarger hlargerRef).2
  refine ⟨larger, hlarger, hlargerRef.trans href, ⟨_, hstatus, ?_⟩, hinside⟩
  apply severity_worstStatus_le
  intro status hmem
  obtain ⟨report, hreport, rfl⟩ := List.mem_map.1 hmem
  obtain ⟨other, hother, -, hseverity⟩ := hinside report hreport
  exact ⟨_, List.mem_map_of_mem hother, hseverity⟩

/-! ### Permuted rules -/

theorem organizationControlIds_congr {others : List (MappingRule Selector)}
    (hperm : rules.Perm others) :
    organizationControlIds rules = organizationControlIds others := by
  rw [organizationControlIds, organizationControlIds]
  exact sortTexts_eq_iff.2 (hperm.filterMap _).dedup

theorem projectControls_congr {others : List (MappingRule Selector)}
    (hvalid : ValidRules rules) (hperm : rules.Perm others) :
    projectControls resolveSelector others = projectControls resolveSelector rules := by
  rw [projectControls_eq, projectControls_eq, controlRefs, controlRefs,
    organizationControlIds_congr hperm]
  apply List.map_congr_left
  intro control _
  apply congrArg
  rw [resolvedRulesFor, resolvedRulesFor]
  symm
  apply @insertionSort_congr (RuleReport Selector) (fun report => report.ruleId) _ _
    ((hperm.filter _).map _)
  intro a ha b hb hid
  obtain ⟨rule, hrule, rfl⟩ := List.mem_map.1 ha
  obtain ⟨other, hother, rfl⟩ := List.mem_map.1 hb
  rw [List.inj_on_of_nodup_map hvalid.ruleIds (List.mem_of_mem_filter hrule)
    (List.mem_of_mem_filter hother) hid]

end Aggregation

/-! ### The report is honest -/

/-- In the order of the table, in which an unknown is worse than missing evidence. -/
theorem honestReport_severity (resolveSelector : Selector → SelectorResolution Selector)
    (mapping : EvidenceMapping Selector) :
    HonestReport RuleStatus.severity resolveSelector mapping.rules where
  covered := perm_reports resolveSelector mapping.rules
  verifiedRule := fun rule _ => verifiedRule_spec
  verifiedControl := fun control => verifiedControl_spec
  missing := by
    intro rule hrule hexcluded selector hselector hmissing
    have hle := @severity_le_aggregated _ resolveSelector _ _ hrule hexcluded _ hselector
    rwa [hmissing] at hle
  unknown := by
    intro rule hrule selector hselector hunknown
    have hstatus : (resolveRule resolveSelector rule).status ≠ .evidenceLinkedVerified := by
      intro hverified
      rw [(verifiedRule_spec hverified).2 selector hselector] at hunknown
      cases hunknown
    refine ⟨hstatus, fun control hcontrol href hverified => hstatus ?_⟩
    exact verifiedControl_spec hcontrol hverified _ (control_status hrule hcontrol href).1
  monotone := fun fewer hextends control hcontrol status => hextends.severity_le hcontrol
  permuted := fun others => projectControls_congr mapping.valid

/-- How bad a status is, as the comment on the table has it. -/
def RuleStatus.promisedRank : RuleStatus → Nat
  | .evidenceLinkedVerified => 0
  | .evidencePresentUnverified => 1
  | .notVerified => 2
  | .evidenceMissing => 3

/-- Two of the selectors. -/
inductive SampleSelector
  | implementationRevision
  | checkSupported (checkId : String)
deriving DecidableEq, Repr

/-- A session with an implementation, no review of it and no validation attempt. -/
def resolveSample (selector : SampleSelector) : SelectorResolution SampleSelector :=
  match selector with
  | .implementationRevision => ⟨selector, .notVerified, "IMPLEMENTATION_REVIEW_ABSENT"⟩
  | .checkSupported _ => ⟨selector, .evidenceMissing, "CHECK_ATTEMPT_MISSING"⟩

/-- One rule with both selectors. -/
def maskedMapping : EvidenceMapping SampleSelector where
  rules := [⟨"R-1", .annexA .a829, "REQ-1", false,
    [.implementationRevision, .checkSupported "test"]⟩]
  valid := ⟨by decide, by decide, by decide, by decide⟩

/-- In the order of the comment the missing check hides behind the unknown revision. -/
theorem not_honestReport :
    ¬ HonestReport RuleStatus.promisedRank resolveSample maskedMapping.rules := by
  intro hhonest
  have hrank := (hhonest.missing _ (List.mem_singleton_self _) rfl (.checkSupported "test")
    (List.mem_cons_of_mem _ List.mem_cons_self) rfl).1
  exact absurd hrank (by decide)

end GovernedRuntime.Audit
