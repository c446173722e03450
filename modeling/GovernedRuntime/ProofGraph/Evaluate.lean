/-
The evaluator of the proof graph (`src/audit/proofgraph/evaluate.ts`,
`evidence-role-independence.ts`): from declared claims, provider results and
counterexamples to one verification state for each claim.
-/
import GovernedRuntime.Library.Texts
import GovernedRuntime.State.ProofGraph
import GovernedRuntime.State.Timestamp
import Mathlib.Data.Int.ConditionallyCompleteOrder
import Mathlib.Order.ConditionallyCompleteLattice.Basic
import Mathlib.Data.List.Sort
import Mathlib.Order.WithBot

namespace GovernedRuntime.ProofGraph

open GovernedRuntime.Library (textLE)
open GovernedRuntime.State

/-! ### Evidence -/

inductive CounterexampleOutcome
  | supported
  | contradicted
  | notVerified
  | blocked
deriving DecidableEq, Repr

/-- An executed falsification; its check and its revision are never empty. -/
@[ext]
structure ProofCounterexample where
  claimId : String
  attemptId : String
  checkId : String
  scenario : String
  outcome : CounterexampleOutcome
  boundDigest : String
  executedAt : Timestamp
  checkId_ne : checkId ≠ ""
  boundDigest_ne : boundDigest ≠ ""

instance : DecidableEq ProofCounterexample := fun _ _ =>
  decidable_of_iff _ ProofCounterexample.ext_iff.symm

/-- The surface a provider result was computed over. -/
inductive ProofProviderBinding
  | implementation (digest : String)
  | plan (digest : String)
  | surfaceSet (surfaceId digest : String)
deriving DecidableEq, Repr

def ProofProviderBinding.digest : ProofProviderBinding → String
  | .implementation digest => digest
  | .plan digest => digest
  | .surfaceSet _ digest => digest

inductive EvidenceAttestation
  | flowguardExecuted
  | flowguardObserved
  | externalSelfReported
deriving DecidableEq, Repr

inductive ExecutedStatus
  | pass
  | fail
  | error
deriving DecidableEq, Repr

/-- What only an executed result carries. -/
structure ProviderExecution where
  status : ExecutedStatus
  /-- `source.stableId`. -/
  stableId : String
  binding : ProofProviderBinding
deriving DecidableEq, Repr

/-- A provider result; one without an execution is `unavailable`. -/
structure ProofProviderResult where
  claimId : String
  providerKind : ProofProviderKind
  executionRecordId : Option String
  attestation : EvidenceAttestation
  execution : Option ProviderExecution
deriving DecidableEq, Repr

def ProofProviderResult.hasStatus (result : ProofProviderResult)
    (status : ExecutedStatus) : Bool :=
  result.execution.any (·.status == status)

structure ProofGraphEvaluationInput where
  claims : List DeclaredClaim
  providerResults : List ProofProviderResult
  counterexamples : List ProofCounterexample
  currentImplementationDigest : Option String
  currentPlanDigest : Option String
  currentSurfaceDigests : List (String × String)

/-! ### Freshness -/

/-- An instant that cannot be read is older than every other. -/
def epochOfExecutedAt (executedAt : Timestamp) : WithBot Int := dateParse executedAt

def isFresh (binding : ProofProviderBinding) (input : ProofGraphEvaluationInput) :
    Bool :=
  match binding with
  | .implementation digest => input.currentImplementationDigest == some digest
  | .plan digest => input.currentPlanDigest == some digest
  | .surfaceSet surfaceId digest =>
      input.currentSurfaceDigests.lookup surfaceId == some digest

/-- `isFresh(bindingOf(result), input)`. -/
def ProofProviderResult.isFresh (result : ProofProviderResult)
    (input : ProofGraphEvaluationInput) : Bool :=
  result.execution.any fun execution => ProofGraph.isFresh execution.binding input

def isFreshCounterexample (counterexample : ProofCounterexample)
    (currentImplementationDigest : Option String) : Bool :=
  currentImplementationDigest == some counterexample.boundDigest

def computeFreshness (passingResults : List ProofProviderResult)
    (input : ProofGraphEvaluationInput) (evaluatedAt : Timestamp) : Option Freshness :=
  let fresh := passingResults.find? (·.isFresh input)
  match (fresh.or (passingResults.find? (·.execution.isSome))).bind (·.execution) with
  | none => none
  | some execution => some ⟨execution.binding.digest, evaluatedAt, fresh.isNone⟩

/-! ### Counterexamples -/

structure AdversarialAnalysis where
  freshContradicted : Bool
  freshSupported : Bool
  freshBlocked : Bool
  hasStaleAdversarial : Bool
  hasFreshAdversarial : Bool
deriving DecidableEq, Repr

/-- The flags the loop over the selected counterexamples sets. -/
def analyzeCounterexamples (counterexamples : List ProofCounterexample)
    (currentImplementationDigest : Option String) : AdversarialAnalysis :=
  let fresh (c : ProofCounterexample) := isFreshCounterexample c currentImplementationDigest
  { freshContradicted := counterexamples.any fun c => c.outcome == .contradicted && fresh c
    freshSupported := counterexamples.any fun c => c.outcome == .supported && fresh c
    freshBlocked := counterexamples.any fun c => c.outcome == .blocked && fresh c
    hasStaleAdversarial := counterexamples.any fun c =>
      c.outcome != .notVerified && !fresh c
    hasFreshAdversarial := counterexamples.any fun c =>
      c.outcome != .notVerified && fresh c }

/-- The group of a counterexample: one claim, one check, one revision. -/
def attemptKey (c : ProofCounterexample) : String :=
  c.claimId ++ ":" ++ c.checkId ++ ":" ++ c.boundDigest

/-- The value that stands for a history, newest first; `none` is a conflict. -/
def resolveAttemptHistory : List ProofCounterexample → Option ProofCounterexample
  | [] => none
  | latest :: older =>
      let tied := (latest :: older).filter (·.executedAt == latest.executedAt)
      if older.head?.any (·.executedAt == latest.executedAt) &&
          1 < (tied.map (·.outcome)).dedup.length then none
      else if latest.outcome == .contradicted then some latest
      else if older.any (·.outcome == .contradicted) then none
      else some latest

def newestFirst (group : List ProofCounterexample) : List ProofCounterexample :=
  group.insertionSort fun a b =>
    epochOfExecutedAt b.executedAt ≤ epochOfExecutedAt a.executedAt

def resolveGroup (group : List ProofCounterexample) : Option ProofCounterexample :=
  if group.length == 1 then group.head? else resolveAttemptHistory (newestFirst group)

def attemptGroups (counterexamples : List ProofCounterexample) :
    List (List ProofCounterexample) :=
  (counterexamples.map attemptKey).eraseDups.map fun key =>
    counterexamples.filter (attemptKey · == key)

structure CurrentCounterexampleSelection where
  counterexamples : List ProofCounterexample
  conflicting : Bool

def selectCurrentCounterexamples (counterexamples : List ProofCounterexample) :
    CurrentCounterexampleSelection :=
  let groups := attemptGroups counterexamples
  ⟨groups.filterMap resolveGroup, groups.any fun group => (resolveGroup group).isNone⟩

/-! ### Independent roles -/

inductive EvidenceRoleIndependence
  | independent
  | roleCollision
  | notVerifiable
deriving DecidableEq, Repr

def assessEvidenceRoleIndependence (counterexampleRequirement : Option CounterexampleRequirement)
    (adversarialCounterexampleRequired : Bool) (providerResults : List ProofProviderResult)
    (counterexamples : List ProofCounterexample) : EvidenceRoleIndependence :=
  if counterexampleRequirement.isNone && !adversarialCounterexampleRequired then .independent
  else
    let passed := providerResults.filter (·.hasStatus .pass)
    let collides (result : ProofProviderResult) :=
      (result.executionRecordId.any fun record =>
        counterexamples.any (·.attemptId == record)) ||
      (result.providerKind == .executedTest && result.execution.any fun execution =>
        counterexamples.any (·.checkId == execution.stableId))
    if passed.any collides then .roleCollision
    else if passed.any fun result =>
        result.providerKind == .executedTest && result.executionRecordId.isNone then
      .notVerifiable
    else .independent

/-! ### One claim -/

def specificCarryingKinds : List ProofProviderKind :=
  [.structuralAssertion, .schemaCompare, .faultInjection]

def hasClaimCarryingBinding (claim : DeclaredClaim) : Bool :=
  claim.counterexampleRequirement.isSome ||
    (claim.requiredEvidence.elim [] (·.positive)).any (specificCarryingKinds.contains ·)

structure ClaimEvidenceAnalysis where
  passing : List ProofProviderResult
  counterexamples : List ProofCounterexample
  adversarial : AdversarialAnalysis
  hasStaleBoundEvidence : Bool

def emptyRequired : RequiredEvidence := ⟨[], 0⟩

def hasIndependentEvidenceRoles (claim : DeclaredClaim)
    (evidence : ClaimEvidenceAnalysis) : Bool :=
  assessEvidenceRoleIndependence claim.counterexampleRequirement
    (0 < claim.requiredEvidence.elim 0 (·.adversarial)) evidence.passing
    evidence.counterexamples == .independent

def deriveFromRequiredEvidence (claim : DeclaredClaim) (evidence : ClaimEvidenceAnalysis)
    (input : ProofGraphEvaluationInput) : ClaimVerificationState :=
  if claim.claimScope == some .specificBehavior && !hasClaimCarryingBinding claim then
    .notVerified
  else if !hasIndependentEvidenceRoles claim evidence then .notVerified
  else
    let counts (result : ProofProviderResult) :=
      result.attestation != .externalSelfReported && result.isFresh input
    let required := claim.requiredEvidence.getD emptyRequired
    let adversarial := required.adversarial == 0 || evidence.adversarial.freshSupported
    let positive :=
      if required.positive.isEmpty then evidence.passing.any counts
      else required.positive.all fun kind =>
        evidence.passing.any fun result => counts result && result.providerKind == kind
    if adversarial && positive then
      if evidence.adversarial.hasStaleAdversarial &&
          !evidence.adversarial.hasFreshAdversarial then .stale
      else .proven
    else if !adversarial then .notVerified
    else if evidence.hasStaleBoundEvidence then .stale
    else .unproven

/-- The cascade; the first rule that applies decides. -/
def deriveVerificationState (claim : DeclaredClaim) (results : List ProofProviderResult)
    (selected raw : List ProofCounterexample) (input : ProofGraphEvaluationInput) :
    ClaimVerificationState :=
  let cx := analyzeCounterexamples selected input.currentImplementationDigest
  if claim.provenance.isNone then .notVerified
  else if cx.freshContradicted then .contradicted
  else if cx.freshBlocked then .blocked
  else if results.any fun result => result.hasStatus .error && result.isFresh input then
    .blocked
  else if results.any (·.execution.isNone) then .notVerified
  else if results.any fun result => result.hasStatus .fail && result.isFresh input then
    .unproven
  else
    deriveFromRequiredEvidence claim
      { passing := results.filter (·.hasStatus .pass)
        counterexamples := raw
        adversarial := cx
        hasStaleBoundEvidence := results.any fun result =>
          result.execution.isSome && !result.isFresh input } input

/-- The verification state of a claim over the evidence of its own id. -/
def claimState (claim : DeclaredClaim) (input : ProofGraphEvaluationInput) :
    ClaimVerificationState :=
  let raw := input.counterexamples.filter (·.claimId == claim.claimId)
  let selection := selectCurrentCounterexamples raw
  if selection.conflicting then .notVerified
  else
    deriveVerificationState claim
      (input.providerResults.filter (·.claimId == claim.claimId))
      selection.counterexamples raw input

def evaluateClaim (claim : DeclaredClaim) (input : ProofGraphEvaluationInput)
    (evaluatedAt : Timestamp) : ProofClaim :=
  { claim with
    verificationState := claimState claim input
    freshness := computeFreshness
      ((input.providerResults.filter (·.claimId == claim.claimId)).filter
        (·.hasStatus .pass)) input evaluatedAt }

def evaluateProofGraph (input : ProofGraphEvaluationInput) (evaluatedAt : Timestamp) :
    ProofGraphProjection :=
  let conflicts := input.claims.filter fun claim =>
    (selectCurrentCounterexamples
      (input.counterexamples.filter (·.claimId == claim.claimId))).conflicting
  { claims := (input.claims.insertionSort fun a b => textLE a.claimId b.claimId).map
      (evaluateClaim · input evaluatedAt)
    evaluatedAt := evaluatedAt
    claimDiagnostics := conflicts.map fun claim => (claim.claimId, .counterexampleConflict) }

/-! ### Histories -/

section Histories

variable {group : List ProofCounterexample}

theorem newestFirst_perm (group : List ProofCounterexample) :
    (newestFirst group).Perm group :=
  List.perm_insertionSort _ _

theorem newestFirst_cons {c : ProofCounterexample}
    (hnewest : ∀ other ∈ group,
      epochOfExecutedAt other.executedAt ≤ epochOfExecutedAt c.executedAt) :
    newestFirst (c :: group) = c :: newestFirst group :=
  List.insertionSort_cons_of_forall_rel _ hnewest

theorem newestFirst_pairwise (group : List ProofCounterexample) :
    (newestFirst group).Pairwise fun a b =>
      epochOfExecutedAt b.executedAt ≤ epochOfExecutedAt a.executedAt := by
  have htotal : Std.Total fun a b : ProofCounterexample =>
      epochOfExecutedAt b.executedAt ≤ epochOfExecutedAt a.executedAt :=
    ⟨fun a b => le_total _ _⟩
  have htrans : IsTrans ProofCounterexample fun a b =>
      epochOfExecutedAt b.executedAt ≤ epochOfExecutedAt a.executedAt :=
    ⟨fun a b c hab hbc => le_trans hbc hab⟩
  exact List.pairwise_insertionSort _ _

/-- The first of a sorted group is of the latest instant. -/
theorem epoch_le_of_newestFirst {latest : ProofCounterexample}
    {older : List ProofCounterexample} (hsorted : newestFirst group = latest :: older)
    {c : ProofCounterexample} (hmem : c ∈ group) :
    epochOfExecutedAt c.executedAt ≤ epochOfExecutedAt latest.executedAt := by
  have hpairwise := newestFirst_pairwise group
  have hmem' := (newestFirst_perm group).mem_iff.2 hmem
  rw [hsorted] at hpairwise hmem'
  rcases List.mem_cons.1 hmem' with rfl | hin
  · exact le_rfl
  · exact (List.pairwise_cons.1 hpairwise).1 c hin

/-- A group of one entry needs no exception. -/
theorem resolveGroup_eq (hgroup : group ≠ []) :
    resolveGroup group = resolveAttemptHistory (newestFirst group) := by
  rcases group with _ | ⟨first, _ | ⟨second, rest⟩⟩
  · exact absurd rfl hgroup
  · by_cases hcontradicted : first.outcome = .contradicted <;>
      simp [resolveGroup, newestFirst, resolveAttemptHistory, hcontradicted]
  · rw [resolveGroup, if_neg (by simp)]

/-- The latest entry stands for its group, if nothing at its instant differs from it
and no contradiction is older. -/
theorem resolveGroup_of_newest {newest : ProofCounterexample}
    (hnewest : ∀ other ∈ group,
      epochOfExecutedAt other.executedAt ≤ epochOfExecutedAt newest.executedAt)
    (htied : ∀ other ∈ group, other.executedAt = newest.executedAt →
      other.outcome = newest.outcome)
    (holder : newest.outcome = .contradicted ∨
      ∀ other ∈ group, other.outcome ≠ .contradicted) :
    resolveGroup (newest :: group) = some newest := by
  have hsame : (((newest :: newestFirst group).filter
      (·.executedAt == newest.executedAt)).map (·.outcome)).dedup ⊆ [newest.outcome] := by
    intro outcome hmem
    obtain ⟨other, hother, rfl⟩ := List.mem_map.1 (List.mem_dedup.1 hmem)
    obtain ⟨hin, htime⟩ := List.mem_filter.1 hother
    rcases List.mem_cons.1 hin with rfl | hin
    · exact List.mem_singleton_self _
    · rw [htied other ((newestFirst_perm group).mem_iff.1 hin) (by simpa using htime)]
      exact List.mem_singleton_self _
  have hone := (List.subperm_of_subset (List.nodup_dedup _) hsame).length_le
  rw [List.length_singleton] at hone
  rw [resolveGroup_eq (List.cons_ne_nil _ _), newestFirst_cons hnewest]
  simp only [resolveAttemptHistory]
  rw [if_neg (by simp only [Bool.and_eq_true, decide_eq_true_eq]; omega)]
  rcases holder with hcontradicted | hnone
  · rw [if_pos (by simpa using hcontradicted)]
  · have holder : (newestFirst group).any (·.outcome == .contradicted) = false := by
      rw [List.any_eq_false]
      intro other hother
      simpa using hnone other ((newestFirst_perm group).mem_iff.1 hother)
    rw [holder, if_neg Bool.false_ne_true]
    split_ifs <;> rfl

theorem mem_attemptGroups {counterexamples : List ProofCounterexample} :
    group ∈ attemptGroups counterexamples ↔
      ∃ c ∈ counterexamples,
        counterexamples.filter (attemptKey · == attemptKey c) = group := by
  simp [attemptGroups]

/-- A contradiction somewhere in a history is never replaced by another outcome. -/
theorem contradicted_of_resolveAttemptHistory {history : List ProofCounterexample}
    {value c : ProofCounterexample} (hvalue : resolveAttemptHistory history = some value)
    (hmem : c ∈ history) (hcontradicted : c.outcome = .contradicted) :
    value ∈ history ∧ value.outcome = .contradicted := by
  cases history with
  | nil => cases hmem
  | cons latest older =>
      simp only [resolveAttemptHistory] at hvalue
      split_ifs at hvalue with htied hlatest holder
      · cases hvalue
        exact ⟨List.mem_cons_self, by simpa using hlatest⟩
      · cases hvalue
        rcases List.mem_cons.1 hmem with rfl | hin
        · exact absurd (by simpa using hcontradicted) hlatest
        · exact absurd (List.any_eq_true.2 ⟨c, hin, by simpa using hcontradicted⟩) holder

theorem contradicted_of_resolveGroup {value c : ProofCounterexample}
    (hvalue : resolveGroup group = some value) (hmem : c ∈ group)
    (hcontradicted : c.outcome = .contradicted) :
    value ∈ group ∧ value.outcome = .contradicted := by
  rw [resolveGroup_eq (List.ne_nil_of_mem hmem)] at hvalue
  obtain ⟨hin, houtcome⟩ := contradicted_of_resolveAttemptHistory hvalue
    ((newestFirst_perm group).mem_iff.2 hmem) hcontradicted
  exact ⟨(newestFirst_perm group).mem_iff.1 hin, houtcome⟩

end Histories

/-! ### The projection -/

theorem mem_evaluateProofGraph {input : ProofGraphEvaluationInput} {evaluatedAt : Timestamp}
    {evaluated : ProofClaim} :
    evaluated ∈ (evaluateProofGraph input evaluatedAt).claims ↔
      ∃ claim ∈ input.claims, evaluateClaim claim input evaluatedAt = evaluated := by
  simp [evaluateProofGraph, List.mem_map, List.mem_insertionSort]

end GovernedRuntime.ProofGraph
