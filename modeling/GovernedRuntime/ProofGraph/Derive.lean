/-
The projection of a session (`src/audit/proofgraph/derive.ts`): the claims it declares,
their evaluation, and the diagnostics the derivation puts in place of the evaluator's.
-/
import GovernedRuntime.Library.Json
import GovernedRuntime.ProofGraph.Contradiction
import GovernedRuntime.Review.PeerReview

namespace GovernedRuntime.ProofGraph

open GovernedRuntime.Library
open GovernedRuntime.Review (PeerReviewEvidence resolveAuthoritativePeerReviewTask)
open GovernedRuntime.State

/-! ### What the derivation reads -/

structure PeerReviewTask where
  claims : List DeclaredClaim
deriving DecidableEq

inductive CoverageCause
  | missingDeclarations
  | missingCertificate
  | invalidCertificate
  | missingImplementation
  | missingExpectedCheck
  | unverifiedMutationProfile
  | invalidCounterexampleContract
  | aggregateCounterexampleUnsupported
  | evidenceRoleCollision
deriving DecidableEq, Repr

structure ProofContractCoverage where
  claimId : Option String
  cause : CoverageCause
deriving DecidableEq, Repr

/-- The parts of a session the derivation reads. -/
structure DerivationState where
  proofContract : Option ProofContract
  proofContractCoverage : List ProofContractCoverage
  /-- `reviewAssurance?.obligations ?? []`. -/
  obligations : List ReviewObligation
  peerReviewEvidence : List (PeerReviewEvidence PeerReviewTask)
  /-- `implementation?.digest`. -/
  implementationDigest : Option String
  /-- `plan?.current.digest`. -/
  planDigest : Option String

/-! ### Records by claim -/

/-- A record from claim ids to diagnostics. -/
abbrev DiagnosticRecord := List (String × AssertionBindingReasonCode)

/-- `record[claimId] = code`. -/
def setDiagnostic (record : DiagnosticRecord) (claimId : String)
    (code : AssertionBindingReasonCode) : DiagnosticRecord :=
  (claimId, code) :: record.filter (·.1 != claimId)

theorem lookup_setDiagnostic {record : DiagnosticRecord} {claimId other : String}
    {code : AssertionBindingReasonCode} :
    (setDiagnostic record claimId code).lookup other =
      if other = claimId then some code else record.lookup other := by
  rw [setDiagnostic, List.lookup_cons]
  split_ifs with heq
  · rw [beq_iff_eq.2 heq]
  · rw [beq_false_of_ne heq]
    exact @lookup_filter _ (· != claimId) other (by simpa using heq) record

/-! ### The derivation -/

/-- `claims.set(claim.claimId, claim)`: a claim with a known id takes its place. -/
def setClaim (claims : List DeclaredClaim) (claim : DeclaredClaim) : List DeclaredClaim :=
  if claims.any (·.claimId == claim.claimId) then
    claims.map fun other => if other.claimId == claim.claimId then claim else other
  else claims ++ [claim]

def collectAuthoritativePeerReviewClaims (state : DerivationState) : List DeclaredClaim :=
  state.obligations.foldl
    (fun claims obligation =>
      if obligation.obligationType != .review then claims
      else
        match resolveAuthoritativePeerReviewTask state.peerReviewEvidence
            obligation.obligationId with
        | .ok task _ => task.claims.foldl setClaim claims
        | _ => claims)
    []

def normalizeContractClaims (state : DerivationState) : List DeclaredClaim :=
  state.proofContract.elim [] (·.claims)

def declaredClaims (state : DerivationState) : List DeclaredClaim :=
  normalizeContractClaims state ++ collectAuthoritativePeerReviewClaims state

/-- The roles of the evidence recorded for a claim. -/
def claimRoles (providerResults : List ProofProviderResult)
    (counterexamples : List ProofCounterexample) (claim : DeclaredClaim) :
    EvidenceRoleIndependence :=
  assessEvidenceRoleIndependence claim.counterexampleRequirement
    (0 < claim.requiredEvidence.elim 0 (·.adversarial))
    (providerResults.filter (·.claimId == claim.claimId))
    (counterexamples.filter (·.claimId == claim.claimId))

def roleIndependenceDiagnostics (claims : List DeclaredClaim)
    (providerResults : List ProofProviderResult) (counterexamples : List ProofCounterexample) :
    DiagnosticRecord :=
  claims.foldl
    (fun record claim =>
      match claimRoles providerResults counterexamples claim with
      | .roleCollision => setDiagnostic record claim.claimId .evidenceRoleCollision
      | .notVerifiable => setDiagnostic record claim.claimId .evidenceMissing
      | .independent => record)
    []

def mergeRoleDiagnostics (provided computed : DiagnosticRecord) : DiagnosticRecord :=
  computed.foldl
    (fun merged entry =>
      if entry.2 == .evidenceRoleCollision || (merged.lookup entry.1).isNone then
        setDiagnostic merged entry.1 entry.2
      else merged)
    provided

def coverageGapDiagnostics (state : DerivationState) : DiagnosticRecord :=
  state.proofContractCoverage.foldl
    (fun record gap =>
      match gap.cause, gap.claimId with
      | .evidenceRoleCollision, some claimId =>
          setDiagnostic record claimId .evidenceRoleCollision
      | _, _ => record)
    []

/-- `{ ...record, ...added }`. -/
def spreadDiagnostics (record added : DiagnosticRecord) : DiagnosticRecord :=
  added ++ record.filter fun entry => (added.lookup entry.1).isNone

/-- What the caller of the derivation supplies. -/
structure DerivationInput where
  state : DerivationState
  providerResults : List ProofProviderResult
  counterexamples : List ProofCounterexample
  currentSurfaceDigests : List (String × String)
  claimDiagnostics : DiagnosticRecord

def evaluationInput (input : DerivationInput) : ProofGraphEvaluationInput :=
  { claims := declaredClaims input.state
    providerResults := input.providerResults
    counterexamples := input.counterexamples
    currentImplementationDigest := input.state.implementationDigest
    currentPlanDigest := input.state.planDigest
    currentSurfaceDigests := input.currentSurfaceDigests }

/-- The diagnostics the derivation adds. -/
def derivationDiagnostics (input : DerivationInput) : DiagnosticRecord :=
  mergeRoleDiagnostics
    (spreadDiagnostics input.claimDiagnostics (coverageGapDiagnostics input.state))
    (roleIndependenceDiagnostics (declaredClaims input.state) input.providerResults
      input.counterexamples)

def deriveProofGraph (input : DerivationInput) (evaluatedAt : Timestamp) :
    ProofGraphProjection :=
  let base := evaluateProofGraph (evaluationInput input) evaluatedAt
  let diagnostics := derivationDiagnostics input
  if !diagnostics.isEmpty then { base with claimDiagnostics := diagnostics } else base

/-! ### What the records say -/

/-- The outcomes recorded for a claim contradict each other. -/
def Conflicting (counterexamples : List ProofCounterexample) (claim : DeclaredClaim) : Prop :=
  (selectCurrentCounterexamples
    (counterexamples.filter (·.claimId == claim.claimId))).conflicting = true

/-- The claims the contract coverage keeps a role collision of. -/
def CoverageCollision (state : DerivationState) (claimId : String) : Prop :=
  ⟨some claimId, .evidenceRoleCollision⟩ ∈ state.proofContractCoverage

instance (state : DerivationState) (claimId : String) :
    Decidable (CoverageCollision state claimId) :=
  inferInstanceAs (Decidable (_ ∈ _))

theorem evaluateProofGraph_diagnostics {input : ProofGraphEvaluationInput}
    {evaluatedAt : Timestamp} {claimId : String} {code : AssertionBindingReasonCode} :
    (evaluateProofGraph input evaluatedAt).claimDiagnostics.lookup claimId = some code ↔
      code = .counterexampleConflict ∧
        ∃ claim ∈ input.claims, Conflicting input.counterexamples claim ∧
          claim.claimId = claimId := by
  have hlookup : ∀ claims : List DeclaredClaim,
      (claims.map fun claim =>
        (claim.claimId, AssertionBindingReasonCode.counterexampleConflict)).lookup claimId =
          some code ↔
        code = .counterexampleConflict ∧ ∃ claim ∈ claims, claim.claimId = claimId := by
    intro claims
    induction claims with
    | nil => simp
    | cons claim claims ih =>
        rw [List.map_cons, List.lookup_cons]
        by_cases hid : claimId = claim.claimId
        · simp [hid, eq_comm]
        · rw [beq_false_of_ne hid]
          simpa [Ne.symm hid] using ih
  rw [evaluateProofGraph, hlookup]
  simp [Conflicting, and_assoc]

section Roles

variable {providerResults : List ProofProviderResult}
  {counterexamples : List ProofCounterexample} {claims : List DeclaredClaim}

theorem roleIndependenceDiagnostics_code :
    ∀ entry ∈ roleIndependenceDiagnostics claims providerResults counterexamples,
      entry.2 ≠ .counterexampleConflict := by
  rw [roleIndependenceDiagnostics]
  refine List.foldlRecOn (motive := fun record : DiagnosticRecord =>
    ∀ entry ∈ record, entry.2 ≠ .counterexampleConflict) claims _
    (fun _ hmem => absurd hmem List.not_mem_nil)
    fun record hcodes claim _ entry hentry => ?_
  split at hentry
  · rcases List.mem_cons.1 hentry with rfl | hmem
    · exact nofun
    · exact hcodes entry (List.mem_of_mem_filter hmem)
  · rcases List.mem_cons.1 hentry with rfl | hmem
    · exact nofun
    · exact hcodes entry (List.mem_of_mem_filter hmem)
  · exact hcodes entry hentry

theorem roleIndependenceDiagnostics_eq_nil :
    roleIndependenceDiagnostics claims providerResults counterexamples = [] ↔
      ∀ claim ∈ claims, claimRoles providerResults counterexamples claim = .independent := by
  have hfold : ∀ record,
      claims.foldl
        (fun record claim =>
          match claimRoles providerResults counterexamples claim with
          | .roleCollision => setDiagnostic record claim.claimId .evidenceRoleCollision
          | .notVerifiable => setDiagnostic record claim.claimId .evidenceMissing
          | .independent => record) record = [] ↔
        record = [] ∧
          ∀ claim ∈ claims, claimRoles providerResults counterexamples claim = .independent := by
    induction claims with
    | nil => simp
    | cons claim rest ih =>
        intro record
        rw [List.foldl_cons, ih, List.forall_mem_cons]
        cases hroles : claimRoles providerResults counterexamples claim with
        | independent => simp
        | roleCollision => simp [setDiagnostic]
        | notVerifiable => simp [setDiagnostic]
  rw [roleIndependenceDiagnostics, hfold]
  exact and_iff_right rfl

end Roles

theorem lookup_coverageGapDiagnostics {state : DerivationState} {claimId : String}
    {code : AssertionBindingReasonCode} :
    (coverageGapDiagnostics state).lookup claimId = some code ↔
      code = .evidenceRoleCollision ∧ CoverageCollision state claimId := by
  have hfold : ∀ (gaps : List ProofContractCoverage) (record : DiagnosticRecord),
      (gaps.foldl
        (fun record gap =>
          match gap.cause, gap.claimId with
          | .evidenceRoleCollision, some claimId =>
              setDiagnostic record claimId .evidenceRoleCollision
          | _, _ => record) record).lookup claimId =
        if ⟨some claimId, .evidenceRoleCollision⟩ ∈ gaps then some .evidenceRoleCollision
        else record.lookup claimId := by
    intro gaps
    induction gaps with
    | nil => simp
    | cons gap gaps ih =>
        intro record
        obtain ⟨id, cause⟩ := gap
        rw [List.foldl_cons, ih]
        by_cases hmem : (⟨some claimId, .evidenceRoleCollision⟩ : ProofContractCoverage) ∈ gaps
        · rw [if_pos hmem, if_pos (List.mem_cons_of_mem _ hmem)]
        · rw [if_neg hmem]
          cases cause <;> cases id <;>
            simp [hmem, lookup_setDiagnostic, eq_comm, ProofContractCoverage.mk.injEq]
  rw [coverageGapDiagnostics, hfold, CoverageCollision]
  split_ifs with hmem
  · simp [hmem, eq_comm]
  · simp [hmem]

theorem coverageGapDiagnostics_eq_nil {state : DerivationState} :
    coverageGapDiagnostics state = [] ↔ ∀ claimId, ¬ CoverageCollision state claimId := by
  constructor
  · intro hnil claimId hcollision
    have hlookup := lookup_coverageGapDiagnostics.2 ⟨rfl, hcollision⟩
    rw [hnil] at hlookup
    cases hlookup
  · intro hnone
    cases hgaps : coverageGapDiagnostics state with
    | nil => rfl
    | cons entry rest =>
        have hlookup : (coverageGapDiagnostics state).lookup entry.1 = some entry.2 := by
          rw [hgaps, List.lookup_cons, beq_self_eq_true]
        exact absurd (lookup_coverageGapDiagnostics.1 hlookup).2 (hnone entry.1)

theorem lookup_spreadDiagnostics {record added : DiagnosticRecord} {claimId : String} :
    (spreadDiagnostics record added).lookup claimId =
      (added.lookup claimId).or (record.lookup claimId) := by
  rw [spreadDiagnostics, List.lookup_append]
  cases hadded : added.lookup claimId with
  | some code => rfl
  | none =>
      have hkeep : (added.lookup claimId).isNone = true := by rw [hadded]; rfl
      rw [@lookup_filter _ (fun id => (added.lookup id).isNone) claimId hkeep record]

/-- A merged conflict is a provided one that no role collision replaced. -/
theorem lookup_mergeRoleDiagnostics {provided computed : DiagnosticRecord} {claimId : String}
    (hcodes : ∀ entry ∈ computed, entry.2 ≠ .counterexampleConflict) :
    (mergeRoleDiagnostics provided computed).lookup claimId = some .counterexampleConflict ↔
      provided.lookup claimId = some .counterexampleConflict ∧
        (claimId, .evidenceRoleCollision) ∉ computed := by
  rw [mergeRoleDiagnostics]
  induction computed generalizing provided with
  | nil => simp
  | cons entry rest ih =>
      rw [List.forall_mem_cons] at hcodes
      obtain ⟨id, code⟩ := entry
      have hcode : code ≠ .counterexampleConflict := hcodes.1
      rw [List.foldl_cons, ih hcodes.2, List.mem_cons, not_or, ← and_assoc]
      refine and_congr_left fun _ => ?_
      by_cases hid : claimId = id
      · subst hid
        split_ifs with hset
        · rw [lookup_setDiagnostic, if_pos rfl, Option.some_inj]
          refine iff_of_false hcode fun hprovided => ?_
          rw [hprovided.1, Option.isNone_some, Bool.or_false, beq_iff_eq] at hset
          exact hprovided.2 (by rw [show code = .evidenceRoleCollision from hset])
        · refine (and_iff_left fun heq => hset ?_).symm
          rw [← (Prod.mk.inj heq).2]
          rfl
      · have hother : (if (code == .evidenceRoleCollision || (provided.lookup id).isNone) = true
            then setDiagnostic provided id code else provided).lookup claimId =
              provided.lookup claimId := by
          split_ifs
          · rw [lookup_setDiagnostic, if_neg hid]
          · rfl
        rw [hother]
        exact (and_iff_left fun heq => hid (Prod.mk.inj heq).1).symm

theorem mergeRoleDiagnostics_eq_nil {provided computed : DiagnosticRecord} :
    mergeRoleDiagnostics provided computed = [] ↔ provided = [] ∧ computed = [] := by
  have hne : ∀ (computed provided : DiagnosticRecord), provided ≠ [] →
      mergeRoleDiagnostics provided computed ≠ [] := by
    intro computed
    induction computed with
    | nil => exact fun _ h => h
    | cons entry rest ih =>
        intro provided hprovided
        rw [mergeRoleDiagnostics, List.foldl_cons]
        refine ih _ ?_
        split_ifs
        · exact List.cons_ne_nil _ _
        · exact hprovided
  cases provided with
  | cons entry rest => exact iff_of_false (hne _ _ (List.cons_ne_nil _ _)) (by simp)
  | nil =>
      cases computed with
      | nil => simp [mergeRoleDiagnostics]
      | cons entry rest =>
          refine iff_of_false ?_ (by simp)
          rw [mergeRoleDiagnostics, List.foldl_cons]
          exact hne rest _ (by simp [setDiagnostic])

/-! ### What survives -/

/-- The diagnostics of the evaluation and of the derivation are all there. -/
def DiagnosticsSurvive (input : DerivationInput) (evaluatedAt : Timestamp) : Prop :=
  ∀ claimId code,
    ((evaluateProofGraph (evaluationInput input) evaluatedAt).claimDiagnostics.lookup claimId =
        some code ∨
      (derivationDiagnostics input).lookup claimId = some code) →
    (deriveProofGraph input evaluatedAt).claimDiagnostics.lookup claimId = some code

/-- The caller reports nothing, the contract coverage keeps no role collision, and the
evidence of every claim comes from independent executions. -/
structure NothingElseDiagnosed (input : DerivationInput) : Prop where
  reported : input.claimDiagnostics = []
  coverage : ∀ claimId, ¬ CoverageCollision input.state claimId
  roles : ∀ claim ∈ declaredClaims input.state,
    claimRoles input.providerResults input.counterexamples claim = .independent

/-- The caller already reports the conflict, and no role collision takes its place. -/
structure ConflictReported (input : DerivationInput) (claimId : String) : Prop where
  reported : input.claimDiagnostics.lookup claimId = some .counterexampleConflict
  coverage : ¬ CoverageCollision input.state claimId
  roles : (claimId, .evidenceRoleCollision) ∉ roleIndependenceDiagnostics
    (declaredClaims input.state) input.providerResults input.counterexamples

theorem derivationDiagnostics_eq_nil {input : DerivationInput} :
    derivationDiagnostics input = [] ↔ NothingElseDiagnosed input := by
  rw [derivationDiagnostics, mergeRoleDiagnostics_eq_nil, roleIndependenceDiagnostics_eq_nil]
  have hspread : spreadDiagnostics input.claimDiagnostics (coverageGapDiagnostics input.state) =
      [] ↔ input.claimDiagnostics = [] ∧ coverageGapDiagnostics input.state = [] := by
    rw [spreadDiagnostics, List.append_eq_nil_iff]
    constructor
    · rintro ⟨hgaps, hfilter⟩
      rw [hgaps] at hfilter
      exact ⟨by simpa using hfilter, hgaps⟩
    · rintro ⟨hreported, hgaps⟩
      rw [hreported, hgaps]
      exact ⟨rfl, rfl⟩
  rw [hspread, coverageGapDiagnostics_eq_nil]
  exact ⟨fun ⟨⟨hreported, hcoverage⟩, hroles⟩ => ⟨hreported, hcoverage, hroles⟩,
    fun h => ⟨⟨h.reported, h.coverage⟩, h.roles⟩⟩

theorem lookup_derivationDiagnostics {input : DerivationInput} {claimId : String} :
    (derivationDiagnostics input).lookup claimId = some .counterexampleConflict ↔
      ConflictReported input claimId := by
  rw [derivationDiagnostics, lookup_mergeRoleDiagnostics roleIndependenceDiagnostics_code,
    lookup_spreadDiagnostics]
  have hgap : ((coverageGapDiagnostics input.state).lookup claimId).or
      (input.claimDiagnostics.lookup claimId) = some .counterexampleConflict ↔
        input.claimDiagnostics.lookup claimId = some .counterexampleConflict ∧
          ¬ CoverageCollision input.state claimId := by
    cases hlookup : (coverageGapDiagnostics input.state).lookup claimId with
    | some code =>
        obtain ⟨rfl, hcollision⟩ := lookup_coverageGapDiagnostics.1 hlookup
        simp [hcollision]
    | none =>
        have hnone : ¬ CoverageCollision input.state claimId := fun hcollision => by
          rw [lookup_coverageGapDiagnostics.2 ⟨rfl, hcollision⟩] at hlookup
          cases hlookup
        simp [hnone]
  rw [hgap]
  exact ⟨fun ⟨⟨hreported, hcoverage⟩, hroles⟩ => ⟨hreported, hcoverage, hroles⟩,
    fun h => ⟨⟨h.reported, h.coverage⟩, h.roles⟩⟩

/-- The derivation's own diagnostics replace the evaluator's: these survive exactly when
there are none of its own, or the caller reports each conflict itself. -/
theorem diagnosticsSurvive_iff (input : DerivationInput) (evaluatedAt : Timestamp) :
    DiagnosticsSurvive input evaluatedAt ↔
      NothingElseDiagnosed input ∨
        ∀ claim ∈ declaredClaims input.state, Conflicting input.counterexamples claim →
          ConflictReported input claim.claimId := by
  rw [← derivationDiagnostics_eq_nil]
  simp only [← lookup_derivationDiagnostics]
  by_cases hnil : derivationDiagnostics input = []
  · refine iff_of_true (fun claimId code hcode => ?_) (.inl hnil)
    rw [deriveProofGraph, hnil]
    rcases hcode with hbase | hown
    · exact hbase
    · rw [hnil] at hown
      cases hown
  · have hderived : (deriveProofGraph input evaluatedAt).claimDiagnostics =
        derivationDiagnostics input := by
      rw [deriveProofGraph, if_pos (by simpa using hnil)]
    rw [or_iff_right hnil]
    constructor
    · intro hsurvive claim hclaim hconflict
      rw [← hderived]
      exact hsurvive _ _ (.inl (evaluateProofGraph_diagnostics.2
        ⟨rfl, claim, hclaim, hconflict, rfl⟩))
    · intro hreported claimId code hcode
      rw [hderived]
      rcases hcode with hbase | hown
      · obtain ⟨rfl, claim, hclaim, hconflict, rfl⟩ := evaluateProofGraph_diagnostics.1 hbase
        exact hreported claim hclaim hconflict
      · exact hown

/-! ### A lost conflict -/

/-- One claim with two outcomes of one check at one instant, and another claim whose
evidence is of the wrong check. -/
def conflictedInput : DerivationInput :=
  { state :=
      { proofContract := some ⟨[sourcedClaim,
          { sourcedClaim with claimId := "1d3e8c52-4b7a-4a55-9c63-0e9f6f2ab7d4" }]⟩
        proofContractCoverage := []
        obligations := []
        peerReviewEvidence := []
        implementationDigest := some "d1"
        planDigest := none }
    providerResults := []
    counterexamples :=
      [executedCounterexample "unit" "d1" .contradicted "2026-01-05T10:00:00.000Z"
          unit_ne d1_ne,
        executedCounterexample "unit" "d1" .supported "2026-01-05T10:00:00.000Z"
          unit_ne d1_ne]
    currentSurfaceDigests := []
    claimDiagnostics := [("1d3e8c52-4b7a-4a55-9c63-0e9f6f2ab7d4", .checkMismatch)] }

theorem not_diagnosticsSurvive_conflicted :
    ¬ ∀ input evaluatedAt, DiagnosticsSurvive input evaluatedAt := by
  intro hall
  have hconflict : (evaluateProofGraph (evaluationInput conflictedInput)
      "2026-01-05T12:00:00.000Z").claimDiagnostics.lookup sourcedClaim.claimId =
        some .counterexampleConflict := by
    decide +kernel
  have hlost : (deriveProofGraph conflictedInput
      "2026-01-05T12:00:00.000Z").claimDiagnostics.lookup sourcedClaim.claimId = none := by
    decide +kernel
  have hkept := hall conflictedInput "2026-01-05T12:00:00.000Z" _ _ (.inl hconflict)
  rw [hlost] at hkept
  cases hkept

end GovernedRuntime.ProofGraph
