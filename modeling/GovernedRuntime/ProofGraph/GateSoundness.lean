/-
What an open proof graph gate guarantees, whatever contract, certificate, projection
and attempts the session carries (`src/audit/proofgraph/gate.ts`,
`enforcement-projection.ts`, `evidence-integrity.ts`).
-/
import GovernedRuntime.ProofGraph.Evaluate
import GovernedRuntime.ProofGraph.Gate

namespace GovernedRuntime.ProofGraph

open GovernedRuntime.State

/-! ### Refused evidence -/

/-- The counterexamples `bindCounterexamples` finds in the recorded attempts. -/
abbrev CounterexampleBinder :=
  Option ProofContract → List ValidationAttempt → Option String → Timestamp →
    List ProofCounterexample

def rejectedProvider (claimId : String) : ProofProviderResult :=
  { claimId := claimId
    providerKind := .executedTest
    executionRecordId := none
    attestation := .flowguardExecuted
    execution := none }

/-- The evaluator's input for a claim of refused evidence. -/
def refusedInput (bindCounterexamples : CounterexampleBinder)
    (contract : Option ProofContract) (validationAttempts : List ValidationAttempt)
    (implementationDigest : Option String) (evaluatedAt : Timestamp)
    (declaration : DeclaredClaim) : ProofGraphEvaluationInput :=
  { claims := [declaration]
    providerResults := [rejectedProvider declaration.claimId]
    counterexamples :=
      bindCounterexamples contract validationAttempts implementationDigest evaluatedAt
    currentImplementationDigest := implementationDigest
    currentPlanDigest := none
    currentSurfaceDigests := [] }

/-- The evaluation that replaces a claim of refused evidence. -/
def reevaluateClaim (bindCounterexamples : CounterexampleBinder)
    (contract : Option ProofContract) (validationAttempts : List ValidationAttempt)
    (implementationDigest : Option String) (evaluatedAt : Timestamp)
    (declaration : DeclaredClaim) : List ProofClaim :=
  (evaluateProofGraph (refusedInput bindCounterexamples contract validationAttempts
    implementationDigest evaluatedAt declaration) evaluatedAt).claims

/-- An environment that evaluates a claim as the source does. -/
def gateEnvironment (base : Environment) (bindCounterexamples : CounterexampleBinder) :
    Environment :=
  { base with reevaluateClaim := reevaluateClaim bindCounterexamples }

/-- An unavailable provider never leaves its claim PROVEN. -/
theorem claimState_ne_proven {claim : DeclaredClaim} {input : ProofGraphEvaluationInput}
    {result : ProofProviderResult} (hmem : result ∈ input.providerResults)
    (hclaim : result.claimId = claim.claimId) (hnone : result.execution = none) :
    claimState claim input ≠ .proven := by
  have hunavailable : (input.providerResults.filter (·.claimId == claim.claimId)).any
      (·.execution.isNone) = true :=
    List.any_eq_true.2 ⟨result, List.mem_filter.2 ⟨hmem, by simpa using hclaim⟩,
      by simp [hnone]⟩
  simp only [claimState, deriveVerificationState, hunavailable, if_true]
  split_ifs <;> exact ClaimVerificationState.noConfusion

/-! ### Integrity failures -/

section Folds

variable {α β : Type} {f : β → α → β} {P : β → Prop}

theorem foldl_keeps (hkeep : ∀ acc item, P acc → P (f acc item)) (items : List α) :
    ∀ acc, P acc → P (items.foldl f acc) := by
  induction items with
  | nil => exact fun _ hacc => hacc
  | cons item rest ih => exact fun acc hacc => ih _ (hkeep acc item hacc)

/-- A fact that one item establishes and every item keeps holds at the end. -/
theorem foldl_establishes (hkeep : ∀ acc item, P acc → P (f acc item)) {item : α}
    (hmake : ∀ acc, P (f acc item)) {items : List α} (hmem : item ∈ items) (acc : β) :
    P (items.foldl f acc) := by
  obtain ⟨before, after, rfl⟩ := List.append_of_mem hmem
  rw [List.foldl_append, List.foldl_cons]
  exact foldl_keeps hkeep after _ (hmake _)

end Folds

theorem mem_setFailure {failures : ClaimDiagnostics} {claimId other : String}
    {code : AssertionBindingReasonCode}
    (hmem : claimId = other ∨ claimId ∈ failures.map Prod.fst) :
    claimId ∈ (setFailure failures other code).map Prod.fst := by
  unfold setFailure
  split_ifs with hmismatch
  · rcases hmem with rfl | hmem
    · by_contra hnot
      have hlookup : failures.lookup claimId = none := by
        rw [List.lookup_eq_none_iff]
        intro entry hentry
        have hne : claimId ≠ entry.1 := fun heq => hnot (heq ▸ List.mem_map_of_mem hentry)
        simpa using hne
      rw [hlookup] at hmismatch
      exact absurd hmismatch (by decide)
    · exact hmem
  · by_cases hsame : claimId = other
    · exact hsame ▸ List.mem_cons_self
    · obtain ⟨entry, hentry, rfl⟩ := List.mem_map.1 (hmem.resolve_left hsame)
      exact List.mem_cons_of_mem _ (List.mem_map_of_mem
        (List.mem_filter.2 ⟨hentry, by simpa using hsame⟩))

/-- The claims whose evidence the gate looks at: sources and records. -/
def examinedClaims (s : SessionState) : List DeclaredClaim :=
  s.proofContract.elim [] (·.claims) ++ s.proofGraph.claims.map (·.toDeclaredClaim)

/-- A claim relies on an attempt at the current revision whose evidence is refused. -/
def ReliesOnRefused (s : SessionState) (claim : DeclaredClaim) : Prop :=
  ∃ attempt ∈ s.validationAttempts,
    isImplementationAttempt (s.implementation.map (·.digest)) attempt = true ∧
      attempt.attemptId ∈ referencedAttempts claim ∧
        assessAssertionEvidenceIntegrity attempt.result.assertionExtraction ≠ .valid

/-- Looking at an attempt keeps the failures found. -/
theorem mem_assessed (attempt : ValidationAttempt) {failures : ClaimDiagnostics}
    {claimId other : String} (hmem : claimId ∈ failures.map Prod.fst) :
    claimId ∈ ((match assessAssertionEvidenceIntegrity attempt.result.assertionExtraction with
      | .invalid code _ => setFailure failures other code
      | .valid => failures).map Prod.fst) := by
  split
  · exact mem_setFailure (.inr hmem)
  · exact hmem

theorem mem_assessedAll {claimId : String} (other : String) (attempts : List ValidationAttempt)
    {failures : ClaimDiagnostics} :
    claimId ∈ failures.map Prod.fst →
      claimId ∈ (attempts.foldl (fun failures attempt =>
        match assessAssertionEvidenceIntegrity attempt.result.assertionExtraction with
        | .invalid code _ => setFailure failures other code
        | .valid => failures) failures).map Prod.fst :=
  foldl_keeps (P := fun failures => claimId ∈ failures.map Prod.fst)
    (fun _ attempt => mem_assessed attempt) attempts failures

theorem mem_integrityFailures {s : SessionState} {claim : DeclaredClaim}
    (hclaim : claim ∈ examinedClaims s) (hrelies : ReliesOnRefused s claim) :
    claim.claimId ∈ (integrityFailures s).map Prod.fst := by
  obtain ⟨attempt, hattempt, hcurrent, hreferenced, hrefused⟩ := hrelies
  have hexamined : attempt ∈ s.validationAttempts.filter fun attempt =>
      isImplementationAttempt (s.implementation.map (·.digest)) attempt &&
        (referencedAttempts claim).contains attempt.attemptId :=
    List.mem_filter.2 ⟨hattempt, by simp [hcurrent, hreferenced]⟩
  refine foldl_establishes
    (P := fun failures : ClaimDiagnostics => claim.claimId ∈ failures.map Prod.fst)
    (fun failures other => mem_assessedAll other.claimId _) (fun failures => ?_) hclaim []
  refine foldl_establishes (P := fun failures => claim.claimId ∈ failures.map Prod.fst)
    (fun _ attempt => mem_assessed attempt) (fun failures => ?_) hexamined failures
  split
  · exact mem_setFailure (.inl rfl)
  · contradiction

/-! ### Single occurrences -/

/-- An id occurs once in a collection, with this property. -/
structure OccursOnce {α : Type} (claims : List α) (claimIdOf : α → String) (id : String)
    (P : α → Prop) : Prop where
  once : claimOccurrences (claims.map claimIdOf) id = 1
  holds : ∀ claim ∈ claims, claimIdOf claim = id → P claim

/-- What holds of one claim of an id holds of the only one. -/
theorem OccursOnce.of_mem {α : Type} {claims : List α} {claimIdOf : α → String}
    {id : String} {P : α → Prop} {claim : α}
    (honce : claimOccurrences (claims.map claimIdOf) id = 1) (hmem : claim ∈ claims)
    (hid : claimIdOf claim = id) (hclaim : P claim) :
    OccursOnce claims claimIdOf id P := by
  refine ⟨honce, fun other hother hsame => ?_⟩
  have hlength : (claims.filter (claimIdOf · == id)).length = 1 := by
    rw [← List.countP_eq_length_filter, ← honce, claimOccurrences, List.count,
      List.countP_map]
    rfl
  obtain ⟨only, honly⟩ := List.length_eq_one_iff.1 hlength
  have hsingle : ∀ c ∈ claims, claimIdOf c = id → c = only := by
    intro c hc hcid
    have hin : c ∈ claims.filter (claimIdOf · == id) :=
      List.mem_filter.2 ⟨hc, beq_iff_eq.2 hcid⟩
    rw [honly] at hin
    exact List.mem_singleton.1 hin
  rw [hsingle other hother hsame, ← hsingle claim hmem hid]
  exact hclaim

/-! ### The assessed projection -/

section Gate

variable (base : Environment) (bindCounterexamples : CounterexampleBinder)

/-- The claims the gate decides over. -/
def assessedClaims (s : SessionState) : List ProofClaim :=
  (assessProofGraphEvidence (gateEnvironment base bindCounterexamples) s).1.claims

/-- A record as the gate reads it: kept, or evaluated again. -/
def assessedClaim (s : SessionState) (claim : ProofClaim) : ProofClaim :=
  if (integrityFailures s).any (·.1 == claim.claimId) then
    evaluateClaim claim.toDeclaredClaim
      (refusedInput bindCounterexamples s.proofContract s.validationAttempts
        (s.implementation.map (·.digest)) s.proofGraph.evaluatedAt claim.toDeclaredClaim)
      s.proofGraph.evaluatedAt
  else claim

/-- The gate reads every record of the projection, in its place. -/
theorem assessedClaims_eq (s : SessionState) :
    assessedClaims base bindCounterexamples s =
      s.proofGraph.claims.map (assessedClaim bindCounterexamples s) := by
  have hsingleton : ∀ claim : ProofClaim,
      (if (integrityFailures s).any (·.1 == claim.claimId) then
          reevaluateClaim bindCounterexamples s.proofContract s.validationAttempts
            (s.implementation.map (·.digest)) s.proofGraph.evaluatedAt
            claim.toDeclaredClaim
        else [claim]) = [assessedClaim bindCounterexamples s claim] := by
    intro claim
    unfold assessedClaim
    split_ifs <;> rfl
  unfold assessedClaims assessProofGraphEvidence
  by_cases hnone : (integrityFailures s).isEmpty = true
  · have hkept : ∀ claim, assessedClaim bindCounterexamples s claim = claim := by
      intro claim
      simp [assessedClaim, List.isEmpty_iff.1 hnone]
    rw [if_pos hnone, List.map_congr_left fun claim _ => hkept claim, List.map_id']
  · simp only [hnone, Bool.false_eq_true, if_false]
    rw [List.map_eq_flatMap]
    exact congrArg (List.flatMap · _) (funext hsingleton)

theorem assessedClaim_declared (s : SessionState) (claim : ProofClaim) :
    (assessedClaim bindCounterexamples s claim).toDeclaredClaim =
      claim.toDeclaredClaim := by
  unfold assessedClaim
  split_ifs <;> rfl

/-- A record that is PROVEN before the gate is the persisted one, and its evidence
is not refused. -/
theorem assessedClaim_proven {s : SessionState} {claim : ProofClaim}
    (hproven : (assessedClaim bindCounterexamples s claim).verificationState = .proven) :
    assessedClaim bindCounterexamples s claim = claim ∧
      claim.claimId ∉ (integrityFailures s).map Prod.fst := by
  unfold assessedClaim at hproven ⊢
  split_ifs at hproven ⊢ with hfailed
  · exact absurd hproven (claimState_ne_proven (List.mem_singleton_self _) rfl rfl)
  · refine ⟨rfl, fun hmem => hfailed ?_⟩
    obtain ⟨entry, hentry, hid⟩ := List.mem_map.1 hmem
    exact List.any_eq_true.2 ⟨entry, hentry, beq_iff_eq.2 hid⟩

/-- No claim of refused evidence is PROVEN before the gate. -/
theorem assessed_ne_proven {s : SessionState} {claim : DeclaredClaim}
    (hclaim : claim ∈ examinedClaims s) (hrelies : ReliesOnRefused s claim)
    {evaluated : ProofClaim}
    (hevaluated : evaluated ∈ assessedClaims base bindCounterexamples s)
    (hid : evaluated.claimId = claim.claimId) : evaluated.verificationState ≠ .proven := by
  rw [assessedClaims_eq] at hevaluated
  obtain ⟨persisted, _, rfl⟩ := List.mem_map.1 hevaluated
  intro hproven
  obtain ⟨hkept, hvalid⟩ := assessedClaim_proven bindCounterexamples hproven
  rw [hkept] at hid
  exact hvalid (hid ▸ mem_integrityFailures hclaim hrelies)

end Gate

/-! ### The decision -/

section Enforcement

variable {hashing : Hashing} {input : ComputeEnforcementInput}

/-- A satisfied decision has passed every precondition. -/
theorem preconditions_of_satisfied
    (hsatisfied : (computeProofGraphEnforcement hashing input).satisfied = true) :
    input.certificateValid = true ∧
      (∀ id ∈ input.authorization.claimIds, isBoundClaim hashing input id = true) ∧
      input.riskAssessmentStale = false ∧ uncoveredRiskTriggers input = [] ∧
      ∀ claim ∈ eligibleClaims input, claim.verificationState = .proven := by
  rw [computeProofGraphEnforcement] at hsatisfied
  cases hrefused : evaluatePreconditions hashing input with
  | some enforcement =>
      rw [hrefused, Option.getD_some,
        (evaluatePreconditions_satisfied hashing hrefused).1] at hsatisfied
      cases hsatisfied
  | none =>
      simp only [hrefused, Option.getD_none, enforceClaims, List.all_eq_true,
        beq_iff_eq] at hsatisfied
      simp only [evaluatePreconditions] at hrefused
      split_ifs at hrefused with hvalid hmismatch hmissing hstale hrequired huncovered
      refine ⟨by simpa using hvalid, ?_, by simpa using hstale, by simpa using huncovered,
        hsatisfied⟩
      simpa [missingAuthorizedClaimIds] using hmissing

/-- A bound id has one source and one record, both eligible and both bound. -/
theorem occursOnce_of_isBoundClaim {id : String}
    (hbound : isBoundClaim hashing input id = true) :
    ∃ expected, input.authorization.bindings.lookup id = some expected ∧
      OccursOnce input.contractClaims (·.claimId) id (fun claim =>
        isGateEligible claim = true ∧ matchesAuthorizedBinding hashing claim expected = true) ∧
      OccursOnce input.projection.claims (·.claimId) id (fun claim =>
        isGateEligible claim.toDeclaredClaim = true ∧
          matchesAuthorizedBinding hashing claim.toDeclaredClaim expected = true) := by
  simp only [isBoundClaim] at hbound
  split at hbound
  next claim declared expected hclaim hdeclared hexpected =>
    simp only [Bool.and_eq_true, beq_iff_eq] at hbound
    obtain ⟨⟨⟨⟨honce, hmatches⟩, hsourceOnce⟩, heligible⟩, hsourceMatches⟩ := hbound
    have hrecord := List.mem_filter.1 (List.mem_reverse.1 (List.mem_of_find?_eq_some hclaim))
    have hsource := List.mem_reverse.1 (List.mem_of_find?_eq_some hdeclared)
    exact ⟨expected, hexpected,
      .of_mem hsourceOnce hsource (by simpa using List.find?_some hdeclared)
        ⟨heligible, hsourceMatches⟩,
      .of_mem honce hrecord.1 (by simpa using List.find?_some hclaim)
        ⟨hrecord.2, hmatches⟩⟩
  next => cases hbound

end Enforcement

/-! ### Soundness -/

theorem OccursOnce.exists_mem {α : Type} {claims : List α} {claimIdOf : α → String}
    {id : String} {P : α → Prop} (honce : OccursOnce claims claimIdOf id P) :
    ∃ claim ∈ claims, claimIdOf claim = id ∧ P claim := by
  have hpos : 0 < (claims.map claimIdOf).count id := by
    have hone := honce.once
    rw [claimOccurrences] at hone
    omega
  obtain ⟨claim, hmem, hid⟩ := List.mem_map.1 (List.count_pos_iff.1 hpos)
  exact ⟨claim, hmem, hid, honce.holds claim hmem hid⟩

section Gate

variable (base : Environment) (bindCounterexamples : CounterexampleBinder)

/-- What holds of a session whose gate is open, for the claims its certificate
authorizes. -/
structure GateSound (s : SessionState) (claims : AuthorizedClaims) : Prop where
  /-- Every authorized claim has one source and one record, both bound to the
  certificate, and the record is PROVEN. -/
  proven : ∀ id ∈ claims.claimIds, ∃ expected, claims.bindings.lookup id = some expected ∧
    OccursOnce (s.proofContract.elim [] (·.claims)) (·.claimId) id (fun claim =>
      isGateEligible claim = true ∧
        matchesAuthorizedBinding base.hashing claim expected = true) ∧
    OccursOnce s.proofGraph.claims (·.claimId) id (fun claim =>
      isGateEligible claim.toDeclaredClaim = true ∧
        matchesAuthorizedBinding base.hashing claim.toDeclaredClaim expected = true ∧
        claim.verificationState = .proven)
  /-- Every specific trigger is covered by the certificate, for a source it authorizes. -/
  covered : ∀ trigger ∈ relevantTriggers s.implementationRiskAssessment,
    ∃ source ∈ s.proofContract.elim [] (·.claims), isGateEligible source = true ∧
      source.claimId ∈ claims.claimIds ∧
        ∃ triggers, (source.claimId, triggers) ∈ claims.coverage ∧ trigger ∈ triggers
  riskBound : ∀ implementation, s.implementation = some implementation →
    ∃ assessment, s.implementationRiskAssessment = some assessment ∧
      assessment.implementationDigest = implementation.digest
  /-- Refused evidence leaves no claim PROVEN before the gate, and none that it asks. -/
  unrefused : ∀ claim ∈ examinedClaims s, ReliesOnRefused s claim →
    (∀ evaluated ∈ assessedClaims base bindCounterexamples s,
      evaluated.claimId = claim.claimId → evaluated.verificationState ≠ .proven) ∧
    ∀ persisted ∈ s.proofGraph.claims, persisted.claimId = claim.claimId →
      isGateEligible persisted.toDeclaredClaim = false

/-- The gate is open only for an authorized set of claims that are all proven, bound
and covered. -/
theorem gate_sound (s : SessionState)
    (hopen : (evaluateProofGraphGateFromState
      (gateEnvironment base bindCounterexamples) s).gated = false) :
    ∃ claims, authorizedCriticalPlanClaimIds base.hashing s = .authorized claims ∧
      GateSound base bindCounterexamples s claims := by
  have hsatisfied : (computeProofGraphEnforcement base.hashing (enforcementInput
      (gateEnvironment base bindCounterexamples) s)).satisfied = true := by
    rw [← Bool.not_eq_false']
    exact hopen
  obtain ⟨hcertificate, hbound, hstale, huncovered, hproven⟩ :=
    preconditions_of_satisfied hsatisfied
  obtain ⟨claims, hauthorized⟩ : ∃ claims,
      authorizedCriticalPlanClaimIds base.hashing s = .authorized claims := by
    simp only [enforcementInput, gateEnvironment] at hcertificate
    split at hcertificate
    · exact ⟨_, by assumption⟩
    · cases hcertificate
  have hclaims : (enforcementInput (gateEnvironment base bindCounterexamples) s).authorization =
      claims := by
    simp only [enforcementInput, gateEnvironment, hauthorized]
  have hassessed : (enforcementInput (gateEnvironment base bindCounterexamples)
      s).projection.claims = s.proofGraph.claims.map (assessedClaim bindCounterexamples s) :=
    assessedClaims_eq base bindCounterexamples s
  have hids : (s.proofGraph.claims.map (assessedClaim bindCounterexamples s)).map
      (·.claimId) = s.proofGraph.claims.map (·.claimId) := by
    rw [List.map_map]
    exact List.map_congr_left fun claim _ =>
      congrArg DeclaredClaim.claimId (assessedClaim_declared bindCounterexamples s claim)
  rw [hclaims] at hbound
  have heligible : ∀ persisted ∈ s.proofGraph.claims,
      isGateEligible persisted.toDeclaredClaim = true →
        (assessedClaim bindCounterexamples s persisted).verificationState = .proven := by
    intro persisted hmem hgate
    refine hproven _ (List.mem_filter.2 ⟨?_, ?_⟩)
    · rw [hassessed]
      exact List.mem_map_of_mem hmem
    · rw [assessedClaim_declared]
      exact hgate
  refine ⟨claims, hauthorized, ?_, ?_, ?_, ?_⟩
  · intro id hid
    obtain ⟨expected, hexpected, hsource, hrecord⟩ :=
      occursOnce_of_isBoundClaim (hbound id hid)
    rw [hclaims] at hexpected
    rw [hassessed] at hrecord
    refine ⟨expected, hexpected, hsource, hids ▸ hrecord.once, ?_⟩
    intro persisted hmem hsame
    have hdeclared := assessedClaim_declared bindCounterexamples s persisted
    obtain ⟨hgate, hmatches⟩ := hrecord.holds _ (List.mem_map_of_mem hmem)
      ((congrArg DeclaredClaim.claimId hdeclared).trans hsame)
    rw [hdeclared] at hgate hmatches
    have hstate := heligible persisted hmem hgate
    rw [(assessedClaim_proven bindCounterexamples hstate).1] at hstate
    exact ⟨hgate, hmatches, hstate⟩
  · intro trigger htrigger
    have hcovered := List.filter_eq_nil_iff.1 huncovered trigger htrigger
    simp only [hclaims, List.contains_eq_mem, Bool.not_eq_true', decide_eq_false_iff_not,
      not_not, List.mem_flatMap, List.mem_filter] at hcovered
    obtain ⟨entry, ⟨hentry, _⟩, hin⟩ := hcovered
    have hid := authorized_of_coverage base.hashing hauthorized hentry
    obtain ⟨_, _, hsource, _⟩ := occursOnce_of_isBoundClaim (hbound entry.1 hid)
    obtain ⟨source, hmem, hsame, hgate, _⟩ := hsource.exists_mem
    exact ⟨source, hmem, hgate, hsame ▸ hid, entry.2, hsame ▸ hentry, hin⟩
  · intro implementation himplementation
    have hcurrent : isRiskAssessmentStale s = false := hstale
    simpa [isRiskAssessmentStale, himplementation, Option.any_eq_true] using hcurrent
  · intro claim hclaim hrelies
    refine ⟨fun evaluated => assessed_ne_proven base bindCounterexamples hclaim hrelies, ?_⟩
    intro persisted hmem hsame
    by_contra hgate
    have hstate := heligible persisted hmem (by simpa using hgate)
    exact (assessedClaim_proven bindCounterexamples hstate).2
      (hsame ▸ mem_integrityFailures hclaim hrelies)

end Gate

/-! ### A session that passes the gate -/

/-- Hashing that keeps one text of each content it digests. -/
def labelHashing : Hashing :=
  { Hashing.transparent with
    claimDeclarations := fun _ => "c1a1"
    claimSemantics := (·.statement)
    planCertificate := (·.authorityDigest) }

def lockoutDeclaration : PlanClaimDeclaration :=
  { claimId := "login-locks"
    statement := "Three failures lock the login"
    critical := true
    authoritySectionId := "objective"
    claimScope := .suite
    expectedCheckId := "test"
    expectedAssertion := none
    counterexampleRequirement := none
    structuralSurface := none
    mutationProfile := none
    coversRiskTriggers := some [.policyAuthority] }

def lockoutOrigin : ApprovalOrigin :=
  { flowguardSessionId := "3d594650-3436-4d2e-8f0a-6c8f5d2f8a11"
    bindingDigest := "worktree"
    policyHash := "a3f1"
    policyHashVersion := "policy-digest.v4" }

def lockoutCertificate : PlanApprovalCertificate :=
  { authorityDigest := "b0d1"
    claimDeclarationsDigest := "c1a1"
    decisionAttestationDigest := "de01"
    planVersion := 1
    planRecordDigest := "2ec0"
    reviewBinding := .currentReview "obligation-1" "e71d" "b0d1"
    approvedAt := "2024-05-01T08:30:00.000Z"
    certificateId := digestToId "b0d1" '4'
    approvalAttestation := .policyAuto "2024-05-01T08:30:00.000Z" lockoutOrigin }

/-- The declaration as the contract states it. -/
def lockoutClaim : DeclaredClaim :=
  { claimId := "login-locks"
    statement := "Three failures lock the login"
    signalClass := .fact
    critical := true
    claimScope := some .suite
    provenance := some (.canonicalAuthority "plan" "b0d1"
      (some
        { certificateId := lockoutCertificate.certificateId
          claimDeclarationsDigest := "c1a1"
          decisionAttestationDigest := "de01"
          declarationId := "login-locks" }))
    evidenceRefs := []
    counterexampleRefs := []
    requiredEvidence := some ⟨[.executedTest], 1⟩
    counterexampleRequirement := none
    coversRiskTriggers := some [.policyAuthority]
    certifiedPlan := some
      { authoritySectionId := "objective"
        expectedCheckId := "test"
        expectedAssertion := none
        structuralSurface := none
        mutationProfile := none
        digest := "Three failures lock the login" }
    confidence := none }

/-- A certified claim that covers the only trigger, and its PROVEN record. -/
def lockoutSession : SessionState :=
  { buildNewHydrateState
      { sessionId := "3d594650-3436-4d2e-8f0a-6c8f5d2f8a11"
        binding := "worktree"
        now := "2024-05-01T08:00:00.000Z"
        policySnapshot :=
          { hash := "a3f1"
            hashVersion := "policy-digest.v4"
            requireHumanGates := false
            allowReducedCeremony := false
            riskTriggerPaths := []
            discoveryHealth := .off
            validationEvidence := .advisory
            allowNoCommands := false
            other := "" }
        activeChecks := ["test"]
        claimedTaskClass := none
        initiatedBy := "dev"
        initiatedByIdentity := none
        actorInfo := none
        discoveryDigest := none
        discoverySummary := none
        detectedStack := none
        verificationCandidates := []
        executionSubjectInputsByCandidateId := "" } with
    phase := .evidenceReview
    plan := some
      { current :=
          { body := "Lock the login after three failures"
            digest := "b0d1"
            sections := ["objective"]
            createdAt := "2024-05-01T08:10:00.000Z"
            revisionId := "revision-1"
            recordDigest := "2ec0"
            planVersion := 1
            supersedesRecordDigest := none
            originatingReviewObligationId := none
            revisionReason := none }
        history := []
        reviewFindings := "[]"
        claimDeclarations := some [lockoutDeclaration]
        claimSubmissionDiagnostics := none
        claimSubmissionHistory := none
        approvalCertificate := some lockoutCertificate
        reviewCompletion := .pending }
    implementation := some
      { implementationId := "impl-1"
        changedFiles := ["src/login.ts"]
        domainFiles := ["src/login.ts"]
        digest := "d1"
        diffDigest := none
        executedAt := "2024-05-01T09:00:00.000Z" }
    implementationRiskAssessment := some
      { computedMinimumTaskClass := .standard
        effectiveTaskClass := .standard
        declaredTaskClass := none
        declarationKind := .absent
        ticketDigest := none
        escalatedTaskClass := none
        touchedSurfaces := ["src/login.ts"]
        riskTriggers := [.specific .policyAuthority]
        assessedFileCount := 1
        implementationDigest := "d1" }
    proofContract := some ⟨[lockoutClaim]⟩
    proofGraph :=
      { claims :=
          [{ lockoutClaim with
              verificationState := .proven
              freshness := some ⟨"d1", "2024-05-01T10:00:00.000Z", false⟩ }]
        evaluatedAt := "2024-05-01T10:00:00.000Z"
        claimDiagnostics := [] } }

theorem gate_sound_lockout :
    ∃ claims,
      authorizedCriticalPlanClaimIds labelHashing lockoutSession = .authorized claims ∧
        GateSound { Environment.plain with hashing := labelHashing } (fun _ _ _ _ => [])
          lockoutSession claims :=
  gate_sound { Environment.plain with hashing := labelHashing } (fun _ _ _ _ => [])
    lockoutSession (by decide +kernel)

end GovernedRuntime.ProofGraph
