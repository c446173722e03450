/-
What the reduced-ceremony guard guarantees of a state whose stored decision and
stored risk assessment are arbitrary: every fact it relies on is recomputed.
-/
import GovernedRuntime.Machine.Guards
import GovernedRuntime.Risk.Declaration
import GovernedRuntime.Risk.PathClassifier
import Mathlib.Data.String.Basic

namespace GovernedRuntime.Risk

open GovernedRuntime.Machine
open GovernedRuntime.State

/-- An environment that classifies paths and ticket texts as the source does. -/
def riskEnvironment (base : Environment) : Environment :=
  { base with
    assessMinimumTaskClass := assessMinimumTaskClass
    reducedCeremonyEligible := reducedCeremonyEligible
    parseTicketRiskDeclaration := parseTicketRiskDeclaration }

/-! ### The latest attempt -/

theorem latestBy_append_singleton {α : Type} (key : α → String) (items : List α)
    (item : α) :
    latestBy key (items ++ [item]) =
      some (match latestBy key items with
        | none => item
        | some best => if key best ≤ key item then item else best) := by
  rw [latestBy, List.foldl_append, List.foldl_cons, List.foldl_nil, ← latestBy]
  cases latestBy key items with
  | none => rfl
  | some best => exact (apply_ite some _ _ _).symm

/-- The latest item: nothing before it has a greater key, nothing after it an
equal one. -/
theorem latestBy_eq_some {α : Type} {key : α → String} {items : List α} {item : α}
    (hlatest : latestBy key items = some item) :
    ∃ before after, items = before ++ item :: after ∧
      (∀ other ∈ before, key other ≤ key item) ∧
      ∀ other ∈ after, key other < key item := by
  induction items using List.reverseRecOn generalizing item with
  | nil => simp [latestBy] at hlatest
  | append_singleton items last ih =>
      rw [latestBy_append_singleton, Option.some.injEq] at hlatest
      cases hbest : latestBy key items with
      | none =>
          rw [hbest] at hlatest
          rcases List.eq_nil_or_concat items with rfl | ⟨rest, other, rfl⟩
          · exact ⟨[], [], by simp [← hlatest]⟩
          · simp [latestBy_append_singleton] at hbest
      | some best =>
          obtain ⟨before, after, rfl, hbefore, hafter⟩ := ih hbest
          simp only [hbest] at hlatest
          by_cases hle : key best ≤ key last
          · rw [if_pos hle] at hlatest
            subst hlatest
            refine ⟨before ++ best :: after, [], rfl, ?_, by simp⟩
            intro other hother
            rcases List.mem_append.1 hother with hin | hin
            · exact (hbefore other hin).trans hle
            · rcases List.mem_cons.1 hin with rfl | hin
              · exact hle
              · exact (hafter other hin).le.trans hle
          · rw [if_neg hle] at hlatest
            subst hlatest
            refine ⟨before, after ++ [last], by simp, hbefore, ?_⟩
            intro other hother
            rcases List.mem_append.1 hother with hin | hin
            · exact hafter other hin
            · rw [List.mem_singleton.1 hin]
              exact not_le.1 hle

/-- Leaving out items older than every other one does not change what is latest. -/
theorem latestBy_filter_fresh {α : Type} {key : α → String} {counts fresh : α → Bool}
    {items : List α} {item : α}
    (hstale : ∀ old new, fresh old = false → fresh new = true → key old < key new)
    (hlatest : latestBy key (items.filter fun x => counts x && fresh x) = some item) :
    counts item = true ∧ ∃ before after, items = before ++ item :: after ∧
      (∀ other ∈ before, counts other = true → key other ≤ key item) ∧
      ∀ other ∈ after, counts other = true → key other < key item := by
  obtain ⟨earlier, later, hsplit, hearlier, hlater⟩ := latestBy_eq_some hlatest
  obtain ⟨before, rest, rfl, rfl, hrest⟩ := List.filter_eq_append_iff.1 hsplit
  obtain ⟨skipped, after, rfl, hskipped, hkept, rfl⟩ := List.filter_eq_cons_iff.1 hrest
  rw [Bool.and_eq_true] at hkept
  refine ⟨hkept.1, before ++ skipped, after, by simp, ?_, ?_⟩
  · intro other hother hcounts
    cases hfresh : fresh other with
    | false => exact (hstale other item hfresh hkept.2).le
    | true =>
        rcases List.mem_append.1 hother with hin | hin
        · exact hearlier other (List.mem_filter.2 ⟨hin, by simp [hcounts, hfresh]⟩)
        · exact absurd (by simp [hcounts, hfresh]) (hskipped other hin)
  · intro other hother hcounts
    cases hfresh : fresh other with
    | false => exact hstale other item hfresh hkept.2
    | true =>
        exact hlater other (List.mem_filter.2 ⟨hother, by simp [hcounts, hfresh]⟩)

/-- An attempt of a check on exactly this implementation. -/
def OfCheck (implementation : ImplEvidence) (checkId : String)
    (attempt : ValidationAttempt) : Prop :=
  attempt.scope = .implementation implementation.implementationId
      implementation.digest ∧
    attempt.result.checkId = checkId

/-- The latest attempt of a check on this implementation passed: no attempt of the
check was executed after it, and none at the same time was recorded after it.
Execution times are compared as the texts they are stored as. -/
def LatestPassed (s : SessionState) (implementation : ImplEvidence)
    (checkId : String) : Prop :=
  ∃ before attempt after,
    s.validationAttempts = before ++ attempt :: after ∧
    OfCheck implementation checkId attempt ∧ attempt.result.passed = true ∧
    (∀ other ∈ before, OfCheck implementation checkId other →
      other.result.executedAt ≤ attempt.result.executedAt) ∧
    ∀ other ∈ after, OfCheck implementation checkId other →
      other.result.executedAt < attempt.result.executedAt

theorem latestPassed_of_satisfyingAttempt {env : Environment} {s : SessionState}
    {implementation : ImplEvidence} {checkId : String}
    (hsatisfied : satisfyingAttempt env s implementation checkId ≠ none) :
    LatestPassed s implementation checkId := by
  cases hattempt : latestBy (fun attempt => attempt.result.executedAt)
      (eligibleAttempts s implementation checkId) with
  | none =>
      refine absurd ?_ hsatisfied
      simp only [satisfyingAttempt, hattempt]
      split <;> simp_all
  | some attempt =>
      have hpassed : attempt.result.passed = true := by
        by_contra hfailed
        refine hsatisfied ?_
        simp only [satisfyingAttempt, hattempt]
        split <;> simp_all
      have hcounts : ∀ other : ValidationAttempt,
          (other.scope == .implementation implementation.implementationId
              implementation.digest && other.result.checkId == checkId) = true ↔
            OfCheck implementation checkId other := by
        intro other
        rw [Bool.and_eq_true, beq_iff_eq, beq_iff_eq, OfCheck]
      -- An attempt that is not fresh is no later than the unknown outcome.
      have hstale : ∀ old new : ValidationAttempt,
          (latestUnknownOutcomeResolvedAt s.mutationEpisodeResolutions).all
              (· < old.result.executedAt) = false →
            (latestUnknownOutcomeResolvedAt s.mutationEpisodeResolutions).all
                (· < new.result.executedAt) = true →
              old.result.executedAt < new.result.executedAt := by
        intro old new hold hnew
        cases htime : latestUnknownOutcomeResolvedAt s.mutationEpisodeResolutions with
        | none => simp [htime] at hold
        | some time =>
            rw [htime] at hold hnew
            exact lt_of_le_of_lt (not_lt.1 (of_decide_eq_false hold))
              (of_decide_eq_true hnew)
      obtain ⟨hof, before, after, hsplit, hbefore, hafter⟩ :=
        latestBy_filter_fresh hstale hattempt
      exact ⟨before, attempt, after, hsplit, (hcounts attempt).1 hof, hpassed,
        fun other hmem hother => hbefore other hmem ((hcounts other).2 hother),
        fun other hmem hother => hafter other hmem ((hcounts other).2 hother)⟩

theorem latestPassed_of_satisfied {env : Environment} {s : SessionState}
    (hsatisfied : (evaluateImplValidationEvidence env s).satisfied = true) :
    s.activeChecks ≠ [] ∧ ∃ implementation, s.implementation = some implementation ∧
      ∀ checkId ∈ s.activeChecks, LatestPassed s implementation checkId := by
  cases hchecks : s.activeChecks with
  | nil => simp [evaluateImplValidationEvidence, hchecks] at hsatisfied
  | cons first rest =>
      cases himplementation : s.implementation with
      | none =>
          simp [evaluateImplValidationEvidence, hchecks, himplementation] at hsatisfied
      | some implementation =>
          refine ⟨List.cons_ne_nil first rest, implementation, rfl, ?_⟩
          intro checkId hmem
          rw [evaluateImplValidationEvidence, hchecks, himplementation] at hsatisfied
          simp only [List.isEmpty_cons, Bool.false_eq_true, if_false,
            List.isEmpty_iff, List.filter_eq_nil_iff, Option.isNone_iff_eq_none]
            at hsatisfied
          exact latestPassed_of_satisfyingAttempt (hsatisfied checkId hmem)

/-! ### The recomputed facts -/

/-- The ticket still has the text its declaration was read from. -/
def TicketUnmodified (hashText : String → String) (declaration : TicketRiskDeclaration) :
    Option TicketEvidence → Prop
  | none => declaration = .absent
  | some ticket =>
      ticket.digest = hashText ticket.text ∧
        ticket.riskDeclaration = parseTicketRiskDeclaration ticket.text ∧
        declaration = ticket.riskDeclaration

/-- What must be true of a session for its implementation review to be skipped;
nothing here is read from the stored decision or the stored assessment. -/
structure CeremonyGround (hashText : String → String) (s : SessionState)
    (implementation : ImplEvidence) (declaration : TicketRiskDeclaration) : Prop where
  implemented : s.implementation = some implementation
  allowed : s.policySnapshot.allowReducedCeremony = true
  humanGates : s.policySnapshot.requireHumanGates = true
  ticket : TicketUnmodified hashText declaration s.ticket
  trivial : resolveEffectiveTaskClass
    (assessMinimumTaskClass implementation.changedFiles
      s.policySnapshot.riskTriggerPaths).minimumTaskClass
    declaration s.claimedTaskClass = .trivial
  files : implementation.changedFiles ≠ []
  trivialFiles : ∀ file ∈ implementation.changedFiles,
    (classifyPath s.policySnapshot.riskTriggerPaths file).minimumTaskClass = .trivial
  eligibleFiles : ∀ file ∈ implementation.changedFiles,
    ceremonyEligiblePath file = true
  noOpenObligation : ∀ assurance ∈ s.reviewAssurance,
    ∀ obligation ∈ assurance.obligations, isOpenReviewObligation obligation = false
  noUnresolvedIncident : hasUnresolvedIntegrityIncident s.reviewAssurance = false
  checks : s.activeChecks ≠ []
  checksPassed : ∀ checkId ∈ s.activeChecks, LatestPassed s implementation checkId

theorem resolveEffectiveTaskClass_trivial {computed : TaskClass}
    {declaration : TicketRiskDeclaration} {escalated : Option TaskClass}
    (htrivial : resolveEffectiveTaskClass computed declaration escalated = .trivial) :
    computed = .trivial := by
  cases hfloor : ticketRiskDeclarationFloor declaration <;> cases escalated <;>
    simp_all [resolveEffectiveTaskClass, maxTaskClass_eq_trivial]

theorem ticketUnmodified_of_bound {base : Environment} {s : SessionState}
    {declaration : TicketRiskDeclaration}
    (hbound : boundTicketDeclaration (riskEnvironment base) s = some declaration) :
    TicketUnmodified base.hashing.hashText declaration s.ticket := by
  unfold boundTicketDeclaration at hbound
  cases hticket : s.ticket with
  | none => simpa [hticket, TicketUnmodified, eq_comm] using hbound
  | some ticket =>
      simp only [hticket] at hbound
      by_cases hintegrity :
          verifyTicketRiskDeclarationIntegrity (riskEnvironment base) ticket = true
      · have hsame : ticket.riskDeclaration = declaration := by
          simp only [hintegrity, Bool.not_true, Bool.false_eq_true, if_false] at hbound
          split at hbound <;> simp_all
        simp only [verifyTicketRiskDeclarationIntegrity, Bool.and_eq_true,
          beq_iff_eq] at hintegrity
        exact ⟨hintegrity.1, hintegrity.2.symm, hsame.symm⟩
      · simp [hintegrity] at hbound

/-- The guard that skips the implementation review fires only on the ground of
recomputed facts, whatever the stored decision and assessment say. -/
theorem reducedCeremony_sound (base : Environment) (s : SessionState)
    (hready : reducedCeremonyReady (riskEnvironment base) s = true) :
    ∃ implementation declaration,
      CeremonyGround base.hashing.hashText s implementation declaration := by
  cases hdecision : s.reducedCeremony with
  | none => simp [reducedCeremonyReady, hdecision] at hready
  | some decision =>
      simp only [reducedCeremonyReady, hdecision, Bool.and_eq_true] at hready
      obtain ⟨⟨hbinding, hsatisfied⟩, -⟩ := hready
      obtain ⟨hchecks, implementation, himplementation, hpassed⟩ :=
        latestPassed_of_satisfied hsatisfied
      simp only [ceremonyBindingMatches, himplementation, Bool.and_eq_true,
        decisionBindsFrozenPolicy] at hbinding
      obtain ⟨⟨⟨⟨-, ⟨hallowed, hgates⟩, -⟩, hauthority⟩, hopen⟩, hincident⟩ := hbinding
      unfold decisionBindsRiskAuthority at hauthority
      cases hassessment : s.implementationRiskAssessment with
      | none => simp [hassessment] at hauthority
      | some assessment =>
          cases hbound : boundTicketDeclaration (riskEnvironment base) s with
          | none => simp [hassessment, hbound] at hauthority
          | some declaration =>
              simp only [hassessment, hbound, Bool.and_eq_true,
                decisionMatchesRiskFacts, beq_iff_eq] at hauthority
              obtain ⟨⟨-, ⟨⟨⟨-, htrivial⟩, heligible⟩, -⟩⟩, -⟩ := hauthority
              change reducedCeremonyEligible implementation.changedFiles = true
                at heligible
              rw [reducedCeremonyEligible, Bool.and_eq_true, List.all_eq_true]
                at heligible
              refine ⟨implementation, declaration, ?_⟩
              exact
                { implemented := himplementation
                  allowed := hallowed
                  humanGates := hgates
                  ticket := ticketUnmodified_of_bound hbound
                  trivial := htrivial
                  files := by simpa using heligible.1
                  trivialFiles := minimumTaskClass_eq_trivial_iff.1
                    (resolveEffectiveTaskClass_trivial htrivial)
                  eligibleFiles := heligible.2
                  noOpenObligation := by
                    simpa [hasOutstandingReviewObligation, Option.any_eq_false,
                      List.any_eq_false] using hopen
                  noUnresolvedIncident := by simpa using hincident
                  checks := hchecks
                  checksPassed := hpassed }

/-! ### A session that qualifies -/

/-- Hashing that keeps a text and forgets the definition of a candidate. -/
def textHashing : Environment :=
  { Environment.plain with
    hashing := { Hashing.transparent with candidate := fun _ => "" } }

def lintResult : ValidationResult :=
  { checkId := "lint"
    passed := true
    executedAt := "2024-05-01T10:00:00.000Z"
    kind := .lint
    candidateId := some "vc_"
    command := "npm run lint"
    exitCode := 0
    outputDigest := ""
    timedOut := false
    outcome := .supported
    assertionExtraction := none
    other := "" }

/-- A declared trivial ticket, one changed document, and its check passed. -/
def documentSession : SessionState :=
  { buildNewHydrateState
      { sessionId := "3d594650-3436-4d2e-8f0a-6c8f5d2f8a11"
        binding := "worktree"
        now := "2024-05-01T08:00:00.000Z"
        policySnapshot :=
          { hash := "a3f1"
            hashVersion := "policy-digest.v4"
            requireHumanGates := true
            allowReducedCeremony := true
            riskTriggerPaths := [⟨.policyAuthority, "policies/**"⟩]
            discoveryHealth := .off
            validationEvidence := .advisory
            allowNoCommands := false
            other := "" }
        activeChecks := ["lint"]
        claimedTaskClass := none
        initiatedBy := "dev"
        initiatedByIdentity := none
        actorInfo := none
        discoveryDigest := none
        discoverySummary := none
        detectedStack := none
        verificationCandidates :=
          [⟨"vc_", .lint, "npm run lint", .unsupported, ""⟩]
        executionSubjectInputsByCandidateId := "" } with
    phase := .implValidation
    ticket := some
      { text := "Fix a typo\nRisk: TRIVIAL"
        digest := "Fix a typo\nRisk: TRIVIAL"
        createdAt := "2024-05-01T08:00:00.000Z"
        riskDeclaration := .declared .trivial
        other := "" }
    implementation := some
      { implementationId := "impl-1"
        changedFiles := ["README.md"]
        domainFiles := []
        digest := "d1"
        diffDigest := none
        executedAt := "2024-05-01T09:00:00.000Z" }
    implementationRiskAssessment := some
      { computedMinimumTaskClass := .trivial
        effectiveTaskClass := .trivial
        declaredTaskClass := some .trivial
        declarationKind := .declared
        ticketDigest := some "Fix a typo\nRisk: TRIVIAL"
        escalatedTaskClass := none
        touchedSurfaces := ["README.md"]
        riskTriggers := []
        assessedFileCount := 1
        implementationDigest := "d1" }
    reducedCeremony := some
      { reason := "trivial"
        effectiveTaskClass := .trivial
        computedMinimumTaskClass := .trivial
        declaredTaskClass := some .trivial
        declarationKind := .declared
        ticketDigest := some "Fix a typo\nRisk: TRIVIAL"
        escalatedTaskClass := none
        touchedSurfaces := ["README.md"]
        implementationId := "impl-1"
        implementationDigest := "d1"
        policyDigest := "a3f1"
        checkIds := ["lint"]
        attempts := [⟨"lint", "attempt-1", "2024-05-01T10:00:00.000Z"⟩]
        decidedAt := "2024-05-01T11:00:00.000Z" }
    implValidation := [lintResult]
    validationAttempts :=
      [⟨"attempt-1", .implementation "impl-1" "d1", "", lintResult⟩] }

theorem reducedCeremony_sound_document :
    ∃ implementation declaration,
      CeremonyGround id documentSession implementation declaration :=
  reducedCeremony_sound textHashing documentSession (by decide +kernel)

end GovernedRuntime.Risk
