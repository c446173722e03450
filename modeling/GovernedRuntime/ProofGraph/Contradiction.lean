/-
A fresh contradiction and the evidence that may be added to it.  The groups of the
evaluator are keyed by a joined text, so a contradiction stands against everything
exactly when its key can be read in one way only.
-/
import GovernedRuntime.ProofGraph.Evaluate

namespace GovernedRuntime.ProofGraph

open GovernedRuntime.State

/-! ### Adding evidence -/

/-- An input with further claims, provider results and counterexamples. -/
structure Extends (input more : ProofGraphEvaluationInput) : Prop where
  claims : input.claims ⊆ more.claims
  providerResults : input.providerResults ⊆ more.providerResults
  counterexamples : input.counterexamples ⊆ more.counterexamples
  implementation : more.currentImplementationDigest = input.currentImplementationDigest
  plan : more.currentPlanDigest = input.currentPlanDigest
  surfaces : more.currentSurfaceDigests = input.currentSurfaceDigests

/-- A counterexample that contradicted the claim on the current revision. -/
structure FreshContradiction (input : ProofGraphEvaluationInput) (claim : DeclaredClaim)
    (c : ProofCounterexample) : Prop where
  recorded : c ∈ input.counterexamples
  ofClaim : c.claimId = claim.claimId
  contradicted : c.outcome = .contradicted
  fresh : input.currentImplementationDigest = some c.boundDigest

/-- Whatever is added, the claim is contradicted or not verified. -/
def ContradictionStands (input : ProofGraphEvaluationInput) (claim : DeclaredClaim) :
    Prop :=
  ∀ more, Extends input more → ∀ evaluatedAt,
    ∀ evaluated ∈ (evaluateProofGraph more evaluatedAt).claims,
      evaluated.toDeclaredClaim = claim →
        evaluated.verificationState = .contradicted ∨
          evaluated.verificationState = .notVerified

/-- No other check and revision join to the same key. -/
def OneReading (c : ProofCounterexample) : Prop :=
  ∀ checkId boundDigest : String, checkId ≠ "" → boundDigest ≠ "" →
    checkId ++ ":" ++ boundDigest = c.checkId ++ ":" ++ c.boundDigest →
      boundDigest = c.boundDigest

theorem attemptKey_eq_iff {c d : ProofCounterexample} (hclaim : c.claimId = d.claimId) :
    attemptKey c = attemptKey d ↔
      c.checkId ++ ":" ++ c.boundDigest = d.checkId ++ ":" ++ d.boundDigest := by
  simp [attemptKey, hclaim, String.append_assoc, String.append_right_inj]

/-! ### A contradiction with one reading stands -/

theorem stands_of_oneReading {more : ProofGraphEvaluationInput} {claim : DeclaredClaim}
    {c : ProofCounterexample} (hcontradiction : FreshContradiction more claim c)
    (hone : OneReading c) :
    claimState claim more = .contradicted ∨ claimState claim more = .notVerified := by
  rw [claimState]
  cases hconflict : (selectCurrentCounterexamples
      (more.counterexamples.filter (·.claimId == claim.claimId))).conflicting with
  | true => exact Or.inr rfl
  | false =>
      have hmem : c ∈ more.counterexamples.filter (·.claimId == claim.claimId) :=
        List.mem_filter.2 ⟨hcontradiction.recorded, by simpa using hcontradiction.ofClaim⟩
      -- The group of the contradiction resolves to a contradiction of its revision.
      have hgroup := mem_attemptGroups.2 ⟨c, hmem, rfl⟩
      simp only [selectCurrentCounterexamples, List.any_eq_false,
        Option.isNone_iff_eq_none] at hconflict
      obtain ⟨value, hvalue⟩ := Option.ne_none_iff_exists'.1 (hconflict _ hgroup)
      obtain ⟨hin, houtcome⟩ := contradicted_of_resolveGroup hvalue
        (List.mem_filter.2 ⟨hmem, by simp⟩) hcontradiction.contradicted
      obtain ⟨hraw, hkey⟩ := List.mem_filter.1 hin
      have hsameClaim : value.claimId = c.claimId := by
        rw [hcontradiction.ofClaim]
        simpa using (List.mem_filter.1 hraw).2
      have hdigest := hone value.checkId value.boundDigest value.checkId_ne
        value.boundDigest_ne ((attemptKey_eq_iff hsameClaim).1 (by simpa using hkey))
      have hselected : (analyzeCounterexamples
          (selectCurrentCounterexamples
            (more.counterexamples.filter (·.claimId == claim.claimId))).counterexamples
          more.currentImplementationDigest).freshContradicted = true := by
        refine List.any_eq_true.2 ⟨value, List.mem_filterMap.2 ⟨_, hgroup, hvalue⟩, ?_⟩
        simp [houtcome, isFreshCounterexample, hcontradiction.fresh, hdigest]
      by_cases hprovenance : claim.provenance.isNone = true
      · exact Or.inr (by simp [deriveVerificationState, hprovenance])
      · exact Or.inl (by simp [deriveVerificationState, hprovenance, hselected])

/-! ### A contradiction with two readings can be displaced -/

/-- The last millisecond of the year 9999, with `n` more digits of fraction. -/
def lastInstant (n : Nat) : Timestamp :=
  String.ofList ('9' :: '9' :: '9' :: '9' :: '-' :: '1' :: '2' :: '-' :: '3' :: '1' ::
    'T' :: '2' :: '3' :: ':' :: '5' :: '9' :: ':' :: '5' :: '9' :: '.' :: '9' :: '9' ::
    '9' :: (List.replicate n '9' ++ ['Z']))

theorem dateParse_lastInstant (n : Nat) :
    dateParse (lastInstant n) = some 253402300799999 := by
  have hdigits : (List.replicate n '9').all Char.isDigit = true := by
    rw [List.all_eq_true]
    intro c hmem
    rw [List.eq_of_mem_replicate hmem]
    decide
  have hfraction : ('9' :: '9' :: '9' :: (List.replicate n '9' ++ ['Z'])).dropLast =
      '9' :: '9' :: '9' :: List.replicate n '9' := by
    rw [← List.cons_append, ← List.cons_append, ← List.cons_append,
      List.dropLast_concat]
  have hseconds : parseSeconds (':' :: '5' :: '9' :: '.' :: '9' :: '9' :: '9' ::
      (List.replicate n '9' ++ ['Z'])) = some (59, 999) := by
    have hlast : ('9' :: '9' :: '9' :: (List.replicate n '9' ++ ['Z'])).getLast? =
        some 'Z' := by
      rw [← List.cons_append, ← List.cons_append, ← List.cons_append,
        List.getLast?_concat]
    simp only [parseSeconds, hlast, hfraction]
    rw [if_neg (by simp [hdigits])]
    rfl
  rw [dateParse, lastInstant, String.toList_ofList]
  simp only [hseconds]
  rfl

theorem exists_lastInstant (texts : List Timestamp) : ∃ n, lastInstant n ∉ texts := by
  have hbound : ∃ n, ∀ text ∈ texts, text.length ≤ n := by
    induction texts with
    | nil => exact ⟨0, by simp⟩
    | cons text rest ih =>
        obtain ⟨n, hn⟩ := ih
        refine ⟨max n text.length, fun other hmem => ?_⟩
        rcases List.mem_cons.1 hmem with rfl | hin
        · exact Nat.le_max_right _ _
        · exact Nat.le_trans (hn other hin) (Nat.le_max_left _ _)
  obtain ⟨n, hn⟩ := hbound
  refine ⟨n, fun hmem => ?_⟩
  have hle := hn _ hmem
  simp only [lastInstant, String.length_ofList, List.length_cons, List.length_append,
    List.length_replicate] at hle
  omega

theorem epoch_le_lastInstant (text : Timestamp) (n : Nat) :
    epochOfExecutedAt text ≤ epochOfExecutedAt (lastInstant n) := by
  rw [epochOfExecutedAt, epochOfExecutedAt, dateParse_lastInstant]
  cases hparsed : dateParse text with
  | none => exact bot_le
  | some instant => exact WithBot.coe_le_coe.2 (dateParse_le hparsed)

section Displace

variable {input : ProofGraphEvaluationInput} {claim : DeclaredClaim}

/-- A contradiction that is stale, or whose key has a stale reading. -/
theorem exists_stale_reading
    (hnone : ∀ c, FreshContradiction input claim c → ¬ OneReading c)
    {c : ProofCounterexample} (hmem : c ∈ input.counterexamples)
    (hclaim : c.claimId = claim.claimId) (hcontradicted : c.outcome = .contradicted) :
    ∃ checkId boundDigest : String, checkId ≠ "" ∧ boundDigest ≠ "" ∧
      checkId ++ ":" ++ boundDigest = c.checkId ++ ":" ++ c.boundDigest ∧
      input.currentImplementationDigest ≠ some boundDigest := by
  by_cases hfresh : input.currentImplementationDigest = some c.boundDigest
  · have htwo := hnone c ⟨hmem, hclaim, hcontradicted, hfresh⟩
    simp only [OneReading, not_forall] at htwo
    obtain ⟨checkId, boundDigest, hcheck, hbound, hjoined, hother⟩ := htwo
    refine ⟨checkId, boundDigest, hcheck, hbound, hjoined, ?_⟩
    rw [hfresh, ne_eq, Option.some.injEq]
    exact fun hsame => hother hsame.symm
  · exact ⟨c.checkId, c.boundDigest, c.checkId_ne, c.boundDigest_ne, rfl, hfresh⟩

/-- A later entry for the group of `c`: a stale contradiction where the group holds a
contradiction, support where it holds none. -/
structure Displaces (input : ProofGraphEvaluationInput) (raw : List ProofCounterexample)
    (late : Timestamp) (c mask : ProofCounterexample) : Prop where
  claimId : mask.claimId = c.claimId
  key : attemptKey mask = attemptKey c
  executedAt : mask.executedAt = late
  stale : (∃ d ∈ raw, attemptKey d = attemptKey c ∧ d.outcome = .contradicted) →
    mask.outcome = .contradicted ∧
      input.currentImplementationDigest ≠ some mask.boundDigest
  calm : (∀ d ∈ raw, attemptKey d = attemptKey c → d.outcome ≠ .contradicted) →
    mask.outcome = .supported

theorem exists_displaces
    (hnone : ∀ c, FreshContradiction input claim c → ¬ OneReading c) (late : Timestamp)
    {c : ProofCounterexample}
    (hmem : c ∈ input.counterexamples.filter (·.claimId == claim.claimId)) :
    ∃ mask, Displaces input
      (input.counterexamples.filter (·.claimId == claim.claimId)) late c mask := by
  have hclaim : c.claimId = claim.claimId := by simpa using (List.mem_filter.1 hmem).2
  by_cases hgroup : ∃ d ∈ input.counterexamples.filter (·.claimId == claim.claimId),
      attemptKey d = attemptKey c ∧ d.outcome = .contradicted
  · obtain ⟨d, hd, hkey, hcontradicted⟩ := hgroup
    have hdclaim : d.claimId = claim.claimId := by simpa using (List.mem_filter.1 hd).2
    obtain ⟨checkId, boundDigest, hcheck, hbound, hjoined, hstale⟩ :=
      exists_stale_reading hnone (List.mem_filter.1 hd).1 hdclaim hcontradicted
    refine ⟨{ d with
        checkId := checkId
        boundDigest := boundDigest
        executedAt := late
        checkId_ne := hcheck
        boundDigest_ne := hbound }, hdclaim.trans hclaim.symm, ?_, rfl,
      fun _ => ⟨hcontradicted, hstale⟩, fun hcalm => ?_⟩
    · rw [← hkey]
      refine (attemptKey_eq_iff ?_).2 ?_
      · rfl
      · exact hjoined
    · exact absurd hcontradicted (hcalm d hd hkey)
  · refine ⟨{ c with outcome := .supported, executedAt := late }, rfl, rfl, rfl,
      fun hexists => absurd hexists hgroup, fun _ => rfl⟩

/-- Behind later entries, every group resolves to a stale contradiction or to support. -/
theorem resolveGroup_displaced {raw : List ProofCounterexample} {n : Nat}
    {mask : ProofCounterexample → ProofCounterexample}
    (hmask : ∀ c ∈ raw, Displaces input raw (lastInstant n) c (mask c))
    (hlate : ∀ c ∈ raw, c.executedAt ≠ lastInstant n) {c : ProofCounterexample}
    (hmem : c ∈ raw.map mask ++ raw) :
    ∃ value, resolveGroup ((raw.map mask ++ raw).filter
        (attemptKey · == attemptKey c)) = some value ∧
      (value.outcome = .supported ∨ value.outcome = .contradicted ∧
        input.currentImplementationDigest ≠ some value.boundDigest) := by
  obtain ⟨d, hd, hkey⟩ : ∃ d ∈ raw, attemptKey d = attemptKey c := by
    rcases List.mem_append.1 hmem with hin | hin
    · obtain ⟨d, hd, rfl⟩ := List.mem_map.1 hin
      exact ⟨d, hd, (hmask d hd).key.symm⟩
    · exact ⟨c, hin, rfl⟩
  rw [List.filter_append, ← hkey]
  have hhead : mask d ∈ (raw.map mask).filter (attemptKey · == attemptKey d) :=
    List.mem_filter.2 ⟨List.mem_map_of_mem hd, by simpa using (hmask d hd).key⟩
  have hmasks : ∀ m ∈ (raw.map mask).filter (attemptKey · == attemptKey d),
      ∃ e ∈ raw, attemptKey e = attemptKey d ∧
        Displaces input raw (lastInstant n) e m := by
    intro m hm
    obtain ⟨hin, hsame⟩ := List.mem_filter.1 hm
    obtain ⟨e, he, rfl⟩ := List.mem_map.1 hin
    exact ⟨e, he, ((hmask e he).key.symm.trans (by simpa using hsame)), hmask e he⟩
  obtain ⟨first, rest, hsplit⟩ := List.exists_cons_of_ne_nil (List.ne_nil_of_mem hhead)
  rw [hsplit] at hmasks ⊢
  obtain ⟨e, he, hekey, hfirst⟩ := hmasks first List.mem_cons_self
  have houtcome : ∀ m ∈ rest, m.outcome = first.outcome := by
    intro m hm
    obtain ⟨e', _, hekey', hm'⟩ := hmasks m (List.mem_cons_of_mem _ hm)
    by_cases hgroup : ∃ d' ∈ raw, attemptKey d' = attemptKey d ∧
        d'.outcome = .contradicted
    · rw [(hm'.stale (hekey' ▸ hgroup)).1, (hfirst.stale (hekey ▸ hgroup)).1]
    · have hcalm : ∀ d' ∈ raw, attemptKey d' = attemptKey d →
          d'.outcome ≠ .contradicted :=
        fun d' hd' hsame hout => hgroup ⟨d', hd', hsame, hout⟩
      rw [hm'.calm (hekey' ▸ hcalm), hfirst.calm (hekey ▸ hcalm)]
  have hvalue : first.outcome = .supported ∧
        (∀ d' ∈ raw, attemptKey d' = attemptKey d → d'.outcome ≠ .contradicted) ∨
      first.outcome = .contradicted ∧
        input.currentImplementationDigest ≠ some first.boundDigest := by
    by_cases hgroup : ∃ d' ∈ raw, attemptKey d' = attemptKey d ∧
        d'.outcome = .contradicted
    · exact Or.inr (hfirst.stale (hekey ▸ hgroup))
    · have hcalm : ∀ d' ∈ raw, attemptKey d' = attemptKey d →
          d'.outcome ≠ .contradicted :=
        fun d' hd' hsame hout => hgroup ⟨d', hd', hsame, hout⟩
      exact Or.inl ⟨hfirst.calm (hekey ▸ hcalm), hcalm⟩
  refine ⟨first, ?_, hvalue.imp And.left id⟩
  rw [List.cons_append]
  apply resolveGroup_of_newest
  · intro other _
    rw [hfirst.executedAt]
    exact epoch_le_lastInstant _ _
  · intro other hother hsame
    rcases List.mem_append.1 hother with hin | hin
    · exact houtcome other hin
    · exact absurd (hsame.trans hfirst.executedAt) (hlate other (List.mem_filter.1 hin).1)
  · rcases hvalue with ⟨hsupported, hcalm⟩ | ⟨hcontradicted, _⟩
    · refine Or.inr fun other hother => ?_
      rcases List.mem_append.1 hother with hin | hin
      · rw [houtcome other hin, hsupported]
        decide
      · exact hcalm other (List.mem_filter.1 hin).1 (by simpa using (List.mem_filter.1 hin).2)
    · exact Or.inl hcontradicted

/-- The displaced input: later entries first, and an error on the current revision. -/
def displacedInput (input : ProofGraphEvaluationInput) (claim : DeclaredClaim)
    (digest : String) (masks : List ProofCounterexample) : ProofGraphEvaluationInput :=
  { input with
    providerResults :=
      { claimId := claim.claimId
        providerKind := .executedTest
        executionRecordId := none
        attestation := .flowguardExecuted
        execution := some ⟨.error, "check", .implementation digest⟩ } ::
          input.providerResults
    counterexamples := masks ++ input.counterexamples }

theorem displacedInput_extends (digest : String) (masks : List ProofCounterexample) :
    Extends input (displacedInput input claim digest masks) :=
  { claims := fun _ hmem => hmem
    providerResults := List.subset_cons_self _ _
    counterexamples := List.subset_append_right _ _
    implementation := rfl
    plan := rfl
    surfaces := rfl }

/-- Where every fresh contradiction has a second reading, added evidence turns the
claim into a blocked one. -/
theorem exists_blocked (hprovenance : claim.provenance ≠ none)
    (hnone : ∀ c, FreshContradiction input claim c → ¬ OneReading c) {digest : String}
    (hdigest : input.currentImplementationDigest = some digest) :
    ∃ more, Extends input more ∧ claimState claim more = .blocked := by
  obtain ⟨n, hlate⟩ := exists_lastInstant
    ((input.counterexamples.filter (·.claimId == claim.claimId)).map (·.executedAt))
  have hmasks : ∀ c, ∃ mask,
      c ∈ input.counterexamples.filter (·.claimId == claim.claimId) →
        Displaces input (input.counterexamples.filter (·.claimId == claim.claimId))
          (lastInstant n) c mask := by
    intro c
    by_cases hmem : c ∈ input.counterexamples.filter (·.claimId == claim.claimId)
    · obtain ⟨mask, hmask⟩ := exists_displaces hnone (lastInstant n) hmem
      exact ⟨mask, fun _ => hmask⟩
    · exact ⟨c, fun hin => absurd hin hmem⟩
  choose mask hmask using hmasks
  refine ⟨displacedInput input claim digest
      ((input.counterexamples.filter (·.claimId == claim.claimId)).map mask),
    displacedInput_extends digest _, ?_⟩
  generalize hraw : input.counterexamples.filter (·.claimId == claim.claimId) = raw
    at hmask hlate
  have hlate' : ∀ c ∈ raw, c.executedAt ≠ lastInstant n := by
    intro c hc hsame
    exact hlate (hsame ▸ List.mem_map_of_mem hc)
  have hfilter : (displacedInput input claim digest (raw.map mask)).counterexamples.filter
      (·.claimId == claim.claimId) = raw.map mask ++ raw := by
    rw [displacedInput, List.filter_append, hraw, List.filter_eq_self.2]
    intro m hm
    obtain ⟨c, hc, rfl⟩ := List.mem_map.1 hm
    rw [(hmask c hc).claimId]
    rw [← hraw] at hc
    exact (List.mem_filter.1 hc).2
  have hresolved := fun {c} => resolveGroup_displaced (c := c) hmask hlate'
  have hconflict : (selectCurrentCounterexamples (raw.map mask ++ raw)).conflicting =
      false := by
    rw [selectCurrentCounterexamples, List.any_eq_false]
    intro group hgroup
    obtain ⟨c, hc, rfl⟩ := mem_attemptGroups.1 hgroup
    obtain ⟨value, hvalue, _⟩ := hresolved hc
    rw [hvalue]
    exact Bool.false_ne_true
  have hselected : ∀ value ∈
      (selectCurrentCounterexamples (raw.map mask ++ raw)).counterexamples,
      value.outcome = .supported ∨ value.outcome = .contradicted ∧
        input.currentImplementationDigest ≠ some value.boundDigest := by
    intro value hvalue
    obtain ⟨group, hgroup, hsome⟩ := List.mem_filterMap.1 hvalue
    obtain ⟨c, hc, rfl⟩ := mem_attemptGroups.1 hgroup
    obtain ⟨value', hvalue', houtcome⟩ := hresolved hc
    rw [hvalue', Option.some.injEq] at hsome
    exact hsome ▸ houtcome
  have hcontradicted : (analyzeCounterexamples
      (selectCurrentCounterexamples (raw.map mask ++ raw)).counterexamples
      input.currentImplementationDigest).freshContradicted = false := by
    refine List.any_eq_false.2 fun value hvalue => ?_
    rcases hselected value hvalue with hout | ⟨_, hstale⟩
    · simp [hout]
    · simp [isFreshCounterexample, hstale]
  have hblocked : (analyzeCounterexamples
      (selectCurrentCounterexamples (raw.map mask ++ raw)).counterexamples
      input.currentImplementationDigest).freshBlocked = false := by
    refine List.any_eq_false.2 fun value hvalue => ?_
    rcases hselected value hvalue with hout | ⟨hout, _⟩ <;> simp [hout]
  have hprovenance' : claim.provenance.isNone = false := by
    simpa [Option.isNone_eq_false_iff, Option.isSome_iff_ne_none] using hprovenance
  rw [claimState, hfilter]
  simp only [hconflict, Bool.false_eq_true, if_false]
  have himplementation : (displacedInput input claim digest
      (raw.map mask)).currentImplementationDigest = input.currentImplementationDigest := rfl
  simp only [deriveVerificationState, himplementation, hcontradicted, hblocked,
    hprovenance', Bool.false_eq_true, if_false]
  rw [if_pos]
  refine List.any_eq_true.2 ⟨_, List.mem_filter.2 ⟨List.mem_cons_self, ?_⟩, ?_⟩
  · exact beq_self_eq_true claim.claimId
  · simp [ProofProviderResult.hasStatus, ProofProviderResult.isFresh, isFresh,
      himplementation, hdigest]

end Displace

/-- A fresh contradiction keeps a claim contradicted or not verified under all added
evidence exactly when the claim has no provenance anyway, or some fresh contradiction
has a key with one reading. -/
theorem contradiction_stands_iff {input : ProofGraphEvaluationInput}
    {claim : DeclaredClaim} (hclaim : claim ∈ input.claims)
    (hcontradicted : ∃ c, FreshContradiction input claim c) :
    ContradictionStands input claim ↔
      claim.provenance = none ∨ ∃ c, FreshContradiction input claim c ∧ OneReading c := by
  constructor
  · intro hstands
    by_contra hneither
    rw [not_or, not_exists] at hneither
    obtain ⟨hprovenance, hreadings⟩ := hneither
    obtain ⟨c, hc⟩ := hcontradicted
    obtain ⟨more, hmore, hblocked⟩ := exists_blocked hprovenance
      (fun c hc hone => hreadings c ⟨hc, hone⟩) hc.fresh
    have hstate := hstands more hmore "" (evaluateClaim claim more "")
      (mem_evaluateProofGraph.2 ⟨claim, hmore.claims hclaim, rfl⟩) rfl
    change claimState claim more = _ ∨ claimState claim more = _ at hstate
    rw [hblocked] at hstate
    rcases hstate with hstate | hstate <;> cases hstate
  · rintro hcase more hmore evaluatedAt evaluated hevaluated rfl
    obtain ⟨declared, _, rfl⟩ := mem_evaluateProofGraph.1 hevaluated
    change claimState declared more = _ ∨ claimState declared more = _
    rcases hcase with hprovenance | ⟨c, hc, hone⟩
    · refine Or.inr ?_
      have hnone : declared.provenance = none := hprovenance
      simp [claimState, deriveVerificationState, hnone]
    · exact stands_of_oneReading
        ⟨hmore.counterexamples hc.recorded, hc.ofClaim, hc.contradicted,
          hmore.implementation.trans hc.fresh⟩ hone

/-! ### A displaced contradiction -/

/-- A sourced claim without further requirements. -/
def sourcedClaim : DeclaredClaim :=
  { claimId := "6f1c2f0e-8f2b-4f6e-9d3a-2b7c5a1e4d90"
    statement := "the export is rejected"
    signalClass := .fact
    critical := true
    claimScope := none
    provenance := some (.approvedTicket "t1")
    evidenceRefs := []
    counterexampleRefs := []
    requiredEvidence := none
    counterexampleRequirement := none
    coversRiskTriggers := none
    certifiedPlan := none
    confidence := none }

/-- An executed counterexample of the sourced claim. -/
def executedCounterexample (checkId boundDigest : String) (outcome : CounterexampleOutcome)
    (executedAt : Timestamp) (hcheck : checkId ≠ "") (hdigest : boundDigest ≠ "") :
    ProofCounterexample :=
  { claimId := sourcedClaim.claimId
    attemptId := "0b8f9a52-6c1d-4f0e-9a75-2f1c3d4e5f60"
    checkId := checkId
    scenario := "falsification"
    outcome := outcome
    boundDigest := boundDigest
    executedAt := executedAt
    checkId_ne := hcheck
    boundDigest_ne := hdigest }

theorem unit_ne : "unit" ≠ "" := by decide

theorem d1_ne : "d1" ≠ "" := by decide

/-- The check `lint:js` contradicted the claim on revision `d1`; a later entry of the
check `lint` on the old revision `js:d1` has the same key. -/
def collidingInput : ProofGraphEvaluationInput :=
  { claims := [sourcedClaim]
    providerResults :=
      [⟨sourcedClaim.claimId, .structuralAssertion, none, .flowguardExecuted,
        some ⟨.pass, "surface", .implementation "d1"⟩⟩]
    counterexamples :=
      [executedCounterexample "lint:js" "d1" .contradicted "2026-01-05T10:00:00.000Z"
          (by decide) (by decide),
        executedCounterexample "lint" "js:d1" .contradicted "2026-01-05T11:00:00.000Z"
          (by decide) (by decide),
        executedCounterexample "unit" "d1" .supported "2026-01-05T10:30:00.000Z"
          (by decide) (by decide)]
    currentImplementationDigest := some "d1"
    currentPlanDigest := none
    currentSurfaceDigests := [] }

theorem collidingInput_contradicted :
    ∃ c, FreshContradiction collidingInput sourcedClaim c :=
  ⟨_, List.mem_cons_self, rfl, rfl, rfl⟩

theorem contradiction_stands_iff_colliding :
    ContradictionStands collidingInput sourcedClaim ↔
      sourcedClaim.provenance = none ∨
        ∃ c, FreshContradiction collidingInput sourcedClaim c ∧ OneReading c :=
  contradiction_stands_iff List.mem_cons_self collidingInput_contradicted

/-- The claim is contradicted on the current revision and evaluated as proven. -/
theorem contradiction_stands_counterexample :
    (∃ c, FreshContradiction collidingInput sourcedClaim c) ∧
      (evaluateProofGraph collidingInput "2026-01-05T12:00:00.000Z").claims.map
        (fun claim => (claim.toDeclaredClaim, claim.verificationState)) =
          [(sourcedClaim, .proven)] :=
  ⟨⟨_, List.mem_cons_self, rfl, rfl, rfl⟩, by decide +kernel⟩

end GovernedRuntime.ProofGraph
