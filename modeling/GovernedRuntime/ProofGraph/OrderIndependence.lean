/-
When the evaluation depends on the order of the recorded counterexamples.  Sorting
compares instants and the tie test compares texts, so a group is settled only if
the entries of its latest instant agree.
-/
import GovernedRuntime.ProofGraph.Contradiction

namespace GovernedRuntime.ProofGraph

open GovernedRuntime.State

/-- The same input in another order. -/
structure Reorders (input other : ProofGraphEvaluationInput) : Prop where
  claims : other.claims.Perm input.claims
  providerResults : other.providerResults.Perm input.providerResults
  counterexamples : other.counterexamples.Perm input.counterexamples
  implementation : other.currentImplementationDigest = input.currentImplementationDigest
  plan : other.currentPlanDigest = input.currentPlanDigest
  surfaces : other.currentSurfaceDigests = input.currentSurfaceDigests

/-- The claims with their states, as evaluated. -/
def evaluatedStates (input : ProofGraphEvaluationInput) (evaluatedAt : Timestamp) :
    List (DeclaredClaim × ClaimVerificationState) :=
  (evaluateProofGraph input evaluatedAt).claims.map fun claim =>
    (claim.toDeclaredClaim, claim.verificationState)

def OrderIndependent (input : ProofGraphEvaluationInput) : Prop :=
  ∀ other, Reorders input other → ∀ evaluatedAt,
    (evaluatedStates other evaluatedAt).Perm (evaluatedStates input evaluatedAt)

/-! ### What a selected counterexample contributes -/

inductive Effect
  | silent
  | stale
  | fresh (outcome : CounterexampleOutcome)
deriving DecidableEq, Repr

def effect (digest : Option String) (c : ProofCounterexample) : Effect :=
  if c.outcome == .notVerified then .silent
  else if isFreshCounterexample c digest then .fresh c.outcome
  else .stale

def groupEffect (digest : Option String) (group : List ProofCounterexample) :
    Option Effect :=
  (resolveGroup group).map (effect digest)

/-- The flags of the analysis, read off the effects. -/
def analyzeEffects (effects : List Effect) : AdversarialAnalysis :=
  { freshContradicted := effects.any (· == .fresh .contradicted)
    freshSupported := effects.any (· == .fresh .supported)
    freshBlocked := effects.any (· == .fresh .blocked)
    hasStaleAdversarial := effects.any (· == .stale)
    hasFreshAdversarial := effects.any fun e => e != .silent && e != .stale }

theorem analyzeCounterexamples_eq (counterexamples : List ProofCounterexample)
    (digest : Option String) :
    analyzeCounterexamples counterexamples digest =
      analyzeEffects (counterexamples.map (effect digest)) := by
  simp only [analyzeCounterexamples, analyzeEffects, List.any_map,
    AdversarialAnalysis.mk.injEq]
  refine ⟨?_, ?_, ?_, ?_, ?_⟩ <;>
  · congr 1
    funext c
    cases houtcome : c.outcome <;>
      cases hfresh : isFreshCounterexample c digest <;>
        simp [effect, houtcome, hfresh] <;> rfl

theorem any_congr_mem {α : Type} {l l' : List α} (hmem : ∀ a, a ∈ l ↔ a ∈ l')
    (p : α → Bool) : l.any p = l'.any p := by
  rw [Bool.eq_iff_iff, List.any_eq_true, List.any_eq_true]
  constructor
  · rintro ⟨a, ha, hp⟩
    exact ⟨a, (hmem a).1 ha, hp⟩
  · rintro ⟨a, ha, hp⟩
    exact ⟨a, (hmem a).2 ha, hp⟩

theorem analyzeEffects_congr {effects effects' : List Effect}
    (hmem : ∀ e, e ∈ effects ↔ e ∈ effects') :
    analyzeEffects effects = analyzeEffects effects' := by
  simp only [analyzeEffects, any_congr_mem hmem]

/-! ### Settled groups -/

section Groups

variable {digest : Option String} {group group' : List ProofCounterexample}

/-- An entry of the latest instant of its group. -/
def Latest (group : List ProofCounterexample) (c : ProofCounterexample) : Prop :=
  c ∈ group ∧ ∀ d ∈ group,
    epochOfExecutedAt d.executedAt ≤ epochOfExecutedAt c.executedAt

/-- The latest entries do not contradict, and an older one does. -/
def OldContradiction (group : List ProofCounterexample) : Prop :=
  (∀ c, Latest group c → c.outcome ≠ .contradicted) ∧
    ∃ c ∈ group, c.outcome = .contradicted

/-- The latest entries carry one text of their instant and differ in outcome. -/
def OpenTie (group : List ProofCounterexample) : Prop :=
  (∀ c d, Latest group c → Latest group d → c.executedAt = d.executedAt) ∧
    ∃ c d, Latest group c ∧ Latest group d ∧ c.outcome ≠ d.outcome

/-- The latest entries agree on contradiction and on their effect, and those of one
text on their outcome. -/
def Agreed (digest : Option String) (group : List ProofCounterexample) : Prop :=
  ∀ c d, Latest group c → Latest group d →
    (c.outcome = .contradicted ↔ d.outcome = .contradicted) ∧
      (c.executedAt = d.executedAt → c.outcome = d.outcome) ∧
      effect digest c = effect digest d

/-- Every order of the group resolves it alike. -/
def Settled (digest : Option String) (group : List ProofCounterexample) : Prop :=
  OldContradiction group ∨ OpenTie group ∨ Agreed digest group

theorem latest_congr (hperm : group'.Perm group) (c : ProofCounterexample) :
    Latest group' c ↔ Latest group c := by
  simp only [Latest, hperm.mem_iff]

theorem OldContradiction.congr (hperm : group'.Perm group)
    (hold : OldContradiction group) : OldContradiction group' := by
  obtain ⟨hlatest, c, hc, hcontradicted⟩ := hold
  exact ⟨fun d hd => hlatest d ((latest_congr hperm d).1 hd), c, hperm.mem_iff.2 hc,
    hcontradicted⟩

theorem OpenTie.congr (hperm : group'.Perm group) (htie : OpenTie group) :
    OpenTie group' := by
  simpa only [OpenTie, latest_congr hperm] using htie

theorem Agreed.congr (hperm : group'.Perm group) (hagreed : Agreed digest group) :
    Agreed digest group' := by
  simpa only [Agreed, latest_congr hperm] using hagreed

/-- The sorted group begins with a latest entry. -/
theorem exists_newestFirst (hgroup : group ≠ []) :
    ∃ latest older, newestFirst group = latest :: older ∧ Latest group latest ∧
      (∀ c, c ∈ group ↔ c = latest ∨ c ∈ older) := by
  have hperm := newestFirst_perm group
  obtain ⟨latest, older, hsorted⟩ := List.exists_cons_of_ne_nil
    (fun hnil => hgroup (List.perm_nil.1 (hnil ▸ hperm.symm)))
  have hmem : ∀ c, c ∈ group ↔ c = latest ∨ c ∈ older := by
    intro c
    rw [← hperm.mem_iff, hsorted, List.mem_cons]
  refine ⟨latest, older, hsorted, ⟨(hmem latest).2 (Or.inl rfl), ?_⟩, hmem⟩
  exact fun d hd => epoch_le_of_newestFirst hsorted hd

theorem resolveGroup_of_oldContradiction (hold : OldContradiction group) :
    resolveGroup group = none := by
  obtain ⟨hlatest, c, hc, hcontradicted⟩ := hold
  obtain ⟨latest, older, hsorted, hfirst, hmem⟩ :=
    exists_newestFirst (List.ne_nil_of_mem hc)
  have holder : c ∈ older := by
    rcases (hmem c).1 hc with rfl | hin
    · exact absurd hcontradicted (hlatest c hfirst)
    · exact hin
  have hany : older.any (·.outcome == .contradicted) = true :=
    List.any_eq_true.2 ⟨c, holder, by simpa using hcontradicted⟩
  rw [resolveGroup_eq (List.ne_nil_of_mem hc), hsorted]
  simp only [resolveAttemptHistory]
  split_ifs with htied hout
  · rfl
  · exact absurd (by simpa using hout) (hlatest latest hfirst)
  · rfl

/-- Two entries of the latest instant may come first, in this order. -/
theorem newestFirst_cons_cons {c d : ProofCounterexample} {rest : List ProofCounterexample}
    (hc : Latest (c :: d :: rest) c) (hd : Latest (c :: d :: rest) d) :
    newestFirst (c :: d :: rest) = c :: d :: newestFirst rest := by
  rw [newestFirst_cons fun other hother => hc.2 other (List.mem_cons_of_mem _ hother),
    newestFirst_cons fun other hother => hd.2 other
      (List.mem_cons_of_mem _ (List.mem_cons_of_mem _ hother))]

theorem one_lt_length_dedup {outcomes : List CounterexampleOutcome}
    {a b : CounterexampleOutcome} (ha : a ∈ outcomes) (hb : b ∈ outcomes) (hne : a ≠ b) :
    1 < outcomes.dedup.length := by
  rw [← List.mem_dedup] at ha hb
  rcases hlist : outcomes.dedup with _ | ⟨x, _ | ⟨y, rest⟩⟩
  · rw [hlist] at ha
    cases ha
  · rw [hlist, List.mem_singleton] at ha hb
    exact absurd (ha.trans hb.symm) hne
  · simp

/-- Two latest entries of one text and different outcomes are a conflict. -/
theorem resolveGroup_of_tied {c d : ProofCounterexample} {rest : List ProofCounterexample}
    (hc : Latest (c :: d :: rest) c) (hd : Latest (c :: d :: rest) d)
    (htext : ∃ e ∈ c :: d :: rest, e.executedAt = c.executedAt ∧ e.outcome ≠ c.outcome)
    (hnext : d.executedAt = c.executedAt) : resolveGroup (c :: d :: rest) = none := by
  obtain ⟨e, he, hsame, hdiffer⟩ := htext
  have hmem : e ∈ c :: d :: newestFirst rest := by
    rw [← newestFirst_cons_cons hc hd]
    exact (newestFirst_perm _).mem_iff.2 he
  have htied : 1 < (((c :: d :: newestFirst rest).filter
      (·.executedAt == c.executedAt)).map (·.outcome)).dedup.length := by
    refine one_lt_length_dedup (a := e.outcome) (b := c.outcome) ?_ ?_ hdiffer
    · exact List.mem_map_of_mem (List.mem_filter.2 ⟨hmem, by simpa using hsame⟩)
    · exact List.mem_map_of_mem (List.mem_filter.2 ⟨List.mem_cons_self, by simp⟩)
  rw [resolveGroup_eq (List.cons_ne_nil _ _), newestFirst_cons_cons hc hd]
  simp only [resolveAttemptHistory]
  rw [if_pos (by
    rw [Bool.and_eq_true, decide_eq_true_eq]
    exact ⟨by simp [hnext], htied⟩)]

/-- Two latest entries of different texts are no tie. -/
theorem resolveGroup_of_untied {c d : ProofCounterexample}
    {rest : List ProofCounterexample} (hc : Latest (c :: d :: rest) c)
    (hd : Latest (c :: d :: rest) d) (hnext : d.executedAt ≠ c.executedAt) :
    resolveGroup (c :: d :: rest) =
      if c.outcome = .contradicted then some c
      else if ∃ e ∈ d :: rest, e.outcome = .contradicted then none else some c := by
  have hany : (d :: newestFirst rest).any (·.outcome == .contradicted) = true ↔
      ∃ e ∈ d :: rest, e.outcome = .contradicted := by
    simp [(newestFirst_perm rest).mem_iff]
  rw [resolveGroup_eq (List.cons_ne_nil _ _), newestFirst_cons_cons hc hd]
  simp only [resolveAttemptHistory]
  rw [if_neg (by simp [hnext])]
  simp only [hany, beq_iff_eq]

/-- A sorted group resolves as the group does. -/
theorem resolveGroup_newestFirst (hgroup : group ≠ []) :
    resolveGroup (newestFirst group) = resolveGroup group := by
  have hsorted : newestFirst (newestFirst group) = newestFirst group :=
    List.Pairwise.insertionSort_eq (newestFirst_pairwise group)
  have hnil : newestFirst group ≠ [] := fun hnil =>
    hgroup (List.perm_nil.1 (hnil ▸ (newestFirst_perm group).symm))
  rw [resolveGroup_eq hnil, hsorted, resolveGroup_eq hgroup]

theorem resolveGroup_of_openTie (htie : OpenTie group) : resolveGroup group = none := by
  obtain ⟨htext, c, d, hc, hd, hdiffer⟩ := htie
  have hgroup := List.ne_nil_of_mem hc.1
  have hperm := newestFirst_perm group
  obtain ⟨latest, older, hsorted, hfirst, hmem⟩ := exists_newestFirst hgroup
  -- One of the two differs from the first entry and comes after it.
  obtain ⟨e, he, hother⟩ : ∃ e, Latest group e ∧ e.outcome ≠ latest.outcome := by
    by_cases hsame : c.outcome = latest.outcome
    · exact ⟨d, hd, fun hsame' => hdiffer (hsame.trans hsame'.symm)⟩
    · exact ⟨c, hc, hsame⟩
  have hafter : e ∈ older := by
    rcases (hmem e).1 he.1 with rfl | hin
    · exact absurd rfl hother
    · exact hin
  obtain ⟨next, rest, rfl⟩ := List.exists_cons_of_ne_nil (List.ne_nil_of_mem hafter)
  have hnext : Latest group next := by
    refine ⟨(hmem next).2 (Or.inr List.mem_cons_self), fun other hin => ?_⟩
    refine (he.2 other hin).trans ?_
    rcases List.mem_cons.1 hafter with rfl | hrest
    · exact le_rfl
    · have hpairwise := newestFirst_pairwise group
      rw [hsorted] at hpairwise
      exact (List.pairwise_cons.1 (List.pairwise_cons.1 hpairwise).2).1 e hrest
  rw [hsorted] at hperm
  rw [← resolveGroup_newestFirst hgroup, hsorted]
  exact resolveGroup_of_tied ((latest_congr hperm _).2 hfirst)
    ((latest_congr hperm _).2 hnext)
    ⟨e, List.mem_cons_of_mem _ hafter, htext e latest he hfirst, hother⟩
    (htext next latest hnext hfirst)

/-- A latest entry that no other one of its text contradicts resolves its group when it
comes first. -/
theorem resolveGroup_of_first {c : ProofCounterexample} {rest : List ProofCounterexample}
    (hc : Latest (c :: rest) c)
    (htied : ∀ d, Latest (c :: rest) d → d.executedAt = c.executedAt →
      d.outcome = c.outcome)
    (holder : c.outcome = .contradicted ∨ ∀ d ∈ c :: rest, d.outcome ≠ .contradicted) :
    resolveGroup (c :: rest) = some c := by
  apply resolveGroup_of_newest
  · exact fun d hd => hc.2 d (List.mem_cons_of_mem _ hd)
  · intro d hd hsame
    refine htied d ⟨List.mem_cons_of_mem _ hd, fun other hother => ?_⟩ hsame
    rw [hsame]
    exact hc.2 other hother
  · exact holder.imp id fun hnone d hd => hnone d (List.mem_cons_of_mem _ hd)

theorem resolveGroup_of_agreed (hagreed : Agreed digest group) (hgroup : group ≠ [])
    (hold : ¬ OldContradiction group) :
    ∃ value, resolveGroup group = some value ∧ Latest group value := by
  have hperm := newestFirst_perm group
  obtain ⟨latest, older, hsorted, hfirst, hmem⟩ := exists_newestFirst hgroup
  rw [hsorted] at hperm
  refine ⟨latest, ?_, hfirst⟩
  rw [← resolveGroup_newestFirst hgroup, hsorted]
  refine resolveGroup_of_first ((latest_congr hperm _).2 hfirst) ?_ ?_
  · intro d hd hsame
    exact (hagreed d latest ((latest_congr hperm d).1 hd) hfirst).2.1 hsame
  · by_cases hcontradicted : latest.outcome = .contradicted
    · exact Or.inl hcontradicted
    · refine Or.inr fun d hd hout => hold ⟨fun c hc hcout => ?_, d, hperm.mem_iff.1 hd, hout⟩
      exact hcontradicted ((hagreed c latest hc hfirst).1.1 hcout)

/-- A settled group has one effect, whatever its order. -/
theorem Settled.groupEffect_eq (hsettled : Settled digest group)
    (hperm : group'.Perm group) : groupEffect digest group' = groupEffect digest group := by
  by_cases hold : OldContradiction group
  · rw [groupEffect, groupEffect, resolveGroup_of_oldContradiction hold,
      resolveGroup_of_oldContradiction (hold.congr hperm)]
  · rcases hsettled with hold' | htie | hagreed
    · exact absurd hold' hold
    · rw [groupEffect, groupEffect, resolveGroup_of_openTie htie,
        resolveGroup_of_openTie (htie.congr hperm)]
    · by_cases hgroup : group = []
      · subst hgroup
        rw [List.perm_nil.1 hperm]
      · have hgroup' : group' ≠ [] := fun hnil =>
          hgroup (List.perm_nil.1 (hnil ▸ hperm.symm))
        obtain ⟨value, hvalue, hlatest⟩ := resolveGroup_of_agreed hagreed hgroup hold
        obtain ⟨value', hvalue', hlatest'⟩ := resolveGroup_of_agreed (hagreed.congr hperm)
          hgroup' fun hold' => hold (hold'.congr hperm.symm)
        rw [groupEffect, groupEffect, hvalue, hvalue', Option.map_some, Option.map_some,
          (hagreed value' value ((latest_congr hperm _).1 hlatest') hlatest).2.2]

/-! ### Unsettled groups -/

theorem exists_order {c : ProofCounterexample} (hc : c ∈ group) :
    ∃ rest, (c :: rest).Perm group :=
  ⟨group.erase c, (List.perm_cons_erase hc).symm⟩

theorem exists_order_pair {c d : ProofCounterexample} (hc : c ∈ group) (hd : d ∈ group)
    (hne : c ≠ d) : ∃ rest, (c :: d :: rest).Perm group := by
  have hin : d ∈ group.erase c := (List.mem_erase_of_ne hne.symm).2 hd
  exact ⟨(group.erase c).erase d,
    ((List.perm_cons_erase hin).symm.cons c).trans (List.perm_cons_erase hc).symm⟩

/-- With a latest entry first, and a latest entry of another text second. -/
theorem exists_untied_order {c d : ProofCounterexample} (hc : Latest group c)
    (hd : Latest group d) (htext : d.executedAt ≠ c.executedAt) :
    ∃ order, order.Perm group ∧ resolveGroup order =
      if c.outcome = .contradicted then some c
      else if ∃ e ∈ group, e.outcome = .contradicted then none else some c := by
  obtain ⟨rest, hperm⟩ := exists_order_pair hc.1 hd.1 fun hsame => htext (hsame ▸ rfl)
  refine ⟨c :: d :: rest, hperm, ?_⟩
  rw [resolveGroup_of_untied ((latest_congr hperm c).2 hc) ((latest_congr hperm d).2 hd)
    htext]
  by_cases hcontradicted : c.outcome = .contradicted
  · rw [if_pos hcontradicted, if_pos hcontradicted]
  · have hexists : (∃ e ∈ d :: rest, e.outcome = .contradicted) ↔
        ∃ e ∈ group, e.outcome = .contradicted := by
      constructor
      · rintro ⟨e, he, hout⟩
        exact ⟨e, hperm.mem_iff.1 (List.mem_cons_of_mem _ he), hout⟩
      · rintro ⟨e, he, hout⟩
        rcases List.mem_cons.1 (hperm.mem_iff.2 he) with rfl | hin
        · exact absurd hout hcontradicted
        · exact ⟨e, hin, hout⟩
    rw [if_neg hcontradicted, if_neg hcontradicted]
    simp only [hexists]

/-- With a latest entry first that agrees with those of its text. -/
theorem exists_first_order {c : ProofCounterexample} (hc : Latest group c)
    (htied : ∀ d, Latest group d → d.executedAt = c.executedAt → d.outcome = c.outcome)
    (holder : c.outcome = .contradicted ∨ ∀ d ∈ group, d.outcome ≠ .contradicted) :
    ∃ order, order.Perm group ∧ resolveGroup order = some c := by
  obtain ⟨rest, hperm⟩ := exists_order hc.1
  refine ⟨c :: rest, hperm, resolveGroup_of_first ((latest_congr hperm c).2 hc) ?_ ?_⟩
  · exact fun d hd => htied d ((latest_congr hperm d).1 hd)
  · exact holder.imp id fun hnone d hd => hnone d (hperm.mem_iff.1 hd)

/-- Two latest entries of different texts, where the outcomes differ. -/
theorem exists_text_of_not_openTie (htie : ¬ OpenTie group) {c d : ProofCounterexample}
    (hc : Latest group c) (hd : Latest group d) (hdiffer : c.outcome ≠ d.outcome) :
    ∃ e, Latest group e ∧ e.executedAt ≠ c.executedAt := by
  by_contra hnone
  push Not at hnone
  refine htie ⟨fun x y hx hy => ?_, c, d, hc, hd, hdiffer⟩
  rw [hnone x hx, hnone y hy]

theorem exists_unlike_orders (hunsettled : ¬ Settled digest group) :
    ∃ first second, first.Perm group ∧ second.Perm group ∧
      groupEffect digest first ≠ groupEffect digest second := by
  rw [Settled, not_or, not_or] at hunsettled
  obtain ⟨hold, htie, hagreed⟩ := hunsettled
  by_cases hlate : ∃ a, Latest group a ∧ a.outcome = .contradicted
  · obtain ⟨a, ha, hcontradicted⟩ := hlate
    by_cases hcalm : ∃ b, Latest group b ∧ b.outcome ≠ .contradicted
    · -- One of the latest entries contradicts and one does not: first comes first.
      obtain ⟨b, hb, hother⟩ := hcalm
      obtain ⟨x, y, hx, hy, hxout, hyout, htext⟩ : ∃ x y, Latest group x ∧ Latest group y ∧
          x.outcome = .contradicted ∧ y.outcome ≠ .contradicted ∧
            y.executedAt ≠ x.executedAt := by
        by_cases htext : b.executedAt = a.executedAt
        · obtain ⟨r, hr, hrtext⟩ := exists_text_of_not_openTie htie ha hb
            (hcontradicted ▸ hother.symm)
          by_cases hrout : r.outcome = .contradicted
          · exact ⟨r, b, hr, hb, hrout, hother, htext ▸ hrtext.symm⟩
          · exact ⟨a, r, ha, hr, hcontradicted, hrout, hrtext⟩
        · exact ⟨a, b, ha, hb, hcontradicted, hother, htext⟩
      obtain ⟨first, hfirst, hresolved⟩ := exists_untied_order hx hy htext
      obtain ⟨second, hsecond, hresolved'⟩ := exists_untied_order hy hx htext.symm
      rw [if_pos hxout] at hresolved
      rw [if_neg hyout, if_pos ⟨x, hx.1, hxout⟩] at hresolved'
      refine ⟨first, second, hfirst, hsecond, ?_⟩
      rw [groupEffect, groupEffect, hresolved, hresolved']
      exact Option.some_ne_none _
    · -- All of them contradict, with different effects.
      push Not at hcalm
      simp only [Agreed, not_forall] at hagreed
      obtain ⟨c, d, hc, hd, hdisagree⟩ := hagreed
      have heffect : effect digest c ≠ effect digest d := by
        intro hsame
        refine hdisagree ⟨iff_of_true (hcalm c hc) (hcalm d hd), fun _ => ?_, hsame⟩
        rw [hcalm c hc, hcalm d hd]
      obtain ⟨first, hfirst, hresolved⟩ := exists_first_order hc
        (fun e he _ => (hcalm e he).trans (hcalm c hc).symm) (Or.inl (hcalm c hc))
      obtain ⟨second, hsecond, hresolved'⟩ := exists_first_order hd
        (fun e he _ => (hcalm e he).trans (hcalm d hd).symm) (Or.inl (hcalm d hd))
      refine ⟨first, second, hfirst, hsecond, ?_⟩
      rw [groupEffect, groupEffect, hresolved, hresolved']
      simpa using heffect
  · push Not at hlate
    have hnone : ∀ d ∈ group, d.outcome ≠ .contradicted :=
      fun d hd hout => hold ⟨hlate, d, hd, hout⟩
    by_cases hpair : ∃ c d, Latest group c ∧ Latest group d ∧
        d.executedAt = c.executedAt ∧ d.outcome ≠ c.outcome
    · -- A tie that is a conflict next to an entry of another text.
      obtain ⟨c, d, hc, hd, htext, hdiffer⟩ := hpair
      obtain ⟨rest, hperm⟩ := exists_order_pair hc.1 hd.1 fun hsame => hdiffer (hsame ▸ rfl)
      have hconflict : resolveGroup (c :: d :: rest) = none :=
        resolveGroup_of_tied ((latest_congr hperm c).2 hc) ((latest_congr hperm d).2 hd)
          ⟨d, by simp, htext, hdiffer⟩ htext
      obtain ⟨r, hr, hrtext⟩ := exists_text_of_not_openTie htie hc hd hdiffer.symm
      obtain ⟨second, hsecond, hresolved⟩ := exists_untied_order hr hc hrtext.symm
      rw [if_neg (hlate r hr), if_neg fun ⟨e, he, hout⟩ => hnone e he hout] at hresolved
      refine ⟨c :: d :: rest, second, hperm, hsecond, ?_⟩
      rw [groupEffect, groupEffect, hconflict, hresolved]
      exact (Option.some_ne_none _).symm
    · push Not at hpair
      simp only [Agreed, not_forall] at hagreed
      obtain ⟨c, d, hc, hd, hdisagree⟩ := hagreed
      have heffect : effect digest c ≠ effect digest d := by
        intro hsame
        exact hdisagree ⟨iff_of_false (hlate c hc) (hlate d hd),
          fun htext => hpair d c hd hc htext, hsame⟩
      obtain ⟨first, hfirst, hresolved⟩ := exists_first_order hc
        (fun e he htext => hpair c e hc he htext) (Or.inr hnone)
      obtain ⟨second, hsecond, hresolved'⟩ := exists_first_order hd
        (fun e he htext => hpair d e hd he htext) (Or.inr hnone)
      refine ⟨first, second, hfirst, hsecond, ?_⟩
      rw [groupEffect, groupEffect, hresolved, hresolved']
      simpa using heffect

end Groups

/-! ### Settled inputs -/

section Inputs

variable {input other : ProofGraphEvaluationInput}

theorem Reorders.isFresh_eq (hother : Reorders input other) (result : ProofProviderResult) :
    result.isFresh other = result.isFresh input := by
  unfold ProofProviderResult.isFresh
  congr 1
  funext execution
  cases hbinding : execution.binding <;>
    simp only [isFresh, hother.implementation, hother.plan, hother.surfaces]

/-- The rules after the counterexamples do not read the order of the results. -/
theorem deriveFromRequiredEvidence_congr (claim : DeclaredClaim)
    {evidence evidence' : ClaimEvidenceAnalysis} (hother : Reorders input other)
    (hpassing : evidence'.passing.Perm evidence.passing)
    (hcounterexamples : evidence'.counterexamples.Perm evidence.counterexamples)
    (hadversarial : evidence'.adversarial = evidence.adversarial)
    (hstale : evidence'.hasStaleBoundEvidence = evidence.hasStaleBoundEvidence) :
    deriveFromRequiredEvidence claim evidence' other =
      deriveFromRequiredEvidence claim evidence input := by
  have hroles : hasIndependentEvidenceRoles claim evidence' =
      hasIndependentEvidenceRoles claim evidence := by
    simp only [hasIndependentEvidenceRoles, assessEvidenceRoleIndependence,
      (hpassing.filter _).any_eq, hcounterexamples.any_eq]
  simp only [deriveFromRequiredEvidence, hroles, hadversarial, hstale, hpassing.any_eq,
    hother.isFresh_eq]

theorem deriveVerificationState_congr (claim : DeclaredClaim)
    {results results' : List ProofProviderResult}
    {selected selected' raw raw' : List ProofCounterexample}
    (hother : Reorders input other) (hresults : results'.Perm results)
    (hraw : raw'.Perm raw)
    (hselected : analyzeCounterexamples selected' input.currentImplementationDigest =
      analyzeCounterexamples selected input.currentImplementationDigest) :
    deriveVerificationState claim results' selected' raw' other =
      deriveVerificationState claim results selected raw input := by
  have hrequired : ∀ adversarial stale,
      deriveFromRequiredEvidence claim
          ⟨results'.filter (·.hasStatus .pass), raw', adversarial, stale⟩ other =
        deriveFromRequiredEvidence claim
          ⟨results.filter (·.hasStatus .pass), raw, adversarial, stale⟩ input :=
    fun _ _ => deriveFromRequiredEvidence_congr claim hother (hresults.filter _) hraw rfl rfl
  simp only [deriveVerificationState, hother.implementation, hselected, hresults.any_eq,
    hother.isFresh_eq, hrequired]

/-- Reordered counterexamples fall into the same groups, reordered. -/
theorem exists_group_of_perm {raw raw' : List ProofCounterexample} (hraw : raw'.Perm raw)
    {group' : List ProofCounterexample} (hgroup' : group' ∈ attemptGroups raw') :
    ∃ group ∈ attemptGroups raw, group'.Perm group := by
  obtain ⟨c, hc, rfl⟩ := mem_attemptGroups.1 hgroup'
  exact ⟨_, mem_attemptGroups.2 ⟨c, hraw.mem_iff.1 hc, rfl⟩, hraw.filter _⟩

theorem groupEffects_congr {digest : Option String} {raw raw' : List ProofCounterexample}
    (hraw : raw'.Perm raw) (hsettled : ∀ group ∈ attemptGroups raw, Settled digest group)
    (e : Option Effect) :
    e ∈ (attemptGroups raw').map (groupEffect digest) ↔
      e ∈ (attemptGroups raw).map (groupEffect digest) := by
  rw [List.mem_map, List.mem_map]
  constructor
  · rintro ⟨group', hgroup', rfl⟩
    obtain ⟨group, hgroup, hperm⟩ := exists_group_of_perm hraw hgroup'
    exact ⟨group, hgroup, ((hsettled group hgroup).groupEffect_eq hperm).symm⟩
  · rintro ⟨group, hgroup, rfl⟩
    obtain ⟨group', hgroup', hperm⟩ := exists_group_of_perm hraw.symm hgroup
    exact ⟨group', hgroup', (hsettled group hgroup).groupEffect_eq hperm.symm⟩

/-- A selection in terms of the effects of its groups. -/
theorem selection_conflicting (digest : Option String) (raw : List ProofCounterexample) :
    (selectCurrentCounterexamples raw).conflicting =
      ((attemptGroups raw).map (groupEffect digest)).any (·.isNone) := by
  simp [selectCurrentCounterexamples, List.any_map, groupEffect, Function.comp_def]

theorem selection_effects (digest : Option String) (raw : List ProofCounterexample) :
    (selectCurrentCounterexamples raw).counterexamples.map (effect digest) =
      ((attemptGroups raw).map (groupEffect digest)).filterMap id := by
  rw [selectCurrentCounterexamples, List.map_filterMap, List.filterMap_map]
  rfl

theorem claimState_congr {claim : DeclaredClaim} (hother : Reorders input other)
    (hsettled : ∀ group ∈ attemptGroups
        (input.counterexamples.filter (·.claimId == claim.claimId)),
      Settled input.currentImplementationDigest group) :
    claimState claim other = claimState claim input := by
  have hraw := hother.counterexamples.filter (·.claimId == claim.claimId)
  have heffects := groupEffects_congr hraw hsettled
  have hconflict := selection_conflicting input.currentImplementationDigest
    (other.counterexamples.filter (·.claimId == claim.claimId))
  rw [any_congr_mem heffects, ← selection_conflicting] at hconflict
  rw [claimState, claimState, hconflict]
  congr 1
  refine deriveVerificationState_congr claim hother (hother.providerResults.filter _) hraw ?_
  rw [analyzeCounterexamples_eq, analyzeCounterexamples_eq, selection_effects,
    selection_effects]
  refine analyzeEffects_congr fun e => ?_
  simp only [List.mem_filterMap, id_eq, exists_eq_right, heffects]

theorem evaluatedStates_eq (input : ProofGraphEvaluationInput) (evaluatedAt : Timestamp) :
    (evaluatedStates input evaluatedAt).Perm
      (input.claims.map fun claim => (claim, claimState claim input)) := by
  rw [evaluatedStates, evaluateProofGraph, List.map_map]
  exact (List.perm_insertionSort _ _).map _

/-- An input whose groups are all settled is evaluated alike in every order. -/
theorem orderIndependent_of_settled
    (hsettled : ∀ claim ∈ input.claims, ∀ group ∈ attemptGroups
        (input.counterexamples.filter (·.claimId == claim.claimId)),
      Settled input.currentImplementationDigest group) : OrderIndependent input := by
  intro other hother evaluatedAt
  refine (evaluatedStates_eq other evaluatedAt).trans ?_
  refine List.Perm.trans ?_ (evaluatedStates_eq input evaluatedAt).symm
  refine List.Perm.trans (List.Perm.of_eq ?_) (hother.claims.map _)
  refine List.map_congr_left fun claim hclaim => ?_
  rw [claimState_congr hother (hsettled claim (hother.claims.mem_iff.1 hclaim))]

end Inputs

/-! ### A context that tells effects apart -/

/-- A sourced claim, with or without required adversarial evidence. -/
def contextClaim (claimId : String) (adversarial : Nat) : DeclaredClaim :=
  { sourcedClaim with
    claimId := claimId
    requiredEvidence := some ⟨[], adversarial⟩ }

/-- The claim with one fresh passing result. -/
def contextInput (claimId : String) (adversarial : Nat) (digest : Option String)
    (group : List ProofCounterexample) : ProofGraphEvaluationInput :=
  { claims := [contextClaim claimId adversarial]
    providerResults :=
      [⟨claimId, .structuralAssertion, none, .flowguardExecuted,
        some ⟨.pass, "surface", .surfaceSet "surface" "s1"⟩⟩]
    counterexamples := group
    currentImplementationDigest := digest
    currentPlanDigest := none
    currentSurfaceDigests := [("surface", "s1")] }

/-- The state the claim has in that context. -/
def contextState (adversarial : Nat) : Option Effect → ClaimVerificationState
  | none => .notVerified
  | some (.fresh .contradicted) => .contradicted
  | some (.fresh .blocked) => .blocked
  | some (.fresh _) => .proven
  | some .stale => if adversarial = 0 then .stale else .notVerified
  | some .silent => if adversarial = 0 then .proven else .notVerified

section Context

variable {digest : Option String} {group : List ProofCounterexample} {claimId : String}

/-- A list of one claim, one check and one revision is one group. -/
theorem mem_attemptGroups_of_uniform (hgroup : group ≠ [])
    (huniform : ∀ c ∈ group, ∀ d ∈ group, attemptKey c = attemptKey d)
    (other : List ProofCounterexample) : other ∈ attemptGroups group ↔ other ∈ [group] := by
  have hfilter : ∀ c ∈ group, group.filter (attemptKey · == attemptKey c) = group := by
    intro c hc
    refine List.filter_eq_self.2 fun d hd => ?_
    simpa using huniform d hd c hc
  rw [mem_attemptGroups, List.mem_singleton]
  constructor
  · rintro ⟨c, hc, rfl⟩
    exact hfilter c hc
  · rintro rfl
    obtain ⟨c, hc⟩ := List.exists_mem_of_ne_nil other hgroup
    exact ⟨c, hc, hfilter c hc⟩

theorem effect_ne_fresh_notVerified (c : ProofCounterexample) :
    effect digest c ≠ .fresh .notVerified := by
  unfold effect
  split_ifs with hsilent hfresh
  · exact Effect.noConfusion
  · rw [ne_eq, Effect.fresh.injEq]
    simpa using hsilent
  · exact Effect.noConfusion

theorem claimState_context (adversarial : Nat) (hgroup : group ≠ [])
    (hclaim : ∀ c ∈ group, c.claimId = claimId)
    (huniform : ∀ c ∈ group, ∀ d ∈ group, attemptKey c = attemptKey d) :
    claimState (contextClaim claimId adversarial)
        (contextInput claimId adversarial digest group) =
      contextState adversarial (groupEffect digest group) := by
  have hraw : (contextInput claimId adversarial digest group).counterexamples.filter
      (·.claimId == (contextClaim claimId adversarial).claimId) = group :=
    List.filter_eq_self.2 fun c hc => by simpa [contextClaim] using hclaim c hc
  have hgroups : ∀ e, e ∈ (attemptGroups group).map (groupEffect digest) ↔
      e ∈ [groupEffect digest group] := by
    intro e
    rw [List.mem_map, List.mem_singleton]
    constructor
    · rintro ⟨other, hother, rfl⟩
      rw [List.mem_singleton.1 ((mem_attemptGroups_of_uniform hgroup huniform other).1 hother)]
    · rintro rfl
      exact ⟨group, (mem_attemptGroups_of_uniform hgroup huniform group).2
        (List.mem_singleton_self _), rfl⟩
  have hanalysis : analyzeCounterexamples
      (selectCurrentCounterexamples group).counterexamples digest =
        analyzeEffects (groupEffect digest group).toList := by
    rw [analyzeCounterexamples_eq, selection_effects]
    refine analyzeEffects_congr fun e => ?_
    simp only [List.mem_filterMap, id_eq, exists_eq_right, hgroups, List.mem_singleton,
      Option.mem_toList, eq_comm]
  have hdigest : (contextInput claimId adversarial digest group).currentImplementationDigest =
      digest := rfl
  rw [claimState, hraw, selection_conflicting digest, any_congr_mem hgroups]
  simp only [deriveVerificationState, hdigest, hanalysis]
  cases hresolved : resolveGroup group with
  | none => simp [groupEffect, hresolved, contextState]
  | some value =>
      have hsilent : effect digest value ≠ .fresh .notVerified :=
        effect_ne_fresh_notVerified value
      simp only [groupEffect, hresolved, Option.map_some]
      generalize effect digest value = e at hsilent
      rcases e with _ | _ | (_ | _ | _ | _) <;> by_cases hrequired : adversarial = 0 <;>
        simp [analyzeEffects, contextClaim, contextInput, sourcedClaim, contextState,
          ProofProviderResult.hasStatus, ProofProviderResult.isFresh, isFresh,
          deriveFromRequiredEvidence, hasIndependentEvidenceRoles,
          assessEvidenceRoleIndependence, hrequired] at hsilent ⊢

/-- Two effects that differ give different states, with or without the requirement. -/
theorem contextState_separates {e e' : Option Effect} (hne : e ≠ e')
    (hvalid : e ≠ some (.fresh .notVerified)) (hvalid' : e' ≠ some (.fresh .notVerified)) :
    ∃ adversarial, contextState adversarial e ≠ contextState adversarial e' := by
  by_cases hsame : contextState 0 e = contextState 0 e'
  · refine ⟨1, ?_⟩
    rcases e with _ | _ | _ | (_ | _ | _ | _) <;>
      rcases e' with _ | _ | _ | (_ | _ | _ | _) <;>
        simp [contextState] at hne hvalid hvalid' hsame ⊢
  · exact ⟨0, hsame⟩

/-- An unsettled group is evaluated in two ways in some context. -/
theorem not_orderIndependent_of_unsettled (hclaim : ∀ c ∈ group, c.claimId = claimId)
    (huniform : ∀ c ∈ group, ∀ d ∈ group, attemptKey c = attemptKey d)
    (hunsettled : ¬ Settled digest group) :
    ∃ adversarial, ¬ OrderIndependent (contextInput claimId adversarial digest group) := by
  obtain ⟨first, second, hfirst, hsecond, hunlike⟩ := exists_unlike_orders hunsettled
  have hvalid : ∀ order : List ProofCounterexample,
      groupEffect digest order ≠ some (.fresh .notVerified) := by
    intro order hsome
    obtain ⟨value, _, heffect⟩ := Option.map_eq_some_iff.1 hsome
    exact effect_ne_fresh_notVerified value heffect
  obtain ⟨adversarial, hdiffer⟩ := contextState_separates hunlike (hvalid first)
    (hvalid second)
  have hstates : ∀ {order : List ProofCounterexample}, order.Perm group →
      evaluatedStates (contextInput claimId adversarial digest order) "" =
        [(contextClaim claimId adversarial,
          contextState adversarial (groupEffect digest order))] := by
    intro order hperm
    have hne : order ≠ [] := by
      rintro rfl
      exact hunsettled (Or.inr (Or.inr fun c _ hc =>
        absurd (List.perm_nil.1 hperm.symm ▸ hc.1) List.not_mem_nil))
    rw [← claimState_context adversarial hne
      (fun c hc => hclaim c (hperm.mem_iff.1 hc))
      (fun c hc d hd => huniform c (hperm.mem_iff.1 hc) d (hperm.mem_iff.1 hd))]
    rfl
  have hreorders : ∀ {order : List ProofCounterexample}, order.Perm group →
      Reorders (contextInput claimId adversarial digest group)
        (contextInput claimId adversarial digest order) := fun hperm =>
    { claims := List.Perm.refl _
      providerResults := List.Perm.refl _
      counterexamples := hperm
      implementation := rfl
      plan := rfl
      surfaces := rfl }
  refine ⟨adversarial, fun hindependent => hdiffer ?_⟩
  have hsame := (hindependent _ (hreorders hfirst) "").trans
    (hindependent _ (hreorders hsecond) "").symm
  rw [hstates hfirst, hstates hsecond, List.singleton_perm_singleton] at hsame
  exact (Prod.mk.inj hsame).2

end Context

/-- The order of claims, results and counterexamples does not matter where every group
of counterexamples is settled; and a group that is not settled is by itself evaluated
in two ways. -/
theorem order_independence (input : ProofGraphEvaluationInput) :
    ((∀ claim ∈ input.claims, ∀ group ∈ attemptGroups
          (input.counterexamples.filter (·.claimId == claim.claimId)),
        Settled input.currentImplementationDigest group) → OrderIndependent input) ∧
    ∀ (digest : Option String) (group : List ProofCounterexample) (claimId : String),
      (∀ c ∈ group, c.claimId = claimId) →
      (∀ c ∈ group, ∀ d ∈ group, attemptKey c = attemptKey d) →
        ((∀ claims results plan surfaces,
            OrderIndependent ⟨claims, results, group, digest, plan, surfaces⟩) ↔
          Settled digest group) := by
  refine ⟨orderIndependent_of_settled, ?_⟩
  intro digest group claimId hclaim huniform
  constructor
  · intro hindependent
    by_contra hunsettled
    obtain ⟨adversarial, hdepends⟩ :=
      not_orderIndependent_of_unsettled hclaim huniform hunsettled
    exact hdepends (hindependent _ _ _ _)
  · intro hsettled claims results plan surfaces
    refine orderIndependent_of_settled fun claim _ group' hgroup' => ?_
    obtain ⟨c, hc, -⟩ := mem_attemptGroups.1 hgroup'
    obtain ⟨hin, hsame⟩ := List.mem_filter.1 hc
    have hall : group.filter (·.claimId == claim.claimId) = group := by
      refine List.filter_eq_self.2 fun d hd => ?_
      rw [hclaim d hd, ← hclaim c hin]
      exact hsame
    rw [hall, mem_attemptGroups_of_uniform (List.ne_nil_of_mem hin) huniform,
      List.mem_singleton] at hgroup'
    exact hgroup' ▸ hsettled

/-! ### One instant, two spellings -/

/-- A contradiction and a support at the same instant of the same check. -/
def respelledHistory : List ProofCounterexample :=
  [executedCounterexample "unit" "d1" .contradicted "2026-01-05T10:00:00.000Z" unit_ne
      d1_ne,
    executedCounterexample "unit" "d1" .supported "2026-01-05T10:00:00Z" unit_ne d1_ne]

/-- The sourced claim is contradicted in one order and not verified in the other. -/
theorem order_independence_counterexample :
    respelledHistory.map (fun c => dateParse c.executedAt) =
        [some 1767607200000, some 1767607200000] ∧
      (evaluateProofGraph (contextInput sourcedClaim.claimId 0 (some "d1")
          respelledHistory) "2026-01-05T12:00:00.000Z").claims.map
        (·.verificationState) = [.contradicted] ∧
      (evaluateProofGraph (contextInput sourcedClaim.claimId 0 (some "d1")
          respelledHistory.reverse) "2026-01-05T12:00:00.000Z").claims.map
        (·.verificationState) = [.notVerified] := by
  decide +kernel

end GovernedRuntime.ProofGraph
