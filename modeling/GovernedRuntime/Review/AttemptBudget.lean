/-
The attempts a review obligation is ever given: the first one, a bounded number of re-arms,
and among these a bounded number that follow an incoherent capture.
-/
import GovernedRuntime.Review.LedgerReach

namespace GovernedRuntime.Review

open GovernedRuntime.State (Timestamp)

variable {env : LedgerEnvironment} {now : Timestamp} {s t : ReviewAssuranceState}
variable {canBind : ReviewAssuranceState → ReviewAttempt → Prop}

/-! ### Attempts after a move -/

/-- The same attempt, an incoherent capture exactly when it was one. -/
def SameAttempt (x y : ReviewAttempt) : Prop :=
  y.core = x.core ∧ y.incoherentCapture = x.incoherentCapture

theorem SameAttempt.refl (x : ReviewAttempt) : SameAttempt x x := ⟨rfl, rfl⟩

theorem SameAttempt.of_unrejected {x y : ReviewAttempt} (hcore : y.core = x.core)
    (hx : x.status ≠ .rejected) (hy : y.status ≠ .rejected) : SameAttempt x y := by
  refine ⟨hcore, ?_⟩
  rw [ReviewAttempt.incoherentCapture, ReviewAttempt.incoherentCapture,
    beq_eq_false_iff_ne.2 hx, beq_eq_false_iff_ne.2 hy, Bool.false_and, Bool.false_and]

theorem attempt_same {x y : ReviewAttempt} (hcore : y.core = x.core) :
    y.attemptId = x.attemptId ∧ y.obligationId = x.obligationId ∧ y.ordinal = x.ordinal ∧
      y.origin = x.origin := by
  simp only [ReviewAttempt.core, ReviewAttempt.mk.injEq] at hcore
  simp [hcore]

/-- The attempts of a ledger after a move: updated in place, and at most one more. -/
inductive AttemptsMove (env : LedgerEnvironment) (s t : ReviewAssuranceState) : Prop
  | updated (update : ReviewAttempt → ReviewAttempt)
      (hsame : ∀ x ∈ s.attempts, SameAttempt x (update x))
      (heq : t.attempts = s.attempts.map update)
  | opened (attempt : ReviewAttempt) (hinitial : attempt.origin = .initial)
      (hcreated : attempt.status = .created)
      (hnew : ∀ x ∈ s.attempts, x.obligationId ≠ attempt.obligationId)
      (hopened : attempt.obligationId ∉ s.obligations.map (·.obligationId))
      (heq : t.attempts = s.attempts ++ [attempt])
  | rearmed (update : ReviewAttempt → ReviewAttempt) (attempt spent : ReviewAttempt)
      (obligation : ReviewObligation) (trigger : RearmTrigger)
      (hsame : ∀ x ∈ s.attempts, SameAttempt x (update x))
      (hrearmable : Rearmable s spent obligation trigger)
      (horigin : attempt.origin = .dispatchRearm spent.attemptId trigger)
      (howned : attempt.obligationId = obligation.obligationId)
      (hcreated : attempt.status = .created)
      (heq : t.attempts = s.attempts.map update ++ [attempt])
  | incoherent (update : ReviewAttempt → ReviewAttempt) (attempt : ReviewAttempt)
      (target : RearmTarget) (htarget : IncoherentTarget env s target)
      (hcore : ∀ x ∈ s.attempts, (update x).core = x.core)
      (hsame : ∀ x ∈ s.attempts, (update x).incoherentCapture =
        (x.incoherentCapture || x.attemptId == target.attempt.attemptId))
      (horigin : attempt.origin = .dispatchRearm target.attempt.attemptId .spent)
      (howned : attempt.obligationId = target.obligation.obligationId)
      (hcreated : attempt.status = .created)
      (heq : t.attempts = s.attempts.map update ++ [attempt])

theorem AttemptsMove.kept (heq : t.attempts = s.attempts) : AttemptsMove env s t :=
  .updated id (fun x _ => .refl x) (heq.trans (List.map_id _).symm)

theorem staledFor_same (obligationId : String) (x : ReviewAttempt) :
    SameAttempt x (staledFor obligationId now x) := by
  unfold staledFor
  split
  · next hcreated => exact .of_unrejected rfl (by rw [hcreated.2]; nofun) nofun
  · exact .refl x

theorem withStatus_same {x : ReviewAttempt} {status : ReviewAttemptStatus}
    {childSessionId : Option String} (hx : x.status = .created ∨ x.status = .stale)
    (hstatus : status ≠ .rejected) :
    SameAttempt x (x.withStatus status now childSessionId none) := by
  refine .of_unrejected rfl ?_ hstatus
  obtain h | h := hx <;> rw [h] <;> nofun

/-- An update of one open attempt. -/
theorem AttemptsMove.ofUpdate (hs : Coherent s) {attemptId : String} {attempt : ReviewAttempt}
    (hattempt : attempt ∈ s.attempts) (hid : attempt.attemptId = attemptId)
    (change : ReviewAttempt → ReviewAttempt) (hchange : SameAttempt attempt (change attempt))
    (heq : t.attempts = s.attempts.map fun x => if x.attemptId = attemptId then change x else x) :
    AttemptsMove env s t := by
  refine .updated _ (fun x hx => ?_) heq
  split
  · next hsame =>
      obtain rfl := hs.attempt_eq hx hattempt (hsame.trans hid.symm)
      exact hchange
  · exact .refl x

theorem opened_attempts (hs : Coherent s) {input : ObligationInput}
    (hobligation : input.obligationId ∉ s.identities)
    (hattempt : input.attempt.attemptId ∉ s.identities) :
    AttemptsMove env s (createObligationAndAttempt s env input now) := by
  rw [opened_eq hs hobligation hattempt]
  refine .opened (initialAttempt s env input now) rfl rfl (opened_unowned hs hobligation) ?_ rfl
  intro hmem
  obtain ⟨owner, howner, hid⟩ := List.mem_map.1 hmem
  exact fresh_obligation hobligation owner howner hid

theorem incoherent_attempts (hs : Coherent s) {target : RearmTarget}
    (htarget : IncoherentTarget env s target) {fresh : FreshAttempt}
    (hfresh : fresh.attemptId ∉ s.identities) :
    AttemptsMove env s (incoherentRearm s target fresh now) := by
  obtain ⟨hattempt, -⟩ := ReviewAssuranceState.mem_of_attempt? htarget.attempt
  rw [incoherentRearm_eq hfresh]
  refine .incoherent
    (fun x => staledFor target.obligation.obligationId now
      (if x.attemptId = target.attempt.attemptId then
        x.withStatus .rejected now none (some .consistencyInvalid)
      else x))
    (incoherentSuccessor s target fresh now) target htarget (fun x _ => ?_) (fun x hx => ?_) rfl
    rfl rfl ?_
  · refine (staledFor_same _ _).1.trans ?_
    split <;> rfl
  · rw [(staledFor_same _ _).2]
    split
    · next hid =>
        obtain rfl := hs.attempt_eq hx hattempt hid
        simp [ReviewAttempt.withStatus, ReviewAttempt.incoherentCapture]
    · next hid => simp [hid]
  · rw [appendReviewAttempt, incoherentPrepared, incoherentReset, updateObligation,
      updateAttemptStatus, List.map_map]
    rfl

theorem LedgerEffect.attempts (hs : Coherent s) (heffect : LedgerEffect env canBind now s t) :
    AttemptsMove env s t := by
  cases heffect with
  | opened input hobligation hattempt => exact opened_attempts hs hobligation hattempt
  | released input hreleasable _ => exact .kept rfl
  | childBound lineage childSessionId hlive _ _ =>
      exact .ofUpdate hs hlive.attempt rfl _ (withStatus_same (.inl hlive.created) (by decide)) rfl
  | evidenceBound params obligation attempt hrecordable hfresh _ hsettled =>
      obtain ⟨-, settle, consumer, -, -, rfl⟩ :=
        settleBoundEvidence_ok hrecordable.foundObligation hfresh hsettled
      obtain ⟨hmem, hid⟩ := ReviewAssuranceState.mem_of_attempt? hrecordable.foundAttempt
      exact .ofUpdate hs hmem hid _ (withStatus_same (.inl hrecordable.created) (by decide)) rfl
  | concluded record attempt childSessionId _ _ hattempt hstatus =>
      obtain ⟨hmem, hid⟩ := ReviewAssuranceState.mem_of_attempt? hattempt
      rw [concludeRelease_eq]
      refine .ofUpdate hs hmem hid _ (.of_unrejected rfl ?_ ?_) rfl
      · obtain h | h := hstatus <;> rw [h] <;> nofun
      · exact nofun
  | rearmed fresh spent obligation trigger hrearmable hfresh =>
      rw [rearmed_eq (fresh_attempt hfresh)]
      exact .rearmed _ _ spent obligation trigger (fun x _ => staledFor_same _ x) hrearmable rfl
        rfl rfl rfl
  | incoherent fresh target htarget hfresh => exact incoherent_attempts hs htarget hfresh
  | closed | locked | reopened | unlocked | consumed => exact .kept rfl

theorem LedgerIncident.attempts (hs : Coherent s) (hincident : LedgerIncident now s t) :
    AttemptsMove env s t := by
  cases hincident with
  | forced => exact .kept rfl
  | liveConcluded record _ _ =>
      unfold concludeLiveRelease
      dsimp only
      split
      · next hopen =>
          obtain ⟨attempt, hattempt, hstatus⟩ := (Option.any_eq_true _ _).1 hopen
          obtain ⟨hmem, hid⟩ := ReviewAssuranceState.mem_of_attempt? hattempt
          simp only [Bool.or_eq_true, beq_iff_eq] at hstatus
          refine .ofUpdate hs hmem hid _ (.of_unrejected rfl ?_ ?_) rfl
          · obtain h | h := hstatus <;> rw [h] <;> nofun
          · exact nofun
      · exact .kept rfl
  | captureRejected lineage code hlive =>
      refine .ofUpdate hs hlive.attempt rfl _ ⟨rfl, ?_⟩ rfl
      have hreason := (hs.attempt.lifecycle _ hlive.attempt).unrejected
        (by rw [hlive.created]; nofun)
      simp [ReviewAttempt.incoherentCapture, ReviewAttempt.withStatus, hreason]

theorem LedgerMove.attempts (hs : Coherent s) (hmove : LedgerMove env canBind now s t) :
    AttemptsMove env s t :=
  hmove.elim (·.attempts hs) (·.attempts hs)

/-! ### Counting -/

/-- The attempt names an incoherent capture as the one it follows. -/
def followsIncoherent (s : ReviewAssuranceState) (attempt : ReviewAttempt) : Bool :=
  s.attempts.any fun predecessor =>
    attempt.origin.predecessor? == some predecessor.attemptId && predecessor.incoherentCapture

/-- The attempts of an obligation that follow an incoherent capture. -/
def countIncoherentSuccessors (s : ReviewAssuranceState) (obligationId : String) : Nat :=
  (s.line obligationId).countP (followsIncoherent s)

/-- A count over the line of an obligation after its attempts were updated and more were
appended. -/
theorem line_countP {update : ReviewAttempt → ReviewAttempt} {minted : List ReviewAttempt}
    (heq : t.attempts = s.attempts.map update ++ minted)
    (hcore : ∀ x ∈ s.attempts, (update x).core = x.core) {p q : ReviewAttempt → Bool}
    (hcount : ∀ x ∈ s.attempts, p (update x) = q x) (obligationId : String) :
    (t.line obligationId).countP p = (s.line obligationId).countP q +
      (minted.filter (·.obligationId == obligationId)).countP p := by
  rw [ReviewAssuranceState.line, heq, List.filter_append, List.countP_append, List.countP_filter,
    List.countP_map, ReviewAssuranceState.line, List.countP_filter (p := q)]
  congr 1
  refine List.countP_congr fun x hx => ?_
  rw [Function.comp_apply, hcount x hx, (attempt_same (hcore x hx)).2.1]

theorem line_countP_minted {attempt : ReviewAttempt} (p : ReviewAttempt → Bool)
    (obligationId : String) :
    ([attempt].filter (·.obligationId == obligationId)).countP p =
      if attempt.obligationId = obligationId ∧ p attempt = true then 1 else 0 := by
  by_cases howned : attempt.obligationId = obligationId
  · cases hp : p attempt <;> simp [howned, hp]
  · simp [howned]

theorem followsIncoherent_iff {attempt : ReviewAttempt} :
    followsIncoherent s attempt = true ↔ ∃ predecessor ∈ s.attempts,
      attempt.origin.predecessor? = some predecessor.attemptId ∧
        predecessor.incoherentCapture = true := by
  simp [followsIncoherent]

/-- While no attempt becomes an incoherent capture, none newly follows one. -/
theorem followsIncoherent_kept {update : ReviewAttempt → ReviewAttempt}
    {minted : List ReviewAttempt} (heq : t.attempts = s.attempts.map update ++ minted)
    (hsame : ∀ x ∈ s.attempts, SameAttempt x (update x))
    (hminted : ∀ x ∈ minted, x.incoherentCapture = false) {x y : ReviewAttempt}
    (horigin : y.origin = x.origin) : followsIncoherent t y = followsIncoherent s x := by
  rw [Bool.eq_iff_iff, followsIncoherent_iff, followsIncoherent_iff, horigin, heq]
  constructor
  · rintro ⟨predecessor, hmem, hpredecessor, hincoherent⟩
    obtain hold | hnew := List.mem_append.1 hmem
    · obtain ⟨x, hx, rfl⟩ := List.mem_map.1 hold
      rw [(attempt_same (hsame x hx).1).1] at hpredecessor
      exact ⟨x, hx, hpredecessor, (hsame x hx).2 ▸ hincoherent⟩
    · rw [hminted predecessor hnew] at hincoherent
      cases hincoherent
  · rintro ⟨predecessor, hmem, hpredecessor, hincoherent⟩
    refine ⟨update predecessor, List.mem_append_left _ (List.mem_map_of_mem hmem), ?_, ?_⟩
    · rw [(attempt_same (hsame predecessor hmem).1).1]
      exact hpredecessor
    · rw [(hsame predecessor hmem).2]
      exact hincoherent

theorem not_incoherent_of_created {attempt : ReviewAttempt} (hcreated : attempt.status = .created) :
    attempt.incoherentCapture = false := by
  simp [ReviewAttempt.incoherentCapture, hcreated]

theorem Rearmable.not_incoherent {spent : ReviewAttempt} {obligation : ReviewObligation}
    {trigger : RearmTrigger} (h : Rearmable s spent obligation trigger) :
    spent.incoherentCapture = false := by
  obtain ⟨hopen, -⟩ := dispatchRearmTrigger_eq_some h.triggered
  obtain hstatus | hstatus := hopen <;> simp [ReviewAttempt.incoherentCapture, hstatus]

/-! ### The budget -/

/-- What an obligation has been given so far. -/
structure WithinBudget (env : LedgerEnvironment) (s : ReviewAssuranceState)
    (obligationId : String) (maxReviewerAttempts : Nat) : Prop where
  initial : (s.line obligationId).countP (!·.origin.isRearm) ≤ 1
  rearms : countReviewAttempts s obligationId ≤ maxReviewerAttempts
  failures : priorF12Failures s obligationId ≤ env.maxIncoherentReviewerCaptureRetries
  followers : countIncoherentSuccessors s obligationId ≤ priorF12Failures s obligationId

theorem withinBudget_empty {obligationId : String} {maxReviewerAttempts : Nat}
    (hempty : s.line obligationId = []) :
    WithinBudget env s obligationId maxReviewerAttempts := by
  constructor <;> simp [countReviewAttempts, priorF12Failures, countIncoherentSuccessors, hempty]

/-- The attempts counted after a move that minted one which follows no incoherent capture. -/
theorem minted_counts {update : ReviewAttempt → ReviewAttempt} {attempt : ReviewAttempt}
    (heq : t.attempts = s.attempts.map update ++ [attempt])
    (hsame : ∀ x ∈ s.attempts, SameAttempt x (update x)) (hcreated : attempt.status = .created)
    (hfollows : followsIncoherent t attempt = false) (obligationId : String) :
    ((t.line obligationId).countP (!·.origin.isRearm) =
        (s.line obligationId).countP (!·.origin.isRearm) +
          if attempt.obligationId = obligationId ∧ attempt.origin.isRearm = false then 1
          else 0) ∧
      (countReviewAttempts t obligationId = countReviewAttempts s obligationId +
          if attempt.obligationId = obligationId ∧ attempt.origin.isRearm = true then 1
          else 0) ∧
      priorF12Failures t obligationId = priorF12Failures s obligationId ∧
      countIncoherentSuccessors t obligationId = countIncoherentSuccessors s obligationId := by
  have hcount := fun {p q} hcount => (line_countP (p := p) (q := q) heq
    (fun x hx => (hsame x hx).1) hcount obligationId).trans
      (congrArg _ (line_countP_minted p obligationId))
  have horigin : ∀ x ∈ s.attempts, (update x).origin = x.origin :=
    fun x hx => (attempt_same (hsame x hx).1).2.2.2
  have hcoherent := not_incoherent_of_created hcreated
  refine ⟨?_, ?_, ?_, ?_⟩
  · rw [hcount fun x hx => by rw [horigin x hx]]
    simp
  · rw [countReviewAttempts, hcount fun x hx => by rw [horigin x hx]]
    rfl
  · rw [priorF12Failures, hcount fun x hx => (hsame x hx).2, if_neg (by simp [hcoherent])]
    rfl
  · rw [countIncoherentSuccessors,
      hcount fun x hx => followsIncoherent_kept heq hsame (by simpa using hcoherent)
        (horigin x hx), if_neg (by simp [hfollows])]
    rfl

theorem countP_or_of_disjoint {α : Type} {p q : α → Bool} {items : List α}
    (hdisjoint : ∀ x ∈ items, p x = true → q x = false) :
    items.countP (fun x => p x || q x) = items.countP p + items.countP q := by
  induction items with
  | nil => rfl
  | cons head rest ih =>
      have hhead := hdisjoint head (List.mem_cons_self ..)
      rw [List.countP_cons, List.countP_cons, List.countP_cons,
        ih fun x hx => hdisjoint x (List.mem_cons_of_mem _ hx)]
      cases hp : p head with
      | true => simp [hhead hp]; omega
      | false => cases q head <;> simp; omega

/-- The target of an incoherent re-arm is the one attempt of its line that becomes an
incoherent capture. -/
theorem line_countP_target (hs : Coherent s) {attempt : ReviewAttempt}
    (hattempt : attempt ∈ s.attempts) (obligationId : String) :
    (s.line obligationId).countP (·.attemptId == attempt.attemptId) =
      if attempt.obligationId = obligationId then 1 else 0 := by
  split
  · next howned =>
      have hnodup : ((s.line obligationId).map (·.attemptId)).Nodup :=
        hs.identity.attemptIds.sublist (List.filter_sublist.map _)
      have hmem : attempt.attemptId ∈ (s.line obligationId).map (·.attemptId) :=
        List.mem_map_of_mem (ReviewAssuranceState.mem_line.2 ⟨hattempt, howned⟩)
      have hcount := List.count_eq_one_of_mem hnodup hmem
      rw [List.count_eq_countP, List.countP_map] at hcount
      exact hcount
  · next howned =>
      refine List.countP_eq_zero.2 fun x hx hid => howned ?_
      obtain ⟨hmem, hline⟩ := ReviewAssuranceState.mem_line.1 hx
      rw [← hs.attempt_eq hmem hattempt (by simpa using hid)]
      exact hline

/-- The attempts counted after the re-arm of an incoherent capture. -/
theorem incoherent_counts (hs : Coherent s) {update : ReviewAttempt → ReviewAttempt}
    {attempt : ReviewAttempt} {target : RearmTarget} (htarget : IncoherentTarget env s target)
    (hcore : ∀ x ∈ s.attempts, (update x).core = x.core)
    (hsame : ∀ x ∈ s.attempts, (update x).incoherentCapture =
      (x.incoherentCapture || x.attemptId == target.attempt.attemptId))
    (horigin : attempt.origin = .dispatchRearm target.attempt.attemptId .spent)
    (howned : attempt.obligationId = target.obligation.obligationId)
    (hcreated : attempt.status = .created)
    (heq : t.attempts = s.attempts.map update ++ [attempt]) (obligationId : String) :
    ((t.line obligationId).countP (!·.origin.isRearm) =
        (s.line obligationId).countP (!·.origin.isRearm)) ∧
      (countReviewAttempts t obligationId = countReviewAttempts s obligationId +
          if attempt.obligationId = obligationId then 1 else 0) ∧
      (priorF12Failures t obligationId = priorF12Failures s obligationId +
          if attempt.obligationId = obligationId then 1 else 0) ∧
      countIncoherentSuccessors t obligationId ≤ countIncoherentSuccessors s obligationId +
          if attempt.obligationId = obligationId then 1 else 0 := by
  obtain ⟨hattempt, -⟩ := ReviewAssuranceState.mem_of_attempt? htarget.attempt
  have hcount := fun {p q} hcount => (line_countP (p := p) (q := q) heq hcore hcount
    obligationId).trans (congrArg _ (line_countP_minted p obligationId))
  have horigins : ∀ x ∈ s.attempts, (update x).origin = x.origin :=
    fun x hx => (attempt_same (hcore x hx)).2.2.2
  have hrearm : attempt.origin.isRearm = true := by rw [horigin, ReviewAttemptOrigin.isRearm]
  have hcoherent := not_incoherent_of_created hcreated
  refine ⟨?_, ?_, ?_, ?_⟩
  · rw [hcount fun x hx => by rw [horigins x hx], if_neg (by simp [hrearm])]
    rfl
  · rw [countReviewAttempts, hcount fun x hx => by rw [horigins x hx]]
    simp [countReviewAttempts, hrearm]
  · rw [priorF12Failures, hcount hsame, if_neg (by simp [hcoherent]), countP_or_of_disjoint ?_,
      line_countP_target hs hattempt, howned, htarget.owned hs]
    · rfl
    · intro x hx hincoherent
      by_contra hid
      have hmem := (ReviewAssuranceState.mem_line.1 hx).1
      rw [hs.attempt_eq hmem hattempt (by simpa using hid)] at hincoherent
      simp [ReviewAttempt.incoherentCapture, htarget.bound] at hincoherent
  · have hfollows : ∀ x ∈ s.attempts, followsIncoherent t (update x) = followsIncoherent s x := by
      intro x hx
      rw [Bool.eq_iff_iff, followsIncoherent_iff, followsIncoherent_iff, horigins x hx, heq]
      constructor
      · rintro ⟨predecessor, hmem, hpredecessor, hincoherent⟩
        obtain hold | hnew := List.mem_append.1 hmem
        · obtain ⟨y, hy, rfl⟩ := List.mem_map.1 hold
          rw [(attempt_same (hcore y hy)).1] at hpredecessor
          rw [hsame y hy, Bool.or_eq_true] at hincoherent
          refine ⟨y, hy, hpredecessor, hincoherent.resolve_right fun hid => ?_⟩
          -- nothing follows an attempt that is still bound
          have hlast := hs.not_superseded hattempt (.inr htarget.bound)
          rw [← beq_iff_eq.1 hid, ← Bool.not_eq_true] at hlast
          exact hlast (ReviewAssuranceState.superseded_iff.2 ⟨x, hx, hpredecessor⟩)
        · rw [List.mem_singleton.1 hnew, hcoherent] at hincoherent
          cases hincoherent
      · rintro ⟨predecessor, hmem, hpredecessor, hincoherent⟩
        refine ⟨update predecessor, List.mem_append_left _ (List.mem_map_of_mem hmem), ?_, ?_⟩
        · rw [(attempt_same (hcore predecessor hmem)).1]
          exact hpredecessor
        · rw [hsame predecessor hmem, hincoherent, Bool.true_or]
    rw [countIncoherentSuccessors, hcount hfollows]
    refine Nat.add_le_add_left ?_ _
    by_cases hid : attempt.obligationId = obligationId
    · refine Nat.le_trans ?_ (Nat.le_of_eq (if_pos hid).symm)
      split <;> omega
    · exact Nat.le_of_eq ((if_neg fun h => hid h.1).trans (if_neg hid).symm)

theorem AttemptsMove.withinBudget (hs : Coherent s) (hmove : AttemptsMove env s t)
    {obligationId : String} {maxReviewerAttempts : Nat}
    (hbudget : WithinBudget env s obligationId maxReviewerAttempts)
    (hmax : ∀ obligation ∈ s.obligations, obligation.obligationId = obligationId →
      obligation.maxReviewerAttempts = maxReviewerAttempts) :
    WithinBudget env t obligationId maxReviewerAttempts := by
  cases hmove with
  | updated update hsame heq =>
      have heq' : t.attempts = s.attempts.map update ++ [] := heq.trans (List.append_nil _).symm
      have hcount := fun {p q} hcount =>
        line_countP (p := p) (q := q) heq' (fun x hx => (hsame x hx).1) hcount obligationId
      have horigin : ∀ x ∈ s.attempts, (update x).origin = x.origin :=
        fun x hx => (attempt_same (hsame x hx).1).2.2.2
      refine ⟨?_, ?_, ?_, ?_⟩
      · rw [hcount fun x hx => by rw [horigin x hx]]
        exact hbudget.initial
      · rw [countReviewAttempts, hcount fun x hx => by rw [horigin x hx]]
        exact hbudget.rearms
      · rw [priorF12Failures, hcount fun x hx => (hsame x hx).2]
        exact hbudget.failures
      · rw [countIncoherentSuccessors, priorF12Failures,
          hcount fun x hx => followsIncoherent_kept heq' hsame
            (fun _ hnone => absurd hnone List.not_mem_nil) (horigin x hx),
          hcount fun x hx => (hsame x hx).2]
        exact hbudget.followers
  | opened attempt hinitial hcreated hnew hopened heq =>
      have heq' : t.attempts = s.attempts.map id ++ [attempt] := by rw [heq, List.map_id]
      have hrearm : attempt.origin.isRearm = false := by rw [hinitial, ReviewAttemptOrigin.isRearm]
      have hfollows : followsIncoherent t attempt = false := by
        simp [followsIncoherent, hinitial, ReviewAttemptOrigin.predecessor?]
      obtain ⟨hinitials, hrearms, hfailures, hfollowers⟩ :=
        minted_counts heq' (fun x _ => .refl x) hcreated hfollows obligationId
      refine ⟨?_, ?_, ?_, ?_⟩
      · rw [hinitials]
        by_cases howned : attempt.obligationId = obligationId
        · have hempty : s.line obligationId = [] :=
            List.filter_eq_nil_iff.2 fun x hx => by simpa [← howned] using hnew x hx
          rw [hempty]
          split <;> simp
        · rw [if_neg fun h => howned h.1]
          exact hbudget.initial
      · rw [hrearms, if_neg (by simp [hrearm])]
        exact hbudget.rearms
      · rw [hfailures]
        exact hbudget.failures
      · rw [hfollowers, hfailures]
        exact hbudget.followers
  | rearmed update attempt spent obligation trigger hsame hrearmable horigin howned hcreated heq =>
      have hrearm : attempt.origin.isRearm = true := by rw [horigin, ReviewAttemptOrigin.isRearm]
      have hfollows : followsIncoherent t attempt = false := by
        by_contra hcontra
        obtain ⟨predecessor, hmem, hpredecessor, hincoherent⟩ :=
          followsIncoherent_iff.1 (eq_true_of_ne_false hcontra)
        rw [horigin] at hpredecessor
        rw [heq] at hmem
        obtain hold | hnew := List.mem_append.1 hmem
        · obtain ⟨x, hx, rfl⟩ := List.mem_map.1 hold
          rw [(attempt_same (hsame x hx).1).1] at hpredecessor
          obtain rfl := hs.attempt_eq hrearmable.recorded hx (Option.some.inj hpredecessor)
          rw [(hsame spent hx).2, hrearmable.not_incoherent] at hincoherent
          cases hincoherent
        · rw [List.mem_singleton.1 hnew, not_incoherent_of_created hcreated] at hincoherent
          cases hincoherent
      obtain ⟨hinitials, hrearms, hfailures, hfollowers⟩ :=
        minted_counts heq hsame hcreated hfollows obligationId
      refine ⟨?_, ?_, ?_, ?_⟩
      · rw [hinitials, if_neg (by simp [hrearm])]
        exact hbudget.initial
      · rw [hrearms]
        by_cases hid : attempt.obligationId = obligationId
        · obtain ⟨hmem, -⟩ := ReviewAssuranceState.mem_of_obligation? hrearmable.found
          have hopen := hrearmable.budget
          rw [hmax obligation hmem (howned.symm.trans hid), ← howned, hid] at hopen
          rw [if_pos ⟨hid, hrearm⟩]
          exact hopen
        · rw [if_neg fun h => hid h.1]
          exact hbudget.rearms
      · rw [hfailures]
        exact hbudget.failures
      · rw [hfollowers, hfailures]
        exact hbudget.followers
  | incoherent update attempt target htarget hcore hsame horigin howned hcreated heq =>
      obtain ⟨hinitials, hrearms, hfailures, hfollowers⟩ := incoherent_counts hs htarget hcore hsame
        horigin howned hcreated heq obligationId
      refine ⟨?_, ?_, ?_, ?_⟩
      · rw [hinitials]
        exact hbudget.initial
      · rw [hrearms]
        by_cases hid : attempt.obligationId = obligationId
        · obtain ⟨hmem, -⟩ := ReviewAssuranceState.mem_of_obligation? htarget.obligation
          have hopen := htarget.budget
          rw [hmax _ hmem (howned.symm.trans hid), ← howned, hid] at hopen
          rw [if_pos hid]
          exact hopen
        · rw [if_neg hid]
          exact hbudget.rearms
      · rw [hfailures]
        by_cases hid : attempt.obligationId = obligationId
        · have hopen := htarget.failures
          rw [← howned, hid] at hopen
          rw [if_pos hid]
          exact hopen
        · rw [if_neg hid]
          exact hbudget.failures
      · rw [hfailures]
        exact Nat.le_trans hfollowers (Nat.add_le_add_right hbudget.followers _)

/-! ### Obligations after a move -/

/-- Every obligation is one that was there or has been opened. -/
def ObligationsMove (s t : ReviewAssuranceState) : Prop :=
  ∀ y ∈ t.obligations, (∃ x ∈ s.obligations, y.core = x.core) ∨
    y.obligationId ∉ s.obligations.map (·.obligationId)

theorem ObligationsMove.kept (heq : t.obligations = s.obligations) : ObligationsMove s t := by
  intro y hy
  rw [heq] at hy
  exact .inl ⟨y, hy, rfl⟩

theorem ObligationsMove.updated {update : ReviewObligation → ReviewObligation}
    (hcore : ∀ x ∈ s.obligations, (update x).core = x.core)
    (heq : t.obligations = s.obligations.map update) : ObligationsMove s t := by
  intro y hy
  rw [heq] at hy
  obtain ⟨x, hx, rfl⟩ := List.mem_map.1 hy
  exact .inl ⟨x, hx, hcore x hx⟩

theorem updateObligation_core (obligationId : String)
    {transform : ReviewObligation → ReviewObligation}
    (hcore : ∀ x ∈ s.obligations, x.obligationId = obligationId → (transform x).core = x.core) :
    ObligationsMove s (updateObligation s obligationId transform) := by
  refine .updated (fun x hx => ?_) rfl
  split
  · next hid => exact hcore x hx hid
  · rfl

theorem LedgerMove.obligations (hs : Coherent s) (hmove : LedgerMove env canBind now s t) :
    ObligationsMove s t := by
  obtain heffect | hincident := hmove
  · cases heffect with
    | opened input hobligation hattempt =>
        intro y hy
        rw [opened_eq hs hobligation hattempt] at hy
        obtain hold | hnew := List.mem_append.1 hy
        · exact .inl ⟨y, hold, rfl⟩
        · refine .inr fun hmem => ?_
          obtain ⟨owner, howner, hid⟩ := List.mem_map.1 hmem
          rw [List.mem_singleton.1 hnew] at hid
          exact fresh_obligation hobligation owner howner hid
    | evidenceBound params obligation attempt hrecordable hfresh _ hsettled =>
        obtain ⟨-, settle, consumer, hsettle, -, rfl⟩ :=
          settleBoundEvidence_ok hrecordable.foundObligation hfresh hsettled
        have hcore : ∀ x ∈ s.obligations,
            ((evidenceUpdate params settle).obligation x).core = x.core := by
          intro x _
          dsimp only [evidenceUpdate]
          split
          · exact (hsettle x).core
          · rfl
        exact .updated hcore rfl
    | concluded =>
        rw [concludeRelease_eq]
        exact .kept rfl
    | incoherent fresh target htarget hfresh =>
        obtain ⟨hmem, -⟩ := ReviewAssuranceState.mem_of_obligation? htarget.obligation
        refine updateObligation_core target.obligation.obligationId fun x hx hid => ?_
        rw [hs.obligation_eq hx hmem hid]
        rfl
    | closed | reopened => exact updateObligation_core _ fun _ _ _ => rfl
    | consumed => exact updateObligation_core _ fun _ _ _ => rfl
    | _ => exact .kept rfl
  · cases hincident with
    | forced => exact updateObligation_core _ fun _ _ _ => rfl
    | liveConcluded record =>
        unfold concludeLiveRelease
        dsimp only
        split <;> exact .kept rfl
    | captureRejected => exact updateObligation_core _ fun _ _ _ => rfl

/-- No obligation exceeds its budget. -/
def Budgeted (env : LedgerEnvironment) (s : ReviewAssuranceState) : Prop :=
  ∀ obligation ∈ s.obligations,
    WithinBudget env s obligation.obligationId obligation.maxReviewerAttempts

theorem LedgerMove.budgeted (hs : Coherent s) (hbudgeted : Budgeted env s)
    (hmove : LedgerMove env canBind now s t) : Budgeted env t := by
  intro y hy
  obtain ⟨x, hx, hcore⟩ | hopened := hmove.obligations hs y hy
  · obtain ⟨hid, -, -, -, -, hmax⟩ := ReviewObligation.same hcore
    rw [hid, hmax]
    refine (hmove.attempts hs).withinBudget hs (hbudgeted x hx) fun other hother hsame => ?_
    rw [hs.obligation_eq hother hx hsame]
  · have hempty : s.line y.obligationId = [] := by
      refine List.filter_eq_nil_iff.2 fun x hx howned => hopened ?_
      obtain ⟨owner, howner, howns⟩ := hs.attempt.owned x hx
      exact List.mem_map.2 ⟨owner, howner, howns.id.trans (by simpa using howned)⟩
    refine (hmove.attempts hs).withinBudget hs (withinBudget_empty hempty) fun other hother hsame =>
      absurd ?_ hopened
    exact List.mem_map.2 ⟨other, hother, hsame⟩

theorem LedgerReaches.budgeted (hreaches : LedgerReaches env emptyReviewAssurance s) :
    Budgeted env s := by
  have hempty : Budgeted env emptyReviewAssurance := fun _ hmem => absurd hmem List.not_mem_nil
  exact hreaches.bound.keeps (fun hs hbudgeted hmove => hmove.budgeted hs hbudgeted)
    emptyReviewAssurance_coherent hempty

theorem Budgeted.line_length (hbudgeted : Budgeted env s) {obligation : ReviewObligation}
    (hobligation : obligation ∈ s.obligations) :
    (s.line obligation.obligationId).length ≤ 1 + obligation.maxReviewerAttempts := by
  have hbudget := hbudgeted obligation hobligation
  rw [List.length_eq_countP_add_countP (p := (!·.origin.isRearm))]
  refine Nat.add_le_add hbudget.initial ?_
  have hrearms := hbudget.rearms
  rw [countReviewAttempts] at hrearms
  simpa using hrearms

end GovernedRuntime.Review
