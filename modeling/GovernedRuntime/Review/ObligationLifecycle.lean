/-
The lifecycle of a review obligation: which writes may change its status, and how many
attempts it is ever given.
-/
import GovernedRuntime.Review.AttemptBudget

namespace GovernedRuntime.Review

open GovernedRuntime.State (ReviewObligationType Timestamp)

variable {env : LedgerEnvironment} {now : Timestamp} {s t : ReviewAssuranceState}
variable {R : ReviewObligation → ReviewObligation → Prop}

/-- The writes that may change the status of an obligation. -/
inductive StatusChange : LedgerAction → ReviewObligation → ReviewObligation → Prop
  | fulfilled {x y : ReviewObligation} (params : EvidenceParams) (hfrom : x.status = .pending)
      (hto : y.status = .fulfilled) :
      StatusChange (.operation (.recordEvidence params)) x y
  | withoutVerdict {x y : ReviewObligation} (params : EvidenceParams)
      (hunable : params.unableToReview = true) (htype : x.obligationType = .review)
      (hfrom : x.status = .pending) (hto : y.status = .consumed) :
      StatusChange (.operation (.recordEvidence params)) x y
  | consumed {x y : ReviewObligation} (obligationId invocationId : String)
      (hfrom : x.status = .fulfilled) (hto : y.status = .consumed) :
      StatusChange (.operation (.consume obligationId invocationId)) x y
  | blocked {x y : ReviewObligation} (action : LedgerAction) (hfrom : x.status = .pending)
      (hto : y.status = .blocked) : StatusChange action x y
  | reset {x y : ReviewObligation} (input : IncoherentCapture) (fresh : FreshAttempt)
      (hfrom : x.status = .fulfilled) (hto : y.status = .pending) :
      StatusChange (.operation (.rearmIncoherentCapture input fresh)) x y
  | reopened {x y : ReviewObligation} (expected : SettledLineage) (hfrom : x.status = .blocked)
      (hto : y.status = .pending) :
      StatusChange (.operation (.reopenUnknownOutcome expected)) x y
  | resolved {x y : ReviewObligation} (unaddressedPriorFails : Bool) (fresh : FreshAttempt)
      (hfrom : x.status = .blocked) (hto : y.status = .pending) :
      StatusChange (.operation (.reopenAfterAuthorResolution unaddressedPriorFails fresh)) x y
  | reused {x y : ReviewObligation} (params : EvidenceParams)
      (howned : x.obligationId = params.obligationId) (hto : y.status = .blocked)
      (hcode : y.blockedCode = some "SUBAGENT_EVIDENCE_REUSED") :
      StatusChange (.operation (.recordEvidence params)) x y
  | incoherent {x y : ReviewObligation} (hto : y.status = .blocked)
      (hcode : y.blockedCode = some "SUBAGENT_VERDICT_FINDINGS_INCOHERENT") :
      StatusChange (.blockIncoherentCompletedCapture x.obligationId) x y

/-! ### Obligations after a write -/

/-- Every obligation is still there, its status kept or changed as `R` says. -/
def ChangesBy (R : ReviewObligation → ReviewObligation → Prop) (s t : ReviewAssuranceState) :
    Prop :=
  ∀ x ∈ s.obligations, ∃ y ∈ t.obligations, y.core = x.core ∧ (y.status = x.status ∨ R x y)

theorem ChangesBy.kept (heq : t.obligations = s.obligations) : ChangesBy R s t :=
  fun x hx => ⟨x, heq ▸ hx, rfl, .inl rfl⟩

theorem ChangesBy.appended {obligation : ReviewObligation}
    (heq : t.obligations = s.obligations ++ [obligation]) : ChangesBy R s t :=
  fun x hx => ⟨x, heq ▸ List.mem_append_left _ hx, rfl, .inl rfl⟩

theorem ChangesBy.updated {update : ReviewObligation → ReviewObligation}
    (heq : t.obligations = s.obligations.map update)
    (hchange : ∀ x ∈ s.obligations, (update x).core = x.core ∧
      ((update x).status = x.status ∨ R x (update x))) : ChangesBy R s t :=
  fun x hx => ⟨update x, heq ▸ List.mem_map_of_mem hx, hchange x hx⟩

/-- One obligation is updated, and found under its identity. -/
theorem ChangesBy.one (hs : Coherent s) {obligation : ReviewObligation} {obligationId : String}
    (hfound : s.obligation? obligationId = some obligation)
    {transform : ReviewObligation → ReviewObligation}
    (heq : t.obligations = (updateObligation s obligationId transform).obligations)
    (hcore : (transform obligation).core = obligation.core)
    (hchange : (transform obligation).status = obligation.status ∨
      R obligation (transform obligation)) : ChangesBy R s t := by
  obtain ⟨hmem, hid⟩ := ReviewAssuranceState.mem_of_obligation? hfound
  refine .updated heq fun x hx => ?_
  split
  · next hsame =>
      obtain rfl := hs.obligation_eq hx hmem (hsame.trans hid.symm)
      exact ⟨hcore, hchange⟩
  · exact ⟨rfl, .inl rfl⟩

theorem blocked_changes (hs : Coherent s) {action : LedgerAction} {obligation : ReviewObligation}
    {obligationId : String} (code : String) (hfound : s.obligation? obligationId = some obligation)
    (hstatus : obligation.status = .pending ∨ obligation.status = .blocked)
    (heq : t.obligations = (blockObligation s obligationId code).obligations) :
    ChangesBy (StatusChange action) s t := by
  refine .one hs hfound heq rfl ?_
  obtain hpending | hblocked := hstatus
  · exact .inr (.blocked action hpending rfl)
  · exact .inl hblocked.symm

theorem forced_changes {action : LedgerAction} {obligationId code : String}
    (hcode : ∀ x y : ReviewObligation, x.obligationId = obligationId → y.status = .blocked →
      y.blockedCode = some code → StatusChange action x y)
    (heq : t.obligations = (blockObligation s obligationId code).obligations) :
    ChangesBy (StatusChange action) s t := by
  refine .updated heq fun x _ => ?_
  split
  · next hid => exact ⟨rfl, .inr (hcode x _ hid rfl rfl)⟩
  · exact ⟨rfl, .inl rfl⟩

/-! ### The operations -/

section Operations

theorem recordEvidence_changes (hs : Coherent s) {params : EvidenceParams}
    (hfresh : params.invocationId ∉ s.identities)
    (h : bindNativeSubagentFindings s params now = .fulfilled t) :
    ChangesBy (StatusChange (.operation (.recordEvidence params))) s t := by
  obtain ⟨recorded, obligation, attempt, hrecordable, hinvocation, hunable, hsettled⟩ :=
    bindNativeSubagentFindings_recorded h
  obtain ⟨hpending, settle, consumer, hsettle, -, rfl⟩ :=
    settleBoundEvidence_ok hrecordable.foundObligation (hinvocation ▸ hfresh) hsettled
  refine .one hs hrecordable.foundObligation rfl (hsettle obligation).core (.inr ?_)
  obtain hstatus | hstatus | ⟨hstatus, -⟩ := (hsettle obligation).settled
  · exact .fulfilled params hpending hstatus
  · obtain ⟨hunable', htype⟩ := (hsettle obligation).unable hstatus
    exact .withoutVerdict params (hunable ▸ hunable') (hrecordable.sameType ▸ htype) hpending
      hstatus
  · exact .blocked _ hpending hstatus

theorem concludeRelease_obligations {hostCallId attemptId : String}
    {childSessionId : Option String} :
    (concludeRelease s hostCallId attemptId childSessionId now).obligations = s.obligations := by
  rw [concludeRelease_eq]

theorem abandonAndBlock_changes (hs : Coherent s) {action : LedgerAction}
    {hostCallId code : String} {identity : ExecutionClosureIdentity}
    (h : LedgerOutcome.ofBlock (abandonAndBlockByHostCall s hostCallId code identity now) =
      .written t) : ChangesBy (StatusChange action) s t := by
  unfold abandonAndBlockByHostCall at h
  split at h
  · cases h
  · next record hrecord =>
      split at h
      · next attempt obligation hattempt hobligation =>
          split at h
          · cases h
          · split at h
            · split at h <;> cases h
            · split at h
              · cases h
              · next hclose =>
                  split at h
                  · cases h
                  · obtain rfl := LedgerOutcome.written.inj h
                    refine blocked_changes hs (obligation.blockedCode.getD code) hobligation ?_ ?_
                    · simp only [canCloseExecution, Bool.not_eq_true', Bool.not_eq_false,
                        Bool.and_eq_true, Bool.or_eq_true, beq_iff_eq] at hclose
                      exact hclose.1.1
                    · rw [blockedExecutionState, blockObligation, updateObligation,
                        concludeRelease_obligations]
                      rfl
      · cases h

/-- A re-arm keeps the obligations; its closure blocks a pending one. -/
theorem rearmOrClose_changes (hs : Coherent s) {action : LedgerAction}
    {base : ReviewAssuranceState} (hbase : base.obligations = s.obligations)
    {fresh : FreshAttempt} {spent : ReviewAttempt} :
    ChangesBy (StatusChange action) s (rearmOrClose base spent.obligationId fresh spent now) := by
  unfold rearmOrClose
  rw [buildInterruptedDispatchRearm_eq]
  cases hauthorization : authorizeDispatchRearm base spent with
  | ok authorization => exact .kept hbase
  | error refusal =>
      dsimp only [Except.map]
      split
      · next hcause =>
          obtain ⟨obligation, hfound, hpending⟩ :=
            authorizeDispatchRearm_exhausted hauthorization hcause
          rw [ReviewAssuranceState.obligation?, hbase] at hfound
          refine blocked_changes hs exhaustedCode hfound (.inl hpending) ?_
          rw [blockObligation, updateObligation, hbase]
          rfl
      · exact .kept hbase

theorem abandonAndRearm_changes (hs : Coherent s) {action : LedgerAction} {hostCallId : String}
    {childSessionId : Option String} {fresh : FreshAttempt} :
    ChangesBy (StatusChange action) s
      (abandonAndRearmByHostCall s hostCallId childSessionId fresh now) := by
  unfold abandonAndRearmByHostCall
  split
  · exact .kept rfl
  · next record attempt hcall =>
      obtain ⟨-, -, -, hattempt, -⟩ := authorizedCall_eq_some hcall
      have hid := (ReviewAssuranceState.mem_of_attempt? hattempt).2
      rw [hid]
      dsimp only
      rw [concludeRelease_attempt?, hattempt, Option.map_some]
      dsimp only
      rw [← concludedAttempt_obligationId record.attemptId childSessionId attempt]
      exact rearmOrClose_changes hs concludeRelease_obligations

theorem recoverTransport_changes (hs : Coherent s) {action : LedgerAction}
    {obligationType : ReviewObligationType} {closesMissing : Bool} {fresh : FreshAttempt} :
    ChangesBy (StatusChange action) s
      (handleReviewTransportRecovery s env obligationType closesMissing fresh now) := by
  unfold handleReviewTransportRecovery
  split
  · next obligation attemptId hinterrupted =>
      obtain ⟨-, -, attempt, rfl, hnamed⟩ := resolveReviewContinuation_interrupted hinterrupted
      have hline : attempt ∈ s.line obligation.obligationId := by
        obtain hbindable | ⟨-, hspent⟩ := hnamed
        · exact (findBindableAttempt_eq_some hbindable).1
        · exact (mem_spentStaleAttempts.1 (findSpentStaleAttempt_mem hspent)).1
      obtain ⟨hrecorded, howned⟩ := ReviewAssuranceState.mem_line.1 hline
      rw [hs.wellIdentified.attempt?_of_mem hrecorded]
      dsimp only
      rw [← howned]
      exact rearmOrClose_changes hs rfl
  · next obligation hmissing =>
      obtain ⟨hmem, hpending⟩ := resolveReviewContinuation_missing hmissing
      split
      · exact blocked_changes hs _ (hs.wellIdentified.obligation?_of_mem hmem) (.inl hpending) rfl
      · exact .kept rfl
  · exact .kept rfl

theorem rearmIncoherentCapture_changes (hs : Coherent s) {input : IncoherentCapture}
    {fresh : FreshAttempt} (h : buildIncoherentCaptureRearm s env input fresh now = .ok t) :
    ChangesBy (StatusChange (.operation (.rearmIncoherentCapture input fresh))) s t := by
  obtain ⟨target, htarget, rfl⟩ := buildIncoherentCaptureRearm_ok h
  exact .one hs htarget.obligation rfl rfl (.inr (.reset input fresh htarget.fulfilled rfl))

theorem reopenUnknownOutcome_changes (hs : Coherent s) {expected : SettledLineage}
    (h : reopenUnknownOutcome s expected = .ok t) :
    ChangesBy (StatusChange (.operation (.reopenUnknownOutcome expected))) s t := by
  obtain ⟨obligation, hreopenable, rfl⟩ := reopenUnknownOutcome_ok h
  exact .one hs hreopenable.found rfl rfl (.inr (.reopened expected hreopenable.blocked rfl))

theorem buildInterruptedDispatchRearm_obligations {fresh : FreshAttempt} {spent : ReviewAttempt}
    (h : buildInterruptedDispatchRearm s fresh spent now = .ok t) :
    t.obligations = s.obligations := by
  rw [buildInterruptedDispatchRearm_eq] at h
  cases hauthorization : authorizeDispatchRearm s spent with
  | error refusal =>
      rw [hauthorization] at h
      cases h
  | ok authorization =>
      rw [hauthorization] at h
      obtain rfl := Except.ok.inj h
      rfl

theorem reopenAfterAuthorResolution_changes (hs : Coherent s) {unaddressedPriorFails : Bool}
    {fresh : FreshAttempt} :
    ChangesBy
      (StatusChange (.operation (.reopenAfterAuthorResolution unaddressedPriorFails fresh))) s
      (reopenReviewAfterAuthorResolution s unaddressedPriorFails fresh now) := by
  unfold reopenReviewAfterAuthorResolution
  split
  · exact .kept rfl
  · next lock hlock =>
      split
      · exact .kept rfl
      · split
        · exact .kept rfl
        · next obligation hobligation =>
            split
            · exact .kept rfl
            · next hblocked =>
                split
                · exact .kept rfl
                · split
                  · exact .kept rfl
                  · split
                    · next spent hspent =>
                        split
                        · next next hbuild =>
                            have hid := (ReviewAssuranceState.mem_of_obligation? hobligation).2
                            have hkept := buildInterruptedDispatchRearm_obligations hbuild
                            rw [hid] at hkept
                            exact .one hs hobligation hkept rfl
                              (.inr (.resolved _ fresh (not_not.1 (not_or.1 hblocked).2) rfl))
                        · exact .kept rfl
                    · exact .kept rfl

theorem consume_changes (hs : Coherent s) {obligationId invocationId : String}
    (h : consumeWithEvidence s obligationId invocationId now = some t) :
    ChangesBy (StatusChange (.operation (.consume obligationId invocationId))) s t := by
  unfold consumeWithEvidence at h
  split at h
  · next obligation invocation hobligation hinvocation =>
      split at h
      · next haccepted =>
          obtain rfl := Option.some.inj h
          obtain ⟨hmem, hid⟩ := ReviewAssuranceState.mem_of_obligation? hobligation
          rw [hid]
          exact .one hs hobligation rfl rfl
            (.inr (.consumed _ _ (hs.accepted_fulfilled hmem haccepted) rfl))
      · cases h
  · cases h

/-- Whatever an operation writes changes a status only as `StatusChange` says. -/
theorem performLedgerOperation_changes (hs : Coherent s) {operation : LedgerOperation}
    (hfresh : FreshDraws s operation)
    (h : performLedgerOperation env now s operation = .written t) :
    ChangesBy (StatusChange (.operation operation)) s t := by
  cases operation with
  | create input =>
      obtain rfl := LedgerOutcome.written.inj h
      exact .appended rfl
  | authorize input =>
      obtain ⟨-, rfl⟩ := authorizeNativeReviewDispatch_ok (LedgerOutcome.ofExcept_written h)
      exact .kept rfl
  | bindChild input =>
      obtain ⟨lineage, -, -, rfl⟩ := bindNativeReviewChild_ok (LedgerOutcome.ofExcept_written h)
      exact .kept rfl
  | recordEvidence params =>
      exact recordEvidence_changes hs (hfresh _ (List.mem_singleton_self _))
        (LedgerOutcome.ofEvidence_written h)
  | abandon hostCallId =>
      obtain rfl := LedgerOutcome.written.inj h
      unfold abandonReviewDispatchByHostCall
      split <;> exact .kept rfl
  | abandonAndBlock hostCallId code identity => exact abandonAndBlock_changes hs h
  | abandonAndRearm hostCallId childSessionId fresh =>
      obtain rfl := LedgerOutcome.written.inj h
      exact abandonAndRearm_changes hs
  | recoverTransport obligationType closesMissing fresh =>
      obtain rfl := LedgerOutcome.written.inj h
      exact recoverTransport_changes hs
  | rearmIncoherentCapture input fresh =>
      exact rearmIncoherentCapture_changes hs (LedgerOutcome.ofExcept_written h)
  | reopenUnknownOutcome expected =>
      exact reopenUnknownOutcome_changes hs (LedgerOutcome.ofExcept_written h)
  | reopenAfterAuthorResolution unaddressedPriorFails fresh =>
      obtain rfl := LedgerOutcome.written.inj h
      exact reopenAfterAuthorResolution_changes hs
  | releaseLock obligationId code attemptId =>
      obtain rfl := releaseTerminalCapacityLock_ok (LedgerOutcome.ofExcept_written h)
      exact .kept rfl
  | consume obligationId invocationId =>
      rw [performLedgerOperation] at h
      split at h
      · next next hconsumed =>
          obtain rfl := LedgerOutcome.written.inj h
          exact consume_changes hs hconsumed
      · cases h

theorem reused_changes {params : EvidenceParams}
    (h : bindNativeSubagentFindings s params now = .reused t) :
    ChangesBy (StatusChange (.operation (.recordEvidence params))) s t := by
  unfold bindNativeSubagentFindings at h
  split at h
  · obtain rfl := applyEvidenceMutation_cases.1 _ h
    exact forced_changes (fun x y hid hblocked hcode => .reused params hid hblocked hcode) rfl
  · cases h

theorem rejectCapture_changes (hs : Coherent s) {action : LedgerAction} {stateInScope : Bool}
    {hostCallId childSessionId code : String}
    (h : rejectNativeReviewCapture s env stateInScope hostCallId childSessionId code now =
      .ok t) : ChangesBy (StatusChange action) s t := by
  unfold rejectNativeReviewCapture at h
  simp only [bind, Except.bind] at h
  split at h
  · cases h
  · next lineage hlineage =>
      obtain rfl := Except.ok.inj h
      obtain ⟨hlive, -⟩ := nativeReviewDispatchLineage_ok hlineage
      exact blocked_changes hs code (hs.wellIdentified.obligation?_of_mem hlive.obligation)
        (.inl hlive.pending) rfl

theorem concludeLiveRelease_obligations (record : ReviewDispatchRecord) :
    (concludeLiveRelease s record now).obligations = s.obligations := by
  unfold concludeLiveRelease
  dsimp only
  split <;> rfl

theorem blockReviewOutcome_obligations (obligationId code : String) :
    (blockReviewOutcome s obligationId code now).obligations =
      (blockObligation s obligationId code).obligations := by
  unfold blockReviewOutcome
  dsimp only
  generalize (blockObligation s obligationId code).dispatches.filter _ = live
  generalize blockObligation s obligationId code = blocked
  induction live generalizing blocked with
  | nil => rfl
  | cons record rest ih => exact (ih _).trans (concludeLiveRelease_obligations record)

/-- Whatever a step writes changes a status only as `StatusChange` says. -/
theorem ledgerStep_changes (hs : Coherent s) {action : LedgerAction} (hfresh : action.fresh s)
    (hstep : ledgerStep env s (now, action) = some t) : ChangesBy (StatusChange action) s t := by
  cases action with
  | operation operation =>
      rw [ledgerStep] at hstep
      split at hstep
      · next next hwritten =>
          obtain rfl := Option.some.inj hstep
          exact performLedgerOperation_changes hs hfresh hwritten
      · next next hreused =>
          obtain rfl := Option.some.inj hstep
          cases operation with
          | recordEvidence params =>
              exact reused_changes (LedgerOutcome.ofEvidence_reused hreused)
          | abandonAndBlock => exact absurd hreused LedgerOutcome.ofBlock_ne_reused
          | consume =>
              rw [performLedgerOperation] at hreused
              split at hreused <;> cases hreused
          | create | abandon | abandonAndRearm | recoverTransport
          | reopenAfterAuthorResolution => cases hreused
          | _ => exact absurd hreused LedgerOutcome.ofExcept_ne_reused
      · cases hstep
  | rejectCapture stateInScope hostCallId childSessionId code =>
      rw [ledgerStep] at hstep
      cases hresult : rejectNativeReviewCapture s env stateInScope hostCallId childSessionId code
          now with
      | error refusal =>
          rw [hresult] at hstep
          cases hstep
      | ok next =>
          rw [hresult] at hstep
          obtain rfl := Option.some.inj hstep
          exact rejectCapture_changes hs hresult
  | blockIncoherentCompletedCapture obligationId =>
      obtain rfl := Option.some.inj hstep
      refine forced_changes (fun x y hid hblocked hcode => ?_)
        (blockReviewOutcome_obligations obligationId _)
      rw [← hid]
      exact .incoherent hblocked hcode

end Operations

/-! ### Runs -/

/-- No write drops an attempt. -/
theorem AttemptsMove.recorded (hmove : AttemptsMove env s t) :
    s.attempts.map (·.attemptId) <+: t.attempts.map (·.attemptId) := by
  have hkept : ∀ {update : ReviewAttempt → ReviewAttempt},
      (∀ x ∈ s.attempts, (update x).core = x.core) →
      (s.attempts.map update).map (·.attemptId) = s.attempts.map (·.attemptId) :=
    fun hcore => map_key_congr fun x hx => (attempt_same (hcore x hx)).1
  cases hmove with
  | updated update hsame heq =>
      have hids : t.attempts.map (·.attemptId) = s.attempts.map (·.attemptId) := by
        rw [heq, hkept fun x hx => (hsame x hx).1]
      exact hids ▸ List.prefix_rfl
  | opened attempt _ _ _ _ heq =>
      rw [heq, List.map_append]
      exact List.prefix_append _ _
  | rearmed update attempt _ _ _ hsame _ _ _ _ heq =>
      rw [heq, List.map_append, hkept fun x hx => (hsame x hx).1]
      exact List.prefix_append _ _
  | incoherent update attempt _ _ hcore _ _ _ _ heq =>
      rw [heq, List.map_append, hkept hcore]
      exact List.prefix_append _ _

theorem recorded_of_reaches (hs : Coherent s) (hreaches : LedgerReaches env s t) :
    s.attempts.map (·.attemptId) <+: t.attempts.map (·.attemptId) := by
  have hboth : Coherent t ∧ s.attempts.map (·.attemptId) <+: t.attempts.map (·.attemptId) := by
    obtain ⟨hmoves, -⟩ := hreaches.bound.moves hs
    clear hreaches
    induction hmoves with
    | refl => exact ⟨hs, List.prefix_rfl⟩
    | tail _ hmove ih =>
        obtain ⟨now, hmove⟩ := hmove
        exact ⟨hmove.coherent ih.1, ih.2.trans (hmove.attempts ih.1).recorded⟩
  exact hboth.2

/-- Along every run each write changes the status of an obligation only as `StatusChange`
says, so that a consumed one changes again only by an incident that blocks it.  The attempts
ever minted for an obligation are at most one more than its reviewer budget, and those that
follow an incoherent capture at most the retries of such captures. -/
theorem obligation_lifecycle (hreaches : LedgerReaches env emptyReviewAssurance s) :
    (∀ (action : LedgerAction) (now : Timestamp) (t : ReviewAssuranceState), action.fresh s →
      ledgerStep env s (now, action) = some t → ∀ x ∈ s.obligations, ∃ y ∈ t.obligations,
        (∀ z ∈ t.obligations, z.obligationId = x.obligationId → z = y) ∧
          y.core = x.core ∧ (y.status = x.status ∨ StatusChange action x y) ∧
          (x.status = .consumed → y.status ≠ .consumed →
            y.status = .blocked ∧ y.blockedCode.any (incidentCodes.contains ·) = true)) ∧
      (∀ obligation ∈ s.obligations,
        (s.line obligation.obligationId).length ≤ 1 + obligation.maxReviewerAttempts ∧
          countIncoherentSuccessors s obligation.obligationId ≤
            env.maxIncoherentReviewerCaptureRetries) ∧
      ∀ t, LedgerReaches env s t →
        s.attempts.map (·.attemptId) <+: t.attempts.map (·.attemptId) := by
  have hcoherent := hreaches.coherent
  have hbudgeted := hreaches.budgeted
  refine ⟨?_, ?_, fun t hlater => recorded_of_reaches hcoherent hlater⟩
  · intro action now t hfresh hstep x hx
    obtain ⟨y, hy, hcore, hchange⟩ := ledgerStep_changes hcoherent hfresh hstep x hx
    have hnext : Coherent t := LedgerReaches.coherent (hreaches.tail hfresh hstep)
    refine ⟨y, hy, fun z hz hid => hnext.obligation_eq hz hy
      (hid.trans (ReviewObligation.same hcore).1.symm), hcore, hchange, ?_⟩
    intro hconsumed hchanged
    obtain hkept | hwrite := hchange
    · exact absurd (hkept.trans hconsumed) hchanged
    · cases hwrite with
      | reused params howned hto hcode =>
          rw [hcode]
          exact ⟨hto, by decide⟩
      | incoherent hto hcode =>
          rw [hcode]
          exact ⟨hto, by decide⟩
      | fulfilled params hfrom | withoutVerdict params _ _ hfrom | blocked _ hfrom
      | consumed _ _ hfrom | reset _ _ hfrom | reopened _ hfrom | resolved _ _ hfrom =>
          rw [hconsumed] at hfrom
          cases hfrom
  · intro obligation hobligation
    have hbudget := hbudgeted obligation hobligation
    exact ⟨hbudgeted.line_length hobligation, Nat.le_trans hbudget.followers hbudget.failures⟩

/-! ### A late capture -/

def sampleEvidence (invocationId : String) : EvidenceParams where
  obligationId := "plan"
  obligationType := .plan
  attemptId := "attempt-1"
  childSessionId := "child-1"
  hostCallId := "call-1"
  promptHash := "prompt"
  findingsHash := "findings"
  unableToReview := false
  capture := ⟨"child-1", "plan", "attempt-1"⟩
  nativeCallId := "call-1"
  captureValid := true
  executionExpired := false
  preBindValid := true
  fulfilledAt := "2026-01-01T00:00:03.000Z"
  invocationId := invocationId

/-- A plan review from its creation to the consumption of its evidence. -/
def sampleReview : List (Timestamp × LedgerAction) :=
  [("2026-01-01T00:00:00.000Z", .operation (.create samplePlan)),
    ("2026-01-01T00:00:01.000Z", .operation (.authorize (sampleRelease "attempt-1" "call-1"))),
    ("2026-01-01T00:00:02.000Z", .operation (.bindChild ⟨true, "parent", "call-1", "child-1"⟩)),
    ("2026-01-01T00:00:03.000Z", .operation (.recordEvidence (sampleEvidence "invocation-1"))),
    ("2026-01-01T00:00:04.000Z", .operation (.consume "plan" "invocation-1"))]

theorem obligation_lifecycle_sampleReview :
    ∃ s, freshRun sampleEnvironment emptyReviewAssurance sampleReview = some s ∧
      ∀ obligation ∈ s.obligations, (s.line obligation.obligationId).length ≤
        1 + obligation.maxReviewerAttempts := by
  have hrun : (freshRun sampleEnvironment emptyReviewAssurance sampleReview).isSome = true := by
    decide
  obtain ⟨s, hs⟩ := Option.isSome_iff_exists.1 hrun
  exact ⟨s, hs, fun obligation hobligation =>
    ((obligation_lifecycle (.of_run hs)).2.1 obligation hobligation).1⟩

/-- The consumed obligation is blocked by the capture that arrives once more. -/
theorem consumed_obligation_blocked :
    (freshRun sampleEnvironment emptyReviewAssurance sampleReview).map
        (·.obligations.map (·.status)) = some [.consumed] ∧
      (freshRun sampleEnvironment emptyReviewAssurance
          (sampleReview ++ [("2026-01-01T00:00:05.000Z",
            .operation (.recordEvidence (sampleEvidence "invocation-2")))])).map
        (·.obligations.map (·.status)) = some [.blocked] := by
  decide

end GovernedRuntime.Review
