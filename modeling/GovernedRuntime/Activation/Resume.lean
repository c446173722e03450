/-
Interrupted Start and End calls.  A call stopped after any of its commits is
finished by the same request, under the decision and the activation it had opened,
and running the request once more writes nothing.
-/
import GovernedRuntime.Activation.RootOperations

namespace GovernedRuntime.Activation

open Library

theorem hasCoherentSource_of_transition {previous : Option GovernanceActivationRevision}
    {item : GovernanceActivationRevision}
    (htransition : isGovernanceActivationTransition previous item = true) :
    hasCoherentSource item = true := by
  cases hcoherent : hasCoherentSource item with
  | true => rfl
  | false =>
      cases previous <;>
        simp [isGovernanceActivationTransition, hcoherent] at htransition

theorem hasCoherentSource_of_validateHistory
    {history : List GovernanceActivationRevision}
    (haccepted : validateHistory history = none) :
    ∀ item ∈ history, hasCoherentSource item = true := by
  induction history using List.reverseRecOn with
  | nil => simp
  | append_singleton prior last ih =>
      obtain ⟨hprior, htransition, _⟩ := validateHistory_concat.mp haccepted
      intro item hitem
      rcases List.mem_append.mp hitem with hold | hnew
      · exact ih hprior item hold
      · rw [List.mem_singleton.mp hnew]
        exact hasCoherentSource_of_transition htransition

/-- A store the reader accepts for a session that enrolled as a root, or has not
enrolled yet. -/
structure AcceptedRoot (hash : RecordHash) (sessionId : String)
    (store : GovernanceActivationStore) (journal : Journal) : Prop where
  read : JournalRead hash store sessionId journal
  root : ∀ first ∈ journal.history.head?, first.parentDispatch = none

namespace AcceptedRoot

variable {hash : RecordHash} {sessionId : String} {store : GovernanceActivationStore}
  {journal : Journal}

theorem law (h : AcceptedRoot hash sessionId store journal) :
    GenerationLaw journal.history :=
  .of_validateHistory h.read.validateHistory h.root

theorem unique (h : AcceptedRoot hash sessionId store journal) {journal' : Journal}
    (h' : JournalRead hash store sessionId journal') : journal = journal' :=
  h.read.unique h'

theorem length_le (h : AcceptedRoot hash sessionId store journal) :
    journal.history.length ≤ verificationBound := by
  cases hjournal : journal with
  | mk head history =>
      have hread := hjournal ▸ h.read
      cases head with
      | none =>
          cases hread
          exact Nat.zero_le _
      | some head =>
          obtain ⟨hlength, hbound⟩ := hread.length_le_bound
          exact hlength ▸ hbound

theorem source_ne (h : AcceptedRoot hash sessionId store journal)
    {item : GovernanceActivationRevision} (hitem : item ∈ journal.history) :
    item.decisionSource ≠ .delegation :=
  (hasCoherentSource_of_root (h.law.isRoot item hitem)).mp
    (hasCoherentSource_of_validateHistory h.read.validateHistory item hitem)

/-- The revision a call expects is the one its last record carries. -/
theorem expected_last (h : AcceptedRoot hash sessionId store journal)
    {last : GovernanceActivationRevision}
    (hlast : journal.history.getLast? = some last) :
    (journal.head.map (·.revision)).getD 0 = last.revision := by
  cases hjournal : journal with
  | mk head history =>
      rw [hjournal] at h hlast
      cases head with
      | none =>
          have hread := h.read
          cases hread
          simp at hlast
      | some head =>
          obtain ⟨selected, hselected, hitem⟩ := h.read.getLast_of_head
          rw [hlast, Option.some.injEq] at hselected
          exact (hselected ▸ (readRevision_eq_some.mp hitem).2.2.1).symm

/-- A commit on an accepted root journal below the bound leaves an accepted one. -/
theorem commit (h : AcceptedRoot hash sessionId store journal)
    (hbound : journal.history.length ≠ verificationBound)
    {input : GovernanceActivationCommit} {record : GovernanceActivationRevision}
    {decision : GovernanceActivationDecision}
    (hsession : input.sessionId = sessionId) (hroot : input.parentDispatch = none)
    (hadmitted : Admitted hash store input record journal decision) :
    AcceptedRoot hash sessionId (committedStore hash store input record)
      ⟨some (headOf hash input.sessionId record), journal.history ++ [record]⟩ := by
  refine ⟨hsession ▸ hadmitted.journalRead_committedStore ?_, ?_⟩
  · rw [hadmitted.revision_eq, ← hadmitted.length_eq]
    exact Nat.lt_of_le_of_ne h.length_le hbound
  · intro first hfirst
    cases hhistory : journal.history with
    | nil =>
        rw [hhistory] at hfirst
        simp only [List.nil_append, List.head?_cons, Option.mem_some] at hfirst
        rw [← hfirst, hadmitted.record_eq]
        exact hroot
    | cons head tail =>
        apply h.root first
        rw [hhistory] at hfirst ⊢
        exact hfirst

end AcceptedRoot

/-! ### Completing a pending revision -/

/-- The two completions: activating to active, ending to inactive. -/
inductive Completes (pending : GovernanceActivationRevision) :
    GovernanceActivationAction → Prop where
  | activate (hstatus : pending.status = .activating) : Completes pending .activate
  | finish (hstatus : pending.status = .ending) : Completes pending .finish

section

variable {hash : RecordHash} {sessionId : String} {store : GovernanceActivationStore}
  {journal : Journal} {pending : GovernanceActivationRevision}
  {action : GovernanceActivationAction} {actor : GovernanceDecisionActor}

/-- The decision a port presents again for a pending revision. -/
def pendingDecision (pending : GovernanceActivationRevision)
    (actor : GovernanceDecisionActor) : GovernanceActivationDecision :=
  ⟨pending.decisionId, pending.decisionSource, actor⟩

/-- The record that completes a pending revision. -/
def completedRecord (journal : Journal) (pending : GovernanceActivationRevision)
    (action : GovernanceActivationAction) (actor : GovernanceDecisionActor) :
    GovernanceActivationRevision :=
  (draftRevision (completionOf pending action pending.revision) journal
    (pendingDecision pending actor)).normalize

theorem sameActivation_completedRecord :
    SameActivation pending (completedRecord journal pending action actor) :=
  ⟨rfl, rfl, rfl, rfl, rfl, rfl⟩

theorem sameDecision_completedRecord
    (hactor : actor.normalize = pending.decisionActor) :
    SameDecision pending (completedRecord journal pending action actor) :=
  ⟨rfl, rfl, hactor⟩

theorem rootBindingMatches_completedRecord {request : GovernanceRootScope} :
    rootBindingMatches (completedRecord journal pending action actor) request =
      rootBindingMatches pending request :=
  rfl

theorem transition_completedRecord
    (haccepted : AcceptedRoot hash sessionId store journal)
    (hlast : journal.history.getLast? = some pending)
    (hstage : Completes pending action)
    (hactor : actor.normalize = pending.decisionActor) :
    isGovernanceActivationTransition (some pending)
      (completedRecord journal pending action actor) = true := by
  have hpending : pending ∈ journal.history := List.mem_of_getLast? hlast
  have hroot := haccepted.law.isRoot pending hpending
  have hsource := haccepted.source_ne hpending
  rw [isGovernanceActivationTransition_root hroot]
  refine ⟨⟨rfl, rfl, hroot, hsource⟩, ?_⟩
  cases hstage with
  | activate hstatus =>
      exact .activate hstatus rfl sameActivation_completedRecord
        (sameDecision_completedRecord hactor)
  | finish hstatus =>
      exact .finish hstatus rfl sameActivation_completedRecord
        (sameDecision_completedRecord hactor)

theorem isValid_completedRecord
    (haccepted : AcceptedRoot hash sessionId store journal)
    (hlast : journal.history.getLast? = some pending)
    (hactor : actor.normalize = pending.decisionActor) :
    (draftRevision (completionOf pending action pending.revision) journal
      (pendingDecision pending actor)).isValid = true := by
  have hpending : pending ∈ journal.history := List.mem_of_getLast? hlast
  have hvalid := (haccepted.read.collected pending hpending).isValid
  have hrevision : pending.revision ≤ verificationBound := by
    rw [haccepted.law.revision_getLast hlast]
    exact haccepted.length_le
  have hnumber : isPositiveInt (pending.revision + 1) = true := by
    have hsafe : pending.revision + 1 ≤ maxSafeInteger :=
      Nat.le_trans (Nat.succ_le_succ hrevision) (by decide)
    simpa [isPositiveInt] using hsafe
  have hprevious : (journal.head.map (·.digest)).all isSha256Hex = true := by
    have hread := haccepted.read
    cases hread with
    | pristine => rfl
    | committed head _ _ hhead =>
        simp only [GovernanceActivationHead.isValid, Bool.and_eq_true] at hhead
        exact hhead.2
  have htrim : trim actor.actorId = pending.decisionActor.actorId :=
    congrArg (·.actorId) hactor
  simp only [GovernanceActivationRevision.isValid, Bool.and_eq_true,
    and_assoc] at hvalid ⊢
  obtain ⟨hsession, hrootId, huuid, hgeneration, _, hdirectory, hworktree, hpolicy,
    hdecision, hname, _, hcall⟩ := hvalid
  refine ⟨hsession, hrootId, huuid, hgeneration, hnumber, hdirectory, hworktree,
    hpolicy, hdecision, ?_, hprevious, hcall⟩
  rw [← htrim, trim_trim] at hname
  exact hname

/-- The completion of a pending revision is always admitted. -/
theorem admitted_completedRecord
    (haccepted : AcceptedRoot hash sessionId store journal)
    (hlast : journal.history.getLast? = some pending)
    (hstage : Completes pending action)
    (hactor : actor.normalize = pending.decisionActor) :
    Admitted hash store (completionOf pending action pending.revision)
      (completedRecord journal pending action actor) journal
      (pendingDecision pending actor) := by
  have hpending : pending ∈ journal.history := List.mem_of_getLast? hlast
  have hsession := (haccepted.read.collected pending hpending).session
  have hexpected := haccepted.expected_last hlast
  refine ⟨?_, hexpected, ?_, ?_, ?_, ?_⟩
  · rw [show (completionOf pending action pending.revision).sessionId =
      pending.sessionId from rfl, hsession]
    exact haccepted.read
  · exact GovernanceActivationRevision.safeParse_eq_some.mpr
      ⟨isValid_completedRecord haccepted hlast hactor, rfl⟩
  · rw [hlast]
    exact transition_completedRecord haccepted hlast hstage hactor
  · intro hopens
    cases hstage <;> simp [completionOf] at hopens
  · have hread := haccepted.read
    rw [show (completionOf pending action pending.revision).sessionId =
      pending.sessionId from rfl, hsession]
    cases hread with
    | pristine _ _ hrevisions => exact hrevisions _
    | committed head _ _ _ _ hnext =>
        apply hnext
        simp only [Option.map_some, Option.getD_some] at hexpected
        rw [hexpected]
        exact Nat.lt_succ_self _

theorem commitLocked_of_admitted {input : GovernanceActivationCommit}
    {record : GovernanceActivationRevision} {decision : GovernanceActivationDecision}
    {authorize : Authorize}
    (hdecision : authorize input journal.history.getLast? = .ok decision)
    (hadmitted : Admitted hash store input record journal decision) :
    commitLocked hash store authorize input [] =
      (.committed record, committedStore hash store input record) := by
  rw [commitLocked_nil, admitCommit_eq_ok.mpr ⟨journal, decision, hdecision, hadmitted⟩]

/-- The store and the journal a completion leaves. -/
def completedStore (hash : RecordHash) (store : GovernanceActivationStore)
    (journal : Journal) (pending : GovernanceActivationRevision)
    (action : GovernanceActivationAction) (actor : GovernanceDecisionActor) :
    GovernanceActivationStore :=
  committedStore hash store (completionOf pending action pending.revision)
    (completedRecord journal pending action actor)

/-- A pending revision is never the last one within the bound. -/
theorem length_ne_bound_of_pending
    (haccepted : AcceptedRoot hash sessionId store journal)
    (hlast : journal.history.getLast? = some pending)
    (hstage : Completes pending action) :
    journal.history.length ≠ verificationBound := by
  have hstatus := haccepted.law.status pending (List.mem_of_getLast? hlast)
  rw [haccepted.law.revision_getLast hlast] at hstatus
  intro hlength
  rw [hlength] at hstatus
  cases hstage with
  | activate hpending => cases hpending.symm.trans hstatus
  | finish hpending => cases hpending.symm.trans hstatus

theorem accepted_completedStore
    (haccepted : AcceptedRoot hash sessionId store journal)
    (hlast : journal.history.getLast? = some pending)
    (hstage : Completes pending action)
    (hactor : actor.normalize = pending.decisionActor) :
    ∃ head, AcceptedRoot hash sessionId
      (completedStore hash store journal pending action actor)
      ⟨some head,
        journal.history ++ [completedRecord journal pending action actor]⟩ := by
  have hpending : pending ∈ journal.history := List.mem_of_getLast? hlast
  exact ⟨_, haccepted.commit (length_ne_bound_of_pending haccepted hlast hstage)
    (haccepted.read.collected pending hpending).session
    (haccepted.law.isRoot pending hpending)
    (admitted_completedRecord haccepted hlast hstage hactor)⟩

end

theorem rootBindingMatches_session {record : GovernanceActivationRevision}
    {request : GovernanceRootScope}
    (hbinding : rootBindingMatches record request = true) :
    request.sessionId = record.sessionId := by
  simp only [rootBindingMatches, Bool.and_eq_true, beq_iff_eq] at hbinding
  exact hbinding.1.1.1.symm

/-! ### What an interrupted call owes its caller -/

/-- A root operation under its lock: how a command is called, which commands repeat
a request, and the answers of a call that finishes a record and of one that finds
it settled. -/
structure RootOperation (Command Answer : Type) where
  call : Command → GovernanceActivationStore → RootCall Answer
  sameRequest : Command → Command → Prop
  finished : GovernanceActivationRevision → Bool → Answer
  settled : GovernanceActivationRevision → Answer

/-- At the store a stop left behind, the same request finishes the pending decision
and activation, leaves the store of the uninterrupted call, and then writes nothing
any more. -/
def RootOperation.Resumes {Command Answer : Type}
    (operation : RootOperation Command Answer) (hash : RecordHash)
    (sessionId : String) (command : Command)
    (store interrupted : GovernanceActivationStore) : Prop :=
  ∃ journal pending record resumed,
    readJournal hash interrupted sessionId = .ok journal ∧
    journal.history.getLast? = some pending ∧
    (operation.call command store).answer = operation.finished record resumed ∧
    SameDecision pending record ∧ SameActivation pending record ∧
    ∀ retry, operation.sameRequest command retry →
      ((operation.call retry interrupted).answer = operation.finished record true ∨
        (operation.call retry interrupted).answer = operation.settled record ∧
          pending = record) ∧
      (operation.call retry interrupted).store interrupted =
        (operation.call command store).store store ∧
      ∀ again, operation.sameRequest command again →
        operation.call again ((operation.call command store).store store) =
          ⟨operation.settled record, []⟩

section

variable {Command Answer : Type} {operation : RootOperation Command Answer}
  {hash : RecordHash} {sessionId : String} {command : Command}
  {store interrupted final : GovernanceActivationStore} {journal : Journal}
  {pending record : GovernanceActivationRevision} {resumed : Bool}

/-- A call that stopped after its last commit. -/
theorem RootOperation.resumes_finished
    (haccepted : AcceptedRoot hash sessionId final journal)
    (hlast : journal.history.getLast? = some record)
    (hanswer : (operation.call command store).answer =
      operation.finished record resumed)
    (hfinal : (operation.call command store).store store = final)
    (hsettled : ∀ again, operation.sameRequest command again →
      operation.call again final = ⟨operation.settled record, []⟩) :
    operation.Resumes hash sessionId command store final := by
  refine ⟨journal, record, record, resumed, readJournal_eq_ok.mpr haccepted.read,
    hlast, hanswer, .refl record, .refl record, ?_⟩
  intro retry hsame
  rw [hfinal, hsettled retry hsame]
  exact ⟨.inr ⟨rfl, rfl⟩, rfl, hsettled⟩

/-- A call that stopped between its two commits. -/
theorem RootOperation.resumes_pending
    (haccepted : AcceptedRoot hash sessionId interrupted journal)
    (hlast : journal.history.getLast? = some pending)
    (hdecision : SameDecision pending record)
    (hactivation : SameActivation pending record)
    (hanswer : (operation.call command store).answer =
      operation.finished record resumed)
    (hfinal : (operation.call command store).store store = final)
    (hretry : ∀ retry, operation.sameRequest command retry →
      operation.call retry interrupted = ⟨operation.finished record true, [final]⟩)
    (hsettled : ∀ again, operation.sameRequest command again →
      operation.call again final = ⟨operation.settled record, []⟩) :
    operation.Resumes hash sessionId command store interrupted := by
  refine ⟨journal, pending, record, resumed, readJournal_eq_ok.mpr haccepted.read,
    hlast, hanswer, hdecision, hactivation, ?_⟩
  intro retry hsame
  rw [hfinal, hretry retry hsame]
  exact ⟨.inl rfl, rfl, hsettled⟩

end

/-! ### Start -/

/-- Start as a root operation. -/
def startOperation (hash : RecordHash) (sessionId : String) :
    RootOperation StartCommand GovernanceRootStartResult where
  call := fun command => command.call hash sessionId
  sameRequest := StartCommand.SameRequest
  finished := .activated
  settled := .alreadyActive

section

variable {hash : RecordHash} {sessionId : String} {store : GovernanceActivationStore}
  {journal : Journal} {pending record : GovernanceActivationRevision}
  {request : GovernanceRootScope} {command : StartCommand}

theorem startAuthorize_completion {decisionId : String} {source : DecisionSource}
    {actor : GovernanceDecisionActor} {revision : Nat}
    (hsession : pending.sessionId = sessionId)
    (hstatus : pending.status = .activating) :
    startAuthorize sessionId decisionId source actor
        (completionOf pending .activate revision) (some pending) =
      .ok (pendingDecision pending actor) := by
  simp [startAuthorize, completionOf, hsession, hstatus, pendingDecision,
    Option.filter_some]

theorem completeStart_eq (haccepted : AcceptedRoot hash sessionId store journal)
    (hlast : journal.history.getLast? = some pending)
    (hstatus : pending.status = .activating)
    (hbinding : rootBindingMatches pending request = true)
    (decisionId : String) (source : DecisionSource) {actor : GovernanceDecisionActor}
    (hactor : actor.normalize = pending.decisionActor) (resumed : Bool) :
    completeStart hash store (startAuthorize sessionId decisionId source actor)
        pending request pending.revision resumed =
      ⟨.activated (completedRecord journal pending .activate actor) resumed,
        [completedStore hash store journal pending .activate actor]⟩ := by
  have hsession := (haccepted.read.collected pending
    (List.mem_of_getLast? hlast)).session
  have hdecision : startAuthorize sessionId decisionId source actor
      (completionOf pending .activate pending.revision) journal.history.getLast? =
        .ok (pendingDecision pending actor) := by
    rw [hlast]
    exact startAuthorize_completion hsession hstatus
  have hcommit := commitLocked_of_admitted hdecision
    (admitted_completedRecord haccepted hlast (.activate hstatus) hactor)
  simp only [completeStart, hbinding, Bool.not_true, Bool.false_eq_true, ↓reduceIte,
    hcommit]
  rfl

/-- A call that finds an activating revision completes it. -/
theorem StartCommand.call_pending
    (haccepted : AcceptedRoot hash sessionId store journal)
    (hlast : journal.history.getLast? = some pending)
    (hstatus : pending.status = .activating)
    (hbinding : rootBindingMatches pending command.request = true)
    (hactor : command.actor.normalize = pending.decisionActor) :
    command.call hash sessionId store =
      ⟨.activated (completedRecord journal pending .activate command.actor) true,
        [completedStore hash store journal pending .activate command.actor]⟩ := by
  have hpending : pending ∈ journal.history := List.mem_of_getLast? hlast
  have hroot := haccepted.law.isRoot pending hpending
  have hsession := (rootBindingMatches_session hbinding).trans
    (haccepted.read.collected pending hpending).session
  have hcomplete := completeStart_eq haccepted hlast hstatus hbinding
    command.decisionId command.source hactor true
  rw [StartCommand.call, startRootGovernance, readJournal_eq_ok.mpr haccepted.read]
  simp only [hlast, settledStart, hroot, Option.isSome_none, Bool.false_eq_true,
    ↓reduceIte, hstatus, hsession, ne_eq, not_true_eq_false, Option.any_some,
    commitPreparedStart, Option.filter_some, beq_self_eq_true,
    haccepted.expected_last hlast]
  simpa using hcomplete

/-- A call that finds its activation active writes nothing. -/
theorem StartCommand.call_active
    (haccepted : AcceptedRoot hash sessionId store journal)
    (hlast : journal.history.getLast? = some record)
    (hstatus : record.status = .active)
    (hbinding : rootBindingMatches record command.request = true) :
    command.call hash sessionId store = ⟨.alreadyActive record, []⟩ := by
  have hrecord : record ∈ journal.history := List.mem_of_getLast? hlast
  have hroot := haccepted.law.isRoot record hrecord
  have hsession := (rootBindingMatches_session hbinding).trans
    (haccepted.read.collected record hrecord).session
  rw [StartCommand.call, startRootGovernance, readJournal_eq_ok.mpr haccepted.read]
  simp [hlast, settledStart, hroot, hstatus, hsession, hbinding]

theorem StartCommand.settled (haccepted : AcceptedRoot hash sessionId store journal)
    (hlast : journal.history.getLast? = some record)
    (hstatus : record.status = .active)
    (hbinding : rootBindingMatches record command.request = true) :
    ∀ again, command.SameRequest again →
      again.call hash sessionId store = ⟨.alreadyActive record, []⟩ := by
  intro again hsame
  apply StartCommand.call_active haccepted hlast hstatus
  rw [hsame.request]
  exact hbinding

/-- The port of a Start command. -/
def StartCommand.authorize (command : StartCommand) (sessionId : String) : Authorize :=
  startAuthorize sessionId command.decisionId command.source command.actor

/-- A Start that commits anything prepared the right session, and found no
activation, an ended one or an unfinished one. -/
theorem StartCommand.call_of_commits
    (haccepted : AcceptedRoot hash sessionId store journal)
    {interrupted : GovernanceActivationStore}
    (hstop : interrupted ∈ (command.call hash sessionId store).commits) :
    command.request.sessionId = sessionId ∧
      command.call hash sessionId store =
        commitPreparedStart hash store (command.authorize sessionId)
          journal.history.getLast? ((journal.head.map (·.revision)).getD 0)
          command.request command.activationId ∧
      ∀ current ∈ journal.history.getLast?,
        current.status = .inactive ∨ current.status = .activating := by
  rw [StartCommand.call, startRootGovernance,
    readJournal_eq_ok.mpr haccepted.read] at hstop ⊢
  by_cases hsession : command.request.sessionId = sessionId
  · refine ⟨hsession, ?_⟩
    cases hlast : journal.history.getLast? with
    | none => simp [hlast, settledStart, hsession, StartCommand.authorize]
    | some current =>
        have hroot := haccepted.law.isRoot current (List.mem_of_getLast? hlast)
        cases hstatus : current.status <;>
          simp [hlast, settledStart, hroot, hstatus, hsession,
            StartCommand.authorize] at hstop ⊢
        split at hstop <;> simp at hstop
  · simp only [hsession, ne_eq, not_false_eq_true, ↓reduceIte] at hstop
    split at hstop <;> simp at hstop

/-- Both commits of a Start that opens its own activation. -/
theorem StartCommand.commits_of_pending {paused : GovernanceActivationStore}
    {resumed : Bool} (haccepted : AcceptedRoot hash sessionId paused journal)
    (hlast : journal.history.getLast? = some pending)
    (hstatus : pending.status = .activating)
    (hbinding : rootBindingMatches pending command.request = true)
    (hactor : command.actor.normalize = pending.decisionActor)
    (hcall : command.call hash sessionId store =
      ⟨.activated (completedRecord journal pending .activate command.actor) resumed,
        [paused,
          completedStore hash paused journal pending .activate command.actor]⟩)
    {interrupted : GovernanceActivationStore}
    (hstop : interrupted ∈ (command.call hash sessionId store).commits) :
    (∃ next, AcceptedRoot hash sessionId interrupted next) ∧
      (startOperation hash sessionId).Resumes hash sessionId command store
        interrupted := by
  obtain ⟨head, hfinished⟩ :=
    accepted_completedStore haccepted hlast (.activate hstatus) hactor
  have hsettled := StartCommand.settled hfinished List.getLast?_concat rfl
    (rootBindingMatches_completedRecord.trans hbinding)
  have hfinal : (command.call hash sessionId store).store store =
      completedStore hash paused journal pending .activate command.actor := by
    simp [hcall, RootCall.store]
  have hretry : ∀ retry, command.SameRequest retry →
      retry.call hash sessionId paused =
        ⟨.activated (completedRecord journal pending .activate command.actor) true,
          [completedStore hash paused journal pending .activate command.actor]⟩ := by
    intro retry hsame
    rw [← hsame.actor]
    apply StartCommand.call_pending haccepted hlast hstatus
    · rw [hsame.request]
      exact hbinding
    · rw [hsame.actor]
      exact hactor
  have hanswer := congrArg (·.answer) hcall
  rw [hcall] at hstop
  simp only [List.mem_cons, List.not_mem_nil, or_false] at hstop
  rcases hstop with rfl | rfl
  · exact ⟨⟨_, haccepted⟩, RootOperation.resumes_pending haccepted hlast
      (sameDecision_completedRecord hactor) sameActivation_completedRecord hanswer
      hfinal hretry hsettled⟩
  · exact ⟨⟨_, hfinished⟩, RootOperation.resumes_finished hfinished
      List.getLast?_concat hanswer hfinal hsettled⟩

/-- A Start of the right session that finds an ended activation prepares a new one. -/
theorem StartCommand.call_inactive
    (haccepted : AcceptedRoot hash sessionId store journal)
    (hlast : journal.history.getLast? = some record)
    (hstatus : record.status = .inactive)
    (hsession : command.request.sessionId = sessionId) :
    command.call hash sessionId store =
      match commitLocked hash store (command.authorize sessionId)
          (startOf journal.history.getLast? ((journal.head.map (·.revision)).getD 0)
            command.request command.activationId) [] with
      | (.blocked reason, _) => ⟨.blocked reason, []⟩
      | (.committed started, written) =>
          let rest := completeStart hash written (command.authorize sessionId) started
            command.request started.revision false
          ⟨rest.answer, written :: rest.commits⟩ := by
  have hroot := haccepted.law.isRoot record (List.mem_of_getLast? hlast)
  rw [StartCommand.call, startRootGovernance, readJournal_eq_ok.mpr haccepted.read]
  simp only [hlast, settledStart, hroot, Option.isSome_none, Bool.false_eq_true,
    ↓reduceIte, hstatus, hsession, ne_eq, not_true_eq_false, Option.any_some,
    commitPreparedStart, Option.filter_some, beq_iff_eq, reduceCtorEq,
    StartCommand.authorize]
  rfl

/-- The first commit of a Start that finds nothing pending, and the call after it. -/
structure StartCommand.Opens (command : StartCommand) (hash : RecordHash)
    (sessionId : String) (store : GovernanceActivationStore) (journal : Journal)
    (input : GovernanceActivationCommit) (started : GovernanceActivationRevision)
    (decision : GovernanceActivationDecision) : Prop where
  session : input.sessionId = sessionId
  isRoot : input.parentDispatch = none
  admitted : Admitted hash store input started journal decision
  status : started.status = .activating
  binding : rootBindingMatches started command.request = true
  actor : command.actor.normalize = started.decisionActor
  call : command.call hash sessionId store =
    let rest := completeStart hash (committedStore hash store input started)
      (command.authorize sessionId) started command.request started.revision false
    ⟨rest.answer, committedStore hash store input started :: rest.commits⟩

theorem StartCommand.opens_of_commits
    (haccepted : AcceptedRoot hash sessionId store journal)
    (hcurrent : ∀ current ∈ journal.history.getLast?, current.status ≠ .activating)
    {interrupted : GovernanceActivationStore}
    (hstop : interrupted ∈ (command.call hash sessionId store).commits) :
    ∃ input started decision,
      command.Opens hash sessionId store journal input started decision := by
  obtain ⟨hsession, hcall, _⟩ := StartCommand.call_of_commits haccepted hstop
  have hnone : journal.history.getLast?.filter (·.status == .activating) = none := by
    rw [Option.filter_eq_none_iff]
    intro current hmem
    simpa using hcurrent current hmem
  rw [commitPreparedStart, hnone] at hcall
  simp only at hcall
  cases hcommit : commitLocked hash store (command.authorize sessionId)
      (startOf journal.history.getLast? ((journal.head.map (·.revision)).getD 0)
        command.request command.activationId) [] with
  | mk result written =>
      cases result with
      | blocked reason =>
          rw [hcommit] at hcall
          simp [hcall] at hstop
      | committed started =>
          rw [hcommit] at hcall
          obtain ⟨rfl, before, decision, hdecision, hadmitted⟩ :=
            commitLocked_committed hcommit
          have hread : JournalRead hash store sessionId before :=
            hsession ▸ hadmitted.read
          obtain rfl := haccepted.unique hread
          refine ⟨_, started, decision, hsession, rfl, hadmitted, hadmitted.status_eq,
            ?_, ?_, hcall⟩
          · rw [hadmitted.record_eq]
            simp [rootBindingMatches, GovernanceActivationRevision.normalize,
              draftRevision, startOf]
          · rw [hadmitted.record_eq]
            simp only [StartCommand.authorize, startAuthorize, startOf, hsession, ne_eq,
              not_true_eq_false, ↓reduceIte, Except.ok.injEq] at hdecision
            rw [← hdecision]
            rfl

/-- A Start that finds an unfinished one makes its only commit the last one. -/
theorem StartCommand.commits_pending
    (haccepted : AcceptedRoot hash sessionId store journal)
    (hlast : journal.history.getLast? = some pending)
    (hstatus : pending.status = .activating)
    (hcall : command.call hash sessionId store =
      commitPreparedStart hash store (command.authorize sessionId)
        journal.history.getLast? ((journal.head.map (·.revision)).getD 0)
        command.request command.activationId)
    {interrupted : GovernanceActivationStore}
    (hstop : interrupted ∈ (command.call hash sessionId store).commits) :
    (∃ next, AcceptedRoot hash sessionId interrupted next) ∧
      (startOperation hash sessionId).Resumes hash sessionId command store
        interrupted := by
  have hpending : pending ∈ journal.history := List.mem_of_getLast? hlast
  have hsession := (haccepted.read.collected pending hpending).session
  simp only [commitPreparedStart, hlast, Option.filter_some, hstatus,
    beq_self_eq_true, ↓reduceIte, haccepted.expected_last hlast,
    completeStart] at hcall
  split at hcall
  · simp [hcall] at hstop
  · rename_i hbinding
    simp only [Bool.not_eq_true', Bool.not_eq_false] at hbinding
    cases hcommit : commitLocked hash store (command.authorize sessionId)
        (completionOf pending .activate pending.revision) [] with
    | mk result written =>
        cases result with
        | blocked reason =>
            rw [hcommit] at hcall
            simp [hcall] at hstop
        | committed record =>
            rw [hcommit] at hcall
            simp only at hcall
            obtain ⟨rfl, before, decision, _, hadmitted⟩ :=
              commitLocked_committed hcommit
            have hread : JournalRead hash store sessionId before :=
              hsession ▸ hadmitted.read
            obtain rfl := haccepted.unique hread
            have hfinished := haccepted.commit
              (length_ne_bound_of_pending haccepted hlast (.activate hstatus))
              hsession (haccepted.law.isRoot pending hpending) hadmitted
            have hmatches : rootBindingMatches record command.request = true := by
              rw [hadmitted.record_eq]
              exact hbinding
            rw [hcall, List.mem_singleton] at hstop
            subst hstop
            exact ⟨⟨_, hfinished⟩, RootOperation.resumes_finished hfinished
              List.getLast?_concat (congrArg (·.answer) hcall)
              ((congrArg (RootCall.store · store) hcall).trans rfl)
              (StartCommand.settled hfinished List.getLast?_concat
                hadmitted.status_eq hmatches)⟩

/-- Every commit of a Start leaves an accepted journal and can be resumed, unless
the journal has reached the verification bound. -/
theorem StartCommand.commits
    (haccepted : AcceptedRoot hash sessionId store journal)
    (hbound : journal.history.length ≠ verificationBound)
    {interrupted : GovernanceActivationStore}
    (hstop : interrupted ∈ (command.call hash sessionId store).commits) :
    (∃ next, AcceptedRoot hash sessionId interrupted next) ∧
      (startOperation hash sessionId).Resumes hash sessionId command store
        interrupted := by
  by_cases hpending : ∃ pending ∈ journal.history.getLast?, pending.status = .activating
  · obtain ⟨pending, hlast, hstatus⟩ := hpending
    exact StartCommand.commits_pending haccepted hlast hstatus
      (StartCommand.call_of_commits haccepted hstop).2.1 hstop
  · have hcurrent : ∀ current ∈ journal.history.getLast?,
        current.status ≠ .activating := by
      intro current hmem hactivating
      exact hpending ⟨current, hmem, hactivating⟩
    obtain ⟨input, started, decision, hopens⟩ :=
      StartCommand.opens_of_commits haccepted hcurrent hstop
    have hstarted := haccepted.commit hbound hopens.session hopens.isRoot hopens.admitted
    have hcall := hopens.call
    rw [StartCommand.authorize, completeStart_eq hstarted List.getLast?_concat
      hopens.status hopens.binding command.decisionId command.source hopens.actor
      false] at hcall
    exact StartCommand.commits_of_pending hstarted List.getLast?_concat hopens.status
      hopens.binding hopens.actor hcall hstop

/-- A Start at the bound opens a revision the reader refuses, and stops there. -/
theorem StartCommand.commits_at_bound
    (haccepted : AcceptedRoot hash sessionId store journal)
    (hlength : journal.history.length = verificationBound)
    {interrupted : GovernanceActivationStore}
    (hstop : interrupted ∈ (command.call hash sessionId store).commits)
    (next : Journal) : readJournal hash interrupted sessionId ≠ .ok next := by
  have hcurrent : ∀ current ∈ journal.history.getLast?,
      current.status ≠ .activating := by
    intro current hlast
    rw [haccepted.law.status current (List.mem_of_getLast? hlast),
      haccepted.law.revision_getLast hlast, hlength]
    decide
  obtain ⟨input, started, decision, hopens⟩ :=
    StartCommand.opens_of_commits haccepted hcurrent hstop
  have hbeyond : verificationBound < started.revision := by
    rw [hopens.admitted.revision_eq, ← hopens.admitted.length_eq, hlength]
    exact Nat.lt_succ_self _
  have hrefused : ∀ later, readJournal hash (committedStore hash store input started)
      sessionId ≠ .ok later := by
    intro later hok
    exact not_journalRead_committedStore hbeyond later
      (hopens.session ▸ readJournal_eq_ok.mp hok)
  have hcompletion : (completeStart hash (committedStore hash store input started)
      (command.authorize sessionId) started command.request started.revision
      false).commits = [] := by
    rw [completeStart]
    split
    · rfl
    · rw [commitLocked_nil]
      cases hok : admitCommit hash (committedStore hash store input started)
          (command.authorize sessionId)
          (completionOf started .activate started.revision) with
      | error invalid => rfl
      | ok record =>
          obtain ⟨later, _, _, hadmitted⟩ := admitCommit_eq_ok.mp hok
          have hread := readJournal_eq_ok.mpr hadmitted.read
          rw [show (completionOf started .activate started.revision).sessionId =
            started.sessionId from rfl, hopens.admitted.sessionId_eq,
            hopens.session] at hread
          exact absurd hread (hrefused later)
  rw [hopens.call] at hstop
  simp only [hcompletion, List.mem_singleton] at hstop
  rw [hstop]
  exact hrefused next

end

/-! ### End -/

/-- End as a root operation. -/
def endOperation (hash : RecordHash) (sessionId : String) :
    RootOperation EndCommand GovernanceRootEndResult where
  call := fun command => command.call hash sessionId
  sameRequest := EndCommand.SameRequest
  finished := .ended
  settled := fun record => .alreadyInactive (some record)

section

variable {hash : RecordHash} {sessionId : String} {store : GovernanceActivationStore}
  {journal : Journal} {pending record : GovernanceActivationRevision}
  {request : GovernanceRootScope} {command : EndCommand}

theorem endAuthorize_completion {decisionId : String}
    {actor : GovernanceDecisionActor} {revision : Nat}
    (hsession : pending.sessionId = sessionId) (hstatus : pending.status = .ending) :
    endAuthorize sessionId decisionId actor (completionOf pending .finish revision)
        (some pending) =
      .ok (pendingDecision pending pending.decisionActor) := by
  simp [endAuthorize, completionOf, hsession, hstatus, pendingDecision,
    Option.filter_some]

theorem completeEnd_eq (haccepted : AcceptedRoot hash sessionId store journal)
    (hlast : journal.history.getLast? = some pending)
    (hstatus : pending.status = .ending)
    (hbinding : rootBindingMatches pending request = true)
    (decisionId : String) (actor : GovernanceDecisionActor) (resumed : Bool) :
    completeEnd hash store (endAuthorize sessionId decisionId actor) pending request
        pending.revision resumed =
      ⟨.ended (completedRecord journal pending .finish pending.decisionActor) resumed,
        [completedStore hash store journal pending .finish pending.decisionActor]⟩ := by
  have hcollected := haccepted.read.collected pending (List.mem_of_getLast? hlast)
  have hdecision : endAuthorize sessionId decisionId actor
      (completionOf pending .finish pending.revision) journal.history.getLast? =
        .ok (pendingDecision pending pending.decisionActor) := by
    rw [hlast]
    exact endAuthorize_completion hcollected.session hstatus
  have hcommit := commitLocked_of_admitted hdecision
    (admitted_completedRecord haccepted hlast (.finish hstatus)
      hcollected.normalize_actor)
  simp only [completeEnd, hbinding, Bool.not_true, Bool.false_eq_true, ↓reduceIte,
    hcommit]
  rfl

/-- A call that finds an ending revision completes it. -/
theorem EndCommand.call_pending
    (haccepted : AcceptedRoot hash sessionId store journal)
    (hlast : journal.history.getLast? = some pending)
    (hstatus : pending.status = .ending)
    (hbinding : rootBindingMatches pending command.request = true) :
    command.call hash sessionId store =
      ⟨.ended (completedRecord journal pending .finish pending.decisionActor) true,
        [completedStore hash store journal pending .finish pending.decisionActor]⟩ := by
  have hpending : pending ∈ journal.history := List.mem_of_getLast? hlast
  have hroot := haccepted.law.isRoot pending hpending
  have hsession := (rootBindingMatches_session hbinding).trans
    (haccepted.read.collected pending hpending).session
  have hcomplete := completeEnd_eq haccepted hlast hstatus hbinding
    command.decisionId command.actor true
  rw [EndCommand.call, endRootGovernance, readJournal_eq_ok.mpr haccepted.read]
  simpa [hlast, settledEnd, hroot, hstatus, hsession, hbinding] using hcomplete

/-- A call that finds the session inactive writes nothing. -/
theorem EndCommand.call_inactive
    (haccepted : AcceptedRoot hash sessionId store journal)
    (hlast : journal.history.getLast? = some record)
    (hstatus : record.status = .inactive) :
    command.call hash sessionId store = ⟨.alreadyInactive (some record), []⟩ := by
  have hroot := haccepted.law.isRoot record (List.mem_of_getLast? hlast)
  rw [EndCommand.call, endRootGovernance, readJournal_eq_ok.mpr haccepted.read]
  simp [hlast, settledEnd, hroot, hstatus]

/-- Both commits of an End that opens its own decision. -/
theorem EndCommand.commits_of_pending {paused : GovernanceActivationStore}
    {resumed : Bool} (haccepted : AcceptedRoot hash sessionId paused journal)
    (hlast : journal.history.getLast? = some pending)
    (hstatus : pending.status = .ending)
    (hbinding : rootBindingMatches pending command.request = true)
    (hcall : command.call hash sessionId store =
      ⟨.ended (completedRecord journal pending .finish pending.decisionActor) resumed,
        [paused,
          completedStore hash paused journal pending .finish pending.decisionActor]⟩)
    {interrupted : GovernanceActivationStore}
    (hstop : interrupted ∈ (command.call hash sessionId store).commits) :
    (∃ next, AcceptedRoot hash sessionId interrupted next) ∧
      (endOperation hash sessionId).Resumes hash sessionId command store
        interrupted := by
  have hactor := (haccepted.read.collected pending
    (List.mem_of_getLast? hlast)).normalize_actor
  obtain ⟨head, hfinished⟩ :=
    accepted_completedStore haccepted hlast (.finish hstatus) hactor
  have hsettled : ∀ again, command.SameRequest again →
      again.call hash sessionId
          (completedStore hash paused journal pending .finish pending.decisionActor) =
        ⟨.alreadyInactive
          (some (completedRecord journal pending .finish pending.decisionActor)), []⟩ :=
    fun _ _ => EndCommand.call_inactive hfinished List.getLast?_concat rfl
  have hfinal : (command.call hash sessionId store).store store =
      completedStore hash paused journal pending .finish pending.decisionActor := by
    simp [hcall, RootCall.store]
  have hretry : ∀ retry, command.SameRequest retry →
      retry.call hash sessionId paused =
        ⟨.ended (completedRecord journal pending .finish pending.decisionActor) true,
          [completedStore hash paused journal pending .finish
            pending.decisionActor]⟩ := by
    intro retry hsame
    apply EndCommand.call_pending haccepted hlast hstatus
    rw [hsame.request]
    exact hbinding
  have hanswer := congrArg (·.answer) hcall
  rw [hcall] at hstop
  simp only [List.mem_cons, List.not_mem_nil, or_false] at hstop
  rcases hstop with rfl | rfl
  · exact ⟨⟨_, haccepted⟩, RootOperation.resumes_pending haccepted hlast
      (sameDecision_completedRecord hactor) sameActivation_completedRecord hanswer
      hfinal hretry hsettled⟩
  · exact ⟨⟨_, hfinished⟩, RootOperation.resumes_finished hfinished
      List.getLast?_concat hanswer hfinal hsettled⟩

/-- An End that commits anything found an active or an ending revision, bound to its
request. -/
theorem EndCommand.call_of_commits
    (haccepted : AcceptedRoot hash sessionId store journal)
    {interrupted : GovernanceActivationStore}
    (hstop : interrupted ∈ (command.call hash sessionId store).commits) :
    ∃ current, journal.history.getLast? = some current ∧
      (current.status = .active ∨ current.status = .ending) ∧
      rootBindingMatches current command.request = true := by
  rw [EndCommand.call, endRootGovernance,
    readJournal_eq_ok.mpr haccepted.read] at hstop
  cases hlast : journal.history.getLast? with
  | none => simp [hlast, settledEnd] at hstop
  | some current =>
      have hroot := haccepted.law.isRoot current (List.mem_of_getLast? hlast)
      refine ⟨current, rfl, ?_, ?_⟩
      · cases hstatus : current.status <;>
          simp [hlast, settledEnd, hroot, hstatus] at hstop ⊢
      · cases hbinding : rootBindingMatches current command.request with
        | true => rfl
        | false =>
            cases hstatus : current.status <;>
              simp [hlast, settledEnd, hroot, hstatus, hbinding] at hstop

/-- The commits of an End that finds an active revision. -/
theorem EndCommand.commits_active
    (haccepted : AcceptedRoot hash sessionId store journal)
    (hlast : journal.history.getLast? = some record)
    (hstatus : record.status = .active)
    (hbinding : rootBindingMatches record command.request = true)
    {interrupted : GovernanceActivationStore}
    (hstop : interrupted ∈ (command.call hash sessionId store).commits) :
    (∃ next, AcceptedRoot hash sessionId interrupted next) ∧
      (endOperation hash sessionId).Resumes hash sessionId command store
        interrupted := by
  have hrecord : record ∈ journal.history := List.mem_of_getLast? hlast
  have hroot := haccepted.law.isRoot record hrecord
  have hsession := (rootBindingMatches_session hbinding).trans
    (haccepted.read.collected record hrecord).session
  have hbound : journal.history.length ≠ verificationBound := by
    have hlaw := haccepted.law.status record hrecord
    rw [haccepted.law.revision_getLast hlast, hstatus, eq_comm,
      statusOfRevision_eq_active] at hlaw
    intro hlength
    rw [hlength] at hlaw
    cases hlaw
  have hcall : command.call hash sessionId store = command.call hash sessionId store :=
    rfl
  conv_rhs at hcall =>
    rw [EndCommand.call, endRootGovernance, readJournal_eq_ok.mpr haccepted.read]
  simp only [hlast, settledEnd, hroot, Option.isSome_none, Bool.false_eq_true,
    ↓reduceIte, hstatus, hsession, ne_eq, not_true_eq_false, hbinding,
    Bool.true_eq_false, or_self, reduceCtorEq] at hcall
  cases hcommit : commitLocked hash store
      (endAuthorize sessionId command.decisionId command.actor)
      (beginEndOf record ((journal.head.map (·.revision)).getD 0) command.request)
      [] with
  | mk result written =>
      cases result with
      | blocked reason =>
          rw [hcommit] at hcall
          simp [hcall] at hstop
      | committed begun =>
          rw [hcommit] at hcall
          simp only at hcall
          obtain ⟨rfl, before, decision, _, hadmitted⟩ := commitLocked_committed hcommit
          have hread : JournalRead hash store sessionId before :=
            hsession ▸ hadmitted.read
          obtain rfl := haccepted.unique hread
          have hbegun := haccepted.commit hbound hsession rfl hadmitted
          have hmatches : rootBindingMatches begun command.request = true := by
            rw [hadmitted.record_eq]
            simp [rootBindingMatches, GovernanceActivationRevision.normalize,
              draftRevision, beginEndOf]
          have hending : begun.status = .ending := hadmitted.status_eq
          rw [completeEnd_eq hbegun List.getLast?_concat hending hmatches
            command.decisionId command.actor false] at hcall
          exact EndCommand.commits_of_pending hbegun List.getLast?_concat hending
            hmatches hcall hstop

/-- The only commit of an End that finds an unfinished one. -/
theorem EndCommand.commits_ending
    (haccepted : AcceptedRoot hash sessionId store journal)
    (hlast : journal.history.getLast? = some pending)
    (hstatus : pending.status = .ending)
    (hbinding : rootBindingMatches pending command.request = true)
    {interrupted : GovernanceActivationStore}
    (hstop : interrupted ∈ (command.call hash sessionId store).commits) :
    (∃ next, AcceptedRoot hash sessionId interrupted next) ∧
      (endOperation hash sessionId).Resumes hash sessionId command store
        interrupted := by
  have hactor := (haccepted.read.collected pending
    (List.mem_of_getLast? hlast)).normalize_actor
  have hcall := EndCommand.call_pending haccepted hlast hstatus hbinding
  obtain ⟨head, hfinished⟩ :=
    accepted_completedStore haccepted hlast (.finish hstatus) hactor
  have hfinal : (command.call hash sessionId store).store store =
      completedStore hash store journal pending .finish pending.decisionActor := by
    simp [hcall, RootCall.store]
  have hanswer := congrArg (·.answer) hcall
  rw [hcall, List.mem_singleton] at hstop
  subst hstop
  exact ⟨⟨_, hfinished⟩, RootOperation.resumes_finished hfinished
    List.getLast?_concat hanswer hfinal
    fun _ _ => EndCommand.call_inactive hfinished List.getLast?_concat rfl⟩

/-- Every commit of an End leaves an accepted journal and can be resumed. -/
theorem EndCommand.commits
    (haccepted : AcceptedRoot hash sessionId store journal)
    {interrupted : GovernanceActivationStore}
    (hstop : interrupted ∈ (command.call hash sessionId store).commits) :
    (∃ next, AcceptedRoot hash sessionId interrupted next) ∧
      (endOperation hash sessionId).Resumes hash sessionId command store
        interrupted := by
  obtain ⟨current, hlast, hstatus, hbinding⟩ :=
    EndCommand.call_of_commits haccepted hstop
  rcases hstatus with hactive | hending
  · exact EndCommand.commits_active haccepted hlast hactive hbinding hstop
  · exact EndCommand.commits_ending haccepted hlast hending hbinding hstop

end

/-! ### Runs of interrupted calls -/

/-- A call in a run, stopped after some number of its commits. -/
inductive StoppedCall where
  | start (command : StartCommand) (commits : Nat)
  | finish (command : EndCommand) (commits : Nat)

def StoppedCall.run (hash : RecordHash) (sessionId : String)
    (store : GovernanceActivationStore) : StoppedCall → GovernanceActivationStore
  | .start command commits =>
      (command.call hash sessionId store).stoppedAfter store commits
  | .finish command commits =>
      (command.call hash sessionId store).stoppedAfter store commits

def runCalls (hash : RecordHash) (sessionId : String)
    (store : GovernanceActivationStore) (calls : List StoppedCall) :
    GovernanceActivationStore :=
  calls.foldl (StoppedCall.run hash sessionId) store

/-- A Start leaves the reader room for the revision it opens. -/
def StoppedCall.WithinBound (hash : RecordHash) (sessionId : String)
    (store : GovernanceActivationStore) : StoppedCall → Prop
  | .start _ _ => ∀ journal, readJournal hash store sessionId = .ok journal →
      journal.history.length ≠ verificationBound
  | .finish _ _ => True

/-- Every call of a run meets the condition at the store it finds. -/
def CallsWithinBound (hash : RecordHash) (sessionId : String) :
    GovernanceActivationStore → List StoppedCall → Prop
  | _, [] => True
  | store, call :: rest =>
      call.WithinBound hash sessionId store ∧
        CallsWithinBound hash sessionId (call.run hash sessionId store) rest

section

variable {hash : RecordHash} {sessionId : String} {store : GovernanceActivationStore}
  {journal : Journal}

theorem RootCall.stoppedAfter_cases {Answer : Type} (call : RootCall Answer)
    (commits : Nat) :
    call.stoppedAfter store commits = store ∨
      call.stoppedAfter store commits ∈ call.commits := by
  rw [RootCall.stoppedAfter]
  cases hlast : (call.commits.take commits).getLast? with
  | none => exact .inl rfl
  | some written =>
      exact .inr (List.mem_of_mem_take (List.mem_of_getLast? hlast))

/-- The step lemma: a stopped call keeps an accepted root journal accepted. -/
theorem AcceptedRoot.run (haccepted : AcceptedRoot hash sessionId store journal)
    {call : StoppedCall} (hbound : call.WithinBound hash sessionId store) :
    ∃ next, AcceptedRoot hash sessionId (call.run hash sessionId store) next := by
  cases call with
  | start command commits =>
      rw [StoppedCall.run]
      rcases (command.call hash sessionId store).stoppedAfter_cases commits with
        hsame | hstop
      · rw [hsame]
        exact ⟨journal, haccepted⟩
      · exact (StartCommand.commits haccepted
          (hbound journal (readJournal_eq_ok.mpr haccepted.read)) hstop).1
  | finish command commits =>
      rw [StoppedCall.run]
      rcases (command.call hash sessionId store).stoppedAfter_cases commits with
        hsame | hstop
      · rw [hsame]
        exact ⟨journal, haccepted⟩
      · exact (EndCommand.commits haccepted hstop).1

/-- The run lemma. -/
theorem AcceptedRoot.runCalls (haccepted : AcceptedRoot hash sessionId store journal)
    {calls : List StoppedCall} (hbound : CallsWithinBound hash sessionId store calls) :
    ∃ next, AcceptedRoot hash sessionId (runCalls hash sessionId store calls) next := by
  induction calls generalizing store journal with
  | nil => exact ⟨journal, haccepted⟩
  | cons call rest ih =>
      obtain ⟨next, hnext⟩ := haccepted.run hbound.1
      exact ih hnext hbound.2

end

/-- Interrupted Start and End calls resume.  In every run of stopped calls from an
accepted root journal whose Starts stay within the verification bound, the reached
store is accepted, and whatever call comes next is resumed after each of its
commits. -/
theorem interrupted_calls_resume {hash : RecordHash} {sessionId : String}
    {store : GovernanceActivationStore} {journal : Journal} {calls : List StoppedCall}
    (hread : readJournal hash store sessionId = .ok journal)
    (hroot : ∀ first ∈ journal.history.head?, first.parentDispatch = none)
    (hbound : CallsWithinBound hash sessionId store calls) :
    ∃ reached,
      readJournal hash (runCalls hash sessionId store calls) sessionId = .ok reached ∧
      (∀ (command : StartCommand) (interrupted : GovernanceActivationStore),
        reached.history.length ≠ verificationBound →
        interrupted ∈
          (command.call hash sessionId (runCalls hash sessionId store calls)).commits →
        (startOperation hash sessionId).Resumes hash sessionId command
          (runCalls hash sessionId store calls) interrupted) ∧
      (∀ (command : EndCommand) (interrupted : GovernanceActivationStore),
        interrupted ∈
          (command.call hash sessionId (runCalls hash sessionId store calls)).commits →
        (endOperation hash sessionId).Resumes hash sessionId command
          (runCalls hash sessionId store calls) interrupted) := by
  have haccepted : AcceptedRoot hash sessionId store journal :=
    ⟨readJournal_eq_ok.mp hread, hroot⟩
  obtain ⟨reached, hreached⟩ := haccepted.runCalls hbound
  refine ⟨reached, readJournal_eq_ok.mpr hreached.read, ?_, ?_⟩
  · intro command interrupted hlength hstop
    exact (StartCommand.commits hreached hlength hstop).2
  · intro command interrupted hstop
    exact (EndCommand.commits hreached hstop).2

/-- The Start that follows the first `number` driven revisions. -/
def Lifecycle.startCommand (number : Nat) : StartCommand where
  request := ⟨"root", "/project", "/project",
    "aaaaaaaaaaaaaaaaaaaaaaaaaaaaaaaaaaaaaaaaaaaaaaaaaaaaaaaaaaaaaaaa"⟩
  source := .hostCommand
  actor := Lifecycle.actor
  decisionId := Lifecycle.decisionId number
  activationId := Lifecycle.activationId (number / 4 + 1)

/-- The store that a first Start leaves when it stops after its first commit. -/
def Lifecycle.stoppedStart : GovernanceActivationStore :=
  runCalls Lifecycle.zeroHash "root" ∅ [.start (Lifecycle.startCommand 0) 1]

theorem interrupted_calls_resume_first_start :
    ∃ reached,
      readJournal Lifecycle.zeroHash Lifecycle.stoppedStart "root" = .ok reached ∧
      (∀ (command : StartCommand) (interrupted : GovernanceActivationStore),
        reached.history.length ≠ verificationBound →
        interrupted ∈
          (command.call Lifecycle.zeroHash "root" Lifecycle.stoppedStart).commits →
        (startOperation Lifecycle.zeroHash "root").Resumes Lifecycle.zeroHash "root"
          command Lifecycle.stoppedStart interrupted) ∧
      ∀ (command : EndCommand) (interrupted : GovernanceActivationStore),
        interrupted ∈
          (command.call Lifecycle.zeroHash "root" Lifecycle.stoppedStart).commits →
        (endOperation Lifecycle.zeroHash "root").Resumes Lifecycle.zeroHash "root"
          command Lifecycle.stoppedStart interrupted := by
  have hempty := (Lifecycle.driven_empty Lifecycle.zeroHash).read
  have hbound : CallsWithinBound Lifecycle.zeroHash "root" ∅
      [.start (Lifecycle.startCommand 0) 1] := by
    refine ⟨?_, trivial⟩
    intro journal hread
    rw [← hempty.unique (readJournal_eq_ok.mp hread)]
    decide
  exact interrupted_calls_resume (readJournal_eq_ok.mpr hempty) (by simp) hbound

/-- A Start on an accepted journal of ten thousand revisions, stopped after its first
commit, leaves a journal the reader rejects. -/
theorem interrupted_calls_resume_counterexample :
    ¬ ∃ hash : RecordHash, ∀ (store : GovernanceActivationStore) (sessionId : String)
      (journal : Journal) (call : StoppedCall),
      readJournal hash store sessionId = .ok journal →
      (∀ first ∈ journal.history.head?, first.parentDispatch = none) →
        ∃ next, readJournal hash (call.run hash sessionId store) sessionId =
          .ok next := by
  rintro ⟨hash, hclaim⟩
  obtain ⟨journal, hdriven⟩ :=
    Lifecycle.driven_run hash verificationBound (Nat.le_refl _)
  have haccepted : AcceptedRoot hash "root" _ journal := ⟨hdriven.read, hdriven.root⟩
  obtain ⟨before, hlast⟩ := hdriven.last (by decide)
  have hadmitted := Lifecycle.admitted_record hdriven (by decide)
  have hexpected : (journal.head.map (·.revision)).getD 0 = verificationBound :=
    hadmitted.expected
  have hinput : startOf journal.history.getLast?
      ((journal.head.map (·.revision)).getD 0)
      (Lifecycle.startCommand verificationBound).request
      (Lifecycle.startCommand verificationBound).activationId =
        Lifecycle.request verificationBound := by
    rw [hlast, hexpected]
    rfl
  have hdecision : (Lifecycle.startCommand verificationBound).authorize "root"
      (Lifecycle.request verificationBound) journal.history.getLast? =
        .ok (Lifecycle.decision verificationBound) := rfl
  have hcall : (Lifecycle.startCommand verificationBound).call hash "root"
      (Lifecycle.run hash verificationBound).store = _ :=
    StartCommand.call_inactive haccepted hlast rfl rfl
  rw [hinput, commitLocked_of_admitted hdecision hadmitted] at hcall
  have hstop : StoppedCall.run hash "root" (Lifecycle.run hash verificationBound).store
      (.start (Lifecycle.startCommand verificationBound) 1) ∈
        ((Lifecycle.startCommand verificationBound).call hash "root"
          (Lifecycle.run hash verificationBound).store).commits := by
    rw [StoppedCall.run, hcall, RootCall.stoppedAfter]
    simp
  obtain ⟨next, hnext⟩ := hclaim _ _ journal
    (.start (Lifecycle.startCommand verificationBound) 1)
    (readJournal_eq_ok.mpr hdriven.read) hdriven.root
  exact StartCommand.commits_at_bound haccepted hdriven.length hstop next hnext

end GovernedRuntime.Activation
