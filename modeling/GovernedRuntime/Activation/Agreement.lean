/-
Commit and resolve agree, over single commits and over whole runs of commits
under the session lock.
-/
import Mathlib.Tactic.IntervalCases
import GovernedRuntime.Activation.Commit

namespace GovernedRuntime.Activation

open Library

section

variable {hash : RecordHash} {store : GovernanceActivationStore} {sessionId : String}
  {authorize : Authorize} {input : GovernanceActivationCommit}
  {record : GovernanceActivationRevision}

theorem resolve_of_journalRead {journal : Journal}
    (h : JournalRead hash store sessionId journal) :
    resolveGovernanceActivation hash store sessionId =
      resolveRecord journal.history.getLast? := by
  rw [resolveGovernanceActivation, readJournal_eq_ok.mpr h]

/-- A commit without faults either leaves the store alone or performs all its
writes and reports the record. -/
theorem commitLocked_nil :
    commitLocked hash store authorize input [] =
      match admitCommit hash store authorize input with
      | .error invalid => (.blocked invalid, store)
      | .ok record => (.committed record, committedStore hash store input record) := by
  unfold commitLocked
  cases admitCommit hash store authorize input with
  | error invalid => rfl
  | ok record => simp [committedStore]

/-- The inversion of a reported commit. -/
theorem commitLocked_committed {written : GovernanceActivationStore}
    (hcommit : commitLocked hash store authorize input [] =
      (.committed record, written)) :
    written = committedStore hash store input record ∧
      ∃ journal decision, authorize input journal.history.getLast? = .ok decision ∧
        Admitted hash store input record journal decision := by
  rw [commitLocked_nil] at hcommit
  cases hok : admitCommit hash store authorize input with
  | error invalid => simp [hok] at hcommit
  | ok admitted =>
      simp only [hok, Prod.mk.injEq, CommitResult.committed.injEq] at hcommit
      obtain ⟨rfl, rfl⟩ := hcommit
      exact ⟨rfl, admitCommit_eq_ok.mp hok⟩

theorem JournalRead.unique {journal journal' : Journal}
    (h : JournalRead hash store sessionId journal)
    (h' : JournalRead hash store sessionId journal') : journal = journal' := by
  have hok := readJournal_eq_ok.mpr h
  rw [readJournal_eq_ok.mpr h', Except.ok.injEq] at hok
  exact hok.symm

end

/-! ### Runs of commits -/

/-- One call of `commitGovernanceActivation`: the writer's port, the request, and
the faults of its writes. -/
structure CommitAttempt where
  authorize : Authorize
  input : GovernanceActivationCommit
  faults : List WriteFault := []

/-- A run: the store it left and the last record reported as committed. -/
structure CommitRun where
  store : GovernanceActivationStore
  reported : Option GovernanceActivationRevision

def CommitRun.empty : CommitRun := ⟨∅, none⟩

def CommitRun.step (hash : RecordHash) (run : CommitRun) (attempt : CommitAttempt) :
    CommitRun :=
  match commitLocked hash run.store attempt.authorize attempt.input attempt.faults with
  | (.committed record, written) => ⟨written, some record⟩
  | (.blocked _, written) => ⟨written, run.reported⟩

def CommitRun.steps (hash : RecordHash) (run : CommitRun)
    (attempts : List CommitAttempt) : CommitRun :=
  attempts.foldl (CommitRun.step hash) run

/-- The reader accepts the store, and the last record it finds is the one that was
reported, as long as that record is within the verification bound. -/
def CommitRun.Agrees (hash : RecordHash) (sessionId : String) (run : CommitRun) :
    Prop :=
  (∀ record ∈ run.reported, record.revision ≤ verificationBound) →
    ∃ journal, JournalRead hash run.store sessionId journal ∧
      journal.history.getLast? = run.reported

theorem CommitRun.agrees_empty (hash : RecordHash) (sessionId : String) :
    CommitRun.empty.Agrees hash sessionId := by
  intro _
  exact ⟨⟨none, []⟩, .pristine rfl rfl fun _ => rfl, rfl⟩

theorem CommitRun.Agrees.step {hash : RecordHash} {sessionId : String}
    {run : CommitRun} (hagrees : run.Agrees hash sessionId)
    {attempt : CommitAttempt} (hsession : attempt.input.sessionId = sessionId)
    (hfaults : attempt.faults = []) :
    (run.step hash attempt).Agrees hash sessionId := by
  rw [CommitRun.step, hfaults, commitLocked_nil]
  cases hok : admitCommit hash run.store attempt.authorize attempt.input with
  | error invalid => exact hagrees
  | ok record =>
      intro hbound
      obtain ⟨journal, decision, _, hadmitted⟩ := admitCommit_eq_ok.mp hok
      refine ⟨_, hsession ▸ hadmitted.journalRead_committedStore
        (hbound record rfl), ?_⟩
      simp

theorem CommitRun.Agrees.steps {hash : RecordHash} {sessionId : String}
    {run : CommitRun} (hagrees : run.Agrees hash sessionId)
    {attempts : List CommitAttempt}
    (hattempts : ∀ attempt ∈ attempts,
      attempt.input.sessionId = sessionId ∧ attempt.faults = []) :
    (run.steps hash attempts).Agrees hash sessionId := by
  induction attempts generalizing run with
  | nil => exact hagrees
  | cons attempt rest ih =>
      obtain ⟨hsession, hfaults⟩ := hattempts attempt List.mem_cons_self
      exact ih (hagrees.step hsession hfaults)
        fun other hother => hattempts other (List.mem_cons_of_mem attempt hother)

/-! ### Journals of every length

The lifecycle drives itself: from the empty store, one commit after another yields
an accepted journal of every length up to the bound, and one more past it. -/

namespace Lifecycle

def actor : GovernanceDecisionActor := ⟨"operator", none, none, .env, .bestEffort⟩

/-- Two activation ids, used in turn. -/
def activationId (generation : Nat) : String :=
  if generation % 2 = 0 then "6f1d2c3b-4a59-4e68-8d77-0123456789ab"
  else "0b9a8f7e-6d5c-4b3a-9f2e-ba9876543210"

/-- Both revisions of a start or end carry this decision. -/
def decisionId (number : Nat) : String :=
  String.ofList (List.replicate (number / 2 + 1) 'd')

def action (number : Nat) : GovernanceActivationAction :=
  match number % 4 with
  | 0 => .start
  | 1 => .activate
  | 2 => .beginEnd
  | _ => .finish

/-- The request for the revision that follows the first `number` ones. -/
def request (number : Nat) : GovernanceActivationCommit where
  action := action number
  expectedRevision := number
  sessionId := "root"
  rootSessionId := "root"
  activationId := activationId (number / 4 + 1)
  generation := number / 4 + 1
  directory := "/project"
  worktreeRoot := "/project"
  policyDigest := "aaaaaaaaaaaaaaaaaaaaaaaaaaaaaaaaaaaaaaaaaaaaaaaaaaaaaaaaaaaaaaaa"
  parentDispatch := none

def decision (number : Nat) : GovernanceActivationDecision :=
  ⟨decisionId number, .hostCommand, actor⟩

def record (journal : Journal) (number : Nat) : GovernanceActivationRevision :=
  draftRevision (request number) journal (decision number)

def attempt (number : Nat) : CommitAttempt where
  authorize := fun _ _ => .ok (decision number)
  input := request number

theorem decisionId_ne {left right : Nat} (hne : left / 2 ≠ right / 2) :
    decisionId left ≠ decisionId right := by
  intro heq
  have hlength := congrArg (fun s => s.toList.length) heq
  simp [decisionId] at hlength
  exact hne hlength

theorem activationId_ne (generation : Nat) :
    activationId (generation + 1) ≠ activationId generation := by
  simp only [activationId]
  rcases Nat.mod_two_eq_zero_or_one generation with hmod | hmod
  · rw [if_neg (by omega), if_pos hmod]
    decide
  · rw [if_pos (by omega), if_neg (by omega)]
    decide

theorem isUuid_activationId (generation : Nat) :
    isUuid (activationId generation) = true := by
  rw [activationId]
  split <;> decide

theorem trim_actor : GovernanceDecisionActor.normalize actor = actor := by
  decide

theorem isNonEmpty_decisionId (number : Nat) :
    isNonEmpty (decisionId number) = true := by
  have hne : decisionId number ≠ "" := by
    intro heq
    have hlength := congrArg (fun s => s.toList.length) heq
    simp [decisionId] at hlength
  simpa [isNonEmpty] using hne

variable {hash : RecordHash} {store : GovernanceActivationStore}

/-- What holds of the journal after the first `number` commits. -/
structure Driven (hash : RecordHash) (store : GovernanceActivationStore)
    (number : Nat) (journal : Journal) : Prop where
  read : JournalRead hash store "root" journal
  length : journal.history.length = number
  decisions : ∀ item ∈ journal.history,
    1 ≤ item.revision ∧ item.revision ≤ number ∧
      item.decisionId = decisionId (item.revision - 1)
  activations : ∀ item ∈ journal.history,
    item.activationId = activationId item.generation
  roots : ∀ item ∈ journal.history, item.parentDispatch = none
  last : 0 < number →
    ∃ before, journal.history.getLast? = some (record before (number - 1))

theorem safeParse_record {journal : Journal} {number : Nat}
    (hread : JournalRead hash store "root" journal)
    (hsafe : number < maxSafeInteger) :
    (record journal number).safeParse = some (record journal number) := by
  have hprevious : (journal.head.map (·.digest)).all isSha256Hex = true := by
    cases hread with
    | pristine => rfl
    | committed head _ _ hvalid =>
        simp only [GovernanceActivationHead.isValid, Bool.and_eq_true] at hvalid
        exact hvalid.2
  have hgeneration : number / 4 + 1 ≤ maxSafeInteger := by omega
  rw [GovernanceActivationRevision.safeParse_eq_some]
  refine ⟨?_, ?_⟩
  · simp only [GovernanceActivationRevision.isValid, record, draftRevision, request,
      decision, isUuid_activationId, isNonEmpty_decisionId, hprevious,
      Bool.and_true, Bool.and_eq_true]
    refine ⟨⟨⟨⟨⟨⟨⟨⟨?_, ?_⟩, ?_⟩, ?_⟩, ?_⟩, ?_⟩, ?_⟩, ?_⟩, rfl⟩
    · decide
    · decide
    · simpa [isPositiveInt] using hgeneration
    · simp only [isPositiveInt, Nat.zero_lt_succ, decide_true, Bool.true_and,
        decide_eq_true_eq]
      exact hsafe
    · decide
    · decide
    · decide
    · decide
  · simp only [record, draftRevision, GovernanceActivationRevision.normalize,
      decision, trim_actor]

theorem transition_record {journal : Journal} {number : Nat}
    (hdriven : Driven hash store number journal) :
    isGovernanceActivationTransition journal.history.getLast?
      (record journal number) = true := by
  rcases Nat.eq_zero_or_pos number with rfl | hpos
  · have hnil : journal.history = [] := List.length_eq_zero_iff.mp hdriven.length
    have hhead : journal.head = none := by
      have hread := hdriven.read
      cases hread with
      | pristine => rfl
      | committed head history hhead hvalid hsession hpending hread =>
          have hlength := (JournalRead.length_le_bound hdriven.read).1
          simp only at hnil
          rw [hnil, List.length_nil] at hlength
          rw [GovernanceActivationHead.isValid, ← hlength] at hvalid
          simp [isPositiveInt] at hvalid
    rw [hnil, List.getLast?_nil, isGovernanceActivationTransition_initial rfl]
    simp [record, draftRevision, request, decision, hhead, action,
      governanceActivationTarget]
  · obtain ⟨before, hlast⟩ := hdriven.last hpos
    rw [hlast, isGovernanceActivationTransition_root rfl]
    refine ⟨⟨rfl, ?_, rfl, by simp [record, draftRevision, decision]⟩, ?_⟩
    · simp only [record, draftRevision, request]
      omega
    · have hcases : number % 4 = 0 ∨ number % 4 = 1 ∨ number % 4 = 2 ∨
          number % 4 = 3 := by omega
      have hinside : number % 4 ≠ 0 →
          SameActivation (record before (number - 1)) (record journal number) := by
        intro hmod
        have hgeneration : (number - 1) / 4 = number / 4 := by omega
        constructor <;> simp [record, draftRevision, request, hgeneration]
      have hpair : number % 2 = 1 →
          SameDecision (record before (number - 1)) (record journal number) := by
        intro hmod
        have hdecision : (number - 1) / 2 = number / 2 := by omega
        constructor <;> simp [record, draftRevision, decision, decisionId, hdecision]
      rcases hcases with hmod | hmod | hmod | hmod
      · have hgeneration : number / 4 = (number - 1) / 4 + 1 := by omega
        refine .restart ?_ ?_ ?_ ?_ rfl fun heq => ?_
        · simp [record, draftRevision, request, action,
            show (number - 1) % 4 = 3 by omega, governanceActivationTarget]
        · simp [record, draftRevision, request, action, hmod,
            governanceActivationTarget]
        · simp [record, draftRevision, request, hgeneration]
        · simpa [record, draftRevision, request, hgeneration] using
            activationId_ne ((number - 1) / 4 + 1)
        · exact absurd heq (decisionId_ne (by omega))
      · refine .activate ?_ ?_ (hinside (by omega)) (hpair (by omega))
        · simp [record, draftRevision, request, action,
            show (number - 1) % 4 = 0 by omega, governanceActivationTarget]
        · simp [record, draftRevision, request, action, hmod,
            governanceActivationTarget]
      · refine .beginEnd ?_ ?_ (hinside (by omega)) (decisionId_ne (by omega))
        · simp [record, draftRevision, request, action,
            show (number - 1) % 4 = 1 by omega, governanceActivationTarget]
        · simp [record, draftRevision, request, action, hmod,
            governanceActivationTarget]
      · refine .finish ?_ ?_ (hinside (by omega)) (hpair (by omega))
        · simp [record, draftRevision, request, action,
            show (number - 1) % 4 = 2 by omega, governanceActivationTarget]
        · simp [record, draftRevision, request, action, hmod,
            governanceActivationTarget]

theorem admitted_record {journal : Journal} {number : Nat}
    (hdriven : Driven hash store number journal) (hsafe : number < maxSafeInteger) :
    Admitted hash store (request number) (record journal number) journal
      (decision number) := by
  refine ⟨hdriven.read, ?_, safeParse_record hdriven.read hsafe,
    transition_record hdriven, ?_, ?_⟩
  · have hread := hdriven.read
    have hlength := hdriven.length
    cases hread with
    | pristine => exact hlength
    | committed head history =>
        exact (JournalRead.length_le_bound hdriven.read).1.symm.trans hlength
  · intro haction item hitem
    obtain ⟨hlow, hhigh, hdecision⟩ := hdriven.decisions item hitem
    rw [hdecision]
    apply decisionId_ne
    have heven : number % 2 = 0 := by
      have hcases : number % 4 = 0 ∨ number % 4 = 1 ∨ number % 4 = 2 ∨
          number % 4 = 3 := by omega
      rcases hcases with hmod | hmod | hmod | hmod <;>
        simp [request, action, hmod] at haction <;> omega
    omega
  · have hread := hdriven.read
    have hlength := hdriven.length
    cases hread with
    | pristine _ _ hrevisions => exact hrevisions _
    | committed head history _ _ _ hpending =>
        apply hpending
        rw [← (JournalRead.length_le_bound hdriven.read).1, hlength]
        exact Nat.lt_succ_self number

theorem Driven.next {journal : Journal} {number : Nat}
    (hdriven : Driven hash store number journal)
    (hbound : number < verificationBound) :
    Driven hash (committedStore hash store (request number) (record journal number))
      (number + 1)
      ⟨some (headOf hash "root" (record journal number)),
        journal.history ++ [record journal number]⟩ := by
  have hadmitted := admitted_record hdriven
    (Nat.lt_trans hbound (by decide))
  refine ⟨hadmitted.journalRead_committedStore ?_, ?_, ?_, ?_, ?_, ?_⟩
  · rw [hadmitted.revision_eq]
    exact hbound
  · simp [hdriven.length]
  · intro item hitem
    rcases List.mem_append.mp hitem with hold | hnew
    · obtain ⟨hlow, hhigh, hdecision⟩ := hdriven.decisions item hold
      exact ⟨hlow, Nat.le_succ_of_le hhigh, hdecision⟩
    · rw [List.mem_singleton.mp hnew]
      exact ⟨Nat.le_add_left 1 number, Nat.le_refl _, rfl⟩
  · intro item hitem
    rcases List.mem_append.mp hitem with hold | hnew
    · exact hdriven.activations item hold
    · rw [List.mem_singleton.mp hnew]
      rfl
  · intro item hitem
    rcases List.mem_append.mp hitem with hold | hnew
    · exact hdriven.roots item hold
    · rw [List.mem_singleton.mp hnew]
      rfl
  · intro _
    exact ⟨journal, by simp⟩

theorem Driven.root {journal : Journal} {number : Nat}
    (hdriven : Driven hash store number journal) :
    ∀ first ∈ journal.history.head?, first.parentDispatch = none :=
  fun first hfirst => hdriven.roots first (List.mem_of_mem_head? hfirst)

/-- The run of the first `number` commits. -/
def run (hash : RecordHash) (number : Nat) : CommitRun :=
  CommitRun.empty.steps hash ((List.range number).map attempt)

theorem run_succ (hash : RecordHash) (number : Nat) :
    run hash (number + 1) = (run hash number).step hash (attempt number) := by
  simp [run, CommitRun.steps, List.range_succ]

theorem admitCommit_attempt {journal : Journal} {number : Nat}
    (hdriven : Driven hash store number journal) (hsafe : number < maxSafeInteger) :
    admitCommit hash store (attempt number).authorize (attempt number).input =
      .ok (record journal number) :=
  admitCommit_eq_ok.mpr ⟨journal, decision number, rfl,
    admitted_record hdriven hsafe⟩

theorem commitLocked_attempt {journal : Journal} {number : Nat}
    (hdriven : Driven hash store number journal) (hsafe : number < maxSafeInteger) :
    commitLocked hash store (attempt number).authorize (attempt number).input [] =
      (.committed (record journal number),
        committedStore hash store (request number) (record journal number)) := by
  rw [commitLocked_nil, admitCommit_attempt hdriven hsafe]
  rfl

theorem run_committed {journal : Journal} {number : Nat}
    (hdriven : Driven hash (run hash number).store number journal)
    (hsafe : number < maxSafeInteger) :
    run hash (number + 1) =
      ⟨committedStore hash (run hash number).store (request number)
        (record journal number), some (record journal number)⟩ := by
  rw [run_succ, CommitRun.step, show (attempt number).faults = [] from rfl,
    commitLocked_attempt hdriven hsafe]

theorem driven_empty (hash : RecordHash) : Driven hash ∅ 0 ⟨none, []⟩ := by
  refine ⟨.pristine rfl rfl fun _ => rfl, rfl, ?_, ?_, ?_, ?_⟩
  · simp
  · simp
  · simp
  · intro hpos
    exact absurd hpos (Nat.lt_irrefl 0)

/-- The driven run reaches an accepted journal of every length up to the bound. -/
theorem driven_run (hash : RecordHash) (number : Nat)
    (hbound : number ≤ verificationBound) :
    ∃ journal, Driven hash (run hash number).store number journal := by
  induction number with
  | zero => exact ⟨⟨none, []⟩, driven_empty hash⟩
  | succ number ih =>
      obtain ⟨journal, hdriven⟩ := ih (Nat.le_of_succ_le hbound)
      refine ⟨⟨some (headOf hash "root" (record journal number)),
        journal.history ++ [record journal number]⟩, ?_⟩
      rw [run_committed hdriven (Nat.lt_of_lt_of_le hbound (by decide))]
      exact hdriven.next hbound

/-- A hash in shape only, to run the journal on. -/
def zeroHash : RecordHash where
  hashText := fun _ =>
    ⟨"0000000000000000000000000000000000000000000000000000000000000000", by decide⟩
  canonicalJsonStringify := fun record => record.decisionId

end Lifecycle

/-- Commit and resolve agree within the verification bound: the journal is read
back extended by exactly the committed record, and resolving answers from that
record; so does every run from an empty store, for the last reported record. -/
theorem commit_then_resolve (hash : RecordHash) (sessionId : String) :
    (∀ (store written : GovernanceActivationStore) (journal : Journal)
      (authorize : Authorize) (input : GovernanceActivationCommit)
      (record : GovernanceActivationRevision),
      input.sessionId = sessionId →
      readJournal hash store sessionId = .ok journal →
      commitLocked hash store authorize input [] = (.committed record, written) →
      record.revision ≤ verificationBound →
        (∃ head, readJournal hash written sessionId =
          .ok ⟨some head, journal.history ++ [record]⟩) ∧
        resolveGovernanceActivation hash written sessionId =
          resolveRecord (some record)) ∧
    (∀ attempts : List CommitAttempt,
      (∀ attempt ∈ attempts,
        attempt.input.sessionId = sessionId ∧ attempt.faults = []) →
      (∀ record ∈ (CommitRun.empty.steps hash attempts).reported,
        record.revision ≤ verificationBound) →
        resolveGovernanceActivation hash
            (CommitRun.empty.steps hash attempts).store sessionId =
          resolveRecord (CommitRun.empty.steps hash attempts).reported) := by
  constructor
  · rintro store written journal authorize input record rfl hread hcommit hbound
    obtain ⟨rfl, before, decision, _, hadmitted⟩ := commitLocked_committed hcommit
    obtain rfl := (readJournal_eq_ok.mp hread).unique hadmitted.read
    have hafter := hadmitted.journalRead_committedStore hbound
    refine ⟨⟨_, readJournal_eq_ok.mpr hafter⟩, ?_⟩
    rw [resolve_of_journalRead hafter]
    simp
  · intro attempts hattempts hbound
    obtain ⟨journal, hread, hlast⟩ :=
      (CommitRun.agrees_empty hash sessionId).steps hattempts hbound
    rw [resolve_of_journalRead hread, hlast]

/-- The sixth commit activates the generation that the fifth one opened. -/
theorem commit_then_resolve_restarted :
    ∃ journal,
      readJournal Lifecycle.zeroHash (Lifecycle.run Lifecycle.zeroHash 5).store "root" =
        .ok journal ∧
      ((∃ head, readJournal Lifecycle.zeroHash
            (Lifecycle.run Lifecycle.zeroHash 6).store "root" =
          .ok ⟨some head, journal.history ++ [Lifecycle.record journal 5]⟩) ∧
        resolveGovernanceActivation Lifecycle.zeroHash
            (Lifecycle.run Lifecycle.zeroHash 6).store "root" =
          .active (Lifecycle.record journal 5)) ∧
      resolveGovernanceActivation Lifecycle.zeroHash
          (Lifecycle.run Lifecycle.zeroHash 6).store "root" =
        resolveRecord (Lifecycle.run Lifecycle.zeroHash 6).reported := by
  obtain ⟨journal, hdriven⟩ := Lifecycle.driven_run Lifecycle.zeroHash 5 (by decide)
  have hread := readJournal_eq_ok.mpr hdriven.read
  have hrun : Lifecycle.run Lifecycle.zeroHash 6 = _ :=
    Lifecycle.run_committed hdriven (by decide)
  have hrevision := (Lifecycle.admitted_record hdriven (by decide)).revision_eq
  have hbound : (Lifecycle.record journal 5).revision ≤ verificationBound := by
    rw [hrevision]
    decide
  refine ⟨journal, hread, ?_, ?_⟩
  · rw [hrun]
    exact (commit_then_resolve Lifecycle.zeroHash "root").1 _ _ _ _ _ _ rfl hread
      (Lifecycle.commitLocked_attempt hdriven (by decide)) hbound
  · refine (commit_then_resolve Lifecycle.zeroHash "root").2
      ((List.range 6).map Lifecycle.attempt) ?_ ?_
    · exact List.forall_mem_map.2 fun _ _ => ⟨rfl, rfl⟩
    · rw [show CommitRun.empty.steps Lifecycle.zeroHash
        ((List.range 6).map Lifecycle.attempt) = _ from hrun]
      simpa using hbound

/-- Resolving does not always return the committed record: an opening revision is
answered with a recovery block, and one revision past the bound is never read
again. -/
theorem commit_then_resolve_counterexample :
    (¬ ∃ hash : RecordHash, ∀ (store written : GovernanceActivationStore)
      (journal : Journal) (authorize : Authorize)
      (input : GovernanceActivationCommit) (record : GovernanceActivationRevision),
      readJournal hash store input.sessionId = .ok journal →
      commitLocked hash store authorize input [] = (.committed record, written) →
        resolveGovernanceActivation hash written input.sessionId = .active record ∨
          resolveGovernanceActivation hash written input.sessionId =
            .inactive (some record)) ∧
    (¬ ∃ hash : RecordHash, ∀ (store written : GovernanceActivationStore)
      (journal : Journal) (authorize : Authorize)
      (input : GovernanceActivationCommit) (record : GovernanceActivationRevision),
      readJournal hash store input.sessionId = .ok journal →
      commitLocked hash store authorize input [] = (.committed record, written) →
        ∃ next, readJournal hash written input.sessionId = .ok next) := by
  constructor
  · rintro ⟨hash, hclaim⟩
    obtain ⟨journal, hdriven⟩ :=
      Lifecycle.driven_run hash 0 (by decide)
    have hcommit := Lifecycle.commitLocked_attempt hdriven (by decide)
    have hresolve := hclaim _ _ _ _ _ _ (readJournal_eq_ok.mpr hdriven.read) hcommit
    have hnext := hdriven.next (by decide)
    rw [show (Lifecycle.attempt 0).input.sessionId = "root" from rfl,
      resolve_of_journalRead hnext.read, List.getLast?_append_of_ne_nil _ (by simp),
      List.getLast?_singleton] at hresolve
    simp [resolveRecord, Lifecycle.record, draftRevision, Lifecycle.request,
      Lifecycle.action, governanceActivationTarget] at hresolve
  · rintro ⟨hash, hclaim⟩
    obtain ⟨journal, hdriven⟩ :=
      Lifecycle.driven_run hash verificationBound (Nat.le_refl _)
    have hcommit := Lifecycle.commitLocked_attempt hdriven (by decide)
    obtain ⟨next, hnext⟩ :=
      hclaim _ _ _ _ _ _ (readJournal_eq_ok.mpr hdriven.read) hcommit
    exact not_journalRead_committedStore (Nat.lt_succ_self verificationBound) next
      (readJournal_eq_ok.mp hnext)

end GovernedRuntime.Activation
