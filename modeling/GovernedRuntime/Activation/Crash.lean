/-
Crash safety of the journal: commits whose store writes fail before or after
taking effect, in any number and any order, never roll the authority back and
never make an enrolled session look unenrolled.
-/
import GovernedRuntime.Activation.Agreement

namespace GovernedRuntime.Activation

open Library

/-- A run under faults.  `committed` is the last record every write of which took
effect, `reported` the last one a writer was told about, `touched` whether any
write took effect at all. -/
structure CrashRun where
  store : GovernanceActivationStore
  committed : Option GovernanceActivationRevision
  reported : Option GovernanceActivationRevision
  touched : Bool

def CrashRun.start (store : GovernanceActivationStore) (journal : Journal) :
    CrashRun :=
  ⟨store, journal.history.getLast?, none, journal.head.isSome⟩

def CrashRun.step (hash : RecordHash) (run : CrashRun) (attempt : CommitAttempt) :
    CrashRun :=
  match admitCommit hash run.store attempt.authorize attempt.input with
  | .error _ => run
  | .ok record =>
      let writes := commitWrites hash attempt.input record
      let effective := effectiveWrites writes attempt.faults
      let outcome := commitLocked hash run.store attempt.authorize attempt.input
        attempt.faults
      { store := outcome.2
        committed := if effective = writes.length then some record else run.committed
        reported := match outcome.1 with
          | .committed reported => some reported
          | .blocked _ => run.reported
        touched := run.touched || effective != 0 }

def CrashRun.steps (hash : RecordHash) (run : CrashRun)
    (attempts : List CommitAttempt) : CrashRun :=
  attempts.foldl (CrashRun.step hash) run

/-- What a store can be after faulty commits: unenrolled, torn before its first
head, or selected by the head of the last fully committed record. -/
inductive CrashSafe (hash : RecordHash) (sessionId : String)
    (store : GovernanceActivationStore) :
    Option GovernanceActivationRevision → Bool → Prop where
  | pristine
      (hread : JournalRead hash store sessionId ⟨none, []⟩) :
      CrashSafe hash sessionId store none false
  | torn (touched : Bool)
      (hhead : store.lookup (.head (hash.hashText sessionId)) = none)
      (htorn : (store.lookup (.enrollment (hash.hashText sessionId))).isSome = true) :
      CrashSafe hash sessionId store none touched
  | headed (touched : Bool) (record : GovernanceActivationRevision)
      (hhead : store.lookup (.head (hash.hashText sessionId)) =
        some (.head (headOf hash sessionId record)))
      (hrecord : readRevision hash store sessionId record.revision
        (hash.digest record) = some record) :
      CrashSafe hash sessionId store (some record) touched

section

variable {hash : RecordHash} {sessionId : String} {store : GovernanceActivationStore}
  {committed : Option GovernanceActivationRevision} {touched : Bool}

/-- Every store the reader accepts is a safe start. -/
theorem CrashSafe.of_journalRead {journal : Journal}
    (hread : JournalRead hash store sessionId journal) :
    CrashSafe hash sessionId store journal.history.getLast?
      journal.head.isSome := by
  cases hjournal : journal with
  | mk head history =>
      rw [hjournal] at hread
      cases head with
      | none =>
          cases hread with
          | pristine hhead henrollment hrevisions =>
              exact .pristine (.pristine hhead henrollment hrevisions)
      | some head =>
          obtain ⟨last, hlast, hitem⟩ := hread.getLast_of_head
          obtain ⟨_, _, hrevision, hdigest⟩ := readRevision_eq_some.mp hitem
          cases hread with
          | committed _ _ hhead _ hsession =>
              rw [hlast]
              refine .headed true last ?_ ?_
              · rw [hhead]
                cases head
                simp_all [headOf]
              · rw [hrevision, hdigest]
                exact hitem

/-- A safe store answers with its last fully committed record or not at all. -/
theorem CrashSafe.resolve (h : CrashSafe hash sessionId store committed touched) :
    (∃ reason, resolveGovernanceActivation hash store sessionId = .blocked reason) ∨
      resolveGovernanceActivation hash store sessionId = resolveRecord committed := by
  cases hread : readJournal hash store sessionId with
  | error invalid =>
      left
      exact ⟨invalid, by rw [resolveGovernanceActivation, hread]⟩
  | ok journal =>
      right
      have hjournal := readJournal_eq_ok.mp hread
      rw [resolve_of_journalRead hjournal]
      cases h with
      | pristine hpristine => rw [← hpristine.unique hjournal]; rfl
      | torn _ hhead htorn =>
          cases hjournal with
          | pristine _ henrollment => simp [henrollment] at htorn
          | committed head _ hsome => simp [hhead] at hsome
      | headed _ record hhead hrecord =>
          cases hjournal with
          | pristine hnone => simp [hhead] at hnone
          | committed head history hsome hvalid hsession hpending hhistory hbound
              hvalidate =>
              obtain ⟨last, hlast, hitem⟩ := JournalRead.getLast_of_head
                (.committed head history hsome hvalid hsession hpending hhistory
                  hbound hvalidate)
              rw [hhead, Option.some.injEq, StoredValue.head.injEq] at hsome
              rw [← hsome] at hitem
              simp only [headOf, hrecord, Option.some.injEq] at hitem
              rw [hlast, hitem]

/-- A torn or headed store is never taken for an unenrolled one. -/
theorem CrashSafe.resolve_ne_inactive_none
    (h : CrashSafe hash sessionId store committed true) :
    resolveGovernanceActivation hash store sessionId ≠ .inactive none := by
  rcases h.resolve with ⟨reason, hblocked⟩ | hrecord
  · rw [hblocked]
    simp
  · cases h with
    | torn _ hhead htorn =>
        intro hinactive
        rw [resolveGovernanceActivation] at hinactive
        cases hread : readJournal hash store sessionId with
        | error invalid => simp [hread] at hinactive
        | ok journal =>
            have hjournal := readJournal_eq_ok.mp hread
            cases hjournal with
            | pristine _ henrollment => simp [henrollment] at htorn
            | committed head _ hsome => simp [hhead] at hsome
    | headed _ record =>
        rw [hrecord, resolveRecord]
        split
        · simp
        · split <;> simp

end

/-! ### Prefixes of one commit -/

section

variable {hash : RecordHash} {store : GovernanceActivationStore}
  {input : GovernanceActivationCommit} {record : GovernanceActivationRevision}
  {journal : Journal} {decision : GovernanceActivationDecision}

/-- Every prefix of a first commit leaves the enrollment marker behind. -/
theorem CrashSafe.first_commit (hfirst : input.expectedRevision = 0)
    (hhead : store.lookup (.head (hash.hashText input.sessionId)) = none)
    {effective : Nat} (hpos : 0 < effective) (hshort : effective < 3) :
    CrashSafe hash input.sessionId
      (((commitWrites hash input record).take effective).foldl applyWrite store)
      none true := by
  have hcases : effective = 1 ∨ effective = 2 := by omega
  rcases hcases with rfl | rfl
  · refine .torn true ?_ ?_ <;>
      simp [commitWrites, hfirst, applyWrite, AList.lookup_insert_ne, hhead]
  · refine .torn true ?_ ?_ <;>
      simp [commitWrites, hfirst, applyWrite, AList.lookup_insert_ne, hhead]

/-- A later commit that stops before its head keeps the old record selected. -/
theorem CrashSafe.later_commit {selected : GovernanceActivationRevision}
    (hlater : input.expectedRevision ≠ 0)
    (hhead : store.lookup (.head (hash.hashText input.sessionId)) =
      some (.head (headOf hash input.sessionId selected)))
    (hselected : readRevision hash store input.sessionId selected.revision
      (hash.digest selected) = some selected)
    (hrevision : record.revision ≠ selected.revision) (touched : Bool) :
    CrashSafe hash input.sessionId
      (((commitWrites hash input record).take 1).foldl applyWrite store)
      (some selected) touched := by
  have htake : (commitWrites hash input record).take 1 =
      [(.revision (hash.hashText input.sessionId) record.revision,
        .revision record)] := by
    simp [commitWrites, hlater]
  rw [htake, List.foldl_cons, List.foldl_nil, applyWrite]
  refine .headed touched selected ?_ ?_
  · rw [AList.lookup_insert_ne (by simp)]
    exact hhead
  · rw [readRevision, AList.lookup_insert_ne (by simpa using hrevision.symm)]
    exact hselected

theorem CrashSafe.full_commit
    (h : Admitted hash store input record journal decision) (touched : Bool) :
    CrashSafe hash input.sessionId (committedStore hash store input record)
      (some record) touched :=
  .headed touched record lookup_head_committedStore h.readRevision_committedStore

theorem length_commitWrites :
    (commitWrites hash input record).length =
      if input.expectedRevision = 0 then 3 else 2 := by
  simp only [commitWrites]
  split <;> rfl

/-- An admitted record follows the last fully committed one. -/
theorem CrashSafe.revision_lt {selected : GovernanceActivationRevision}
    {touched : Bool}
    (hsafe : CrashSafe hash input.sessionId store (some selected) touched)
    (h : Admitted hash store input record journal decision) :
    selected.revision < record.revision := by
  have hexpected := h.expected
  have hread := h.read
  cases hsafe with
  | headed _ _ hhead _ =>
      cases hread with
      | pristine hnone => simp [hhead] at hnone
      | committed head _ hsome =>
          rw [hhead, Option.some.injEq, StoredValue.head.injEq] at hsome
          rw [← hsome] at hexpected
          simp only [headOf, Option.map_some, Option.getD_some] at hexpected
          rw [h.revision_eq, ← hexpected]
          exact Nat.lt_succ_self _

/-- The step lemma: any prefix of an admitted commit leaves a safe store. -/
theorem CrashSafe.commit {committed : Option GovernanceActivationRevision}
    {touched : Bool} (hsafe : CrashSafe hash input.sessionId store committed touched)
    (h : Admitted hash store input record journal decision)
    {effective : Nat} (hle : effective ≤ (commitWrites hash input record).length) :
    CrashSafe hash input.sessionId
      (((commitWrites hash input record).take effective).foldl applyWrite store)
      (if effective = (commitWrites hash input record).length then some record
        else committed)
      (touched || effective != 0) := by
  rcases Nat.eq_zero_or_pos effective with rfl | hpos
  · rw [if_neg (by rw [length_commitWrites]; split <;> omega)]
    simpa using hsafe
  · have hnonzero : (touched || effective != 0) = true := by
      simp [Nat.pos_iff_ne_zero.mp hpos]
    rw [hnonzero]
    by_cases hfull : effective = (commitWrites hash input record).length
    · rw [if_pos hfull, hfull, List.take_length]
      exact .full_commit h true
    · rw [if_neg hfull]
      rw [length_commitWrites] at hle hfull
      have hread := h.read
      have hexpected := h.expected
      cases hsafe with
      | pristine hpristine =>
          obtain rfl := hpristine.unique hread
          have hfirst : input.expectedRevision = 0 := hexpected.symm
          rw [if_pos hfirst] at hle hfull
          cases hpristine with
          | pristine hhead => exact .first_commit hfirst hhead hpos (by omega)
      | torn _ hhead htorn =>
          cases hread with
          | pristine _ henrollment => simp [henrollment] at htorn
          | committed head _ hsome => simp [hhead] at hsome
      | headed _ selected hhead hselected =>
          cases hread with
          | pristine hnone => simp [hhead] at hnone
          | committed head _ hsome hvalid =>
              rw [hhead, Option.some.injEq, StoredValue.head.injEq] at hsome
              rw [← hsome] at hexpected hvalid
              simp only [headOf, Option.map_some, Option.getD_some] at hexpected
              have hlater : input.expectedRevision ≠ 0 := by
                rw [← hexpected]
                exact Nat.pos_iff_ne_zero.mp
                  (GovernanceActivationHead.revision_pos hvalid)
              rw [if_neg hlater] at hle hfull
              obtain rfl : effective = 1 := by omega
              refine .later_commit hlater hhead hselected ?_ true
              rw [h.revision_eq, hexpected]
              exact Nat.succ_ne_self _

end

/-! ### Runs -/

/-- The invariant of a run. -/
def CrashRun.Safe (hash : RecordHash) (sessionId : String) (run : CrashRun) : Prop :=
  CrashSafe hash sessionId run.store run.committed run.touched ∧
    ∀ reported ∈ run.reported, ∃ committed ∈ run.committed,
      reported.revision ≤ committed.revision

theorem CrashRun.Safe.step {hash : RecordHash} {sessionId : String} {run : CrashRun}
    (hsafe : run.Safe hash sessionId) {attempt : CommitAttempt}
    (hsession : attempt.input.sessionId = sessionId) :
    (run.step hash attempt).Safe hash sessionId := by
  subst hsession
  rw [CrashRun.step]
  cases hok : admitCommit hash run.store attempt.authorize attempt.input with
  | error invalid => exact hsafe
  | ok record =>
      obtain ⟨journal, decision, _, hadmitted⟩ := admitCommit_eq_ok.mp hok
      have hstep := hsafe.1.commit hadmitted
        (effectiveWrites_le (commitWrites hash attempt.input record) attempt.faults)
      rw [← runWrites_fst] at hstep
      cases hwrites : runWrites applyWrite (commitWrites hash attempt.input record)
          attempt.faults run.store with
      | mk written finished =>
          rw [hwrites] at hstep
          cases finished with
          | true =>
              have hall := effectiveWrites_of_runWrites applyWrite (by rw [hwrites])
              simp only [commitLocked, hok, hwrites]
              refine ⟨hstep, ?_⟩
              intro reported hreported
              refine ⟨record, by simp [hall], ?_⟩
              rw [Option.mem_some.mp hreported]
          | false =>
              simp only [commitLocked, hok, hwrites]
              refine ⟨hstep, ?_⟩
              intro reported hreported
              obtain ⟨committed, hcommitted, hle⟩ := hsafe.2 reported hreported
              split
              · refine ⟨record, rfl, Nat.le_trans hle ?_⟩
                have hselected := hsafe.1
                rw [Option.mem_def.mp hcommitted] at hselected
                exact Nat.le_of_lt (hselected.revision_lt hadmitted)
              · exact ⟨committed, hcommitted, hle⟩

theorem CrashRun.Safe.steps {hash : RecordHash} {sessionId : String} {run : CrashRun}
    (hsafe : run.Safe hash sessionId) {attempts : List CommitAttempt}
    (hsession : ∀ attempt ∈ attempts, attempt.input.sessionId = sessionId) :
    (run.steps hash attempts).Safe hash sessionId := by
  induction attempts generalizing run with
  | nil => exact hsafe
  | cons attempt rest ih =>
      exact ih (hsafe.step (hsession attempt List.mem_cons_self))
        fun other hother => hsession other (List.mem_cons_of_mem attempt hother)

theorem CrashRun.safe_start {hash : RecordHash} {sessionId : String}
    {store : GovernanceActivationStore} {journal : Journal}
    (hread : JournalRead hash store sessionId journal) :
    (CrashRun.start store journal).Safe hash sessionId := by
  refine ⟨.of_journalRead hread, ?_⟩
  intro reported hreported
  simp [CrashRun.start] at hreported

/-- Crash safety over whole runs: the resolver answers with the last fully committed
record or blocks; a touched journal is never taken for an unenrolled session; no
answer is older than a record some writer was told about. -/
theorem resolve_after_crashes {hash : RecordHash} {sessionId : String}
    {store : GovernanceActivationStore} {journal : Journal}
    {attempts : List CommitAttempt} {run : CrashRun}
    (hread : readJournal hash store sessionId = .ok journal)
    (hsession : ∀ attempt ∈ attempts, attempt.input.sessionId = sessionId)
    (hrun : (CrashRun.start store journal).steps hash attempts = run) :
    ((∃ reason,
        resolveGovernanceActivation hash run.store sessionId = .blocked reason) ∨
      resolveGovernanceActivation hash run.store sessionId =
        resolveRecord run.committed) ∧
    (run.touched = true →
      resolveGovernanceActivation hash run.store sessionId ≠ .inactive none) ∧
    (∀ answer, (resolveGovernanceActivation hash run.store sessionId =
          .active answer ∨
        resolveGovernanceActivation hash run.store sessionId =
          .inactive (some answer)) →
      run.committed = some answer ∧
        ∀ reported ∈ run.reported, reported.revision ≤ answer.revision) := by
  have hsafe := (CrashRun.safe_start (readJournal_eq_ok.mp hread)).steps hsession
  rw [hrun] at hsafe
  obtain ⟨hstore, hreported⟩ := hsafe
  refine ⟨hstore.resolve, ?_, ?_⟩
  · intro htouched
    rw [htouched] at hstore
    exact hstore.resolve_ne_inactive_none
  · intro answer hanswer
    have hcommitted : run.committed = some answer := by
      rcases hstore.resolve with ⟨reason, hblocked⟩ | hrecord
      · simp [hblocked] at hanswer
      · rw [hrecord] at hanswer
        exact eq_of_resolveRecord hanswer
    refine ⟨hcommitted, ?_⟩
    intro reported hmem
    obtain ⟨committed, hselected, hle⟩ := hreported reported hmem
    rw [hcommitted, Option.mem_some] at hselected
    rwa [hselected]

/-- A first start that stops right after its enrollment marker. -/
theorem resolve_after_crashes_first_start :
    resolveGovernanceActivation Lifecycle.zeroHash
      ((CrashRun.start ∅ ⟨none, []⟩).steps Lifecycle.zeroHash
        [{ Lifecycle.attempt 0 with faults := [.after] }]).store "root" ≠
      .inactive none := by
  have hread : readJournal Lifecycle.zeroHash ∅ "root" = .ok ⟨none, []⟩ :=
    readJournal_eq_ok.mpr (Lifecycle.driven_empty _).read
  have hok : admitCommit Lifecycle.zeroHash ∅ (Lifecycle.attempt 0).authorize
      (Lifecycle.attempt 0).input = .ok (Lifecycle.record ⟨none, []⟩ 0) :=
    Lifecycle.admitCommit_attempt (Lifecycle.driven_empty _) (by decide)
  refine (resolve_after_crashes hread (by simp [Lifecycle.attempt,
    Lifecycle.request]) rfl).2.1 ?_
  simp only [CrashRun.steps, List.foldl_cons, List.foldl_nil, CrashRun.start,
    CrashRun.step, hok]
  rfl

end GovernedRuntime.Activation
