/-
Committing one revision under the session lock (`commitLocked`,
`prepareRevision` in `src/adapters/governance-activation.ts`) and the agreement
of the write path with the read path.
-/
import GovernedRuntime.Library.FaultyWrites
import GovernedRuntime.Activation.Journal

namespace GovernedRuntime.Activation

open Library

structure GovernanceActivationCommit where
  action : GovernanceActivationAction
  expectedRevision : Nat
  sessionId : String
  rootSessionId : String
  activationId : String
  generation : Nat
  directory : String
  worktreeRoot : String
  policyDigest : String
  parentDispatch : Option HostCallIdentity
deriving DecidableEq, Repr

structure GovernanceActivationDecision where
  decisionId : String
  source : DecisionSource
  actor : GovernanceDecisionActor
deriving DecidableEq, Repr

/-- The authorization port of a writer. -/
abbrev Authorize : Type :=
  GovernanceActivationCommit → Option GovernanceActivationRevision →
    Except AuthorityBlocked GovernanceActivationDecision

/-- The revision a commit asks for, before the schema has seen it. -/
def draftRevision (input : GovernanceActivationCommit) (journal : Journal)
    (decision : GovernanceActivationDecision) : GovernanceActivationRevision where
  sessionId := input.sessionId
  rootSessionId := input.rootSessionId
  activationId := input.activationId
  generation := input.generation
  revision := input.expectedRevision + 1
  status := governanceActivationTarget input.action
  directory := input.directory
  worktreeRoot := input.worktreeRoot
  policyDigest := input.policyDigest
  decisionId := decision.decisionId
  decisionSource := decision.source
  decisionActor := decision.actor
  previousDigest := journal.head.map (·.digest)
  parentDispatch := input.parentDispatch

def prepareRevision (input : GovernanceActivationCommit) (journal : Journal)
    (decision : GovernanceActivationDecision) :
    Except AuthorityBlocked GovernanceActivationRevision :=
  match (draftRevision input journal decision).safeParse with
  | none => .error (unavailable "Invalid activation revision input.")
  | some record =>
      if !isGovernanceActivationTransition journal.history.getLast? record then
        .error (unavailable "Activation transition is not admissible.")
      else if (input.action == .start || input.action == .beginEnd) &&
          journal.history.any (·.decisionId == decision.decisionId) then
        .error (unavailable "Activation decision has already been consumed.")
      else .ok record

/-- Everything `commitLocked` checks before its first write. -/
def admitCommit (hash : RecordHash) (store : GovernanceActivationStore)
    (authorize : Authorize) (input : GovernanceActivationCommit) :
    Except AuthorityBlocked GovernanceActivationRevision := do
  let journal ← readJournal hash store input.sessionId
  if (journal.head.map (·.revision)).getD 0 ≠ input.expectedRevision then
    throw (unavailable "Stale or concurrent activation revision.")
  let decision ← authorize input journal.history.getLast?
  let record ← prepareRevision input journal decision
  if (store.lookup (.revision (hash.hashText input.sessionId) record.revision)).isSome
  then
    throw (unavailable
      "Activation revision already exists; append-only history cannot be replaced.")
  return record

/-- The head a committed record selects. -/
def headOf (hash : RecordHash) (sessionId : String)
    (record : GovernanceActivationRevision) : GovernanceActivationHead where
  sessionId := sessionId
  revision := record.revision
  digest := hash.digest record

/-- The writes of a commit, in order: the marker of a first enrollment, the
revision, the head. -/
def commitWrites (hash : RecordHash) (input : GovernanceActivationCommit)
    (record : GovernanceActivationRevision) : List (StoreKey × StoredValue) :=
  let scope := hash.hashText input.sessionId
  (if input.expectedRevision = 0 then
    [(.enrollment scope, .enrollment ⟨input.sessionId, record.activationId⟩)]
  else []) ++
  [(.revision scope record.revision, .revision record),
    (.head scope, .head (headOf hash input.sessionId record))]

def applyWrite (store : GovernanceActivationStore)
    (write : StoreKey × StoredValue) : GovernanceActivationStore :=
  store.insert write.1 write.2

inductive CommitResult where
  | committed (record : GovernanceActivationRevision)
  | blocked (reason : AuthorityBlocked)
deriving DecidableEq

/-- `commitLocked`, with the fault of each store write. -/
def commitLocked (hash : RecordHash) (store : GovernanceActivationStore)
    (authorize : Authorize) (input : GovernanceActivationCommit)
    (faults : List WriteFault) : CommitResult × GovernanceActivationStore :=
  match admitCommit hash store authorize input with
  | .error invalid => (.blocked invalid, store)
  | .ok record =>
      match runWrites applyWrite (commitWrites hash input record) faults store with
      | (written, true) => (.committed record, written)
      | (written, false) =>
          (.blocked (unavailable "Activation commit failed; preserve the journal"),
            written)

/-! ### What an admitted commit is -/

section

variable {hash : RecordHash} {store : GovernanceActivationStore}
  {authorize : Authorize} {input : GovernanceActivationCommit}
  {record : GovernanceActivationRevision}

theorem prepareRevision_eq_ok {journal : Journal}
    {decision : GovernanceActivationDecision} :
    prepareRevision input journal decision = .ok record ↔
      (draftRevision input journal decision).safeParse = some record ∧
        isGovernanceActivationTransition journal.history.getLast? record = true ∧
        ((input.action = .start ∨ input.action = .beginEnd) →
          ∀ item ∈ journal.history, item.decisionId ≠ decision.decisionId) := by
  unfold prepareRevision
  cases hparsed : (draftRevision input journal decision).safeParse with
  | none => simp
  | some parsed =>
      cases htransition : isGovernanceActivationTransition
          journal.history.getLast? parsed with
      | false =>
          simp only [htransition, Bool.not_false, ↓reduceIte, reduceCtorEq,
            Option.some.injEq, false_iff, not_and]
          rintro rfl hcontra
          simp [htransition] at hcontra
      | true =>
          simp only [htransition, Bool.not_true, Bool.false_eq_true, ↓reduceIte,
            Bool.and_eq_true, Bool.or_eq_true, beq_iff_eq, List.any_eq_true,
            Option.some.injEq]
          split
          · rename_i hreplay
            obtain ⟨haction, item, hitem, heq⟩ := hreplay
            simp only [reduceCtorEq, false_iff, not_and]
            intro _ _ hfresh
            exact hfresh haction item hitem heq
          · rename_i hfresh
            simp only [Except.ok.injEq]
            constructor
            · rintro rfl
              refine ⟨rfl, htransition, fun haction item hitem heq => ?_⟩
              exact hfresh ⟨haction, item, hitem, heq⟩
            · exact fun h => h.1

/-- The facts an admitted commit rests on. -/
structure Admitted (hash : RecordHash) (store : GovernanceActivationStore)
    (input : GovernanceActivationCommit) (record : GovernanceActivationRevision)
    (journal : Journal) (decision : GovernanceActivationDecision) : Prop where
  read : JournalRead hash store input.sessionId journal
  expected : (journal.head.map (·.revision)).getD 0 = input.expectedRevision
  parsed : (draftRevision input journal decision).safeParse = some record
  transition :
    isGovernanceActivationTransition journal.history.getLast? record = true
  fresh : input.action = .start ∨ input.action = .beginEnd →
    ∀ item ∈ journal.history, item.decisionId ≠ decision.decisionId
  absent : store.lookup
    (.revision (hash.hashText input.sessionId) record.revision) = none

theorem admitCommit_eq_ok :
    admitCommit hash store authorize input = .ok record ↔
      ∃ journal decision,
        authorize input journal.history.getLast? = .ok decision ∧
          Admitted hash store input record journal decision := by
  constructor
  · intro h
    simp only [admitCommit, bind, Except.bind, pure, Except.pure] at h
    cases hread : readJournal hash store input.sessionId with
    | error invalid => simp [hread] at h
    | ok journal =>
        simp only [hread] at h
        split at h
        · cases h
        · rename_i hexpected
          cases hdecision : authorize input journal.history.getLast? with
          | error invalid => simp [hdecision] at h
          | ok decision =>
              simp only [hdecision] at h
              cases hprepared : prepareRevision input journal decision with
              | error invalid => simp [hprepared] at h
              | ok prepared =>
                  simp only [hprepared] at h
                  split at h
                  · cases h
                  · rename_i habsent
                    cases h
                    obtain ⟨hparsed, htransition, hfresh⟩ :=
                      prepareRevision_eq_ok.mp hprepared
                    exact ⟨journal, decision, hdecision,
                      readJournal_eq_ok.mp hread, by simpa using hexpected,
                      hparsed, htransition, hfresh, by simpa using habsent⟩
  · rintro ⟨journal, decision, hdecision, hadmitted⟩
    have hread := readJournal_eq_ok.mpr hadmitted.read
    have hprepared := prepareRevision_eq_ok.mpr
      ⟨hadmitted.parsed, hadmitted.transition, hadmitted.fresh⟩
    simp [admitCommit, bind, Except.bind, pure, Except.pure, hread,
      hadmitted.expected, hdecision, hprepared, hadmitted.absent]

namespace Admitted

variable {journal : Journal} {decision : GovernanceActivationDecision}
  (h : Admitted hash store input record journal decision)

include h

theorem record_eq : record = (draftRevision input journal decision).normalize :=
  (GovernanceActivationRevision.safeParse_eq_some.mp h.parsed).2

theorem isValid : record.isValid = true := by
  rw [h.record_eq, GovernanceActivationRevision.isValid_normalize]
  exact (GovernanceActivationRevision.safeParse_eq_some.mp h.parsed).1

theorem safeParse : record.safeParse = some record :=
  GovernanceActivationRevision.safeParse_stable h.parsed

theorem sessionId_eq : record.sessionId = input.sessionId := by
  rw [h.record_eq]
  rfl

theorem revision_eq : record.revision = input.expectedRevision + 1 := by
  rw [h.record_eq]
  rfl

theorem status_eq : record.status = governanceActivationTarget input.action := by
  rw [h.record_eq]
  rfl

theorem decisionId_eq : record.decisionId = decision.decisionId := by
  rw [h.record_eq]
  rfl

theorem previousDigest_eq : record.previousDigest = journal.head.map (·.digest) := by
  rw [h.record_eq]
  rfl

theorem length_eq : journal.history.length = input.expectedRevision := by
  rw [← h.expected]
  cases hjournal : journal with
  | mk head history =>
      cases head with
      | none =>
          have hread := hjournal ▸ h.read
          cases hread
          rfl
      | some head => exact (hjournal ▸ h.read).length_le_bound.1

/-- An opening record opens a decision the history has not opened. -/
theorem opening_fresh (hopening : isOpening record = true) :
    record.decisionId ∉ openedDecisions journal.history := by
  have haction : input.action = .start ∨ input.action = .beginEnd := by
    rw [isOpening, h.status_eq] at hopening
    cases haction : input.action <;>
      simp [haction, governanceActivationTarget] at hopening ⊢
  intro hmem
  obtain ⟨item, hitem, _, heq⟩ := mem_openedDecisions.mp hmem
  exact h.fresh haction item hitem (heq.trans h.decisionId_eq)

theorem validateHistory_concat :
    validateHistory (journal.history ++ [record]) = none := by
  exact Activation.validateHistory_concat.mpr
    ⟨h.read.validateHistory, h.transition, h.opening_fresh⟩

end Admitted

/-! ### The store a full commit leaves -/

/-- The store after every write of a commit. -/
def committedStore (hash : RecordHash) (store : GovernanceActivationStore)
    (input : GovernanceActivationCommit) (record : GovernanceActivationRevision) :
    GovernanceActivationStore :=
  (commitWrites hash input record).foldl applyWrite store

@[simp] theorem lookup_head_committedStore :
    (committedStore hash store input record).lookup
        (.head (hash.hashText input.sessionId)) =
      some (.head (headOf hash input.sessionId record)) := by
  simp only [committedStore, commitWrites, List.foldl_append, List.foldl_cons,
    List.foldl_nil, applyWrite, AList.lookup_insert]

theorem lookup_revision_committedStore (number : Nat) :
    (committedStore hash store input record).lookup
        (.revision (hash.hashText input.sessionId) number) =
      if number = record.revision then some (.revision record)
      else store.lookup (.revision (hash.hashText input.sessionId) number) := by
  simp only [committedStore, commitWrites, List.foldl_append, List.foldl_cons,
    List.foldl_nil, applyWrite]
  rw [AList.lookup_insert_ne (by simp)]
  by_cases hsame : number = record.revision
  · rw [if_pos hsame, hsame, AList.lookup_insert]
  · rw [if_neg hsame, AList.lookup_insert_ne (by simpa using hsame)]
    split
    · rw [List.foldl_cons, List.foldl_nil, applyWrite,
        AList.lookup_insert_ne (by simp)]
    · rfl

theorem lookup_enrollment_committedStore :
    (committedStore hash store input record).lookup
        (.enrollment (hash.hashText input.sessionId)) =
      if input.expectedRevision = 0 then
        some (.enrollment ⟨input.sessionId, record.activationId⟩)
      else store.lookup (.enrollment (hash.hashText input.sessionId)) := by
  simp only [committedStore, commitWrites, List.foldl_append, List.foldl_cons,
    List.foldl_nil, applyWrite]
  rw [AList.lookup_insert_ne (by simp), AList.lookup_insert_ne (by simp)]
  split
  · rw [List.foldl_cons, List.foldl_nil, applyWrite, AList.lookup_insert]
  · rfl

namespace Admitted

variable {journal : Journal} {decision : GovernanceActivationDecision}
  (h : Admitted hash store input record journal decision)

include h

theorem readRevision_committedStore :
    readRevision hash (committedStore hash store input record) input.sessionId
      record.revision (hash.digest record) = some record := by
  rw [readRevision_eq_some, lookup_revision_committedStore, if_pos rfl]
  exact ⟨h.safeParse, h.sessionId_eq, rfl, rfl⟩

theorem isEnrollmentBound_committedStore :
    isEnrollmentBound ((committedStore hash store input record).lookup
        (.enrollment (hash.hashText input.sessionId))) input.sessionId
      (journal.history ++ [record]).head? = true := by
  rw [lookup_enrollment_committedStore]
  have hvalid := h.isValid
  simp only [GovernanceActivationRevision.isValid, Bool.and_eq_true, and_assoc] at hvalid
  split
  · rename_i hzero
    have hnil : journal.history = [] := by
      rw [← List.length_eq_zero_iff, h.length_eq, hzero]
    have hsession : isNonEmpty input.sessionId = true := by
      rw [← h.sessionId_eq]
      exact hvalid.1
    simp [isEnrollmentBound, StoredValue.parseEnrollment,
      GovernanceEnrollment.isValid, hsession, hvalid.2.2.1, hnil]
  · rename_i hnonzero
    have hread := h.read
    cases hread with
    | pristine =>
        have hlength := h.length_eq
        simp only [List.length_nil] at hlength
        omega
    | committed _ history _ _ _ _ _ henrollment _ =>
        have hne : history ≠ [] := by
          intro hnil
          have hlength := h.length_eq
          rw [hnil, List.length_nil] at hlength
          omega
        rw [List.head?_append_of_ne_nil _ hne]
        exact henrollment

/-- The reading of the old history is not disturbed by the new revision. -/
theorem readHistory_committedStore (hbound : record.revision ≤ verificationBound) :
    readHistory hash (committedStore hash store input record) input.sessionId
      record.revision (hash.digest record) [] =
        .ok (journal.history ++ [record]) := by
  have hrevision := h.revision_eq
  have hcurrent := h.readRevision_committedStore
  rw [hrevision] at hcurrent hbound ⊢
  rw [readHistory, if_neg (by simp [verificationBound]), hcurrent]
  simp only
  have hbefore : ∀ number ≤ input.expectedRevision,
      (committedStore hash store input record).lookup
          (.revision (hash.hashText input.sessionId) number) =
        store.lookup (.revision (hash.hashText input.sessionId) number) := by
    intro number hle
    rw [lookup_revision_committedStore, if_neg (by omega)]
  rw [readHistory_congr hbefore]
  have hread := h.read
  cases hread with
  | pristine =>
      have hlength := h.length_eq
      simp only [List.length_nil] at hlength
      rw [← hlength]
      rfl
  | committed head history _ _ _ _ hread _ _ =>
      have hexpected := h.expected
      simp only [Option.map_some, Option.getD_some] at hexpected
      rw [h.previousDigest_eq, ← hexpected]
      have hlength : head.revision + ([] ++ [record]).length ≤ verificationBound := by
        simp only [List.nil_append, List.length_singleton]
        omega
      exact readHistory_append hread hlength

/-- The write path and the read path agree: a full commit is read back, up to the
verification bound. -/
theorem journalRead_committedStore (hbound : record.revision ≤ verificationBound) :
    JournalRead hash (committedStore hash store input record) input.sessionId
      ⟨some (headOf hash input.sessionId record), journal.history ++ [record]⟩ := by
  have hvalid := h.isValid
  simp only [GovernanceActivationRevision.isValid, Bool.and_eq_true, and_assoc] at hvalid
  have hsession : isNonEmpty input.sessionId = true := by
    rw [← h.sessionId_eq]
    exact hvalid.1
  refine .committed _ _ lookup_head_committedStore ?_ rfl ?_
    (h.readHistory_committedStore hbound) h.isEnrollmentBound_committedStore
    h.validateHistory_concat
  · simp [GovernanceActivationHead.isValid, headOf, hsession, hvalid.2.2.2.2.1]
  · intro number hlt
    simp only [headOf] at hlt
    rw [lookup_revision_committedStore, if_neg (Nat.ne_of_gt hlt)]
    have hread := h.read
    cases hread with
    | pristine _ _ hrevisions => exact hrevisions number
    | committed head _ _ _ _ hpending _ _ _ =>
        have hexpected := h.expected
        simp only [Option.map_some, Option.getD_some] at hexpected
        apply hpending
        rw [h.revision_eq] at hlt
        omega

end Admitted

/-- Past the bound the committed journal is refused. -/
theorem not_journalRead_committedStore (hbound : verificationBound < record.revision)
    (next : Journal) :
    ¬ JournalRead hash (committedStore hash store input record)
      input.sessionId next := by
  intro hread
  cases hread with
  | pristine hhead => simp at hhead
  | committed head history hhead hvalid hsession hpending hread henrollment hhistory =>
      rw [lookup_head_committedStore] at hhead
      simp only [Option.some.injEq, StoredValue.head.injEq] at hhead
      have hle := readHistory_le_bound (head.revision_pos hvalid) hread
      rw [← hhead] at hle
      simp only [headOf, List.length_nil] at hle
      omega

end

end GovernedRuntime.Activation
