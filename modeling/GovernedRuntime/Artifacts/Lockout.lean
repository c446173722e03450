/-
When the artifacts lock a session out.  The writer accepts any version that carries
the digest of the ticket, the verifier asks for the latest one; an artifact is two
files, and a process may stop between them.
-/

import GovernedRuntime.Artifacts.Growth
import Mathlib.Algebra.Group.Nat.Defs
namespace GovernedRuntime.Artifacts

open GovernedRuntime.Activation (Digest isSha256Hex)
open GovernedRuntime.Library GovernedRuntime.State

variable {encoding : ArtifactEncoding}

/-! ### Conditions on a commit -/

/-- The entries the metadata files of a disk hold. -/
def entriesOnDisk (disk : SessionDisk) (artifactType : ArtifactType) :
    List EvidenceArtifactMeta :=
  (readArtifactVersions disk.artifacts artifactType).toOption.getD []

/-- Two files for each piece of evidence without an artifact. -/
def artifactWrites (disk : SessionDisk) (state : SessionState) : Nat :=
  2 * ((unrecordedTicket (entriesOnDisk disk .ticket) state).length +
    (unrecordedPlan (entriesOnDisk disk .plan) state).length)

/-- The ticket has an artifact, and a later ticket has one too. -/
def returnsToEarlierTicket (disk : SessionDisk) (state : SessionState) : Bool :=
  match state.ticket with
  | none => false
  | some ticket =>
      let contents := (entriesOnDisk disk .ticket).map (·.contentHash)
      contents.contains ticket.digest && contents.getLast? != some ticket.digest

/-- A record digest stands for one content and one time, on disk and in the plan. -/
def PlanCoherent (disk : SessionDisk) (state : SessionState) : Prop :=
  ∀ plan ∈ state.plan, ∀ revision ∈ orderedPlanRevisions plan,
    (∀ entry ∈ entriesOnDisk disk .plan,
      entry.recordDigest = some revision.recordDigest → Records entry revision) ∧
    ∀ other ∈ orderedPlanRevisions plan,
      other.recordDigest = revision.recordDigest →
        other.digest = revision.digest ∧ other.createdAt = revision.createdAt

instance (disk : SessionDisk) (state : SessionState) :
    Decidable (PlanCoherent disk state) := by
  unfold PlanCoherent
  infer_instance

/-- The fault lets all of a number of writes pass. -/
def passesAll (writes : Nat) (fault : Option Fault) : Bool :=
  fault.all fun fault => writes ≤ fault.passes

/-- How many of a number of artifact files stay on disk. -/
def filesLeft (writes : Nat) : Option Fault → Nat
  | none => writes
  | some ⟨passes, .failed⟩ => if writes ≤ passes then writes else 0
  | some fault => min writes fault.effective

/-- Whether the state write behind a number of artifact files takes effect. -/
def stateWritten (writes : Nat) (attempt : CommitAttempt) : Bool :=
  attempt.boundary.isNone && attempt.fault.all fun fault => writes < fault.effective

/-- A commit that leaves no session locked out. -/
structure SafeCommit (disk : SessionDisk) (attempt : CommitAttempt) : Prop where
  /-- The state that becomes the persisted one has the latest ticket. -/
  ticket : stateWritten (artifactWrites disk attempt.state) attempt = true →
    returnsToEarlierTicket disk attempt.state = false
  coherent : passesAll (artifactWrites disk attempt.state) attempt.fault = true →
    PlanCoherent disk attempt.state
  /-- No artifact is left with one file. -/
  paired : 2 ∣ filesLeft (artifactWrites disk attempt.state) attempt.fault
  /-- No new ticket is recorded over a persisted one that stays. -/
  settled : stateWritten (artifactWrites disk attempt.state) attempt = false →
    filesLeft (artifactWrites disk attempt.state) attempt.fault = 0 ∨
      unrecordedTicket (entriesOnDisk disk .ticket) attempt.state = [] ∨
      disk.state.bind (·.ticket) = none

theorem safeCommit_iff {disk : SessionDisk} {attempt : CommitAttempt} :
    SafeCommit disk attempt ↔
      (stateWritten (artifactWrites disk attempt.state) attempt = true →
        returnsToEarlierTicket disk attempt.state = false) ∧
      (passesAll (artifactWrites disk attempt.state) attempt.fault = true →
        PlanCoherent disk attempt.state) ∧
      2 ∣ filesLeft (artifactWrites disk attempt.state) attempt.fault ∧
      (stateWritten (artifactWrites disk attempt.state) attempt = false →
        filesLeft (artifactWrites disk attempt.state) attempt.fault = 0 ∨
          unrecordedTicket (entriesOnDisk disk .ticket) attempt.state = [] ∨
          disk.state.bind (·.ticket) = none) := by
  constructor
  · rintro ⟨hticket, hcoherent, hpaired, hsettled⟩
    exact ⟨hticket, hcoherent, hpaired, hsettled⟩
  · rintro ⟨hticket, hcoherent, hpaired, hsettled⟩
    exact ⟨hticket, hcoherent, hpaired, hsettled⟩

instance (disk : SessionDisk) (attempt : CommitAttempt) :
    Decidable (SafeCommit disk attempt) :=
  decidable_of_iff' _ safeCommit_iff

/-- A state the schema refuses is refused without a write. -/
def SafeAttempt (encoding : ArtifactEncoding) (disk : SessionDisk)
    (attempt : CommitAttempt) : Prop :=
  schemaIssue encoding attempt.state = none → SafeCommit disk attempt

instance (disk : SessionDisk) (attempt : CommitAttempt) :
    Decidable (SafeAttempt encoding disk attempt) :=
  inferInstanceAs (Decidable (_ → _))

def SafeRun (encoding : ArtifactEncoding) (disk : SessionDisk) :
    List CommitAttempt → Prop
  | [] => True
  | attempt :: rest =>
      SafeAttempt encoding disk attempt ∧
        SafeRun encoding (commitPreparedStateWithArtifacts encoding disk attempt).1 rest

theorem filesLeft_of_passesAll {writes : Nat} {fault : Option Fault}
    (hpasses : passesAll writes fault = true) : filesLeft writes fault = writes := by
  rcases fault with _ | ⟨passes, kind⟩
  · rfl
  · have hle : writes ≤ passes := by simpa [passesAll] using hpasses
    cases kind with
    | failed => simp [filesLeft, hle]
    | stoppedBefore => simp [filesLeft, Fault.effective, hle]
    | stoppedAfter =>
        simp only [filesLeft, Fault.effective]
        omega

theorem stateWritten_of_struck {writes : Nat} {attempt : CommitAttempt}
    (hstruck : passesAll writes attempt.fault = false) :
    stateWritten writes attempt = false := by
  obtain ⟨state, boundary, fault⟩ := attempt
  rcases fault with _ | ⟨passes, kind⟩
  · cases hstruck
  · have hlt : passes < writes := by simpa [passesAll] using hstruck
    have hle : Fault.effective ⟨passes, kind⟩ ≤ writes := by
      cases kind <;> simp only [Fault.effective] <;> omega
    simp [stateWritten, hle]

instance decidableSafeRun (encoding : ArtifactEncoding) (disk : SessionDisk) :
    (attempts : List CommitAttempt) → Decidable (SafeRun encoding disk attempts)
  | [] => isTrue trivial
  | attempt :: rest =>
      have := decidableSafeRun encoding
        (commitPreparedStateWithArtifacts encoding disk attempt).1 rest
      inferInstanceAs (Decidable (_ ∧ _))

/-! ### Closed forms -/

/-- The disk holds a ledger, and the ledger vouches for the persisted state. -/
structure Kept (ledger : Ledger encoding) (disk : SessionDisk) : Prop where
  artifacts : disk.artifacts = ledger.files
  vouches : ∀ state, disk.state = some state → ledger.Vouches state

theorem Kept.entries_eq {ledger : Ledger encoding} {disk : SessionDisk}
    (hkept : Kept ledger disk) (artifactType : ArtifactType) :
    entriesOnDisk disk artifactType = ledger.entries artifactType := by
  rw [entriesOnDisk, hkept.artifacts, ledger.readArtifactVersions_files]
  rfl

/-- What materialisation does to a disk that holds a ledger: it reaches the ledger
`after`, by the files of the artifacts `added`. -/
structure Materialises (ledger after : Ledger encoding) (added : List (Artifact encoding))
    (disk : SessionDisk) (state : SessionState) : Prop where
  growth : Growth ledger after added (unrecordedTicket (ledger.entries .ticket) state)
    (unrecordedPlan (ledger.entries .plan) state)
  length : (added.flatMap Artifact.files).length = artifactWrites disk state
  run : ∀ fault, materializeTicketAndPlan encoding ⟨disk.artifacts, [], fault⟩ state =
    (FileWriter.writeAll ⟨disk.artifacts, [], fault⟩ artifactWriteFailed
      (added.flatMap Artifact.files)).bind (checkCoverage (after.entries .plan) state)

theorem length_files (artifacts : List (Artifact encoding)) :
    (artifacts.flatMap Artifact.files).length = 2 * artifacts.length := by
  induction artifacts with
  | nil => rfl
  | cons artifact rest ih =>
      rw [List.flatMap_cons, List.length_append, artifact.files_length, ih,
        List.length_cons]
      omega

theorem Kept.materialises {ledger : Ledger encoding} {disk : SessionDisk}
    (hkept : Kept ledger disk) {state : SessionState}
    (hvalid : schemaIssue encoding state = none) :
    ∃ after added, Materialises ledger after added disk state := by
  obtain ⟨after, added, hgrowth, hwrites⟩ := materializeTicketAndPlan_eq ledger hvalid
  refine ⟨after, added, hgrowth, ?_, ?_⟩
  · rw [length_files, hgrowth.length, artifactWrites, hkept.entries_eq,
      hkept.entries_eq]
  · intro fault
    exact hwrites _ hkept.artifacts

/-- A commit struck while it writes artifacts keeps the state and leaves the files
its fault leaves. -/
theorem commit_struck {ledger after : Ledger encoding} {added : List (Artifact encoding)}
    {disk : SessionDisk} {attempt : CommitAttempt}
    (hmaterialises : Materialises ledger after added disk attempt.state)
    (hvalid : schemaIssue encoding attempt.state = none)
    (hstruck : passesAll (artifactWrites disk attempt.state) attempt.fault = false) :
    (commitPreparedStateWithArtifacts encoding disk attempt).1 =
      ⟨disk.artifacts ++ (added.flatMap Artifact.files).take
        (filesLeft (artifactWrites disk attempt.state) attempt.fault), disk.state⟩ := by
  cases hfault : attempt.fault with
  | none => simp [passesAll, hfault] at hstruck
  | some fault =>
      obtain ⟨passes, kind⟩ := fault
      have hpasses : passes < (added.flatMap Artifact.files).length := by
        rw [hmaterialises.length]
        simpa [passesAll, hfault] using hstruck
      obtain ⟨path, last, hlast, hfiles⟩ := FileWriter.writeAll_of_fault
        (⟨disk.artifacts, [], some ⟨passes, kind⟩⟩ : ArtifactWriter) artifactWriteFailed
        rfl hpasses
      have hrun := hmaterialises.run (some ⟨passes, kind⟩)
      have hgrown := materializeTicketAndPlan_grownFrom encoding disk.artifacts
        (some ⟨passes, kind⟩) attempt.state
      rw [hlast] at hrun
      rw [hrun] at hgrown
      rw [commitPreparedStateWithArtifacts, hvalid, hfault]
      simp only [materializeEvidenceArtifacts, hrun, Except.bind]
      rw [hmaterialises.length] at hpasses
      cases kind with
      | failed =>
          have hcleaned : last.files.unlinkAll last.created = disk.artifacts := hgrown.cleanup
          simp [FaultKind.interrupt, cleanupCreatedArtifacts, hcleaned, filesLeft,
            Nat.not_le.2 hpasses]
      | stoppedBefore =>
          simp only [FaultKind.interrupt, hfiles, filesLeft]
          rw [Nat.min_eq_right (by simp [Fault.effective]; omega)]
      | stoppedAfter =>
          simp only [FaultKind.interrupt, hfiles, filesLeft]
          rw [Nat.min_eq_right (by simp [Fault.effective]; omega)]

theorem checkCoverage_eq {ledger : Ledger encoding} {state : SessionState}
    (hcovered : ∀ plan, state.plan = some plan → ∀ revision ∈ orderedPlanRevisions plan,
      ∃ entry ∈ ledger.entries .plan, Records entry revision) (writer : ArtifactWriter) :
    checkCoverage (ledger.entries .plan) state writer = .ok writer := by
  cases hplan : state.plan with
  | none => simp only [checkCoverage, hplan]
  | some plan =>
      have hcoverage := (ledger.assertPlanRevisionCoverage_iff
        (orderedPlanRevisions_ne_nil plan)).2 (hcovered plan hplan)
      simp only [checkCoverage, hplan, checkPlanCoverage, hcoverage]

/-- A commit that writes all its artifacts goes on to the state write. -/
theorem commit_completed {ledger after : Ledger encoding}
    {added : List (Artifact encoding)} {disk : SessionDisk} (attempt : CommitAttempt)
    (hartifacts : disk.artifacts = ledger.files)
    (hmaterialises : Materialises ledger after added disk attempt.state)
    (hvalid : schemaIssue encoding attempt.state = none)
    (hpasses : passesAll (artifactWrites disk attempt.state) attempt.fault = true)
    (hcovered : ∀ plan, attempt.state.plan = some plan →
      ∀ revision ∈ orderedPlanRevisions plan,
        ∃ entry ∈ after.entries .plan, Records entry revision) :
    commitPreparedStateWithArtifacts encoding disk attempt =
      writeStateAlreadyLocked ⟨after.files, disk.state⟩ attempt
        (attempt.fault.map fun fault =>
          ⟨fault.passes - artifactWrites disk attempt.state, fault.kind⟩) := by
  have hscript := FileWriter.writeAll_of_passes
    (⟨disk.artifacts, [], attempt.fault⟩ : ArtifactWriter) artifactWriteFailed
    (show ∀ fault, attempt.fault = some fault →
        (added.flatMap Artifact.files).length ≤ fault.passes by
      intro fault hfault
      rw [hmaterialises.length]
      simpa [passesAll, hfault] using hpasses)
  have hrun := hmaterialises.run attempt.fault
  rw [hscript] at hrun
  simp only [Except.bind, checkCoverage_eq hcovered] at hrun
  rw [commitPreparedStateWithArtifacts, hvalid]
  simp only [materializeEvidenceArtifacts, hrun]
  rw [FileWriter.addAll, hmaterialises.length, hmaterialises.growth.files, hartifacts]

theorem writeStateAlreadyLocked_state (disk : SessionDisk) (attempt : CommitAttempt)
    {writes : Nat} (hpasses : passesAll writes attempt.fault = true) :
    (writeStateAlreadyLocked disk attempt
      (attempt.fault.map fun fault => ⟨fault.passes - writes, fault.kind⟩)).1.state =
      if stateWritten writes attempt then some attempt.state else disk.state := by
  obtain ⟨state, boundary, fault⟩ := attempt
  cases boundary with
  | some message => rfl
  | none =>
      cases fault with
      | none => rfl
      | some fault =>
          obtain ⟨passes, kind⟩ := fault
          have hle : writes ≤ passes := by simpa [passesAll] using hpasses
          obtain ⟨rest, rfl⟩ := Nat.exists_eq_add_of_le hle
          cases rest with
          | zero =>
              cases kind <;> simp [writeStateAlreadyLocked, stateWritten, Fault.effective]
          | succ rest =>
              have hpositive : writes + (rest + 1) - writes = rest + 1 := by omega
              have hwritten : writes < Fault.effective ⟨writes + (rest + 1), kind⟩ := by
                cases kind <;> simp only [Fault.effective] <;> omega
              simp [writeStateAlreadyLocked, stateWritten, hpositive, hwritten]

/-! ### One commit -/

theorem exists_of_forall₂ {α β : Type} {relation : α → β → Prop} {first : List α}
    {second : List β} (hall : first.Forall₂ relation second) {b : β} (hmem : b ∈ second) :
    ∃ a ∈ first, relation a b := by
  induction hall with
  | nil => cases hmem
  | cons hhead _ ih =>
      rcases List.mem_cons.1 hmem with rfl | hrest
      · exact ⟨_, List.mem_cons_self, hhead⟩
      · obtain ⟨a, ha, hrelated⟩ := ih hrest
        exact ⟨a, List.mem_cons_of_mem _ ha, hrelated⟩

/-- A ledger that grows keeps vouching for a state, unless a newer ticket comes over
its own. -/
theorem Ledger.Vouches.grow {ledger after : Ledger encoding}
    {more : List (Artifact encoding)} {state : SessionState}
    (hvouches : ledger.Vouches state)
    (hartifacts : after.artifacts = ledger.artifacts ++ more)
    (hticket : ofType more .ticket = [] ∨ state.ticket = none) : after.Vouches state where
  ticket := by
    intro ticket hstate
    rcases hticket with hnone | hnone
    · rw [Ledger.entries_append hartifacts, hnone, List.map_nil, List.append_nil]
      exact hvouches.ticket ticket hstate
    · rw [hnone] at hstate
      cases hstate
  plan := by
    intro plan hstate revision hrevision
    obtain ⟨entry, hentry, hrecords⟩ := hvouches.plan plan hstate revision hrevision
    refine ⟨entry, ?_, hrecords⟩
    rw [Ledger.entries_append hartifacts]
    exact List.mem_append_left _ hentry

/-- Of a coherent plan, every revision has its record afterwards. -/
theorem covered_after {ledger after : Ledger encoding} {added : List (Artifact encoding)}
    {disk : SessionDisk} {state : SessionState} {tickets : List TicketEvidence}
    (hgrowth : Growth ledger after added tickets
      (unrecordedPlan (ledger.entries .plan) state))
    (hentries : entriesOnDisk disk .plan = ledger.entries .plan)
    (hcoherent : PlanCoherent disk state) :
    ∀ plan, state.plan = some plan → ∀ revision ∈ orderedPlanRevisions plan,
      ∃ entry ∈ after.entries .plan, Records entry revision := by
  intro plan hplan revision hrevision
  obtain ⟨hdisk, hrecord⟩ := hcoherent plan hplan revision hrevision
  rw [Ledger.entries_append hgrowth.artifacts]
  have hrevisions := hgrowth.revisions
  rw [unrecordedPlan, hplan] at hrevisions
  have hcases : some revision.recordDigest ∈ (ledger.entries .plan).map (·.recordDigest) ∨ _ :=
    seen_or_unrecorded hrevision
  rcases hcases with hseen | ⟨kept, hkept, hsame⟩
  · obtain ⟨entry, hentry, hdigest⟩ := List.mem_map.1 hseen
    refine ⟨entry, List.mem_append_left _ hentry, hdisk entry ?_ hdigest⟩
    rw [hentries]
    exact hentry
  · obtain ⟨artifact, hartifact, hdigest, hcontent, hcreated⟩ :=
      exists_of_forall₂ hrevisions hkept
    obtain ⟨hbody, htime⟩ := hrecord kept (mem_of_mem_unrecordedRevisions hkept) hsame
    refine ⟨artifact.entry, List.mem_append_right _ (List.mem_map_of_mem hartifact), ?_, ?_,
      ?_⟩
    · rw [hdigest, hsame]
    · rw [hcontent, hbody]
    · rw [hcreated, htime]

/-- The ticket that becomes the persisted one has the latest artifact. -/
theorem latest_after {ledger after : Ledger encoding} {added : List (Artifact encoding)}
    {disk : SessionDisk} {state : SessionState} {revisions : List PlanEvidence}
    (hgrowth : Growth ledger after added
      (unrecordedTicket (ledger.entries .ticket) state) revisions)
    (hentries : entriesOnDisk disk .ticket = ledger.entries .ticket)
    (hreturns : returnsToEarlierTicket disk state = false) :
    ∀ ticket, state.ticket = some ticket →
      (after.entries .ticket).getLast?.map (·.contentHash) = some ticket.digest := by
  intro ticket hticket
  rw [← List.getLast?_map, hgrowth.ticketEntries, unrecordedTicket, hticket]
  simp only [returnsToEarlierTicket, hticket, hentries] at hreturns
  by_cases hany : (ledger.entries .ticket).any
      (fun entry => entry.contentHash == ticket.digest) = true
  · have hcontains : ((ledger.entries .ticket).map (·.contentHash)).contains
        ticket.digest = true := by
      obtain ⟨entry, hentry, hsame⟩ := List.any_eq_true.1 hany
      rw [List.contains_iff_mem]
      exact List.mem_map.2 ⟨entry, hentry, beq_iff_eq.1 hsame⟩
    rw [hcontains, Bool.true_and] at hreturns
    simp only [hany, if_true, List.map_nil, List.append_nil]
    simpa using hreturns
  · simp [hany]

/-- An even number of files are the files of the first artifacts. -/
theorem take_files (added : List (Artifact encoding)) (count : Nat) :
    (added.flatMap Artifact.files).take (2 * count) =
      (added.take count).flatMap Artifact.files := by
  induction count generalizing added with
  | zero => simp
  | succ count ih =>
      cases added with
      | nil => rfl
      | cons artifact rest =>
          rw [List.flatMap_cons, List.take_succ_cons, List.flatMap_cons, ← ih rest,
            List.take_append, artifact.files_length, List.take_of_length_le]
          · congr 2
          · rw [artifact.files_length]
            omega

theorem ofType_take_eq_nil {added : List (Artifact encoding)} {artifactType : ArtifactType}
    (hnone : ofType added artifactType = []) (count : Nat) :
    ofType (added.take count) artifactType = [] := by
  have hsplit := ofType_append (added.take count) (added.drop count) artifactType
  rw [List.take_append_drop, hnone] at hsplit
  exact (List.append_eq_nil_iff.1 hsplit.symm).1

/-- A safe commit leaves a ledger that vouches for the persisted state. -/
theorem Kept.commit {ledger : Ledger encoding} {disk : SessionDisk}
    (hkept : Kept ledger disk) {attempt : CommitAttempt}
    (hsafe : SafeAttempt encoding disk attempt) :
    ∃ next : Ledger encoding,
      Kept next (commitPreparedStateWithArtifacts encoding disk attempt).1 := by
  cases hvalid : schemaIssue encoding attempt.state with
  | some issue =>
      refine ⟨ledger, ?_⟩
      rw [commitPreparedStateWithArtifacts, hvalid]
      exact hkept
  | none =>
      have hcommit := hsafe hvalid
      obtain ⟨after, added, hmaterialises⟩ := hkept.materialises hvalid
      have hgrowth := hmaterialises.growth
      -- the old ledger grown by `more` vouches for a state that stays
      have hstays : ∀ (next : Ledger encoding) (count : Nat),
          next.artifacts = ledger.artifacts ++ added.take count →
          (count = 0 ∨ unrecordedTicket (entriesOnDisk disk .ticket) attempt.state = [] ∨
            disk.state.bind (·.ticket) = none) →
          ∀ state, disk.state = some state → next.Vouches state := by
        intro next count hartifacts hsettled state hstate
        apply (hkept.vouches state hstate).grow hartifacts
        rcases hsettled with rfl | hnone | hnone
        · exact Or.inl rfl
        · left
          apply ofType_take_eq_nil
          have htickets := hgrowth.tickets
          rw [← hkept.entries_eq, hnone] at htickets
          exact List.map_eq_nil_iff.1 htickets
        · right
          rw [hstate] at hnone
          exact hnone
      cases hpasses : passesAll (artifactWrites disk attempt.state) attempt.fault with
      | false =>
          have hwritten := stateWritten_of_struck hpasses
          obtain ⟨count, hcount⟩ := hcommit.paired
          rw [commit_struck hmaterialises hvalid hpasses, hcount, take_files]
          refine ⟨after.restrict (ledger.artifacts ++ added.take count) (added.drop count) ?_,
            ?_, ?_⟩
          · rw [hgrowth.artifacts, List.append_assoc, List.take_append_drop]
          · simp only [Ledger.files, Ledger.restrict, List.flatMap_append]
            rw [hkept.artifacts]
            rfl
          · apply hstays _ count rfl
            rcases hcommit.settled hwritten with hnone | hrest
            · left
              omega
            · exact Or.inr hrest
      | true =>
          have hcovered := covered_after hgrowth (hkept.entries_eq .plan)
            (hcommit.coherent hpasses)
          rw [commit_completed attempt hkept.artifacts hmaterialises hvalid hpasses hcovered]
          refine ⟨after, writeStateAlreadyLocked_artifacts _ _ _, ?_⟩
          rw [writeStateAlreadyLocked_state _ _ hpasses]
          cases hwritten : stateWritten (artifactWrites disk attempt.state) attempt with
          | true =>
              rintro state ⟨⟩
              exact ⟨latest_after hgrowth (hkept.entries_eq .ticket)
                (hcommit.ticket hwritten), hcovered⟩
          | false =>
              apply hstays after added.length
              · rw [hgrowth.artifacts, List.take_length]
              · rcases hcommit.settled hwritten with hnone | hrest
                · left
                  rw [filesLeft_of_passesAll hpasses, ← hmaterialises.length,
                    length_files] at hnone
                  omega
                · exact Or.inr hrest

theorem Kept.verifies {ledger : Ledger encoding} {disk : SessionDisk}
    (hkept : Kept ledger disk) {state : SessionState} (hstate : disk.state = some state) :
    verifyEvidenceArtifacts encoding disk.artifacts state = .ok () := by
  rw [hkept.artifacts]
  exact (ledger.verifyEvidenceArtifacts_iff state).2 (hkept.vouches state hstate)

/-- Nothing on disk refuses a valid state with a coherent plan. -/
theorem Kept.commits {ledger : Ledger encoding} {disk : SessionDisk}
    (hkept : Kept ledger disk) {state : SessionState}
    (hvalid : schemaIssue encoding state = none) (hcoherent : PlanCoherent disk state) :
    (commitPreparedStateWithArtifacts encoding disk ⟨state, none, none⟩).2 =
      .committed := by
  obtain ⟨after, added, hmaterialises⟩ := hkept.materialises hvalid
  have hcovered := covered_after hmaterialises.growth (hkept.entries_eq .plan) hcoherent
  rw [commit_completed ⟨state, none, none⟩ hkept.artifacts hmaterialises hvalid rfl
    hcovered]
  rfl

/-! ### Closed runs -/

def hexDigits : Nat → Nat → List Char
  | 0, _ => []
  | count + 1, n => Nat.digitChar (n % 16) :: hexDigits count (n / 16)

theorem hexDigits_length (count n : Nat) : (hexDigits count n).length = count := by
  induction count generalizing n with
  | zero => rfl
  | succ count ih => rw [hexDigits, List.length_cons, ih]

theorem hexDigits_lower (count n : Nat) :
    (hexDigits count n).all isLowerHex = true := by
  have hdigit : ∀ digit < 16, isLowerHex (Nat.digitChar digit) = true := by decide
  induction count generalizing n with
  | zero => rfl
  | succ count ih =>
      rw [hexDigits, List.all_cons, ih, Bool.and_true]
      exact hdigit _ (Nat.mod_lt _ (by decide))

/-- The bytes of a text as a polynomial, in 64 hexadecimal digits. -/
def polynomialDigest (text : String) : Digest :=
  ⟨String.ofList (hexDigits 64 (text.toByteArray.data.toList.foldl
    (fun value byte => (value * 257 + byte.toNat) % 2 ^ 256) 7)), by
    simp only [isSha256Hex, String.toList_ofList, hexDigits_length, hexDigits_lower]
    rfl⟩

def ArtifactEncoding.polynomial : ArtifactEncoding where
  sha256 := polynomialDigest
  stateText state := state.id ++ (state.ticket.map (·.text)).getD ""
  metadataText artifact := artifact.markdownHash
  lineageText lineage :=
    lineage.contentDigest ++ toString lineage.planVersion ++
      lineage.supersedesRecordDigest.getD "" ++ lineage.revisionId

/-- A session with a ticket, recorded at some minute. -/
def ticketedSession (text minute : String) : SessionState :=
  { buildNewHydrateState
      { sessionId := "3d594650-3436-4d2e-8f0a-6c8f5d2f8a11"
        binding := "worktree"
        now := "2024-05-01T08:00:00.000Z"
        policySnapshot :=
          { hash := "a3f1"
            hashVersion := "policy-digest.v4"
            requireHumanGates := true
            allowReducedCeremony := false
            riskTriggerPaths := []
            discoveryHealth := .off
            validationEvidence := .advisory
            allowNoCommands := false
            other := "" }
        activeChecks := []
        claimedTaskClass := none
        initiatedBy := "dev"
        initiatedByIdentity := none
        actorInfo := none
        discoveryDigest := none
        discoverySummary := none
        detectedStack := none
        verificationCandidates := []
        executionSubjectInputsByCandidateId := "" } with
    phase := .ticket
    ticket := some
      { text := text
        digest := ArtifactEncoding.polynomial.hashText text
        createdAt := "2024-05-01T09:" ++ minute ++ ":00.000Z"
        riskDeclaration := .absent
        other := "" } }

def commitOf (state : SessionState) : CommitAttempt := ⟨state, none, none⟩

/-- A plan of one revision, with the digests of its content. -/
def firstPlan (body minute : String) : PlanRecord :=
  let lineage : PlanLineage :=
    { contentDigest := ArtifactEncoding.polynomial.hashText body
      planVersion := 1
      supersedesRecordDigest := none
      originatingReviewObligationId := none
      revisionReason := none
      revisionId := "7c9e6679-7425-40de-944b-e07fc1f90ae7" }
  { current :=
      { body := body
        digest := lineage.contentDigest
        sections := []
        createdAt := "2024-05-01T09:" ++ minute ++ ":00.000Z"
        revisionId := lineage.revisionId
        recordDigest := computeRecordDigest ArtifactEncoding.polynomial.hashText
          ArtifactEncoding.polynomial.lineageText lineage
        planVersion := 1
        supersedesRecordDigest := none
        originatingReviewObligationId := none
        revisionReason := none }
    history := []
    reviewFindings := "[]"
    claimDeclarations := none
    claimSubmissionDiagnostics := none
    claimSubmissionHistory := none
    approvalCertificate := none
    reviewCompletion := .pending }

def plannedSession : SessionState :=
  { ticketedSession "Add login" "00" with
    phase := .plan
    plan := some (firstPlan "Use a form" "20") }

/-! ### Runs -/

theorem commitAll_append (disk : SessionDisk) (before after : List CommitAttempt) :
    commitAll encoding disk (before ++ after) =
      commitAll encoding (commitAll encoding disk before) after :=
  List.foldl_append

theorem Kept.commitAll {ledger : Ledger encoding} {disk : SessionDisk}
    (hkept : Kept ledger disk) {attempts after : List CommitAttempt}
    (hsafe : SafeRun encoding disk (attempts ++ after)) :
    ∃ last : Ledger encoding, Kept last (commitAll encoding disk attempts) := by
  induction attempts generalizing ledger disk with
  | nil => exact ⟨ledger, hkept⟩
  | cons attempt rest ih =>
      obtain ⟨hattempt, hrest⟩ := hsafe
      obtain ⟨next, hnext⟩ := hkept.commit hattempt
      exact ih hnext hrest

theorem kept_empty : Kept (Ledger.empty : Ledger encoding) ⟨[], none⟩ where
  artifacts := rfl
  vouches := by
    intro state hstate
    cases hstate

/-- In a run of safe commits every state on disk is accepted, every valid state with
a coherent plan can be committed next, and no file changes. -/
theorem safeRun_never_locks_out (encoding : ArtifactEncoding)
    (before after : List CommitAttempt)
    (hsafe : SafeRun encoding .empty (before ++ after)) :
    (∀ state, (commitAll encoding .empty before).state = some state →
      verifyEvidenceArtifacts encoding (commitAll encoding .empty before).artifacts state =
        .ok ()) ∧
    (∀ state, schemaIssue encoding state = none →
      PlanCoherent (commitAll encoding .empty before) state →
      (commitPreparedStateWithArtifacts encoding (commitAll encoding .empty before)
        ⟨state, none, none⟩).2 = .committed) ∧
    ∀ path content,
      (commitAll encoding .empty before).artifacts.read path = some content →
      (commitAll encoding .empty (before ++ after)).artifacts.read path = some content := by
  obtain ⟨ledger, hkept⟩ := kept_empty.commitAll hsafe
  refine ⟨?_, ?_, ?_⟩
  · intro state hstate
    exact hkept.verifies hstate
  · intro state hvalid hcoherent
    exact hkept.commits hvalid hcoherent
  · intro path content hread
    rw [commitAll_append]
    exact commitAll_read encoding after hread

/-- A ticket; its plan, stopped before the state write; the plan again; a second
ticket, whose first file cannot be written. -/
def safeAttempts : List CommitAttempt :=
  [commitOf (ticketedSession "Add login" "00"),
    ⟨plannedSession, none, some ⟨2, .stoppedBefore⟩⟩, commitOf plannedSession,
    ⟨ticketedSession "Add logout" "30", none, some ⟨0, .failed⟩⟩]

theorem safeRun_never_locks_out_planned :
    verifyEvidenceArtifacts .polynomial
        (commitAll .polynomial .empty safeAttempts).artifacts plannedSession = .ok () :=
  (safeRun_never_locks_out .polynomial safeAttempts [] (by decide +kernel)).1 plannedSession
    (by decide +kernel)

/-- Two tickets and the first again, uninterrupted. -/
def returningRun : List CommitAttempt :=
  [commitOf (ticketedSession "Add login" "00"), commitOf (ticketedSession "Add logout" "05"),
    commitOf (ticketedSession "Add login" "10")]

/-- A ticket, and a second one whose commit stops after some files. -/
def interruptedRun (passes : Nat) : List CommitAttempt :=
  [commitOf (ticketedSession "Add login" "00"),
    ⟨ticketedSession "Add logout" "05", none, some ⟨passes, .stoppedBefore⟩⟩]

/-- Returning to an earlier ticket, or stopping before the state write, leaves a
persisted state that is refused; stopping between the two files of an artifact leaves
a file that refuses the next ticket. -/
theorem lockout_counterexample :
    requireBoundStateForMutation .polynomial (commitAll .polynomial .empty returningRun) =
        .error (.artifact ⟨.mismatch,
          "Ticket artifact hash mismatch: state=94230ba75ff7 artifact=ace88ea20757"⟩) ∧
    requireBoundStateForMutation .polynomial
        (commitAll .polynomial .empty (interruptedRun 2)) =
        .error (.artifact ⟨.mismatch,
          "Ticket artifact hash mismatch: state=94230ba75ff7 artifact=ace88ea20757"⟩) ∧
    schemaIssue .polynomial (ticketedSession "Add audit" "20") = none ∧
    (commitPreparedStateWithArtifacts .polynomial
      (commitAll .polynomial .empty (interruptedRun 1))
      (commitOf (ticketedSession "Add audit" "20"))).2 =
        .refused (.artifact ⟨.immutable,
          "Refusing to overwrite immutable artifact: artifacts/ticket.v2.md"⟩) :=
  ⟨by decide +kernel, by decide +kernel, by decide +kernel, by decide +kernel⟩

end GovernedRuntime.Artifacts
