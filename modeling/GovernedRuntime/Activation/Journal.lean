/-
The journal of one session in the host storage and its verified reading
(`readJournal`, `readHistory`, `resolveGovernanceActivation` in
`src/adapters/governance-activation.ts`).
-/
import Mathlib.Data.List.AList
import GovernedRuntime.Activation.History

namespace GovernedRuntime.Activation

/-- The two primitives behind `digest(record)`: the SHA-256 of a text and the
canonical JSON text of a record.  Everything below holds for any such pair. -/
structure RecordHash where
  hashText : String → Digest
  canonicalJsonStringify : GovernanceActivationRevision → String

/-- `digest(record)`. -/
def RecordHash.digest (hash : RecordHash) (record : GovernanceActivationRevision) :
    String :=
  (hash.hashText (hash.canonicalJsonStringify record)).text

@[simp] theorem RecordHash.isSha256Hex_digest (hash : RecordHash)
    (record : GovernanceActivationRevision) :
    isSha256Hex (hash.digest record) = true :=
  Digest.isSha256Hex_text _

/-- `governanceActivationKeys` and `revisionKey`, by the hashed session that scopes
them.  The sixteen padded digits of a revision key hold every safe integer, so the
storage orders revision keys by number. -/
inductive StoreKey where
  | head (scope : Digest)
  | revision (scope : Digest) (number : Nat)
  | enrollment (scope : Digest)
  | audit (scope : Digest)
  | delegation (call : Digest)
deriving DecidableEq

/-- The host key-value storage. -/
abbrev GovernanceActivationStore : Type := AList fun _ : StoreKey => StoredValue

namespace GovernanceActivationStore

/-- The revision keys of a scope after a given one, in key order. -/
def revisionsAfter (store : GovernanceActivationStore) (scope : Digest)
    (after : Option Nat) : List (Nat × StoredValue) :=
  (store.entries.filterMap fun entry =>
    match entry.1 with
    | .revision owner number =>
        if owner = scope ∧ after.all (· < number) then some (number, entry.2)
        else none
    | _ => none).mergeSort fun left right => left.1 ≤ right.1

structure ScanPage where
  entries : List (Nat × StoredValue)
  next : Option Nat

/-- `scan` with the revision prefix of a scope. -/
def scan (store : GovernanceActivationStore) (scope : Digest)
    (after : Option Nat) (limit : Nat) : ScanPage :=
  let found := store.revisionsAfter scope after
  { entries := found.take limit
    next := if limit < found.length then (found.take limit).getLast?.map (·.1)
      else none }

end GovernanceActivationStore

open GovernanceActivationStore

def hasJournalEntries (page : ScanPage) : Bool :=
  page.entries.length != 0 || page.next.isSome

theorem hasJournalEntries_scan {store : GovernanceActivationStore} {scope : Digest}
    {after : Option Nat} :
    hasJournalEntries (store.scan scope after 1) = true ↔
      ∃ number, after.all (· < number) = true ∧
        (store.lookup (.revision scope number)).isSome = true := by
  have hpage : hasJournalEntries (store.scan scope after 1) = true ↔
      store.revisionsAfter scope after ≠ [] := by
    cases hfound : store.revisionsAfter scope after with
    | nil => simp [hasJournalEntries, scan, hfound]
    | cons first rest => simp [hasJournalEntries, scan, hfound]
  rw [hpage, ← List.length_pos_iff, List.length_pos_iff_exists_mem]
  simp only [revisionsAfter, List.mem_mergeSort, List.mem_filterMap]
  constructor
  · rintro ⟨⟨number, value⟩, ⟨key, stored⟩, hmem, hfound⟩
    cases key with
    | revision owner candidate =>
        simp only [Option.ite_none_right_eq_some, Option.some.injEq,
          Prod.mk.injEq] at hfound
        obtain ⟨⟨rfl, hafter⟩, rfl, rfl⟩ := hfound
        exact ⟨candidate, hafter, Option.isSome_iff_exists.mpr
          ⟨stored, AList.mem_lookup_iff.mpr hmem⟩⟩
    | head _ | enrollment _ | audit _ | delegation _ => simp at hfound
  · rintro ⟨number, hafter, hsome⟩
    obtain ⟨stored, hstored⟩ := Option.isSome_iff_exists.mp hsome
    exact ⟨(number, stored), ⟨.revision scope number, stored⟩,
      AList.mem_lookup_iff.mp hstored, by simp [hafter]⟩

/-! ### Reading -/

structure Journal where
  head : Option GovernanceActivationHead
  history : List GovernanceActivationRevision

def isEnrollmentBound (raw : Option StoredValue) (sessionId : String)
    (first : Option GovernanceActivationRevision) : Bool :=
  match raw.bind StoredValue.parseEnrollment with
  | some marker =>
      marker.sessionId == sessionId &&
        some marker.firstActivationId == first.map (·.activationId)
  | none => false

/-- The verification bound of the revision loop. -/
def verificationBound : Nat := 10000

section

variable (hash : RecordHash) (store : GovernanceActivationStore) (sessionId : String)

/-- One body of the revision loop: the item under a revision key, if it parses
and is bound to the session, the number and the expected digest. -/
def readRevision (revision : Nat) (expectedDigest : String) :
    Option GovernanceActivationRevision :=
  ((store.lookup (.revision (hash.hashText sessionId) revision)).bind
      StoredValue.parseRevision).filter fun item =>
    item.sessionId == sessionId && item.revision == revision &&
      hash.digest item == expectedDigest

/-- The revision loop of `readHistory`, from the head's number down to one.  The
source pushes and reverses at the end; here each item goes to the front. -/
def readHistory : Nat → String → List GovernanceActivationRevision →
    Except AuthorityBlocked (List GovernanceActivationRevision)
  | 0, _, history => .ok history
  | revision + 1, expectedDigest, history =>
      if verificationBound ≤ history.length then
        .error (unavailable "Activation journal exceeds the verification bound.")
      else
        match readRevision hash store sessionId (revision + 1) expectedDigest with
        | none => .error (unavailable
            "Activation journal is missing, corrupt or bound to another session.")
        | some item =>
            readHistory revision (item.previousDigest.getD "") (item :: history)

def readJournal : Except AuthorityBlocked Journal :=
  let scope := hash.hashText sessionId
  let enrollment := store.lookup (.enrollment scope)
  match store.lookup (.head scope) with
  | none =>
      if enrollment.isSome || hasJournalEntries (store.scan scope none 1) then
        .error (unavailable
          "Enrollment journal exists without its committed head.")
      else .ok ⟨none, []⟩
  | some raw =>
      match raw.parseHead.filter (·.sessionId == sessionId) with
      | none => .error (unavailable "Invalid or foreign activation head.")
      | some head =>
          if hasJournalEntries (store.scan scope (some head.revision) 1) then
            .error (unavailable
              "An activation transition has not committed its head.")
          else
            match readHistory hash store sessionId head.revision head.digest [] with
            | .error invalid => .error invalid
            | .ok history =>
                if !isEnrollmentBound enrollment sessionId history.head? then
                  .error (unavailable
                    "Enrollment marker is missing, corrupt or foreign to the activation history.")
                else
                  match validateHistory history with
                  | some invalid => .error invalid
                  | none =>
                      if store.lookup (.head scope) ≠ some (.head head) then
                        .error (unavailable
                          "Activation authority changed during verification.")
                      else .ok ⟨some head, history⟩

end

inductive GovernanceActivationResolution where
  | inactive (record : Option GovernanceActivationRevision)
  | active (record : GovernanceActivationRevision)
  | blocked (reason : AuthorityBlocked)
deriving DecidableEq

def Status.text : Status → String
  | .activating => "activating"
  | .active => "active"
  | .ending => "ending"
  | .inactive => "inactive"

/-- What the resolver answers for a journal that ends in a given record. -/
def resolveRecord : Option GovernanceActivationRevision →
    GovernanceActivationResolution
  | none => .inactive none
  | some record =>
      if record.status = .inactive then .inactive (some record)
      else if record.status ≠ .active then
        .blocked (unavailable
          s!"Activation transition is {record.status.text}; recovery is required.")
      else .active record

theorem eq_of_resolveRecord {record : Option GovernanceActivationRevision}
    {answer : GovernanceActivationRevision}
    (hanswer : resolveRecord record = .active answer ∨
      resolveRecord record = .inactive (some answer)) : record = some answer := by
  cases record with
  | none => simp [resolveRecord] at hanswer
  | some record =>
      rw [resolveRecord] at hanswer
      split at hanswer
      · simpa using hanswer
      · split at hanswer
        · simp at hanswer
        · simpa using hanswer

def resolveGovernanceActivation (hash : RecordHash)
    (store : GovernanceActivationStore) (sessionId : String) :
    GovernanceActivationResolution :=
  match readJournal hash store sessionId with
  | .error invalid => .blocked invalid
  | .ok journal => resolveRecord journal.history.getLast?

/-! ### What an accepted reading says -/

section

variable {hash : RecordHash} {store : GovernanceActivationStore} {sessionId : String}

theorem readRevision_eq_some {revision : Nat} {expectedDigest : String}
    {item : GovernanceActivationRevision} :
    readRevision hash store sessionId revision expectedDigest = some item ↔
      (store.lookup (.revision (hash.hashText sessionId) revision)).bind
          StoredValue.parseRevision = some item ∧
        item.sessionId = sessionId ∧ item.revision = revision ∧
        hash.digest item = expectedDigest := by
  simp only [readRevision, Option.filter_eq_some_iff, Bool.and_eq_true,
    beq_iff_eq, and_assoc]

/-- Revisions already collected only push the loop towards its bound. -/
theorem readHistory_append {revision : Nat} {expectedDigest : String}
    {history suffix : List GovernanceActivationRevision}
    {collected : List GovernanceActivationRevision}
    (hread : readHistory hash store sessionId revision expectedDigest collected =
      .ok history)
    (hbound : revision + (collected ++ suffix).length ≤ verificationBound) :
    readHistory hash store sessionId revision expectedDigest (collected ++ suffix) =
      .ok (history ++ suffix) := by
  induction revision generalizing expectedDigest collected with
  | zero =>
      simp only [readHistory, Except.ok.injEq] at hread ⊢
      rw [hread]
  | succ revision ih =>
      have hlow : ¬ verificationBound ≤ (collected ++ suffix).length := by omega
      rw [readHistory, if_neg hlow]
      rw [readHistory] at hread
      split at hread
      · cases hread
      · cases hitem : readRevision hash store sessionId (revision + 1)
            expectedDigest with
        | none => simp [hitem] at hread
        | some item =>
            simp only [hitem] at hread
            have hlength :
                revision + (item :: collected ++ suffix).length ≤ verificationBound := by
              simp only [List.cons_append, List.length_cons]
              omega
            exact ih hread hlength

/-- A record the reader collected is parsed already and bound to the session. -/
structure CollectedRecord (sessionId : String) (item : GovernanceActivationRevision) :
    Prop where
  parsed : item.safeParse = some item
  session : item.sessionId = sessionId

theorem CollectedRecord.isValid {item : GovernanceActivationRevision}
    (h : CollectedRecord sessionId item) : item.isValid = true :=
  (GovernanceActivationRevision.safeParse_eq_some.mp h.parsed).1

theorem CollectedRecord.normalize_actor {item : GovernanceActivationRevision}
    (h : CollectedRecord sessionId item) :
    item.decisionActor.normalize = item.decisionActor := by
  have hnormal := (GovernanceActivationRevision.safeParse_eq_some.mp h.parsed).2
  exact (congrArg (·.decisionActor) hnormal).symm

theorem readRevision_collected {revision : Nat} {expectedDigest : String}
    {item : GovernanceActivationRevision}
    (hitem : readRevision hash store sessionId revision expectedDigest = some item) :
    CollectedRecord sessionId item := by
  obtain ⟨hstored, hsession, _⟩ := readRevision_eq_some.mp hitem
  obtain ⟨stored, _, hparsed⟩ := Option.bind_eq_some_iff.mp hstored
  refine ⟨?_, hsession⟩
  cases stored with
  | revision value => exact GovernanceActivationRevision.safeParse_stable hparsed
  | head _ | enrollment _ | auditConfirmation _ | other _ =>
      simp [StoredValue.parseRevision] at hparsed

theorem readHistory_collected {revision : Nat} {expectedDigest : String}
    {history collected : List GovernanceActivationRevision}
    (hread : readHistory hash store sessionId revision expectedDigest collected =
      .ok history)
    (hcollected : ∀ item ∈ collected, CollectedRecord sessionId item) :
    ∀ item ∈ history, CollectedRecord sessionId item := by
  induction revision generalizing expectedDigest collected with
  | zero =>
      simp only [readHistory, Except.ok.injEq] at hread
      rwa [← hread]
  | succ revision ih =>
      rw [readHistory] at hread
      split at hread
      · cases hread
      · cases hitem : readRevision hash store sessionId (revision + 1)
            expectedDigest with
        | none => simp [hitem] at hread
        | some item =>
            simp only [hitem] at hread
            apply ih hread
            intro other hother
            rcases List.mem_cons.mp hother with rfl | hold
            · exact readRevision_collected hitem
            · exact hcollected other hold

/-- The loop accepts no more than its bound, whatever the store holds. -/
theorem readHistory_le_bound {revision : Nat} {expectedDigest : String}
    {history collected : List GovernanceActivationRevision} (hpos : 0 < revision)
    (hread : readHistory hash store sessionId revision expectedDigest collected =
      .ok history) :
    revision + collected.length ≤ verificationBound := by
  induction revision generalizing expectedDigest collected with
  | zero => omega
  | succ revision ih =>
      rw [readHistory] at hread
      split at hread
      · cases hread
      · rename_i hlow
        split at hread
        · cases hread
        · rcases Nat.eq_zero_or_pos revision with rfl | hnext
          · omega
          · have hrest := ih hnext hread
            simp only [List.length_cons] at hrest
            omega

/-- The loop looks at the revision keys up to its start only. -/
theorem readHistory_congr {store' : GovernanceActivationStore} {revision : Nat}
    {expectedDigest : String} {collected : List GovernanceActivationRevision}
    (hsame : ∀ number ≤ revision,
      store'.lookup (.revision (hash.hashText sessionId) number) =
        store.lookup (.revision (hash.hashText sessionId) number)) :
    readHistory hash store' sessionId revision expectedDigest collected =
      readHistory hash store sessionId revision expectedDigest collected := by
  induction revision generalizing expectedDigest collected with
  | zero => rfl
  | succ revision ih =>
      rw [readHistory, readHistory, readRevision, readRevision,
        hsame (revision + 1) (Nat.le_refl _)]
      split
      · rfl
      · split
        · rfl
        · exact ih fun number hle => hsame number (by omega)

/-- An accepted loop collected one item for each number, ending in the item the
expected digest names. -/
theorem readHistory_shape {revision : Nat} {expectedDigest : String}
    {history collected : List GovernanceActivationRevision}
    (hread : readHistory hash store sessionId revision expectedDigest collected =
      .ok history) :
    history.length = revision + collected.length ∧
      (collected = [] → 0 < revision →
        ∃ last, history.getLast? = some last ∧
          readRevision hash store sessionId revision expectedDigest = some last) ∧
      (∀ last, collected.getLast? = some last → history.getLast? = some last) := by
  induction revision generalizing expectedDigest collected with
  | zero =>
      simp only [readHistory, Except.ok.injEq] at hread
      subst hread
      simp
  | succ revision ih =>
      rw [readHistory] at hread
      split at hread
      · cases hread
      · cases hitem : readRevision hash store sessionId (revision + 1)
            expectedDigest with
        | none => simp [hitem] at hread
        | some item =>
            simp only [hitem] at hread
            obtain ⟨hlength, _, hlast⟩ := ih hread
            refine ⟨by simp only [hlength, List.length_cons]; omega, ?_, ?_⟩
            · rintro rfl _
              exact ⟨item, hlast item rfl, rfl⟩
            · intro last hcollected
              apply hlast last
              cases collected with
              | nil => simp at hcollected
              | cons next rest =>
                  rw [List.getLast?_cons_cons]
                  exact hcollected

/-- The two ways the reader accepts a store. -/
inductive JournalRead (hash : RecordHash) (store : GovernanceActivationStore)
    (sessionId : String) : Journal → Prop where
  | pristine
      (hhead : store.lookup (.head (hash.hashText sessionId)) = none)
      (henrollment : store.lookup (.enrollment (hash.hashText sessionId)) = none)
      (hrevisions : ∀ number,
        store.lookup (.revision (hash.hashText sessionId) number) = none) :
      JournalRead hash store sessionId ⟨none, []⟩
  | committed (head : GovernanceActivationHead)
      (history : List GovernanceActivationRevision)
      (hhead : store.lookup (.head (hash.hashText sessionId)) = some (.head head))
      (hvalid : head.isValid = true) (hsession : head.sessionId = sessionId)
      (hpending : ∀ number, head.revision < number →
        store.lookup (.revision (hash.hashText sessionId) number) = none)
      (hread : readHistory hash store sessionId head.revision head.digest [] =
        .ok history)
      (henrollment : isEnrollmentBound
        (store.lookup (.enrollment (hash.hashText sessionId))) sessionId
          history.head? = true)
      (hhistory : validateHistory history = none) :
      JournalRead hash store sessionId ⟨some head, history⟩

theorem hasJournalEntries_scan_eq_false {scope : Digest} {after : Option Nat} :
    hasJournalEntries (store.scan scope after 1) = false ↔
      ∀ number, after.all (· < number) = true →
        store.lookup (.revision scope number) = none := by
  rw [← Bool.not_eq_true, hasJournalEntries_scan]
  simp only [not_exists, not_and, Bool.not_eq_true, Option.isSome_eq_false_iff,
    Option.isNone_iff_eq_none]

theorem parseHead_eq_some {raw : StoredValue} {head : GovernanceActivationHead} :
    raw.parseHead.filter (·.sessionId == sessionId) = some head ↔
      raw = .head head ∧ head.isValid = true ∧ head.sessionId = sessionId := by
  rw [Option.filter_eq_some_iff]
  cases raw with
  | head value =>
      simp only [StoredValue.parseHead, Option.ite_none_right_eq_some,
        Option.some.injEq, beq_iff_eq, StoredValue.head.injEq]
      constructor
      · rintro ⟨⟨hvalid, rfl⟩, hsession⟩
        exact ⟨rfl, hvalid, hsession⟩
      · rintro ⟨rfl, hvalid, hsession⟩
        exact ⟨⟨hvalid, rfl⟩, hsession⟩
  | revision _ | enrollment _ | auditConfirmation _ | other _ =>
      simp [StoredValue.parseHead]

/-- The inversion of an accepted reading. -/
theorem readJournal_eq_ok {journal : Journal} :
    readJournal hash store sessionId = .ok journal ↔
      JournalRead hash store sessionId journal := by
  constructor
  · intro h
    simp only [readJournal] at h
    cases hhead : store.lookup (.head (hash.hashText sessionId)) with
    | none =>
        simp only [hhead] at h
        split at h
        · cases h
        · rename_i hempty
          simp only [Bool.or_eq_true, not_or, Option.isSome_iff_ne_none, ne_eq,
            not_not, Bool.not_eq_true, hasJournalEntries_scan_eq_false] at hempty
          cases h
          exact .pristine hhead hempty.1 fun number => hempty.2 number rfl
    | some raw =>
        simp only [hhead] at h
        cases hparsed : raw.parseHead.filter (·.sessionId == sessionId) with
        | none => simp [hparsed] at h
        | some head =>
            obtain ⟨rfl, hvalid, hsession⟩ := parseHead_eq_some.mp hparsed
            simp only [hparsed] at h
            split at h
            · cases h
            · rename_i hpending
              rw [Bool.not_eq_true, hasJournalEntries_scan_eq_false] at hpending
              cases hread : readHistory hash store sessionId head.revision
                  head.digest [] with
              | error invalid => simp [hread] at h
              | ok history =>
                  simp only [hread] at h
                  split at h
                  · cases h
                  · rename_i hbound
                    cases hvalidate : validateHistory history with
                    | some invalid => simp [hvalidate] at h
                    | none =>
                        simp only [hvalidate, ne_eq, not_true_eq_false,
                          ↓reduceIte] at h
                        cases h
                        exact .committed head history hhead hvalid hsession
                          (fun number hlt => hpending number (by simpa using hlt))
                          hread (by simpa using hbound) hvalidate
  · intro h
    cases h with
    | pristine hhead henrollment hrevisions =>
        have hscan : hasJournalEntries
            (store.scan (hash.hashText sessionId) none 1) = false :=
          hasJournalEntries_scan_eq_false.mpr fun number _ => hrevisions number
        simp [readJournal, hhead, henrollment, hscan]
    | committed head history hhead hvalid hsession hpending hread henrollment
        hhistory =>
        have hscan : hasJournalEntries (store.scan (hash.hashText sessionId)
            (some head.revision) 1) = false :=
          hasJournalEntries_scan_eq_false.mpr fun number hlt =>
            hpending number (by simpa using hlt)
        have hparsed : (StoredValue.head head).parseHead.filter
            (·.sessionId == sessionId) = some head :=
          parseHead_eq_some.mpr ⟨rfl, hvalid, hsession⟩
        simp [readJournal, hhead, hparsed, hscan, hread, henrollment, hhistory]

/-- The last record of an accepted journal is the one its head selects. -/
theorem JournalRead.getLast_of_head {head : GovernanceActivationHead}
    {history : List GovernanceActivationRevision}
    (h : JournalRead hash store sessionId ⟨some head, history⟩) :
    ∃ last, history.getLast? = some last ∧
      readRevision hash store sessionId head.revision head.digest = some last := by
  cases h with
  | committed _ _ _ hvalid _ _ hread _ _ =>
      exact (readHistory_shape hread).2.1 rfl (head.revision_pos hvalid)

theorem JournalRead.validateHistory {journal : Journal}
    (h : JournalRead hash store sessionId journal) :
    validateHistory journal.history = none := by
  cases h with
  | pristine => rfl
  | committed _ _ _ _ _ _ _ _ hhistory => exact hhistory

theorem JournalRead.collected {journal : Journal}
    (h : JournalRead hash store sessionId journal) :
    ∀ item ∈ journal.history, CollectedRecord sessionId item := by
  cases h with
  | pristine => simp
  | committed _ _ _ _ _ _ hread _ _ => exact readHistory_collected hread (by simp)

theorem JournalRead.length_le_bound {head : GovernanceActivationHead}
    {history : List GovernanceActivationRevision}
    (h : JournalRead hash store sessionId ⟨some head, history⟩) :
    history.length = head.revision ∧ head.revision ≤ verificationBound := by
  cases h with
  | committed _ _ _ hvalid _ _ hread _ _ =>
      refine ⟨by simpa using (readHistory_shape hread).1, ?_⟩
      simpa using readHistory_le_bound (head.revision_pos hvalid) hread

end

end GovernedRuntime.Activation
