/-
The persistence boundary of evidence approvals (`src/adapters/evidence-approval-write-guard.ts`,
`src/audit/proofgraph/evidence-approval-admission.ts`, `src/adapters/persistence.ts`): which
writes enter or leave an approved session, and what every run of them keeps.
-/
import GovernedRuntime.Rails.ExportAdmission

namespace GovernedRuntime.Persistence

open GovernedRuntime.State
open GovernedRuntime.Machine
open GovernedRuntime.ProofGraph
open GovernedRuntime.Rails

/-! ### Decision receipts -/

/-- The semantic detail of an operation; a field is absent when it is not there or not of
the kind it is compared with. -/
structure DecisionDetail where
  kind : Option String
  gatePhase : Option Phase
  toPhase : Option Phase
  transitionEvent : Option Event
  verdict : Option ReviewVerdict
  rationale : Option String
  decidedAt : Option Timestamp
  transitionAt : Option Timestamp
  decisionIdentity : CanonicalText

structure PendingAuditOperation where
  operationId : String
  /-- `canonicalJsonStringify(operation)` -/
  content : CanonicalText
  semantic : Option DecisionDetail

/-- A session state together with its audit outbox. -/
structure StoredState extends SessionState where
  pendingAuditOperations : List PendingAuditOperation

structure ReceiptScan where
  evidenceMatches : Nat
  otherGate : Bool
  conflict : Bool

inductive ReceiptGate
  | evidenceGate
  | otherGate
  | ambiguous
  | none
deriving DecidableEq

section Receipts

variable (identityText : DecisionIdentity → CanonicalText) (decision : ReviewDecision)

def decisionReceiptMatches (detail : DecisionDetail) (transitionAt : Timestamp) : Bool :=
  detail.kind == some "decision" && detail.decidedAt == some decision.decidedAt &&
    detail.verdict == some decision.verdict && detail.rationale == some decision.rationale &&
    detail.transitionAt == some transitionAt &&
    detail.decisionIdentity == identityText decision.decisionIdentity &&
    -- a receipt attests no transition from before its decision
    ((dateParse decision.decidedAt).any fun decidedAt =>
      (dateParse transitionAt).any fun time => decidedAt ≤ time)

def isEvidenceGateReceipt (detail : DecisionDetail) : Bool :=
  detail.gatePhase == some .evidenceReview && detail.toPhase == some .exportReady &&
    detail.transitionEvent == some .approve

/-- Whether an operation is a receipt of the decision, and then whether of the final gate. -/
def receipt? (transitionAt : Option Timestamp) (operation : PendingAuditOperation) :
    Option Bool :=
  transitionAt.bind fun time => (operation.semantic.filter
    (decisionReceiptMatches identityText decision · time)).map isEvidenceGateReceipt

def ReceiptScan.count (scan : ReceiptScan) : Option Bool → ReceiptScan
  | none => scan
  | some true => { scan with evidenceMatches := scan.evidenceMatches + 1 }
  | some false => { scan with otherGate := true }

/-- The same operation carried over is one receipt; one id with two contents is a
contradiction. -/
def scanOperations (transitionAt : Option Timestamp) (seen : List PendingAuditOperation)
    (scan : ReceiptScan) : List PendingAuditOperation → ReceiptScan
  | [] => scan
  | operation :: rest =>
      match seen.find? (·.operationId == operation.operationId) with
      | some earlier =>
          if earlier.content != operation.content then { scan with conflict := true }
          else scanOperations transitionAt seen scan rest
      | none => scanOperations transitionAt (operation :: seen)
          (scan.count (receipt? identityText decision transitionAt operation)) rest

def scanDecisionReceipts (previous next : StoredState) (transitionAt : Option Timestamp) :
    ReceiptScan :=
  scanOperations identityText decision transitionAt [] ⟨0, false, false⟩
    (previous.pendingAuditOperations ++ next.pendingAuditOperations)

def decisionReceiptGate (previous next : StoredState) (transitionAt : Option Timestamp) :
    ReceiptGate :=
  let scan := scanDecisionReceipts identityText decision previous next transitionAt
  if scan.conflict || decide (1 < scan.evidenceMatches) ||
      (scan.evidenceMatches == 1 && scan.otherGate) then .ambiguous
  else if scan.evidenceMatches == 1 then .evidenceGate
  else if scan.otherGate then .otherGate
  else .none

end Receipts

/-! ### Admissions -/

/-- The record behind a handle of this runtime. -/
structure IssuedAdmission extends AdmissionRecord where
  consumed : Bool

inductive AdmissionRejection
  | notIssued
  | alreadyConsumed
  | otherSession
  | otherBinding
  | predecessorChanged
  | transitionChanged
  | basisChanged

/-- Why an admission is rejected; a handle of another runtime has no record. -/
def admissionRejection (hashing : Hashing) (admission : Option IssuedAdmission)
    (state predecessor : SessionState) : Option AdmissionRejection :=
  match admission with
  | none => some .notIssued
  | some record =>
      if record.consumed then some .alreadyConsumed
      else if record.flowguardSessionId != state.flowguardSessionId then some .otherSession
      else if record.bindingDigest != evidenceApprovalBindingDigest hashing state then
        some .otherBinding
      else if record.sourceBasisDigest !=
          evidenceApprovalSourceBasisDigest hashing predecessor then
        some .predecessorChanged
      else if record.transitionDigest != appliedTransitionDigest hashing state then
        some .transitionChanged
      else if record.basisDigest != evidenceApprovalBasisDigest hashing state then
        some .basisChanged
      else none

theorem admissionRejection_eq_none {hashing : Hashing} {admission : Option IssuedAdmission}
    {state predecessor : SessionState}
    (haccepted : admissionRejection hashing admission state predecessor = none) :
    ∃ record, admission = some record ∧ record.consumed = false ∧
      record.BoundTo hashing predecessor state := by
  unfold admissionRejection at haccepted
  split at haccepted
  · cases haccepted
  · rename_i record
    split_ifs at haccepted with hfresh hsession hbinding hsource htransition hbasis
    rw [bne_iff_ne, not_not] at hsession hbinding hsource htransition hbasis
    exact ⟨record, rfl, Bool.eq_false_of_not_eq_true hfresh,
      ⟨hsession, hbinding, hbasis, hsource, htransition⟩⟩

/-! ### The boundary -/

inductive BoundaryRefusal
  | bootstrap
  | wrongPhase (phase : Phase)
  | noncanonicalTransition
  | approvalBasisChanged
  | decisionMissing
  | receipt (gate : ReceiptGate)
  | admission (rejection : AdmissionRejection)

/-- The approval transition, at whatever time. -/
def isCanonicalApproval (transition : Option Transition) : Bool :=
  transition.any fun applied => applied.fromPhase == .evidenceReview &&
    applied.toPhase == .exportReady && applied.event == .approve

section Environment

variable (env : Environment) (identityText : DecisionIdentity → CanonicalText)
  {before next : StoredState} {handle : Nat}

def decisionRefusal (previous next : StoredState) : Option BoundaryRefusal :=
  match evidenceGateDecisionOf next.toSessionState with
  | none => if next.policySnapshot.requireHumanGates then some .decisionMissing else none
  | some decision =>
      let gate := decisionReceiptGate identityText decision previous next
        (next.transition.map (·.atTime))
      if gate != .evidenceGate then some (.receipt gate) else none

def basisRefusal (previous next : StoredState) : Option BoundaryRefusal :=
  if evidenceApprovalBasisDigest env.hashing previous.toSessionState ==
      evidenceApprovalBasisDigest env.hashing next.toSessionState then none
  else some .approvalBasisChanged

/-- The refusal of a write over a predecessor, and whether it enters `EXPORT_READY` and so
consumes its admission. -/
def assertEvidenceApprovalWriteBoundary (previous : Option StoredState) (next : StoredState)
    (admission : Option IssuedAdmission) : Except BoundaryRefusal Bool :=
  let passed (refusal : Option BoundaryRefusal) (enters : Bool) : Except BoundaryRefusal Bool :=
    refusal.elim (.ok enters) .error
  match previous with
  | none => if next.phase != .exportReady then .ok false else .error .bootstrap
  | some before =>
      if before.phase == .exportReady then passed (basisRefusal env before next) false
      else if next.phase != .exportReady then .ok false
      else if before.phase != .evidenceReview then .error (.wrongPhase before.phase)
      else if !isCanonicalApproval next.transition then .error .noncanonicalTransition
      else passed ((decisionRefusal identityText before next).or
        ((admissionRejection env.hashing admission next.toSessionState
          before.toSessionState).map .admission)) true

/-- A write that enters `EXPORT_READY`: from the gate, by the canonical transition, with an
admission of exactly this predecessor and this state, and with its decision attested. -/
structure Entered (before next : StoredState) (record : AdmissionRecord) : Prop where
  predecessor : before.phase = .evidenceReview
  approved : next.phase = .exportReady
  transition : isCanonicalApproval next.transition = true
  bound : record.BoundTo env.hashing before.toSessionState next.toSessionState
  decided : next.policySnapshot.requireHumanGates = true →
    evidenceGateDecisionOf next.toSessionState ≠ none
  attested : ∀ decision, evidenceGateDecisionOf next.toSessionState = some decision →
    decisionReceiptGate identityText decision before next (next.transition.map (·.atTime)) =
      .evidenceGate

theorem decisionRefusal_eq_none
    (hpassed : decisionRefusal identityText before next = none) :
    (next.policySnapshot.requireHumanGates = true →
      evidenceGateDecisionOf next.toSessionState ≠ none) ∧
    ∀ decision, evidenceGateDecisionOf next.toSessionState = some decision →
      decisionReceiptGate identityText decision before next (next.transition.map (·.atTime)) =
        .evidenceGate := by
  unfold decisionRefusal at hpassed
  cases hdecision : evidenceGateDecisionOf next.toSessionState with
  | none =>
      simp only [hdecision, ite_eq_right_iff, reduceCtorEq, imp_false] at hpassed
      exact ⟨fun hhuman => absurd hhuman hpassed, fun _ hnone => by cases hnone⟩
  | some decision =>
      simp only [hdecision, ite_eq_right_iff, reduceCtorEq, imp_false, bne_iff_ne,
        not_not] at hpassed
      refine ⟨fun _ => Option.some_ne_none _, fun other hother => ?_⟩
      rwa [← Option.some_inj.1 hother]

/-- What passes: an entry, a write over an approved state that keeps its basis, or a write
of a state that is not approved. -/
theorem boundary_cases {previous : Option StoredState}
    {admission : Option IssuedAdmission} {enters : Bool}
    (hpassed : assertEvidenceApprovalWriteBoundary env identityText previous next admission =
      .ok enters) :
    (enters = true ∧ ∃ before record, previous = some before ∧ admission = some record ∧
      record.consumed = false ∧
        Entered env identityText before next record.toAdmissionRecord) ∨
    enters = false ∧ (next.phase = .exportReady → ∃ before, previous = some before ∧
      before.phase = .exportReady ∧
        evidenceApprovalBasisDigest env.hashing before.toSessionState =
          evidenceApprovalBasisDigest env.hashing next.toSessionState) := by
  unfold assertEvidenceApprovalWriteBoundary at hpassed
  cases previous with
  | none =>
      simp only at hpassed
      split_ifs at hpassed with hphase
      cases hpassed
      exact .inr ⟨rfl, fun hexport => absurd hexport (bne_iff_ne.1 hphase)⟩
  | some before =>
      simp only at hpassed
      split_ifs at hpassed with happroved hphase hgate htransition
      · cases hbasis : basisRefusal env before next with
        | some refusal => rw [hbasis] at hpassed; cases hpassed
        | none =>
            rw [hbasis] at hpassed
            cases hpassed
            unfold basisRefusal at hbasis
            split_ifs at hbasis with hsame
            exact .inr ⟨rfl, fun _ => ⟨before, rfl, beq_iff_eq.1 happroved,
              beq_iff_eq.1 hsame⟩⟩
      · cases hpassed
        exact .inr ⟨rfl, fun hexport => absurd hexport (bne_iff_ne.1 hphase)⟩
      · cases hrefusal : (decisionRefusal identityText before next).or
            ((admissionRejection env.hashing admission next.toSessionState
              before.toSessionState).map .admission) with
        | some refusal => rw [hrefusal] at hpassed; cases hpassed
        | none =>
            rw [hrefusal] at hpassed
            cases hpassed
            rw [Option.or_eq_none_iff, Option.map_eq_none_iff] at hrefusal
            obtain ⟨record, hadmission, hfresh, hbound⟩ :=
              admissionRejection_eq_none hrefusal.2
            obtain ⟨hdecided, hattested⟩ := decisionRefusal_eq_none identityText hrefusal.1
            refine .inl ⟨rfl, before, record, rfl, hadmission, hfresh, ?_⟩
            exact ⟨by simpa using hgate, by simpa using hphase, by simpa using htransition,
              hbound, hdecided, hattested⟩

/-! ### Runs -/

/-- An accepted entry into `EXPORT_READY`, also one whose disk write failed. -/
structure Approval where
  handle : Option Nat
  predecessor : Option StoredState
  approved : StoredState

/-- What is on disk, the admissions issued and the entries accepted so far. -/
structure BoundaryState where
  persisted : Option StoredState
  admissions : List IssuedAdmission
  approvals : List Approval

inductive BoundaryAction
  /-- The protected application, on some state in memory. -/
  | apply (state : SessionState) (atTime : Timestamp)
  /-- A write under the session lock, which may fail on the disk. -/
  | write (next : StoredState) (handle : Option Nat) (durable : Bool)

def consume (admissions : List IssuedAdmission) (handle : Option Nat) : List IssuedAdmission :=
  handle.elim admissions (admissions.modify · fun record => { record with consumed := true })

/-- An accepted entry consumes its admission before the disk write. -/
def boundaryStep (checks : StoredState → Bool) (s : BoundaryState) :
    BoundaryAction → BoundaryState
  | .apply state atTime =>
      match applyEvidenceApprovalTransition env state atTime with
      | .ok (.applied _ admission) =>
          { s with admissions := s.admissions ++ [⟨admission, false⟩] }
      | _ => s
  | .write next handle durable =>
      if !checks next then s
      else
        match assertEvidenceApprovalWriteBoundary env identityText s.persisted next
            (handle.bind (s.admissions[·]?)) with
        | .error _ => s
        | .ok enters =>
            { persisted := if durable then some next else s.persisted
              admissions := if enters then consume s.admissions handle else s.admissions
              approvals :=
                if enters then s.approvals ++ [⟨handle, s.persisted, next⟩] else s.approvals }

/-- An admission that the protected application issued for a cleared state. -/
def IssuedForCleared (record : AdmissionRecord) : Prop :=
  ∃ source atTime, ApprovalCleared env source ∧
    record = issueEvidenceApprovalAdmission env.hashing
      (applyTransitionUnchecked source .evidenceReview .exportReady .approve atTime)

/-- An entry that used up the admission of a cleared state. -/
def Admitted (admissions : List IssuedAdmission) (approval : Approval) : Prop :=
  ∃ handle before record, approval.handle = some handle ∧ approval.predecessor = some before ∧
    admissions[handle]? = some record ∧ record.consumed = true ∧
      IssuedForCleared env record.toAdmissionRecord ∧
        Entered env identityText before approval.approved record.toAdmissionRecord

structure Guarded (s : BoundaryState) : Prop where
  issued : ∀ record ∈ s.admissions, IssuedForCleared env record.toAdmissionRecord
  admitted : ∀ approval ∈ s.approvals, Admitted env identityText s.admissions approval
  once : (s.approvals.map (·.handle)).Nodup
  approved : ∀ current, s.persisted = some current → current.phase = .exportReady →
    ∃ approval ∈ s.approvals,
      evidenceApprovalBasisDigest env.hashing approval.approved.toSessionState =
        evidenceApprovalBasisDigest env.hashing current.toSessionState

theorem getElem?_consume (admissions : List IssuedAdmission) (used handle : Nat) :
    (consume admissions (some used))[handle]? = admissions[handle]?.map fun record =>
      if used = handle then { record with consumed := true } else record := by
  rw [consume, Option.elim_some, List.getElem?_modify]
  rfl

variable {env identityText} {s : BoundaryState} {checks : StoredState → Bool}

theorem Admitted.consume {admissions : List IssuedAdmission} {approval : Approval}
    (hadmitted : Admitted env identityText admissions approval) (used : Nat) :
    Admitted env identityText (consume admissions (some used)) approval := by
  obtain ⟨handle, before, record, hhandle, hbefore, hrecord, hconsumed, hissued, hentered⟩ :=
    hadmitted
  refine ⟨handle, before, { record with consumed := true }, hhandle, hbefore, ?_, rfl,
    hissued, hentered⟩
  rw [getElem?_consume, hrecord, Option.map_some]
  split_ifs
  · rfl
  · rw [← hconsumed]

theorem Guarded.apply {state : SessionState} {atTime : Timestamp}
    (hguarded : Guarded env identityText s) :
    Guarded env identityText (boundaryStep env identityText checks s (.apply state atTime)) := by
  unfold boundaryStep
  dsimp only
  split
  · rename_i approved admission happlied
    obtain ⟨hcleared, rfl, rfl⟩ := (applyEvidenceApproval_applied_iff env).1 happlied
    refine ⟨fun record hmem => ?_, fun approval hmem => ?_, hguarded.once, hguarded.approved⟩
    · rcases List.mem_append.1 hmem with hold | hnew
      · exact hguarded.issued record hold
      · exact ⟨state, atTime, hcleared, by rw [List.mem_singleton.1 hnew]⟩
    · obtain ⟨handle, before, record, hhandle, hbefore, hrecord, hrest⟩ :=
        hguarded.admitted approval hmem
      exact ⟨handle, before, record, hhandle, hbefore, (List.getElem?_append_left
        (List.getElem?_eq_some_iff.1 hrecord).1).trans hrecord, hrest⟩
  · exact hguarded

/-- An entry uses an admission that no earlier one has used. -/
theorem Guarded.enter {record : IssuedAdmission} (hguarded : Guarded env identityText s)
    (hpersisted : s.persisted = some before) (hrecord : s.admissions[handle]? = some record)
    (hfresh : record.consumed = false)
    (hentered : Entered env identityText before next record.toAdmissionRecord)
    (durable : Bool) :
    Guarded env identityText
      ⟨if durable then some next else s.persisted, consume s.admissions (some handle),
        s.approvals ++ [⟨some handle, s.persisted, next⟩]⟩ := by
  refine ⟨fun used hmem => ?_, fun approval hmem => ?_, ?_, fun current hcurrent hphase => ?_⟩
  · obtain ⟨index, hindex⟩ := List.mem_iff_getElem?.1 hmem
    rw [getElem?_consume] at hindex
    obtain ⟨old, hold, rfl⟩ := Option.map_eq_some_iff.1 hindex
    have hissued := hguarded.issued old (List.mem_of_getElem? hold)
    split_ifs <;> exact hissued
  · rcases List.mem_append.1 hmem with hold | hnew
    · exact (hguarded.admitted approval hold).consume handle
    · rw [List.mem_singleton.1 hnew]
      refine ⟨handle, before, { record with consumed := true }, rfl, hpersisted, ?_, rfl,
        hguarded.issued record (List.mem_of_getElem? hrecord), hentered⟩
      rw [getElem?_consume, hrecord, Option.map_some, if_pos rfl]
  · rw [List.map_append, List.map_singleton]
    refine List.nodup_append.2 ⟨hguarded.once, List.nodup_singleton _, ?_⟩
    intro used hmem other hother hsame
    obtain ⟨approval, happroval, rfl⟩ := List.mem_map.1 hmem
    obtain ⟨index, _, found, hindex, _, hfound, hconsumed, _⟩ :=
      hguarded.admitted approval happroval
    rw [hindex, List.mem_singleton.1 hother, Option.some_inj] at hsame
    rw [hsame, hrecord, Option.some_inj] at hfound
    rw [← hfound, hfresh] at hconsumed
    cases hconsumed
  · cases durable with
    | true =>
        obtain rfl := Option.some_inj.1 hcurrent
        exact ⟨_, List.mem_append_right _ (List.mem_singleton_self _), rfl⟩
    | false =>
        obtain ⟨approval, hmem, hbasis⟩ := hguarded.approved current hcurrent hphase
        exact ⟨approval, List.mem_append_left _ hmem, hbasis⟩

theorem Guarded.write {handle : Option Nat} {durable : Bool}
    (hguarded : Guarded env identityText s) :
    Guarded env identityText
      (boundaryStep env identityText checks s (.write next handle durable)) := by
  unfold boundaryStep
  dsimp only
  split
  · exact hguarded
  · split
    · exact hguarded
    · rename_i enters hpassed
      obtain ⟨rfl, before, record, hpersisted, hrecord, hfresh, hentered⟩ | ⟨rfl, hkept⟩ :=
        boundary_cases env identityText hpassed
      · obtain ⟨handle, rfl, hrecord⟩ := Option.bind_eq_some_iff.1 hrecord
        exact hguarded.enter hpersisted hrecord hfresh hentered durable
      · refine ⟨hguarded.issued, hguarded.admitted, hguarded.once, ?_⟩
        intro current hcurrent hphase
        cases durable with
        | false => exact hguarded.approved current hcurrent hphase
        | true =>
            obtain rfl := Option.some_inj.1 hcurrent
            obtain ⟨before, hpersisted, happroved, hbasis⟩ := hkept hphase
            obtain ⟨approval, hmem, hsame⟩ := hguarded.approved before hpersisted happroved
            exact ⟨approval, hmem, hsame.trans hbasis⟩

end Environment

/-- In every run of applications and writes each entry into `EXPORT_READY` uses up an
admission of its own, issued for a cleared state, and what is persisted there has the
evidence basis of a cleared state. -/
theorem approvals_admitted (env : Environment) (identityText : DecisionIdentity → CanonicalText)
    (checks : StoredState → Bool) (actions : List BoundaryAction) :
    let s := actions.foldl (boundaryStep env identityText checks) ⟨none, [], []⟩
    (s.approvals.map (·.handle)).Nodup ∧
    (∀ approval ∈ s.approvals, Admitted env identityText s.admissions approval) ∧
    ∀ current, s.persisted = some current → current.phase = .exportReady →
      ∃ source, ApprovalCleared env source ∧
        evidenceApprovalBasisDigest env.hashing source =
          evidenceApprovalBasisDigest env.hashing current.toSessionState := by
  intro s
  have hguarded : Guarded env identityText s := by
    refine List.foldlRecOn actions _ ⟨?_, ?_, List.nodup_nil, ?_⟩ fun s hs action _ => ?_
    · exact fun _ hmem => absurd hmem List.not_mem_nil
    · exact fun _ hmem => absurd hmem List.not_mem_nil
    · exact fun _ hnone => by cases hnone
    · cases action with
      | apply state atTime => exact hs.apply
      | write next handle durable => exact hs.write
  refine ⟨hguarded.once, hguarded.admitted, fun current hcurrent hphase => ?_⟩
  obtain ⟨approval, hmem, hbasis⟩ := hguarded.approved current hcurrent hphase
  obtain ⟨_, _, record, -, -, -, -, ⟨source, atTime, hcleared, hissued⟩, hentered⟩ :=
    hguarded.admitted approval hmem
  refine ⟨source, hcleared, ?_⟩
  rw [← hbasis, ← hentered.bound.basis, hissued]
  rfl

end GovernedRuntime.Persistence
