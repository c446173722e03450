/-
The cross-record refinements the persistence boundary checks a review-assurance ledger by
(`src/state/evidence-review-assurance-refinements.ts`,
`src/state/evidence-review-ledger-refinements.ts`, `src/state/evidence-review.ts`).
-/
import GovernedRuntime.Review.LedgerCoherence

namespace GovernedRuntime.Review

open GovernedRuntime.State (ReviewObligationStatus ReviewObligationType)

variable {s : ReviewAssuranceState}

structure RefinementIssue where
  path : List String
  message : String
deriving DecidableEq, Repr

/-- A loop over records that stops at the first issue; each record is checked against the
ones before it. -/
def firstIssue {α : Type} (check : List α → α → Option RefinementIssue) :
    List α → List α → Option RefinementIssue
  | _, [] => none
  | earlier, item :: rest =>
      match check earlier item with
      | some issue => some issue
      | none => firstIssue check (earlier ++ [item]) rest

theorem firstIssue_eq_none_iff {α : Type} {check : List α → α → Option RefinementIssue}
    {earlier items : List α} :
    firstIssue check earlier items = none ↔
      ∀ before item after, items = before ++ item :: after →
        check (earlier ++ before) item = none := by
  induction items generalizing earlier with
  | nil => simp [firstIssue]
  | cons first rest ih =>
      constructor
      · intro hnone before item after heq
        rw [firstIssue] at hnone
        split at hnone
        · cases hnone
        · rename_i hfirst
          cases before with
          | nil =>
              obtain ⟨rfl, -⟩ := List.cons.inj heq
              simpa using hfirst
          | cons head before =>
              obtain ⟨rfl, hrest⟩ := List.cons.inj heq
              simpa using ih.1 hnone before item after hrest
      · intro hall
        rw [firstIssue]
        have hfirst : check earlier first = none := by simpa using hall [] first rest rfl
        rw [hfirst]
        apply ih.2
        intro before item after heq
        simpa using hall (first :: before) item after (by rw [heq]; rfl)

theorem ite_some_eq_none_iff {α : Type} {c : Prop} [Decidable c] {issue : α}
    {rest : Option α} : (if c then some issue else rest) = none ↔ ¬ c ∧ rest = none := by
  by_cases hc : c <;> simp [hc]

def ReviewAttemptStatus.name : ReviewAttemptStatus → String
  | .created => "created"
  | .rejected => "rejected"
  | .bound => "bound"
  | .stale => "stale"

def obligationTypeName : ReviewObligationType → String
  | .plan => "plan"
  | .implement => "implement"
  | .architecture => "architecture"
  | .review => "review"

def obligationStatusName : ReviewObligationStatus → String
  | .pending => "pending"
  | .fulfilled => "fulfilled"
  | .consumed => "consumed"
  | .blocked => "blocked"

section Refinements

variable (s : ReviewAssuranceState)

/-- A map from identity to record keeps the last record of an identity. -/
def attemptsById (attemptId : String) : Option ReviewAttempt :=
  s.attempts.reverse.find? (·.attemptId == attemptId)

def obligationsById (obligationId : String) : Option ReviewObligation :=
  s.obligations.reverse.find? (·.obligationId == obligationId)

def invocationsById (invocationId : String) : Option ReviewInvocationEvidence :=
  s.invocations.reverse.find? (·.invocationId == invocationId)

/-! ### Identities, discovery and provenance -/

def duplicateIdentityIssue {α : Type} (path field noun : String) (idOf : α → String)
    (earlier : List α) (item : α) : Option RefinementIssue :=
  if earlier.any (idOf · == idOf item) then
    some ⟨[path], s!"duplicate {field} {idOf item} — {noun} identity must be unique across " ++
      "the assurance state"⟩
  else none

theorem firstIssue_duplicate_eq_none_iff {α : Type} {path field noun : String}
    {idOf : α → String} {earlier items : List α} :
    firstIssue (duplicateIdentityIssue path field noun idOf) earlier items = none ↔
      (items.map idOf).Nodup ∧ ∀ other ∈ earlier, ∀ item ∈ items, idOf other ≠ idOf item := by
  induction items generalizing earlier with
  | nil => simp [firstIssue]
  | cons first rest ih =>
      by_cases hseen : earlier.any (idOf · == idOf first) = true
      · have hother : ∃ other ∈ earlier, idOf other = idOf first := by simpa using hseen
        obtain ⟨other, hother, heq⟩ := hother
        simp only [firstIssue, duplicateIdentityIssue, if_pos hseen, reduceCtorEq, false_iff,
          not_and, not_forall]
        exact fun _ => ⟨other, hother, first, List.mem_cons_self, fun hne => hne heq⟩
      · have hfresh : ∀ other ∈ earlier, idOf other ≠ idOf first := by simpa using hseen
        simp only [firstIssue, duplicateIdentityIssue, if_neg hseen]
        rw [ih, List.map_cons, List.nodup_cons, List.mem_map]
        constructor
        · rintro ⟨hnodup, hbefore⟩
          refine ⟨⟨?_, hnodup⟩, ?_⟩
          · rintro ⟨item, hitem, heq⟩
            exact hbefore first (by simp) item hitem heq.symm
          · intro other hother item hitem
            obtain rfl | hitem := List.mem_cons.1 hitem
            · exact hfresh other hother
            · exact hbefore other (List.mem_append_left _ hother) item hitem
        · rintro ⟨⟨hnew, hnodup⟩, hbefore⟩
          refine ⟨hnodup, ?_⟩
          intro other hother item hitem
          obtain hother | hother := List.mem_append.1 hother
          · exact hbefore other hother item (List.mem_cons_of_mem _ hitem)
          · obtain rfl := List.mem_singleton.1 hother
            exact fun heq => hnew ⟨item, hitem, heq.symm⟩

def refineAssuranceIdentityUniqueness : Option RefinementIssue :=
  (firstIssue
    (duplicateIdentityIssue "obligations" "obligationId" "an obligation"
      ReviewObligation.obligationId) [] s.obligations).or
    ((firstIssue
      (duplicateIdentityIssue "invocations" "invocationId" "an invocation"
        ReviewInvocationEvidence.invocationId) [] s.invocations).or
      (firstIssue
        (duplicateIdentityIssue "attempts" "attemptId" "an attempt" ReviewAttempt.attemptId) []
        s.attempts))

def attemptIssue (message : String) : Option RefinementIssue := some ⟨["attempts"], message⟩

def attemptDiscoveryIssue (attempt : ReviewAttempt) : Option RefinementIssue :=
  if attempt.repositoryDiscovery.isRepository && !isPresent attempt.observationCapability then
    attemptIssue
      s!"repository-governed attempt {attempt.attemptId} requires an observation capability"
  else if !attempt.repositoryDiscovery.isRepository &&
      isPresent attempt.observationCapability then
    attemptIssue
      s!"non-repository attempt {attempt.attemptId} must not carry an observation capability"
  else
    match obligationsById s attempt.obligationId with
    | none =>
        attemptIssue
          s!"attempt {attempt.attemptId} references unknown obligation {attempt.obligationId}"
    | some obligation =>
        if obligation.hasFrozenRepositoryAuthority &&
            !attempt.repositoryDiscovery.isRepository then
          attemptIssue (s!"attempt {attempt.attemptId} must carry a repository Discovery " ++
            "snapshot for a repository-governed obligation")
        else if !obligation.hasFrozenRepositoryAuthority &&
            attempt.repositoryDiscovery.isRepository then
          attemptIssue (s!"attempt {attempt.attemptId} must carry not_applicable Discovery " ++
            "for a non-repository-governed obligation")
        else none

def refineAssuranceDiscoveryCoherence : Option RefinementIssue :=
  s.attempts.findSome? (attemptDiscoveryIssue s)

def obligationProvenanceIssue (obligation : ReviewObligation) : Option RefinementIssue :=
  match obligation.repositoryAuthority, obligation.repositoryRevisionProvenance with
  | some authority, some persisted =>
      let derived := deriveRepositoryRevisionProvenance (some authority)
      if derived ≠ .unavailable ∧ persisted ≠ derived then
        some ⟨["obligations"], s!"obligation {obligation.obligationId} carries a provenance " ++
          "projection that diverges from its frozen repository authority"⟩
      else none
  | _, _ => none

def refineAssuranceProvenanceCoherence : Option RefinementIssue :=
  s.obligations.findSome? obligationProvenanceIssue

/-! ### Attempt lineage -/

/-- Ordinals are unique in an obligation, and it has one initial attempt. -/
def attemptOrdinalIssue (earlier : List ReviewAttempt) (attempt : ReviewAttempt) :
    Option RefinementIssue :=
  if earlier.any fun other =>
      other.obligationId == attempt.obligationId && other.ordinal == attempt.ordinal then
    attemptIssue (s!"duplicate attempt ordinal {attempt.ordinal} for obligation " ++
      attempt.obligationId)
  else if attempt.origin == .initial &&
      earlier.any fun other =>
        other.obligationId == attempt.obligationId && other.origin == .initial then
    attemptIssue s!"obligation {attempt.obligationId} has more than one initial attempt"
  else none

/-- The initial attempt has the lowest ordinal of its obligation. -/
def initialOrdinalIssue (attempt : ReviewAttempt) : Option RefinementIssue :=
  if attempt.origin == .initial &&
      (s.line attempt.obligationId).any (·.ordinal < attempt.ordinal) then
    attemptIssue (s!"initial attempt {attempt.attemptId} is not the lowest-ordinal attempt for " ++
      s!"obligation {attempt.obligationId}")
  else none

def ordinalsIssue : Option RefinementIssue :=
  (firstIssue attemptOrdinalIssue [] s.attempts).or (s.attempts.findSome? (initialOrdinalIssue s))

def lifecycleFieldsIssue (attempt : ReviewAttempt) : Option RefinementIssue :=
  if attempt.status = .created then
    if attempt.completedAt.isSome || attempt.rejectionReason.isSome then
      attemptIssue (s!"created attempt {attempt.attemptId} must not carry completion or " ++
        "rejection fields")
    else none
  else if attempt.completedAt.isNone then
    attemptIssue s!"{attempt.status.name} attempt {attempt.attemptId} is missing completedAt"
  else if attempt.status != .rejected && attempt.rejectionReason.isSome then
    attemptIssue (s!"attempt {attempt.attemptId} carries rejection fields without a rejected " ++
      "status")
  else none

/-- The triggers a predecessor's release records admit; `none` admits no re-arm. -/
def triggerReasonsForPredecessor (predecessor : ReviewAttempt) : Option (List RearmTrigger) :=
  let released := s.dispatches.filter (·.attemptId == predecessor.attemptId)
  match predecessor.status with
  | .rejected =>
      if predecessor.rejectionReason ≠ some .consistencyInvalid then none
      else if released.any (·.dispatchStatus == .completed) then some [.spent]
      else none
  | .bound => none
  | .created =>
      if released.any (·.dispatchStatus == .authorized) then some [.interrupted]
      else if released.any (·.dispatchStatus == .outcomeUnknown) then some [.spent]
      else none
  | .stale =>
      if released.any (·.dispatchStatus == .outcomeUnknown) then some [.interrupted, .spent]
      else none

def predecessorCoherenceError (attempt predecessor : ReviewAttempt) : Option String :=
  if predecessor.obligationId ≠ attempt.obligationId ∨
      predecessor.obligationType ≠ attempt.obligationType ∨
      predecessor.subjectDigest ≠ attempt.subjectDigest then
    some (s!"attempt {attempt.attemptId} predecessor {predecessor.attemptId} belongs to a " ++
      "different obligation")
  else if attempt.ordinal ≤ predecessor.ordinal ∨ attempt.createdAt < predecessor.createdAt then
    some (s!"attempt {attempt.attemptId} predecessor {predecessor.attemptId} is not an earlier " ++
      "attempt")
  else none

def predecessorLineageIssue (attempt : ReviewAttempt) : Option RefinementIssue :=
  match attempt.origin with
  | .initial => none
  | .dispatchRearm predecessorId triggerReason =>
      if predecessorId = "" then
        attemptIssue
          s!"attempt {attempt.attemptId} has a non-initial origin without a predecessor"
      else
        match attemptsById s predecessorId with
        | none =>
            attemptIssue
              s!"attempt {attempt.attemptId} references unknown predecessor {predecessorId}"
        | some predecessor =>
            match predecessorCoherenceError attempt predecessor with
            | some message => attemptIssue message
            | none =>
                if (triggerReasonsForPredecessor s predecessor).any
                    (·.contains triggerReason) then none
                else
                  attemptIssue (s!"attempt {attempt.attemptId} trigger reason does not match " ++
                    "its predecessor state")

def refineAssuranceAttemptLineageCoherence : Option RefinementIssue :=
  (ordinalsIssue s).or
    ((s.attempts.findSome? lifecycleFieldsIssue).or
      (s.attempts.findSome? (predecessorLineageIssue s)))

/-! ### Dispatches and evidence -/

def dispatchIssue (message : String) : Option RefinementIssue := some ⟨["dispatches"], message⟩

def dispatchCoherenceIssue (earlier : List ReviewDispatchRecord)
    (dispatch : ReviewDispatchRecord) : Option RefinementIssue :=
  if earlier.any (·.dispatchId == dispatch.dispatchId) then
    dispatchIssue (s!"duplicate dispatchId {dispatch.dispatchId} — a dispatch identity must be " ++
      "unique across the assurance state")
  else if earlier.any (·.hostCallId == dispatch.hostCallId) then
    dispatchIssue (s!"duplicate hostCallId {dispatch.hostCallId} — one host call can close at " ++
      "most one dispatch")
  else
    match attemptsById s dispatch.attemptId with
    | none =>
        dispatchIssue
          s!"dispatch {dispatch.dispatchId} references unknown attempt {dispatch.attemptId}"
    | some attempt =>
        if attempt.obligationId ≠ dispatch.obligationId then
          dispatchIssue
            s!"dispatch {dispatch.dispatchId} obligation does not match its attempt"
        else if dispatch.dispatchStatus != .outcomeUnknown &&
            earlier.any fun other =>
              other.dispatchStatus != .outcomeUnknown &&
                other.attemptId == dispatch.attemptId then
          dispatchIssue
            s!"attempt {dispatch.attemptId} carries more than one active dispatch"
        else if dispatch.dispatchStatus == .authorized && dispatch.completedAt.isSome then
          dispatchIssue s!"dispatch {dispatch.dispatchId} is authorized but carries completedAt"
        else if dispatch.dispatchStatus == .completed && dispatch.completedAt.isNone then
          dispatchIssue
            s!"dispatch {dispatch.dispatchId} is completed but is missing completedAt"
        else none

def refineAssuranceDispatchCoherence : Option RefinementIssue :=
  firstIssue (dispatchCoherenceIssue s) [] s.dispatches

def invocationIssue (message : String) : Option RefinementIssue :=
  some ⟨["invocations"], message⟩

/-- Both transport generations are recognized; the shape they share is that of every
record. -/
def invocationShapeIssue (invocation : ReviewInvocationEvidence) : Option RefinementIssue :=
  if hasCaptureLineage invocation.capture invocation.childSessionId invocation.obligationId
      invocation.attemptId then none
  else
    invocationIssue ("Review invocation evidence requires one visible, navigable native Task " ++
      "with structured host-captured output.")

def boundAttemptIssue (invocation : ReviewInvocationEvidence) : Option RefinementIssue :=
  if invocation.attemptId = "" then none
  else
    match attemptsById s invocation.attemptId with
    | none =>
        invocationIssue (s!"invocation {invocation.invocationId} references unknown attempt " ++
          invocation.attemptId)
    | some attempt =>
        if attempt.obligationId ≠ invocation.obligationId ∨
            attempt.obligationType ≠ invocation.obligationType then
          invocationIssue (s!"invocation {invocation.invocationId} attempt " ++
            s!"{attempt.attemptId} belongs to a different obligation")
        else if attempt.status ≠ .bound ∧ attempt.status ≠ .rejected then
          invocationIssue (s!"invocation {invocation.invocationId} attempt " ++
            s!"{attempt.attemptId} has no bound lifecycle")
        else if attempt.childSessionId ≠ some invocation.childSessionId then
          invocationIssue (s!"invocation {invocation.invocationId} child session does not " ++
            "match the bound attempt")
        else if attempt.completedAt.isNone then
          invocationIssue (s!"invocation {invocation.invocationId} bound attempt is missing " ++
            "completedAt")
        else none

def obligationIssue (message : String) : Option RefinementIssue :=
  some ⟨["obligations"], message⟩

/-- The evidence an obligation names is evidence of it. -/
def linkedInvocationIssue (obligation : ReviewObligation) : Option RefinementIssue :=
  match obligation.invocationId with
  | none => none
  | some invocationId =>
      if invocationId = "" then none
      else
        match invocationsById s invocationId with
        | none =>
            obligationIssue (s!"obligation {obligation.obligationId} references unknown " ++
              s!"invocation {invocationId}")
        | some linked =>
            if linked.obligationId ≠ obligation.obligationId ∨
                linked.obligationType ≠ obligation.obligationType then
              invocationIssue (s!"invocation {linked.invocationId} is the canonical linkage of " ++
                s!"obligation {obligation.obligationId} but back-references obligation " ++
                s!"{linked.obligationId} (type {obligationTypeName linked.obligationType})")
            else none

def settledFieldsIssue (obligation : ReviewObligation) : Option RefinementIssue :=
  if (obligation.status == .fulfilled || obligation.status == .consumed) &&
      (!isPresent obligation.invocationId || obligation.fulfilledAt.isNone) then
    obligationIssue (s!"obligation {obligation.obligationId} is " ++
      s!"{obligationStatusName obligation.status} without invocation lineage and fulfilledAt")
  else if obligation.status == .consumed && obligation.consumedAt.isNone then
    obligationIssue s!"consumed obligation {obligation.obligationId} is missing consumedAt"
  else none

def consumedByIssue (invocation : ReviewInvocationEvidence) : Option RefinementIssue :=
  if invocation.consumedByObligationId.any (· != invocation.obligationId) then
    invocationIssue (s!"invocation {invocation.invocationId} consumedByObligationId must equal " ++
      "its own obligationId")
  else none

def refineAssuranceInvocationLinkageCoherence : Option RefinementIssue :=
  (s.invocations.findSome? invocationShapeIssue).or
    ((s.invocations.findSome? (boundAttemptIssue s)).or
      ((s.obligations.findSome? fun obligation =>
          (linkedInvocationIssue s obligation).or (settledFieldsIssue obligation)).or
        (s.invocations.findSome? consumedByIssue)))

/-- Evidence has exactly one completed release. -/
def invocationDispatchIssue (invocation : ReviewInvocationEvidence) : Option RefinementIssue :=
  let found := s.dispatches.countP fun dispatch =>
    dispatchLinksInvocation dispatch invocation && dispatch.dispatchStatus == .completed &&
      dispatch.completedAt.isSome
  if found ≠ 1 then
    invocationIssue (s!"invocation {invocation.invocationId} requires exactly one completed " ++
      "dispatch for its attempt, host call, and prompt digest " ++ s!"(found {found})")
  else none

/-- A completed release has exactly one evidence, any other release none. -/
def dispatchInvocationIssue (dispatch : ReviewDispatchRecord) : Option RefinementIssue :=
  let found := s.invocations.countP (dispatchLinksInvocation dispatch)
  if dispatch.dispatchStatus = .completed ∧ found ≠ 1 then
    dispatchIssue (s!"completed dispatch {dispatch.dispatchId} requires exactly one matching " ++
      s!"invocation (found {found})")
  else if dispatch.dispatchStatus ≠ .completed ∧ 0 < found then
    dispatchIssue (s!"dispatch {dispatch.dispatchId} is {dispatch.dispatchStatus.name} but has " ++
      "a matching invocation")
  else none

def refineAssuranceInvocationDispatchLinkage : Option RefinementIssue :=
  (s.invocations.findSome? (invocationDispatchIssue s)).or
    (s.dispatches.findSome? (dispatchInvocationIssue s))

def refineAssuranceCapacityLockCoherence : Option RefinementIssue :=
  match s.capacityLock with
  | none => none
  | some lock =>
      if (s.obligation? lock.obligationId).any fun obligation =>
          obligation.status == .blocked && obligation.blockedCode == some lock.code then none
      else
        some ⟨["capacityLock"],
          "capacityLock must reference a blocked obligation with the same blockedCode"⟩

/-- Every refinement runs; each gives at most one issue. -/
def refinementIssues : List RefinementIssue :=
  [refineAssuranceIdentityUniqueness s, refineAssuranceDiscoveryCoherence s,
    refineAssuranceProvenanceCoherence s, refineAssuranceAttemptLineageCoherence s,
    refineAssuranceDispatchCoherence s, refineAssuranceInvocationLinkageCoherence s,
    refineAssuranceInvocationDispatchLinkage s,
    refineAssuranceCapacityLockCoherence s].filterMap id

def Refined : Prop := refinementIssues s = []

instance : Decidable (Refined s) := inferInstanceAs (Decidable (refinementIssues s = []))

end Refinements

end GovernedRuntime.Review
