/-
The lineage of plan revisions: record digests and the refinement of a plan record
(`src/state/evidence-plan.ts`).
-/
import GovernedRuntime.State.ProofGraph
import Mathlib.Data.List.Sort

namespace GovernedRuntime.State

/-- What the record digest of a revision binds. -/
structure PlanLineage where
  contentDigest : String
  planVersion : Nat
  supersedesRecordDigest : Option String
  originatingReviewObligationId : Option String
  revisionReason : Option String
  revisionId : String
deriving DecidableEq, Repr

def planRecordDomain : String := "flowguard.plan-record.v1"

def PlanEvidence.lineage (revision : PlanEvidence) : PlanLineage :=
  { contentDigest := revision.digest
    planVersion := revision.planVersion
    supersedesRecordDigest := revision.supersedesRecordDigest
    originatingReviewObligationId := revision.originatingReviewObligationId
    revisionReason := revision.revisionReason
    revisionId := revision.revisionId }

/-- Where a revision stands in its record. -/
inductive RevisionSlot
  | current
  | history (index : Nat)
deriving DecidableEq, Repr

structure PlanRecordIssue where
  path : RevisionSlot
  message : String
deriving DecidableEq, Repr

/-- The revisions of a record in lineage order. -/
def orderedPlanRevisions (plan : PlanRecord) : List PlanEvidence :=
  (plan.history ++ [plan.current]).insertionSort
    fun left right => left.planVersion ≤ right.planVersion

/-- The same chain with the slot of each revision. -/
def lineageChain (plan : PlanRecord) : List (RevisionSlot × PlanEvidence) :=
  ((plan.history.zipIdx.map fun entry => (RevisionSlot.history entry.2, entry.1)) ++
      [(RevisionSlot.current, plan.current)]).insertionSort
    fun left right => left.2.planVersion ≤ right.2.planVersion

section Hashing

variable (hashText : String → String) (lineageText : PlanLineage → CanonicalText)

def computeRecordDigest (lineage : PlanLineage) : String :=
  hashText (planRecordDomain ++ "\n" ++ lineageText lineage)

/-- The first thing wrong with a revision at a position of the chain. -/
def revisionIssue (index : Nat) (predecessor : Option PlanEvidence)
    (revision : PlanEvidence) : Option String :=
  let version := toString revision.planVersion
  let expected := predecessor.map (·.recordDigest)
  if revision.digest != hashText revision.body then
    some ("plan revision v" ++ version ++ " digest does not match hashText(body)")
  else if revision.recordDigest !=
      computeRecordDigest hashText lineageText revision.lineage then
    some ("plan revision v" ++ version ++
      " recordDigest does not match computeRecordDigest(...)")
  else if revision.planVersion != index + 1 then
    some ("plan lineage is not contiguous: expected planVersion " ++
      toString (index + 1) ++ ", got " ++ version)
  else if revision.supersedesRecordDigest != expected then
    some ("plan lineage chain is broken at v" ++ version ++
      ": supersedesRecordDigest must be " ++ expected.getD "null")
  else none

def chainIssue (index : Nat) (predecessor : Option PlanEvidence) :
    List (RevisionSlot × PlanEvidence) → Option PlanRecordIssue
  | [] => none
  | (slot, revision) :: rest =>
      match revisionIssue hashText lineageText index predecessor revision with
      | some message => some ⟨slot, message⟩
      | none => chainIssue (index + 1) (some revision) rest

/-- The refinement of a plan record: its first issue. -/
def planRecordIssue (plan : PlanRecord) : Option PlanRecordIssue :=
  match chainIssue hashText lineageText 0 none (lineageChain plan) with
  | some issue => some issue
  | none =>
      let length := (lineageChain plan).length
      if plan.current.planVersion != length then
        some ⟨.current, "plan current revision is not the lineage head: v" ++
          toString plan.current.planVersion ++ " of " ++ toString length⟩
      else none

theorem mem_orderedPlanRevisions {plan : PlanRecord} {revision : PlanEvidence} :
    revision ∈ orderedPlanRevisions plan ↔
      revision ∈ plan.history ∨ revision = plan.current := by
  rw [orderedPlanRevisions, List.mem_insertionSort, List.mem_append,
    List.mem_singleton]

theorem exists_slot_of_mem {plan : PlanRecord} {revision : PlanEvidence}
    (hmem : revision ∈ orderedPlanRevisions plan) :
    ∃ slot, (slot, revision) ∈ lineageChain plan := by
  simp only [lineageChain, List.mem_insertionSort, List.mem_append, List.mem_map,
    List.mem_singleton]
  rcases mem_orderedPlanRevisions.1 hmem with hhistory | rfl
  · obtain ⟨index, hindex⟩ := List.getElem?_of_mem hhistory
    exact ⟨.history index, Or.inl ⟨(revision, index),
      List.mem_zipIdx_iff_getElem?.2 hindex, rfl⟩⟩
  · exact ⟨.current, Or.inr rfl⟩

theorem revisionIssue_of_chainIssue {index : Nat} {predecessor : Option PlanEvidence}
    {chain : List (RevisionSlot × PlanEvidence)}
    (hchain : chainIssue hashText lineageText index predecessor chain = none)
    {slot : RevisionSlot} {revision : PlanEvidence} (hmem : (slot, revision) ∈ chain) :
    ∃ position before,
      revisionIssue hashText lineageText position before revision = none := by
  induction chain generalizing index predecessor with
  | nil => simp at hmem
  | cons head rest ih =>
      obtain ⟨headSlot, headRevision⟩ := head
      rw [chainIssue] at hchain
      cases hissue : revisionIssue hashText lineageText index predecessor headRevision with
      | some message => simp [hissue] at hchain
      | none =>
          rw [hissue] at hchain
          rcases List.mem_cons.1 hmem with hhead | hrest
          · cases hhead
            exact ⟨index, predecessor, hissue⟩
          · exact ih hchain hrest

/-- Every revision of a refined record carries the digests of its content. -/
theorem digests_of_planRecordIssue {plan : PlanRecord} {revision : PlanEvidence}
    (hplan : planRecordIssue hashText lineageText plan = none)
    (hmem : revision ∈ orderedPlanRevisions plan) :
    revision.digest = hashText revision.body ∧
      revision.recordDigest =
        computeRecordDigest hashText lineageText revision.lineage := by
  have hchain : chainIssue hashText lineageText 0 none (lineageChain plan) = none := by
    rw [planRecordIssue] at hplan
    cases hissue : chainIssue hashText lineageText 0 none (lineageChain plan) with
    | none => rfl
    | some issue => simp [hissue] at hplan
  obtain ⟨slot, hslot⟩ := exists_slot_of_mem hmem
  obtain ⟨index, before, hnone⟩ :=
    revisionIssue_of_chainIssue hashText lineageText hchain hslot
  rw [revisionIssue] at hnone
  by_cases hdigest : revision.digest = hashText revision.body
  · by_cases hrecord : revision.recordDigest =
        computeRecordDigest hashText lineageText revision.lineage
    · exact ⟨hdigest, hrecord⟩
    · simp [hdigest, hrecord] at hnone
  · simp [hdigest] at hnone

end Hashing

end GovernedRuntime.State
