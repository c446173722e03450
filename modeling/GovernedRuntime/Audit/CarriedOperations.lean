/-
The audit operations a prepared state carries over from the persisted one
(`withCarriedAuditOperations`, `src/integration/tools/helpers.ts`).
-/
import GovernedRuntime.Audit.DirectWrite
import GovernedRuntime.Library.Lines
import Mathlib.Data.List.Nodup

namespace GovernedRuntime.Audit

open GovernedRuntime.Activation GovernedRuntime.Library

variable {Kind : Type}

/-! ### Operations -/

inductive AuditOperationStatus where
  | stateCommitted
  | auditCommitted
  | reconciled
deriving DecidableEq, Repr

/-- A `PendingAuditOperation`; `kind` is the transition, the state write or the
semantic event it binds. -/
structure PendingAuditOperation (Kind : Type) where
  operationId : String
  preStateDigest : Digest
  mutationDigest : Digest
  postStateDigest : Digest
  auditEventDigest : Digest
  status : AuditOperationStatus
  kind : Kind
deriving DecidableEq

def operationIds (operations : List (PendingAuditOperation Kind)) : List String :=
  operations.map (·.operationId)

/-- The operations of a persisted state, as the schema of states accepts them. -/
structure Outbox (Kind : Type) where
  operations : List (PendingAuditOperation Kind)
  uuid : ∀ id ∈ operationIds operations, isUuid id = true
  distinct : (operationIds operations).Nodup

/-- `persistedById.has(operation.operationId)` -/
def isPersisted (persisted : List (PendingAuditOperation Kind))
    (operation : PendingAuditOperation Kind) : Bool :=
  (operationIds persisted).contains operation.operationId

def orderConflict (message : String) : PersistenceError := ⟨"OUTBOX_ORDER_CONFLICT", message⟩

def assertPreparedOrderMatchesPersisted (prepared persisted : List (PendingAuditOperation Kind)) :
    Except PersistenceError Unit :=
  let commonIds := operationIds (prepared.filter (isPersisted persisted))
  let persistedCommonIds := (operationIds persisted).filter (commonIds.contains ·)
  if commonIds = persistedCommonIds then .ok ()
  else .error (orderConflict
    "Refusing prepared state that reorders persisted pending audit operations")

/-- The identifier of the first persisted operation of a list, which holds the
neighbours of an operation on one side of it, the nearest first. -/
def nearestPersistedId (persisted operations : List (PendingAuditOperation Kind)) :
    Option String :=
  (operations.find? (isPersisted persisted)).map (·.operationId)

/-- `persistedIndexById.get(id)`: of equal keys of a map the last one stands. -/
def persistedIndex (persisted : List (PendingAuditOperation Kind)) (id : String) : Option Nat :=
  (operationIds persisted).zipIdx.reverse.lookup id

def areAdjacentAnchors (before after : Option String)
    (persisted : List (PendingAuditOperation Kind)) : Bool :=
  match before, after with
  | none, after => after == persisted.head?.map (·.operationId)
  | before, none => before == persisted.getLast?.map (·.operationId)
  | some before, some after =>
      match persistedIndex persisted before with
      | none => false
      | some beforeIndex => persistedIndex persisted after == some (beforeIndex + 1)

/-- `${before ?? ''}:${after ?? ''}` -/
def anchorText (before after : Option String) : String :=
  before.getD "" ++ ":" ++ after.getD ""

abbrev Insertions (Kind : Type) : Type := List (String × PendingAuditOperation Kind)

/-- The loop of `collectPreparedInsertions`: the operations it has visited, the last
one first, those it has not, and the insertions so far. -/
def collectFrom (persisted : List (PendingAuditOperation Kind)) :
    List (PendingAuditOperation Kind) → List (PendingAuditOperation Kind) → Insertions Kind →
      Except PersistenceError (Insertions Kind)
  | _, [], insertions => .ok insertions
  | visited, operation :: rest, insertions =>
      if isPersisted persisted operation then
        collectFrom persisted (operation :: visited) rest insertions
      else
        let before := nearestPersistedId persisted visited
        let after := nearestPersistedId persisted rest
        if before = none ∧ after = none then
          .error (orderConflict
            "Refusing prepared audit operation without persisted ordering neighbors")
        else if areAdjacentAnchors before after persisted = false then
          .error (orderConflict
            "Refusing prepared audit operation without an unambiguous persisted position")
        else if (insertions.lookup (anchorText before after)).isSome then
          .error (orderConflict
            "Refusing ambiguous prepared audit operations with identical ordering neighbors")
        else
          collectFrom persisted (operation :: visited) rest
            (insertions ++ [(anchorText before after, operation)])

def collectPreparedInsertions (prepared persisted : List (PendingAuditOperation Kind)) :
    Except PersistenceError (Insertions Kind) :=
  collectFrom persisted [] prepared []

/-- The insertion between two neighbours. -/
def insertionAt (insertions : Insertions Kind) (before after : Option String) :
    List (PendingAuditOperation Kind) :=
  (insertions.lookup (anchorText before after)).toList

/-- The loop of `applyPreparedInsertions`. -/
def mergeFrom (insertions : Insertions Kind) :
    List (PendingAuditOperation Kind) → List (PendingAuditOperation Kind)
  | [] => []
  | operation :: rest =>
      operation ::
        (insertionAt insertions (some operation.operationId) (rest.head?.map (·.operationId)) ++
          mergeFrom insertions rest)

def applyPreparedInsertions (persisted : List (PendingAuditOperation Kind))
    (insertions : Insertions Kind) : List (PendingAuditOperation Kind) :=
  match persisted with
  | [] => []
  | first :: _ =>
      insertionAt insertions none (some first.operationId) ++ mergeFrom insertions persisted

/-- `withCarriedAuditOperations`, on the outboxes of the two states. -/
def withCarriedAuditOperations (persisted prepared : List (PendingAuditOperation Kind)) :
    Except PersistenceError (List (PendingAuditOperation Kind)) :=
  if persisted.length = 0 then .ok prepared
  else do
    assertPreparedOrderMatchesPersisted prepared persisted
    let insertions ← collectPreparedInsertions prepared persisted
    pure (applyPreparedInsertions persisted insertions)

/-! ### What a merge is for -/

/-- A merge: the persisted operations in their order and as they are persisted, the
new ones of the prepared list, each as often as it stands there, and nothing else, in
an order both lists agree with. -/
structure Carries (persisted prepared merged : List (PendingAuditOperation Kind)) : Prop where
  kept : merged.filter (isPersisted persisted) = persisted
  added : merged.filter (fun operation => !isPersisted persisted operation) =
    prepared.filter (fun operation => !isPersisted persisted operation)
  ordered : (operationIds prepared).Sublist (operationIds merged)

/-- The persisted operations of the prepared list do not stand in persisted order. -/
def Reorders (persisted prepared : List (PendingAuditOperation Kind)) : Prop :=
  ¬ (operationIds (prepared.filter (isPersisted persisted))).Sublist (operationIds persisted)

instance (persisted prepared : List (PendingAuditOperation Kind)) :
    Decidable (Reorders persisted prepared) :=
  inferInstanceAs (Decidable (¬ List.Sublist _ _))

/-- A cut of the persisted operations at which an operation may be inserted that the
prepared list has between `before` and `after`. -/
structure FitsAt (persisted before after left right : List (PendingAuditOperation Kind)) :
    Prop where
  cut : persisted = left ++ right
  before : ∀ operation ∈ before, isPersisted persisted operation = true →
    isPersisted left operation = true
  after : ∀ operation ∈ after, isPersisted persisted operation = true →
    isPersisted right operation = true

/-- Some new operation of the prepared list may be inserted at two places. -/
def LeavesAmbiguous (persisted prepared : List (PendingAuditOperation Kind)) : Prop :=
  ∃ before operation after, prepared = before ++ operation :: after ∧
    isPersisted persisted operation = false ∧
    ∃ left right left' right', FitsAt persisted before after left right ∧
      FitsAt persisted before after left' right' ∧ left ≠ left'

theorem isPersisted_iff {persisted : List (PendingAuditOperation Kind)}
    {operation : PendingAuditOperation Kind} :
    isPersisted persisted operation = true ↔ operation.operationId ∈ operationIds persisted := by
  simp [isPersisted]

theorem filter_isPersisted_nil (operations : List (PendingAuditOperation Kind)) :
    operations.filter (isPersisted []) = [] :=
  List.filter_eq_nil_iff.2 fun _ _ => Bool.false_ne_true

theorem isPersisted_of_mem {persisted : List (PendingAuditOperation Kind)}
    {operation : PendingAuditOperation Kind} (hmem : operation ∈ persisted) :
    isPersisted persisted operation = true :=
  isPersisted_iff.2 (List.mem_map_of_mem hmem)

@[simp] theorem operationIds_append (left right : List (PendingAuditOperation Kind)) :
    operationIds (left ++ right) = operationIds left ++ operationIds right :=
  List.map_append

@[simp] theorem operationIds_cons (operation : PendingAuditOperation Kind)
    (rest : List (PendingAuditOperation Kind)) :
    operationIds (operation :: rest) = operation.operationId :: operationIds rest := rfl

section Cuts

variable {left right left' right' : List (PendingAuditOperation Kind)}

/-- A cut is not after another one that its last identifier comes before. -/
theorem length_le_of_getLast?_mem (hnodup : (operationIds (left ++ right)).Nodup)
    (hcut : left ++ right = left' ++ right')
    (hlast : ∀ last ∈ left.getLast?, last.operationId ∈ operationIds left') :
    left.length ≤ left'.length := by
  rcases List.append_eq_append_iff.1 hcut with ⟨more, rfl, -⟩ | ⟨more, rfl, -⟩
  · simp
  · rcases List.eq_nil_or_concat more with rfl | ⟨init, last, rfl⟩
    · simp
    · exfalso
      have hmem := hlast last (by simp)
      rw [operationIds_append, operationIds_append, List.append_assoc, List.nodup_append] at hnodup
      exact hnodup.2.2 _ hmem _ (by simp) rfl

/-- A cut is not before another one that its next identifier comes after. -/
theorem length_le_of_head?_mem (hnodup : (operationIds (left ++ right)).Nodup)
    (hcut : left ++ right = left' ++ right')
    (hhead : ∀ first ∈ right.head?, first.operationId ∈ operationIds right') :
    left'.length ≤ left.length := by
  rcases List.append_eq_append_iff.1 hcut with ⟨more, rfl, rfl⟩ | ⟨more, rfl, -⟩
  · rcases more with _ | ⟨first, more⟩
    · simp
    · exfalso
      have hmem := hhead first (by simp)
      rw [List.cons_append, operationIds_append, operationIds_cons, operationIds_append,
        List.nodup_append, List.nodup_cons] at hnodup
      exact hnodup.2.1.1 (List.mem_append_right _ hmem)
  · simp

/-- With distinct identifiers, two cuts right after one identifier are one cut. -/
theorem cut_eq_of_getLast?_eq (hnodup : (operationIds (left ++ right)).Nodup)
    (hcut : left ++ right = left' ++ right')
    (hlast : left.getLast?.map (·.operationId) = left'.getLast?.map (·.operationId)) :
    left = left' := by
  have hmem : ∀ {before before' : List (PendingAuditOperation Kind)},
      before.getLast?.map (·.operationId) = before'.getLast?.map (·.operationId) →
        ∀ last ∈ before.getLast?, last.operationId ∈ operationIds before' := by
    intro before before' heq last hbefore
    rw [Option.mem_def.1 hbefore, Option.map_some, eq_comm, Option.map_eq_some_iff] at heq
    obtain ⟨last', hbefore', hid⟩ := heq
    exact hid ▸ List.mem_map_of_mem (List.mem_of_getLast? hbefore')
  have hle := length_le_of_getLast?_mem hnodup hcut (hmem hlast)
  have hge := length_le_of_getLast?_mem (hcut ▸ hnodup) hcut.symm (hmem hlast.symm)
  exact (List.append_inj hcut (Nat.le_antisymm hle hge)).1

end Cuts

/-! ### Anchors -/

theorem ne_empty_of_isUuid {id : String} (huuid : isUuid id = true) : id ≠ "" := by
  rintro rfl
  exact absurd huuid (by decide)

/-- The text before the colon of an anchor is the identifier before the insertion. -/
theorem anchorText_injective {before before' after after' : Option String}
    (hbefore : ∀ id ∈ before, isUuid id = true) (hafter : ∀ id ∈ after, isUuid id = true)
    (hbefore' : ∀ id ∈ before', isUuid id = true)
    (heq : anchorText before after = anchorText before' after') : before = before' := by
  have hclean : ∀ {side : Option String}, (∀ id ∈ side, isUuid id = true) →
      ':' ∉ (side.getD "").toList := by
    intro side hside
    cases side with
    | none => exact List.not_mem_nil
    | some id => exact colon_notMem_of_isUuid (hside id rfl)
  have htext : before.getD "" = before'.getD "" := by
    have hlist := congrArg String.toList heq
    simp only [anchorText, String.toList_append, List.append_assoc] at hlist
    exact String.toList_inj.1 ((List.append_cons_inj_of_notMem
      (hclean hbefore) (hclean hafter)).1 hlist).1
  cases before with
  | none =>
      cases before' with
      | none => rfl
      | some id => exact absurd htext.symm (ne_empty_of_isUuid (hbefore' id rfl))
  | some id =>
      cases before' with
      | none => exact absurd htext (ne_empty_of_isUuid (hbefore id rfl))
      | some id' => exact congrArg some htext

section Neighbours

variable {persisted : List (PendingAuditOperation Kind)}

theorem getElem?_of_persistedIndex {id : String} {index : Nat}
    (hindex : persistedIndex persisted id = some index) :
    (operationIds persisted)[index]? = some id := by
  obtain ⟨before, after, hsplit, -⟩ := List.lookup_eq_some_iff.1 hindex
  have hmem : (id, index) ∈ (operationIds persisted).zipIdx := by
    rw [← List.mem_reverse, hsplit]
    exact List.mem_append_right _ List.mem_cons_self
  exact List.mem_zipIdx_iff_getElem?.1 hmem

/-- Adjacent anchors are the neighbours of a cut. -/
theorem cut_of_areAdjacentAnchors {before after : Option String}
    (hneighbour : ¬ (before = none ∧ after = none))
    (hadjacent : areAdjacentAnchors before after persisted = true) :
    ∃ left right, persisted = left ++ right ∧ left.getLast?.map (·.operationId) = before ∧
      right.head?.map (·.operationId) = after := by
  cases before with
  | none =>
      have hhead := eq_of_beq hadjacent
      exact ⟨[], persisted, rfl, rfl, hhead.symm⟩
  | some before =>
      cases after with
      | none =>
          have hlast := eq_of_beq hadjacent
          exact ⟨persisted, [], (List.append_nil _).symm, hlast.symm, rfl⟩
      | some after =>
          simp only [areAdjacentAnchors] at hadjacent
          cases hindex : persistedIndex persisted before with
          | none =>
              rw [hindex] at hadjacent
              cases hadjacent
          | some index =>
              rw [hindex] at hadjacent
              have hbefore := getElem?_of_persistedIndex hindex
              have hafter := getElem?_of_persistedIndex (eq_of_beq hadjacent)
              refine ⟨persisted.take (index + 1), persisted.drop (index + 1),
                (List.take_append_drop _ _).symm, ?_, ?_⟩
              · rw [operationIds, List.getElem?_map, Option.map_eq_some_iff] at hbefore
                obtain ⟨operation, hoperation, hid⟩ := hbefore
                simp [List.getLast?_take, hoperation, hid]
              · rw [operationIds, List.getElem?_map] at hafter
                rw [List.head?_drop]
                exact hafter

/-- The nearest persisted operation on one side is on that side of a cut that fits. -/
theorem mem_of_nearestPersistedId {operations part : List (PendingAuditOperation Kind)}
    {id : String} (hnearest : nearestPersistedId persisted operations = some id)
    (hfits : ∀ operation ∈ operations, isPersisted persisted operation = true →
      isPersisted part operation = true) : id ∈ operationIds part := by
  obtain ⟨operation, hfind, hid⟩ := Option.map_eq_some_iff.1 hnearest
  rw [← hid]
  exact isPersisted_iff.1
    (hfits operation (List.mem_of_find?_eq_some hfind) (List.find?_some hfind))

theorem nearestPersistedId_cons_persisted {operation : PendingAuditOperation Kind}
    (operations : List (PendingAuditOperation Kind))
    (hpersisted : isPersisted persisted operation = true) :
    nearestPersistedId persisted (operation :: operations) = some operation.operationId := by
  rw [nearestPersistedId, List.find?_cons_of_pos hpersisted, Option.map_some]

theorem nearestPersistedId_cons_new {operation : PendingAuditOperation Kind}
    (operations : List (PendingAuditOperation Kind))
    (hnew : isPersisted persisted operation = false) :
    nearestPersistedId persisted (operation :: operations) =
      nearestPersistedId persisted operations := by
  rw [nearestPersistedId, List.find?_cons_of_neg (by simp [hnew])]
  rfl

end Neighbours

/-! ### The insertions -/

section Insertions

variable {persisted visited rest : List (PendingAuditOperation Kind)}
  {operation : PendingAuditOperation Kind} {insertions final : Insertions Kind}

/-- An operation the loop inserts: its neighbours are those of a cut, and no
operation was inserted there before. -/
structure Inserts (persisted visited rest : List (PendingAuditOperation Kind))
    (insertions : Insertions Kind) (left right : List (PendingAuditOperation Kind)) : Prop where
  cut : persisted = left ++ right
  before : left.getLast?.map (·.operationId) = nearestPersistedId persisted visited
  after : right.head?.map (·.operationId) = nearestPersistedId persisted rest
  vacant : insertions.lookup (anchorText (nearestPersistedId persisted visited)
    (nearestPersistedId persisted rest)) = none

theorem collectFrom_cons_persisted (hpersisted : isPersisted persisted operation = true) :
    collectFrom persisted visited (operation :: rest) insertions =
      collectFrom persisted (operation :: visited) rest insertions := by
  rw [collectFrom, if_pos hpersisted]

theorem collectFrom_cons_new (hnew : isPersisted persisted operation = false)
    (hcollect : collectFrom persisted visited (operation :: rest) insertions = .ok final) :
    (∃ left right, Inserts persisted visited rest insertions left right) ∧
      collectFrom persisted (operation :: visited) rest
        (insertions ++ [(anchorText (nearestPersistedId persisted visited)
          (nearestPersistedId persisted rest), operation)]) = .ok final := by
  rw [collectFrom, if_neg (by simp [hnew])] at hcollect
  dsimp only at hcollect
  split_ifs at hcollect with hneighbour hadjacent hvacant
  obtain ⟨left, right, hcut, hbefore, hafter⟩ :=
    cut_of_areAdjacentAnchors hneighbour (Bool.eq_true_of_not_eq_false hadjacent)
  exact ⟨⟨left, right, hcut, hbefore, hafter, Option.not_isSome_iff_eq_none.1 hvacant⟩,
    hcollect⟩

/-- The loop adds the new operations, in their order. -/
theorem collectFrom_eq_ok (hcollect : collectFrom persisted visited rest insertions = .ok final) :
    ∃ more, final = insertions ++ more ∧
      more.map Prod.snd = rest.filter (fun operation => !isPersisted persisted operation) := by
  induction rest generalizing visited insertions with
  | nil =>
      cases hcollect
      exact ⟨[], (List.append_nil _).symm, rfl⟩
  | cons operation rest ih =>
      cases hnew : isPersisted persisted operation with
      | true =>
          rw [collectFrom_cons_persisted hnew] at hcollect
          obtain ⟨more, hfinal, hmore⟩ := ih hcollect
          exact ⟨more, hfinal, by simp [hnew, hmore]⟩
      | false =>
          obtain ⟨more, hfinal, hmore⟩ := ih (collectFrom_cons_new hnew hcollect).2
          rw [List.append_assoc] at hfinal
          exact ⟨_, hfinal, by simp [hnew, hmore]⟩

/-- Every new operation was inserted at a cut. -/
theorem inserts_of_collectFrom {before after : List (PendingAuditOperation Kind)}
    (hnew : isPersisted persisted operation = false)
    (hcollect : collectFrom persisted visited (before ++ operation :: after) insertions =
      .ok final) :
    ∃ insertions' left right,
      Inserts persisted (before.reverse ++ visited) after insertions' left right := by
  induction before generalizing visited insertions with
  | nil => exact ⟨insertions, (collectFrom_cons_new hnew hcollect).1⟩
  | cons first before ih =>
      rw [List.reverse_cons, List.append_assoc]
      cases hfirst : isPersisted persisted first with
      | true =>
          rw [List.cons_append, collectFrom_cons_persisted hfirst] at hcollect
          exact ih hcollect
      | false => exact ih (collectFrom_cons_new hfirst hcollect).2

end Insertions

/-! ### The merged list -/

/-- Distinct keys find no more entries than there are. -/
theorem length_filterMap_lookup_le {α β : Type} [DecidableEq α] {keys : List α}
    (hnodup : keys.Nodup) (table : List (α × β)) :
    (keys.filterMap fun key => table.lookup key).length ≤ table.length := by
  have hsubset : keys.filter (fun key => (table.lookup key).isSome) ⊆ table.map Prod.fst := by
    intro key hmem
    obtain ⟨-, hsome⟩ := List.mem_filter.1 hmem
    obtain ⟨value, hlookup⟩ := Option.isSome_iff_exists.1 hsome
    obtain ⟨before, after, hsplit, -⟩ := List.lookup_eq_some_iff.1 hlookup
    rw [hsplit]
    simp
  have hle := (List.subperm_of_subset (hnodup.filter _) hsubset).length_le
  rwa [← List.countP_eq_length_filter, ← List.length_filterMap_eq_countP, List.length_map] at hle

section Merge

variable {persisted visited rest : List (PendingAuditOperation Kind)}
  {insertions final : Insertions Kind}

/-- The anchors `mergeFrom` asks for. -/
def anchorsFrom : List (PendingAuditOperation Kind) → List String
  | [] => []
  | operation :: rest =>
      anchorText (some operation.operationId) (rest.head?.map (·.operationId)) :: anchorsFrom rest

theorem mem_anchorsFrom {operations : List (PendingAuditOperation Kind)} {anchor : String}
    (hmem : anchor ∈ anchorsFrom operations) :
    ∃ id ∈ operationIds operations, ∃ after, (∀ next ∈ after, next ∈ operationIds operations) ∧
      anchor = anchorText (some id) after := by
  induction operations with
  | nil => exact absurd hmem List.not_mem_nil
  | cons operation rest ih =>
      rcases List.mem_cons.1 hmem with rfl | hmem
      · refine ⟨operation.operationId, List.mem_cons_self, _, ?_, rfl⟩
        intro next hnext
        obtain ⟨first, hfirst, rfl⟩ := Option.map_eq_some_iff.1 hnext
        exact List.mem_cons_of_mem _ (List.mem_map_of_mem (List.mem_of_head? hfirst))
      · obtain ⟨id, hid, after, hafter, rfl⟩ := ih hmem
        exact ⟨id, List.mem_cons_of_mem _ hid, after,
          fun next hnext => List.mem_cons_of_mem _ (hafter next hnext), rfl⟩

theorem nodup_anchorsFrom {operations : List (PendingAuditOperation Kind)}
    (huuid : ∀ id ∈ operationIds operations, isUuid id = true)
    (hnodup : (operationIds operations).Nodup) : (anchorsFrom operations).Nodup := by
  induction operations with
  | nil => exact List.nodup_nil
  | cons operation rest ih =>
      obtain ⟨hfresh, hrest⟩ := List.nodup_cons.1 hnodup
      have huuid' : ∀ id ∈ operationIds rest, isUuid id = true :=
        fun id hid => huuid id (List.mem_cons_of_mem _ hid)
      refine List.nodup_cons.2 ⟨?_, ih huuid' hrest⟩
      intro hmem
      obtain ⟨id, hid, after, hafter, heq⟩ := mem_anchorsFrom hmem
      have hsame : some id = some operation.operationId := by
        apply anchorText_injective _ _ _ heq.symm
        · rintro _ ⟨⟩
          exact huuid' id hid
        · exact fun next hnext => huuid' next (hafter next hnext)
        · rintro _ ⟨⟩
          exact huuid _ List.mem_cons_self
      rw [Option.some.inj hsame] at hid
      exact hfresh hid

/-- The anchors `applyPreparedInsertions` asks for. -/
theorem nodup_anchors {first : PendingAuditOperation Kind}
    {operations : List (PendingAuditOperation Kind)}
    (huuid : ∀ id ∈ operationIds (first :: operations), isUuid id = true)
    (hnodup : (operationIds (first :: operations)).Nodup) :
    (anchorText none (some first.operationId) :: anchorsFrom (first :: operations)).Nodup := by
  refine List.nodup_cons.2 ⟨?_, nodup_anchorsFrom huuid hnodup⟩
  intro hmem
  obtain ⟨id, hid, after, hafter, heq⟩ := mem_anchorsFrom hmem
  have hsame : some id = none := by
    apply anchorText_injective _ _ _ heq.symm
    · rintro _ ⟨⟩
      exact huuid id hid
    · exact fun next hnext => huuid next (hafter next hnext)
    · rintro _ ⟨⟩
  cases hsame

theorem mem_insertionAt {before after : Option String} {operation : PendingAuditOperation Kind}
    (hmem : operation ∈ insertionAt insertions before after) :
    operation ∈ insertions.map Prod.snd := by
  have hlookup := Option.mem_toList.1 hmem
  obtain ⟨left, right, hsplit, -⟩ := List.lookup_eq_some_iff.1 hlookup
  rw [hsplit]
  simp

theorem filter_insertionAt_new {before after : Option String}
    (hnew : ∀ operation ∈ insertions.map Prod.snd, isPersisted persisted operation = false) :
    (insertionAt insertions before after).filter
      (fun operation => !isPersisted persisted operation) = insertionAt insertions before after :=
  List.filter_eq_self.2 fun operation hmem => by simp [hnew operation (mem_insertionAt hmem)]

theorem filter_insertionAt_persisted {before after : Option String}
    (hnew : ∀ operation ∈ insertions.map Prod.snd, isPersisted persisted operation = false) :
    (insertionAt insertions before after).filter (isPersisted persisted) = [] :=
  List.filter_eq_nil_iff.2 fun operation hmem => by simp [hnew operation (mem_insertionAt hmem)]

theorem filter_mergeFrom_persisted
    (hnew : ∀ operation ∈ insertions.map Prod.snd, isPersisted persisted operation = false)
    {operations : List (PendingAuditOperation Kind)}
    (hpersisted : ∀ operation ∈ operations, isPersisted persisted operation = true) :
    (mergeFrom insertions operations).filter (isPersisted persisted) = operations := by
  induction operations with
  | nil => rfl
  | cons operation rest ih =>
      obtain ⟨hfirst, hrest⟩ := List.forall_mem_cons.1 hpersisted
      rw [mergeFrom, List.filter_cons_of_pos hfirst, List.filter_append,
        filter_insertionAt_persisted hnew, List.nil_append, ih hrest]

theorem filterMap_lookup_cons (anchor : String) (anchors : List String) :
    (anchor :: anchors).filterMap (fun anchor => insertions.lookup anchor) =
      (insertions.lookup anchor).toList ++
        anchors.filterMap (fun anchor => insertions.lookup anchor) := by
  rw [List.filterMap_cons]
  cases insertions.lookup anchor <;> rfl

theorem filter_mergeFrom_new
    (hnew : ∀ operation ∈ insertions.map Prod.snd, isPersisted persisted operation = false)
    {operations : List (PendingAuditOperation Kind)}
    (hpersisted : ∀ operation ∈ operations, isPersisted persisted operation = true) :
    (mergeFrom insertions operations).filter (fun operation => !isPersisted persisted operation) =
      (anchorsFrom operations).filterMap fun anchor => insertions.lookup anchor := by
  induction operations with
  | nil => rfl
  | cons operation rest ih =>
      obtain ⟨hfirst, hrest⟩ := List.forall_mem_cons.1 hpersisted
      rw [mergeFrom, List.filter_cons_of_neg (by simp [hfirst]), List.filter_append,
        filter_insertionAt_new hnew, ih hrest, anchorsFrom, filterMap_lookup_cons, insertionAt]

/-- What follows an operation of a merged list. -/
theorem mergeFrom_append (left : List (PendingAuditOperation Kind))
    (operation : PendingAuditOperation Kind) (right : List (PendingAuditOperation Kind)) :
    (operation :: (insertionAt insertions (some operation.operationId)
      (right.head?.map (·.operationId)) ++ mergeFrom insertions right)).Sublist
        (mergeFrom insertions (left ++ operation :: right)) := by
  induction left with
  | nil => exact List.Sublist.refl _
  | cons first left ih =>
      rw [List.cons_append, mergeFrom]
      exact (ih.trans (List.sublist_append_right _ _)).cons _

/-- The operation as it is persisted, when it is. -/
def persistedVersion (persisted : List (PendingAuditOperation Kind))
    (operation : PendingAuditOperation Kind) : PendingAuditOperation Kind :=
  (persisted.find? (·.operationId == operation.operationId)).getD operation

@[simp] theorem persistedVersion_operationId (operation : PendingAuditOperation Kind) :
    (persistedVersion persisted operation).operationId = operation.operationId := by
  rw [persistedVersion]
  cases hfind : persisted.find? (·.operationId == operation.operationId) with
  | none => rfl
  | some found =>
      have hid := List.find?_some hfind
      exact eq_of_beq hid

theorem persistedVersion_of_new {operation : PendingAuditOperation Kind}
    (hnew : isPersisted persisted operation = false) :
    persistedVersion persisted operation = operation := by
  have hfind : persisted.find? (·.operationId == operation.operationId) = none := by
    apply List.find?_eq_none.2
    intro found hmem heq
    have hid : operation.operationId ∈ operationIds persisted :=
      eq_of_beq heq ▸ List.mem_map_of_mem hmem
    rw [isPersisted_iff.2 hid] at hnew
    cases hnew
  rw [persistedVersion, hfind, Option.getD_none]

theorem filter_new_map_persistedVersion (operations : List (PendingAuditOperation Kind)) :
    (operations.map (persistedVersion persisted)).filter
        (fun operation => !isPersisted persisted operation) =
      operations.filter (fun operation => !isPersisted persisted operation) := by
  induction operations with
  | nil => rfl
  | cons operation rest ih =>
      have hsame : isPersisted persisted (persistedVersion persisted operation) =
          isPersisted persisted operation := by
        rw [isPersisted, persistedVersion_operationId, isPersisted]
      cases hnew : isPersisted persisted operation with
      | true => simp [hsame, hnew, ih]
      | false => simp [hnew, ih, persistedVersion_of_new hnew]

theorem persistedVersion_of_mem (hnodup : (operationIds persisted).Nodup)
    {operation found : PendingAuditOperation Kind} (hmem : found ∈ persisted)
    (hid : found.operationId = operation.operationId) :
    persistedVersion persisted operation = found := by
  cases hfind : persisted.find? (·.operationId == operation.operationId) with
  | none => exact absurd (by simp [hid]) (List.find?_eq_none.1 hfind found hmem)
  | some found' =>
      rw [persistedVersion, hfind, Option.getD_some]
      apply List.inj_on_of_nodup_map hnodup (List.mem_of_find?_eq_some hfind) hmem
      have hid' := List.find?_some hfind
      exact (eq_of_beq hid').trans hid.symm

/-- The invariant of the loop: what is still to be visited stands, in its order, in
the part of the merged list after the last persisted operation visited.  The
insertion right after that operation is not counted once the loop has made it. -/
theorem sublist_of_collectFrom {left right : List (PendingAuditOperation Kind)}
    (hnodup : (operationIds persisted).Nodup)
    (hcollect : collectFrom persisted visited rest insertions = .ok final)
    (hcut : persisted = left ++ right)
    (hbefore : left.getLast?.map (·.operationId) = nearestPersistedId persisted visited)
    (hordered : (operationIds (rest.filter (isPersisted persisted))).Sublist
      (operationIds right)) :
    (rest.map (persistedVersion persisted)).Sublist
      ((if (insertions.lookup (anchorText (left.getLast?.map (·.operationId))
          (right.head?.map (·.operationId)))).isSome then []
        else insertionAt final (left.getLast?.map (·.operationId))
          (right.head?.map (·.operationId))) ++ mergeFrom final right) := by
  induction rest generalizing visited insertions left right with
  | nil => exact List.nil_sublist _
  | cons operation rest ih =>
      cases hnew : isPersisted persisted operation with
      | true =>
          rw [collectFrom_cons_persisted hnew] at hcollect
          rw [List.filter_cons_of_pos hnew, operationIds_cons] at hordered
          -- The operation stands somewhere in `right`, and the rest after it.
          obtain ⟨ids, ids', hids, hmem, hrest⟩ := List.cons_sublist_iff.1 hordered
          obtain ⟨skipped, right', rfl, rfl, rfl⟩ := List.map_eq_append_iff.1 hids
          obtain ⟨found, hfound, hid⟩ := List.mem_map.1 hmem
          obtain ⟨before, after, rfl⟩ := List.append_of_mem hfound
          have hversion : persistedVersion persisted operation = found :=
            persistedVersion_of_mem hnodup (by simp [hcut]) hid
          have hcut' : persisted = (left ++ before ++ [found]) ++ (after ++ right') := by
            simp [hcut]
          have htail := ih hcollect hcut' (by
              rw [nearestPersistedId_cons_persisted _ hnew]
              simp [hid])
            (hrest.trans (by
              rw [operationIds_append]
              exact List.sublist_append_right _ _))
          have hlast : (left ++ before ++ [found]).getLast?.map (·.operationId) =
              some found.operationId := by simp
          rw [hlast] at htail
          rw [List.map_cons, hversion, List.append_assoc, List.cons_append]
          apply List.Sublist.trans _ (List.sublist_append_right _ _)
          apply List.Sublist.trans _ (mergeFrom_append before found (after ++ right'))
          apply (htail.trans _).cons_cons
          split
          · exact List.sublist_append_right _ _
          · exact List.Sublist.refl _
      | false =>
          obtain ⟨⟨left', right', hinserts⟩, hrest⟩ := collectFrom_cons_new hnew hcollect
          rw [List.filter_cons_of_neg (by simp [hnew])] at hordered
          have hleft : left = left' :=
            cut_eq_of_getLast?_eq (hcut ▸ hnodup) (hcut ▸ hinserts.cut)
              (hbefore.trans hinserts.before.symm)
          subst hleft
          have hright : right = right' := List.append_cancel_left (hcut ▸ hinserts.cut)
          subst hright
          have htail := ih hrest hcut
            (by rw [nearestPersistedId_cons_new _ hnew, hbefore]) hordered
          obtain ⟨more, hfinal, -⟩ := collectFrom_eq_ok hrest
          have hvacant := hinserts.vacant
          rw [← hinserts.before, ← hinserts.after] at hvacant hfinal htail
          rw [List.lookup_append, hvacant, Option.none_or, List.lookup_cons_self,
            Option.isSome_some, if_pos rfl, List.nil_append] at htail
          have hinsertion : insertionAt final (left.getLast?.map (·.operationId))
              (right.head?.map (·.operationId)) = [operation] := by
            rw [insertionAt, hfinal, List.lookup_append, List.lookup_append, hvacant,
              Option.none_or, List.lookup_cons_self, Option.some_or, Option.toList_some]
          rw [hvacant, Option.isSome_none, if_neg Bool.false_ne_true, hinsertion, List.map_cons,
            persistedVersion_of_new hnew]
          exact htail.cons_cons _

end Merge

/-! ### Accepted and refused lists -/

section Verdict

variable {persisted prepared merged : List (PendingAuditOperation Kind)}

theorem sublist_of_assertPreparedOrder
    (hassert : assertPreparedOrderMatchesPersisted prepared persisted = .ok ()) :
    (operationIds (prepared.filter (isPersisted persisted))).Sublist (operationIds persisted) := by
  rw [assertPreparedOrderMatchesPersisted] at hassert
  split_ifs at hassert with hsame
  rw [hsame]
  exact List.filter_sublist

/-- The checks an accepted list has passed. -/
theorem withCarriedAuditOperations_eq_ok (hnonempty : persisted ≠ [])
    (hcarried : withCarriedAuditOperations persisted prepared = .ok merged) :
    (operationIds (prepared.filter (isPersisted persisted))).Sublist (operationIds persisted) ∧
      ∃ insertions, collectFrom persisted [] prepared [] = .ok insertions ∧
        merged = insertionAt insertions none (persisted.head?.map (·.operationId)) ++
          mergeFrom insertions persisted := by
  rw [withCarriedAuditOperations, if_neg (by simpa using hnonempty)] at hcarried
  obtain ⟨⟨⟩, hassert, hrest⟩ := bind_eq_ok_iff.1 hcarried
  obtain ⟨insertions, hcollect, hpure⟩ := bind_eq_ok_iff.1 hrest
  refine ⟨sublist_of_assertPreparedOrder hassert, insertions, hcollect, ?_⟩
  cases persisted with
  | nil => exact absurd rfl hnonempty
  | cons first rest =>
      cases hpure
      rfl

theorem collectFrom_error {visited rest : List (PendingAuditOperation Kind)}
    {insertions : Insertions Kind} {error : PersistenceError}
    (hcollect : collectFrom persisted visited rest insertions = .error error) :
    ∃ message, error = orderConflict message := by
  induction rest generalizing visited insertions with
  | nil => cases hcollect
  | cons operation rest ih =>
      rw [collectFrom] at hcollect
      dsimp only at hcollect
      split_ifs at hcollect with hpersisted
      · exact ih hcollect
      all_goals first
        | exact ih hcollect
        | cases hcollect
          exact ⟨_, rfl⟩

theorem withCarriedAuditOperations_error {error : PersistenceError}
    (hcarried : withCarriedAuditOperations persisted prepared = .error error) :
    ∃ message, error = orderConflict message := by
  rw [withCarriedAuditOperations] at hcarried
  split_ifs at hcarried
  cases hassert : assertPreparedOrderMatchesPersisted prepared persisted with
  | error =>
      rw [hassert] at hcarried
      cases hcarried
      rw [assertPreparedOrderMatchesPersisted] at hassert
      split_ifs at hassert
      cases hassert
      exact ⟨_, rfl⟩
  | ok =>
      rw [hassert] at hcarried
      cases hcollect : collectPreparedInsertions prepared persisted with
      | error =>
          rw [hcollect] at hcarried
          cases hcarried
          exact collectFrom_error hcollect
      | ok insertions =>
          rw [hcollect] at hcarried
          cases hcarried

end Verdict

variable (persisted : Outbox Kind) {prepared merged : List (PendingAuditOperation Kind)}

theorem Outbox.carries_of_accepted
    (hcarried : withCarriedAuditOperations persisted.operations prepared = .ok merged) :
    Carries persisted.operations prepared merged := by
  rcases persisted with ⟨_ | ⟨first, rest⟩, huuid, hnodup⟩
  · cases hcarried
    exact ⟨filter_isPersisted_nil prepared, rfl, List.Sublist.refl _⟩
  · obtain ⟨hordered, insertions, hcollect, rfl⟩ :=
      withCarriedAuditOperations_eq_ok (List.cons_ne_nil first rest) hcarried
    obtain ⟨more, hmore, hadded⟩ := collectFrom_eq_ok hcollect
    rw [List.nil_append] at hmore
    subst hmore
    have hnew : ∀ operation ∈ insertions.map Prod.snd,
        isPersisted (first :: rest) operation = false := by
      intro operation hmem
      rw [hadded] at hmem
      simpa using (List.mem_filter.1 hmem).2
    have hpersisted : ∀ operation ∈ first :: rest, isPersisted (first :: rest) operation = true :=
      fun _ hmem => isPersisted_of_mem hmem
    have hcut : first :: rest = [] ++ first :: rest := rfl
    have hsublist := sublist_of_collectFrom hnodup hcollect hcut rfl hordered
    simp only [List.getLast?_nil, Option.map_none, List.lookup_nil, Option.isSome_none,
      Bool.false_eq_true, if_false] at hsublist
    refine ⟨?_, ?_, ?_⟩
    · rw [List.filter_append, filter_insertionAt_persisted hnew, List.nil_append,
        filter_mergeFrom_persisted hnew hpersisted]
    · -- The new operations of the prepared list are among those merged, and no fewer.
      symm
      apply List.Sublist.eq_of_length_le
      · have hfilter := hsublist.filter (fun operation => !isPersisted (first :: rest) operation)
        rwa [filter_new_map_persistedVersion] at hfilter
      · rw [← hadded, List.length_map, List.filter_append, filter_insertionAt_new hnew,
          filter_mergeFrom_new hnew hpersisted]
        have hle := length_filterMap_lookup_le (nodup_anchors huuid hnodup) insertions
        rwa [filterMap_lookup_cons] at hle
    · have hids := hsublist.map (·.operationId)
      rw [List.map_map] at hids
      have hsame : (fun operation : PendingAuditOperation Kind => operation.operationId) ∘
          persistedVersion (first :: rest) = (·.operationId) :=
        funext persistedVersion_operationId
      rwa [hsame] at hids

/-- An accepted list leaves one cut for each new operation. -/
theorem Outbox.not_leavesAmbiguous_of_accepted
    (hcarried : withCarriedAuditOperations persisted.operations prepared = .ok merged) :
    ¬ LeavesAmbiguous persisted.operations prepared := by
  rintro ⟨before, operation, after, rfl, hnew, left, right, left', right', hfits, hfits', hne⟩
  by_cases hempty : persisted.operations = []
  · have hcut := hfits.cut
    have hcut' := hfits'.cut
    rw [hempty, eq_comm, List.append_eq_nil_iff] at hcut hcut'
    exact hne (hcut.1.trans hcut'.1.symm)
  · obtain ⟨-, insertions, hcollect, -⟩ := withCarriedAuditOperations_eq_ok hempty hcarried
    obtain ⟨_, left₀, right₀, hinserts⟩ := inserts_of_collectFrom hnew hcollect
    have hunique : ∀ {left right : List (PendingAuditOperation Kind)},
        FitsAt persisted.operations before after left right → left = left₀ := by
      intro left right hfits
      have hnodup : (operationIds (left₀ ++ right₀)).Nodup :=
        hinserts.cut ▸ persisted.distinct
      have hcuts : left₀ ++ right₀ = left ++ right := hinserts.cut.symm.trans hfits.cut
      have hle := length_le_of_getLast?_mem hnodup hcuts (by
        intro last hlast
        apply mem_of_nearestPersistedId (hinserts.before.symm.trans (congrArg _ hlast))
        intro neighbour hmem
        exact hfits.before neighbour (by simpa using hmem))
      have hge := length_le_of_head?_mem hnodup hcuts (by
        intro first hfirst
        exact mem_of_nearestPersistedId (hinserts.after.symm.trans (congrArg _ hfirst))
          hfits.after)
      exact (List.append_inj hcuts (Nat.le_antisymm hle hge)).1.symm
    exact hne ((hunique hfits).trans (hunique hfits').symm)

theorem Outbox.not_reorders_of_accepted
    (hcarried : withCarriedAuditOperations persisted.operations prepared = .ok merged) :
    ¬ Reorders persisted.operations prepared := by
  by_cases hempty : persisted.operations = []
  · rw [Reorders, hempty, not_not, filter_isPersisted_nil]
  · rw [Reorders, not_not]
    exact (withCarriedAuditOperations_eq_ok hempty hcarried).1

/-- What is accepted is merged without loss, and what reorders persisted operations
or leaves the position of a new one open is refused. -/
theorem withCarriedAuditOperations_lossless (persisted : Outbox Kind)
    (prepared : List (PendingAuditOperation Kind)) :
    (∀ merged, withCarriedAuditOperations persisted.operations prepared = .ok merged →
      Carries persisted.operations prepared merged) ∧
    (Reorders persisted.operations prepared ∨ LeavesAmbiguous persisted.operations prepared →
      ∃ message, withCarriedAuditOperations persisted.operations prepared =
        .error ⟨"OUTBOX_ORDER_CONFLICT", message⟩) := by
  refine ⟨fun merged hcarried => persisted.carries_of_accepted hcarried, fun hbad => ?_⟩
  cases hcarried : withCarriedAuditOperations persisted.operations prepared with
  | error error =>
      obtain ⟨message, rfl⟩ := withCarriedAuditOperations_error hcarried
      exact ⟨message, rfl⟩
  | ok merged =>
      rcases hbad with hreorders | hambiguous
      · exact absurd hreorders (persisted.not_reorders_of_accepted hcarried)
      · exact absurd hambiguous (persisted.not_leavesAmbiguous_of_accepted hcarried)

/-- Where no prepared id stands twice, no merged one does. -/
theorem Outbox.nodup_of_accepted
    (hcarried : withCarriedAuditOperations persisted.operations prepared = .ok merged)
    (hprepared : (operationIds prepared).Nodup) : (operationIds merged).Nodup := by
  have hcarries := persisted.carries_of_accepted hcarried
  have hsplit := (List.filter_append_perm (isPersisted persisted.operations) merged).map
    (·.operationId)
  rw [hcarries.kept, hcarries.added, List.map_append] at hsplit
  refine hsplit.nodup_iff.1 (List.nodup_append'.2
    ⟨persisted.distinct, hprepared.sublist (List.filter_sublist.map _), fun id hold hnew => ?_⟩)
  obtain ⟨operation, hmem, rfl⟩ := List.mem_map.1 hnew
  have hold' : isPersisted persisted.operations operation = true := List.contains_iff_mem.2 hold
  simpa [hold'] using (List.mem_filter.1 hmem).2

/-! ### A stale snapshot -/

section Sample

private def zeroDigest : Digest := ⟨String.ofList (List.replicate 64 '0'), by decide⟩

def sampleOperation (operationId : String) (status : AuditOperationStatus) :
    PendingAuditOperation Unit :=
  ⟨operationId, zeroDigest, zeroDigest, zeroDigest, zeroDigest, status, ()⟩

def firstOperation : AuditOperationStatus → PendingAuditOperation Unit :=
  sampleOperation "00000000-0000-4000-8000-000000000001"

def secondOperation : AuditOperationStatus → PendingAuditOperation Unit :=
  sampleOperation "00000000-0000-4000-8000-000000000002"

def newOperation : PendingAuditOperation Unit :=
  sampleOperation "00000000-0000-4000-8000-000000000003" .stateCommitted

def sampleOutbox : Outbox Unit where
  operations := [firstOperation .reconciled, secondOperation .auditCommitted]
  uuid := by decide
  distinct := by decide

theorem withCarriedAuditOperations_lossless_stale :
    Carries sampleOutbox.operations [newOperation, firstOperation .stateCommitted]
      [newOperation, firstOperation .reconciled, secondOperation .auditCommitted] ∧
    ∃ message, withCarriedAuditOperations sampleOutbox.operations
      [secondOperation .stateCommitted, newOperation, firstOperation .stateCommitted] =
        .error ⟨"OUTBOX_ORDER_CONFLICT", message⟩ :=
  ⟨(withCarriedAuditOperations_lossless sampleOutbox _).1 _ (by decide),
    (withCarriedAuditOperations_lossless sampleOutbox _).2 (.inl (by decide))⟩

end Sample

end GovernedRuntime.Audit
