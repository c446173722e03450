/-
The append-only peer-review evidence of an obligation and the task it resolves to
(`src/state/peer-review.ts`).
-/
import GovernedRuntime.Library.FunctionalGraph
import Mathlib.Data.List.Induction

namespace GovernedRuntime.Review

open GovernedRuntime.Library Relation

/-- Evidence ids are never empty. -/
structure EvidenceId where
  text : String
  nonempty : text ≠ ""
deriving DecidableEq, Repr

variable {Task : Type}

structure PeerReviewPreparedEvidence (Task : Type) where
  evidenceId : EvidenceId
  reviewTaskId : String
  obligationId : String
  task : Task
deriving DecidableEq, Repr

structure PeerReviewCompletedEvidence where
  evidenceId : EvidenceId
  reviewTaskId : String
  obligationId : String
  preparedEvidenceId : EvidenceId
deriving DecidableEq, Repr

structure PeerReviewSupersededEvidence where
  evidenceId : EvidenceId
  reviewTaskId : String
  obligationId : String
  supersededPreparedEvidenceId : EvidenceId
  replacementPreparedEvidenceId : EvidenceId
deriving DecidableEq, Repr

inductive PeerReviewEvidence (Task : Type) where
  | prepared (entry : PeerReviewPreparedEvidence Task)
  | completed (entry : PeerReviewCompletedEvidence)
  | superseded (entry : PeerReviewSupersededEvidence)
deriving DecidableEq, Repr

namespace PeerReviewEvidence

def evidenceId : PeerReviewEvidence Task → EvidenceId
  | prepared entry => entry.evidenceId
  | completed entry => entry.evidenceId
  | superseded entry => entry.evidenceId

def reviewTaskId : PeerReviewEvidence Task → String
  | prepared entry => entry.reviewTaskId
  | completed entry => entry.reviewTaskId
  | superseded entry => entry.reviewTaskId

def obligationId : PeerReviewEvidence Task → String
  | prepared entry => entry.obligationId
  | completed entry => entry.obligationId
  | superseded entry => entry.obligationId

def prepared? : PeerReviewEvidence Task → Option (PeerReviewPreparedEvidence Task)
  | prepared entry => some entry
  | _ => none

def completed? : PeerReviewEvidence Task → Option PeerReviewCompletedEvidence
  | completed entry => some entry
  | _ => none

def superseded? : PeerReviewEvidence Task → Option PeerReviewSupersededEvidence
  | superseded entry => some entry
  | _ => none

end PeerReviewEvidence

inductive AuthoritativePeerReviewTask (Task : Type) where
  | ok (task : Task) (reviewTaskId : String)
  | none (reason : String)
  | blocked (reason : String)
deriving DecidableEq, Repr

/-! ### Groups -/

section Groups

variable {β : Type}

def extendGroup (key : β → String) (item : β) (group : String × List β) : String × List β :=
  if group.1 = key item then (group.1, group.2 ++ [item]) else group

/-- Push an item to the bucket of its key, or start one. -/
def pushToGroup (key : β → String) (groups : List (String × List β)) (item : β) :
    List (String × List β) :=
  if (groups.lookup (key item)).isSome then groups.map (extendGroup key item)
  else groups ++ [(key item, [item])]

def groupBy (key : β → String) (items : List β) : List (String × List β) :=
  items.foldl (pushToGroup key) []

variable {key : β → String} {groups : List (String × List β)} {items : List β} {item : β}

theorem groupBy_concat :
    groupBy key (items ++ [item]) = pushToGroup key (groupBy key items) item :=
  List.foldl_concat _ _ _ _

theorem isSome_lookup_iff {κ : Type} [DecidableEq κ] {entries : List (κ × β)} {name : κ} :
    (entries.lookup name).isSome = true ↔ name ∈ entries.map Prod.fst := by
  induction entries with
  | nil => simp
  | cons entry rest ih =>
      obtain ⟨first, value⟩ := entry
      by_cases heq : name = first
      · simp [heq]
      · simp [List.lookup_cons, beq_false_of_ne heq, heq, ih]

theorem extendGroup_fst (group : String × List β) : (extendGroup key item group).1 = group.1 := by
  unfold extendGroup
  split_ifs <;> rfl

theorem extendGroup_snd (group : String × List β) :
    (extendGroup key item group).2 = group.2 ++ if group.1 = key item then [item] else [] := by
  unfold extendGroup
  split_ifs <;> simp

theorem lookup_extended {name : String} :
    (groups.map (extendGroup key item)).lookup name =
      (groups.lookup name).map (· ++ if name = key item then [item] else []) := by
  induction groups with
  | nil => rfl
  | cons group rest ih =>
      rw [List.map_cons, List.lookup_cons, List.lookup_cons, extendGroup_fst, ih]
      by_cases heq : name = group.1
      · rw [beq_iff_eq.2 heq, Option.map_some, extendGroup_snd, heq]
      · rw [beq_false_of_ne heq]

theorem lookup_pushToGroup {name : String} :
    ((pushToGroup key groups item).lookup name).getD [] =
      (groups.lookup name).getD [] ++ if name = key item then [item] else [] := by
  unfold pushToGroup
  split
  case isTrue hsome =>
    rw [lookup_extended]
    by_cases heq : name = key item
    · subst heq
      obtain ⟨bucket, hbucket⟩ := Option.isSome_iff_exists.1 hsome
      simp [hbucket]
    · simp [heq]
  case isFalse hnone =>
    rw [List.lookup_append]
    by_cases heq : name = key item
    · subst heq
      rw [Option.not_isSome_iff_eq_none] at hnone
      simp [hnone]
    · simp [List.lookup_cons, beq_false_of_ne heq, heq]

/-- The bucket of a key holds the items with that key. -/
theorem lookup_groupBy (name : String) :
    ((groupBy key items).lookup name).getD [] = items.filter (name = key ·) := by
  induction items using List.reverseRecOn with
  | nil => rfl
  | append_singleton items item ih =>
      rw [groupBy_concat, lookup_pushToGroup, ih, List.filter_append]
      by_cases heq : name = key item <;> simp [heq]

theorem mem_keys_pushToGroup {name : String} :
    name ∈ (pushToGroup key groups item).map Prod.fst ↔
      name ∈ groups.map Prod.fst ∨ key item = name := by
  unfold pushToGroup
  split
  case isTrue hsome =>
    have hkeys : (groups.map (extendGroup key item)).map Prod.fst = groups.map Prod.fst := by
      rw [List.map_map]
      exact List.map_congr_left fun group _ => extendGroup_fst group
    rw [hkeys, or_iff_left_of_imp]
    rintro rfl
    exact isSome_lookup_iff.1 hsome
  case isFalse hnone => simp [eq_comm]

theorem mem_keys_groupBy {name : String} :
    name ∈ (groupBy key items).map Prod.fst ↔ ∃ item ∈ items, key item = name := by
  induction items using List.reverseRecOn with
  | nil => simp [groupBy]
  | append_singleton items item ih =>
      rw [groupBy_concat, mem_keys_pushToGroup, ih]
      simp [or_and_right, exists_or]

theorem mem_flatMap_pushToGroup {x : β} :
    x ∈ (pushToGroup key groups item).flatMap Prod.snd ↔
      x ∈ groups.flatMap Prod.snd ∨ x = item := by
  unfold pushToGroup
  split
  case isTrue hsome =>
    rw [isSome_lookup_iff, List.mem_map] at hsome
    obtain ⟨own, hown, hkey⟩ := hsome
    simp only [List.mem_flatMap, List.mem_map, exists_exists_and_eq_and, extendGroup_snd,
      List.mem_append]
    constructor
    · rintro ⟨group, hgroup, hmem | hmem⟩
      · exact .inl ⟨group, hgroup, hmem⟩
      · split_ifs at hmem
        · exact .inr (List.mem_singleton.1 hmem)
        · cases hmem
    · rintro (⟨group, hgroup, hmem⟩ | rfl)
      · exact ⟨group, hgroup, .inl hmem⟩
      · exact ⟨own, hown, .inr (by rw [if_pos hkey]; exact List.mem_singleton_self x)⟩
  case isFalse hnone => simp

theorem mem_flatMap_groupBy {x : β} :
    x ∈ (groupBy key items).flatMap Prod.snd ↔ x ∈ items := by
  induction items using List.reverseRecOn with
  | nil => rfl
  | append_singleton items item ih =>
      rw [groupBy_concat, mem_flatMap_pushToGroup, ih, List.mem_append, List.mem_singleton]

end Groups

structure EvidenceIndexes (Task : Type) where
  /-- The entries of `preparedById`: of two with one id, the later one is found. -/
  prepared : List (PeerReviewPreparedEvidence Task)
  preparedByTask : List (String × List (PeerReviewPreparedEvidence Task))
  completedByTask : List (String × List PeerReviewCompletedEvidence)
  supersededByTask : List (String × List PeerReviewSupersededEvidence)

section Entries

variable (evidence : List (PeerReviewEvidence Task)) (obligationId : String)

def preparedEntries : List (PeerReviewPreparedEvidence Task) :=
  (evidence.filter (·.obligationId = obligationId)).filterMap PeerReviewEvidence.prepared?

def completedEntries : List PeerReviewCompletedEvidence :=
  (evidence.filter (·.obligationId = obligationId)).filterMap PeerReviewEvidence.completed?

def supersededEntries : List PeerReviewSupersededEvidence :=
  (evidence.filter (·.obligationId = obligationId)).filterMap PeerReviewEvidence.superseded?

def indexPeerEvidence : EvidenceIndexes Task :=
  { prepared := preparedEntries evidence obligationId
    preparedByTask := groupBy (·.reviewTaskId) (preparedEntries evidence obligationId)
    completedByTask := groupBy (·.reviewTaskId) (completedEntries evidence obligationId)
    supersededByTask := groupBy (·.reviewTaskId) (supersededEntries evidence obligationId) }

end Entries

namespace EvidenceIndexes

variable (index : EvidenceIndexes Task)

def preparedById (id : EvidenceId) : Option (PeerReviewPreparedEvidence Task) :=
  index.prepared.reverse.find? (·.evidenceId = id)

/-- The markers in the order in which the nested loops meet them. -/
def markers : List PeerReviewSupersededEvidence :=
  index.supersededByTask.flatMap Prod.snd

end EvidenceIndexes

/-! ### Supersession -/

/-- What is wrong with the references of one marker. -/
def markerError (index : EvidenceIndexes Task) (marker : PeerReviewSupersededEvidence) :
    Option String :=
  match index.preparedById marker.supersededPreparedEvidenceId with
  | none =>
      some ("supersededPreparedEvidenceId " ++ marker.supersededPreparedEvidenceId.text ++
        " does not reference a prepared entry")
  | some superseded =>
      match index.preparedById marker.replacementPreparedEvidenceId with
      | none =>
          some ("replacementPreparedEvidenceId " ++ marker.replacementPreparedEvidenceId.text ++
            " does not reference a prepared entry")
      | some replacement =>
          if marker.reviewTaskId ≠ superseded.reviewTaskId ∨
              marker.reviewTaskId ≠ replacement.reviewTaskId then
            some ("supersession marker " ++ marker.evidenceId.text ++
              " crosses reviewTaskId boundaries")
          else none

def validateSupersessionReferences (index : EvidenceIndexes Task) : Option String :=
  index.markers.findSome? (markerError index)

/-- One turn of the loop that collects replacements: an id that is replaced again by
the same one keeps its entry. -/
def addReplacement (replacements : List (EvidenceId × EvidenceId))
    (marker : PeerReviewSupersededEvidence) :
    Except String (List (EvidenceId × EvidenceId)) :=
  match replacements.lookup marker.supersededPreparedEvidenceId with
  | some existing =>
      if existing ≠ marker.replacementPreparedEvidenceId then
        .error ("prepared " ++ marker.supersededPreparedEvidenceId.text ++
          " has multiple replacements")
      else .ok replacements
  | none =>
      .ok (replacements ++
        [(marker.supersededPreparedEvidenceId, marker.replacementPreparedEvidenceId)])

def collectReplacementMap (index : EvidenceIndexes Task) :
    Except String (List (EvidenceId × EvidenceId)) :=
  index.markers.foldlM addReplacement []

def findSupersessionCycle (replacements : List (EvidenceId × EvidenceId)) : Option String :=
  (findRepeat (fun id => replacements.lookup id) (replacements.map Prod.fst)).map fun cursor =>
    "supersession graph contains a cycle at " ++ cursor.text

def validateSupersessionGraph (index : EvidenceIndexes Task) : Option String :=
  match validateSupersessionReferences index with
  | some referenceError => some referenceError
  | none =>
      match collectReplacementMap index with
      | .error reason => some reason
      | .ok replacements => findSupersessionCycle replacements

def collectSupersededPreparedIds (index : EvidenceIndexes Task) : List EvidenceId :=
  index.markers.map (·.supersededPreparedEvidenceId)

/-! ### Resolution -/

inductive ReviewTaskIdResolution where
  | resolved (reviewTaskId : String)
  | none (reason : String)
  | blocked (reason : String)
deriving DecidableEq, Repr

def taskIds (index : EvidenceIndexes Task) : List String :=
  index.preparedByTask.map Prod.fst ++ index.completedByTask.map Prod.fst ++
    index.supersededByTask.map Prod.fst

def resolveSingleReviewTaskId (index : EvidenceIndexes Task) : ReviewTaskIdResolution :=
  match (taskIds index).eraseDups with
  | [] => .none "no peer review evidence for this obligation"
  | [reviewTaskId] => .resolved reviewTaskId
  | _ =>
      .blocked
        "multiple reviewTaskIds exist for one obligation; the lifecycle chain is ambiguous"

def resolvePending (reviewTaskId : String) (pending : List (PeerReviewPreparedEvidence Task)) :
    AuthoritativePeerReviewTask Task :=
  match pending with
  | [] => .none "no pending or completed incarnation for this review task"
  | [authoritative] => .ok authoritative.task reviewTaskId
  | _ =>
      .blocked
        "multiple non-superseded pending prepared incarnations exist for one review task"

def resolveCompletion (reviewTaskId : String) (index : EvidenceIndexes Task)
    (supersededPreparedIds : List EvidenceId) (completion : PeerReviewCompletedEvidence) :
    AuthoritativePeerReviewTask Task :=
  match index.preparedById completion.preparedEvidenceId with
  | none =>
      .blocked ("completed entry references missing prepared evidence " ++
        completion.preparedEvidenceId.text)
  | some referenced =>
      if completion.preparedEvidenceId ∈ supersededPreparedIds then
        .blocked "a superseded prepared entry cannot receive an authoritative completion"
      else .ok referenced.task reviewTaskId

def resolveAuthoritativeChain (reviewTaskId : String) (index : EvidenceIndexes Task)
    (supersededPreparedIds : List EvidenceId) : AuthoritativePeerReviewTask Task :=
  match (index.completedByTask.lookup reviewTaskId).getD [] with
  | [] =>
      resolvePending reviewTaskId
        (((index.preparedByTask.lookup reviewTaskId).getD []).filter
          (·.evidenceId ∉ supersededPreparedIds))
  | [completion] => resolveCompletion reviewTaskId index supersededPreparedIds completion
  | _ => .blocked "multiple completed entries exist for one review task"

def resolveAuthoritativePeerReviewTask (evidence : List (PeerReviewEvidence Task))
    (obligationId : String) : AuthoritativePeerReviewTask Task :=
  let index := indexPeerEvidence evidence obligationId
  match validateSupersessionGraph index with
  | some graphError => .blocked graphError
  | none =>
      match resolveSingleReviewTaskId index with
      | .none reason => .none reason
      | .blocked reason => .blocked reason
      | .resolved reviewTaskId =>
          resolveAuthoritativeChain reviewTaskId index (collectSupersededPreparedIds index)

/-! ### What an accepted ledger looks like -/

section Authority

variable {evidence : List (PeerReviewEvidence Task)} {obligationId : String}

/-- A marker of the obligation replaces one prepared entry by another. -/
def Replaces (evidence : List (PeerReviewEvidence Task)) (obligationId : String)
    (a b : EvidenceId) : Prop :=
  ∃ marker ∈ supersededEntries evidence obligationId,
    marker.supersededPreparedEvidenceId = a ∧ marker.replacementPreparedEvidenceId = b

/-- The prepared entries of the obligation that no marker supersedes. -/
def unsupersededEntries (evidence : List (PeerReviewEvidence Task)) (obligationId : String) :
    List (PeerReviewPreparedEvidence Task) :=
  (preparedEntries evidence obligationId).filter
    (·.evidenceId ∉ (supersededEntries evidence obligationId).map (·.supersededPreparedEvidenceId))

structure SupersessionSound (evidence : List (PeerReviewEvidence Task))
    (obligationId : String) : Prop where
  linked : ∀ a b, Replaces evidence obligationId a b →
    (∃ prepared ∈ preparedEntries evidence obligationId, prepared.evidenceId = a) ∧
      ∃ prepared ∈ preparedEntries evidence obligationId, prepared.evidenceId = b
  functional : ∀ a b c, Replaces evidence obligationId a b → Replaces evidence obligationId a c →
    b = c
  acyclic : ∀ id, ¬TransGen (Replaces evidence obligationId) id id

/-- Where the task of an accepted ledger comes from. -/
inductive TaskSource (evidence : List (PeerReviewEvidence Task)) (obligationId : String)
    (task : Task) : Prop where
  | pending (prepared : PeerReviewPreparedEvidence Task)
      (hnone : completedEntries evidence obligationId = [])
      (honly : unsupersededEntries evidence obligationId = [prepared])
      (htask : prepared.task = task)
  | completed (completion : PeerReviewCompletedEvidence)
      (prepared : PeerReviewPreparedEvidence Task)
      (honly : completedEntries evidence obligationId = [completion])
      (hreferenced : (preparedEntries evidence obligationId).reverse.find?
        (·.evidenceId = completion.preparedEvidenceId) = some prepared)
      (hunsuperseded : prepared ∈ unsupersededEntries evidence obligationId)
      (htask : prepared.task = task)

structure Authoritative (evidence : List (PeerReviewEvidence Task)) (obligationId : String)
    (task : Task) (reviewTaskId : String) : Prop where
  started : ∃ entry ∈ evidence, entry.obligationId = obligationId
  single : ∀ entry ∈ evidence, entry.obligationId = obligationId →
    entry.reviewTaskId = reviewTaskId
  sound : SupersessionSound evidence obligationId
  source : TaskSource evidence obligationId task

theorem mem_markers {marker : PeerReviewSupersededEvidence} :
    marker ∈ (indexPeerEvidence evidence obligationId).markers ↔
      marker ∈ supersededEntries evidence obligationId :=
  mem_flatMap_groupBy

theorem mem_preparedEntries {prepared : PeerReviewPreparedEvidence Task} :
    prepared ∈ preparedEntries evidence obligationId ↔
      .prepared prepared ∈ evidence ∧ prepared.obligationId = obligationId := by
  simp only [preparedEntries, List.mem_filterMap, List.mem_filter, decide_eq_true_eq]
  constructor
  · rintro ⟨entry, ⟨hmem, howner⟩, hentry⟩
    cases entry <;> cases hentry
    exact ⟨hmem, howner⟩
  · rintro ⟨hmem, howner⟩
    exact ⟨.prepared prepared, ⟨hmem, howner⟩, rfl⟩

theorem mem_completedEntries {completed : PeerReviewCompletedEvidence} :
    completed ∈ completedEntries evidence obligationId ↔
      .completed completed ∈ evidence ∧ completed.obligationId = obligationId := by
  simp only [completedEntries, List.mem_filterMap, List.mem_filter, decide_eq_true_eq]
  constructor
  · rintro ⟨entry, ⟨hmem, howner⟩, hentry⟩
    cases entry <;> cases hentry
    exact ⟨hmem, howner⟩
  · rintro ⟨hmem, howner⟩
    exact ⟨.completed completed, ⟨hmem, howner⟩, rfl⟩

theorem mem_supersededEntries {superseded : PeerReviewSupersededEvidence} :
    superseded ∈ supersededEntries evidence obligationId ↔
      .superseded superseded ∈ evidence ∧ superseded.obligationId = obligationId := by
  simp only [supersededEntries, List.mem_filterMap, List.mem_filter, decide_eq_true_eq]
  constructor
  · rintro ⟨entry, ⟨hmem, howner⟩, hentry⟩
    cases entry <;> cases hentry
    exact ⟨hmem, howner⟩
  · rintro ⟨hmem, howner⟩
    exact ⟨.superseded superseded, ⟨hmem, howner⟩, rfl⟩

/-! #### One review task -/

theorem eraseDups_eq_nil_iff {ids : List String} : ids.eraseDups = [] ↔ ids = [] := by
  simp only [List.eq_nil_iff_forall_not_mem, List.mem_eraseDups]

theorem eraseDups_eq_singleton_iff {ids : List String} {id : String} :
    ids.eraseDups = [id] ↔ ids ≠ [] ∧ ∀ other ∈ ids, other = id := by
  cases ids with
  | nil => simp
  | cons first rest =>
      rw [List.eraseDups_cons, List.cons.injEq, List.forall_mem_cons, eraseDups_eq_nil_iff,
        List.filter_eq_nil_iff]
      constructor
      · rintro ⟨rfl, hrest⟩
        exact ⟨List.cons_ne_nil _ _, rfl, fun other hmem => by simpa using hrest other hmem⟩
      · rintro ⟨-, rfl, hrest⟩
        exact ⟨rfl, fun other hmem => by simpa using hrest other hmem⟩

/-- The task ids that the index knows are those of the obligation's entries. -/
theorem mem_taskIds {id : String} :
    id ∈ taskIds (indexPeerEvidence evidence obligationId) ↔
      ∃ entry ∈ evidence, entry.obligationId = obligationId ∧ entry.reviewTaskId = id := by
  simp only [taskIds, indexPeerEvidence, List.mem_append, mem_keys_groupBy, mem_preparedEntries,
    mem_completedEntries, mem_supersededEntries]
  constructor
  · rintro ((⟨entry, ⟨hmem, howner⟩, hid⟩ | ⟨entry, ⟨hmem, howner⟩, hid⟩) |
      ⟨entry, ⟨hmem, howner⟩, hid⟩)
    · exact ⟨.prepared entry, hmem, howner, hid⟩
    · exact ⟨.completed entry, hmem, howner, hid⟩
    · exact ⟨.superseded entry, hmem, howner, hid⟩
  · rintro ⟨entry, hmem, howner, hid⟩
    cases entry with
    | prepared entry => exact .inl (.inl ⟨entry, ⟨hmem, howner⟩, hid⟩)
    | completed entry => exact .inl (.inr ⟨entry, ⟨hmem, howner⟩, hid⟩)
    | superseded entry => exact .inr ⟨entry, ⟨hmem, howner⟩, hid⟩

theorem resolveSingleReviewTaskId_eq_resolved_iff {reviewTaskId : String} :
    resolveSingleReviewTaskId (indexPeerEvidence evidence obligationId) =
        .resolved reviewTaskId ↔
      (∃ entry ∈ evidence, entry.obligationId = obligationId) ∧
      ∀ entry ∈ evidence, entry.obligationId = obligationId →
        entry.reviewTaskId = reviewTaskId := by
  have hdups : resolveSingleReviewTaskId (indexPeerEvidence evidence obligationId) =
      .resolved reviewTaskId ↔
      (taskIds (indexPeerEvidence evidence obligationId)).eraseDups = [reviewTaskId] := by
    unfold resolveSingleReviewTaskId
    split
    case h_1 hnil => simp [hnil]
    case h_2 id hone => simp [hone]
    case h_3 hnil hone =>
      constructor
      · exact nofun
      · exact fun heq => absurd heq (hone reviewTaskId)
  have hsome : taskIds (indexPeerEvidence evidence obligationId) ≠ [] ↔
      ∃ id, id ∈ taskIds (indexPeerEvidence evidence obligationId) := by
    rw [Ne, List.eq_nil_iff_forall_not_mem, not_forall_not]
  rw [hdups, eraseDups_eq_singleton_iff, hsome]
  simp only [mem_taskIds]
  constructor
  · rintro ⟨⟨_, entry, hmem, howner, _⟩, hall⟩
    exact ⟨⟨entry, hmem, howner⟩, fun other hother hid => hall _ ⟨other, hother, hid, rfl⟩⟩
  · rintro ⟨⟨entry, hmem, howner⟩, hall⟩
    refine ⟨⟨_, entry, hmem, howner, rfl⟩, ?_⟩
    rintro _ ⟨other, hother, hid, rfl⟩
    exact hall other hother hid

/-! #### The supersession graph -/

theorem preparedById_mem {id : EvidenceId} {prepared : PeerReviewPreparedEvidence Task}
    (hfound : (indexPeerEvidence evidence obligationId).preparedById id = some prepared) :
    prepared ∈ preparedEntries evidence obligationId ∧ prepared.evidenceId = id := by
  have hmem := List.mem_of_find?_eq_some hfound
  have hid := List.find?_some hfound
  exact ⟨List.mem_reverse.1 hmem, of_decide_eq_true hid⟩

theorem exists_preparedById_iff {id : EvidenceId} :
    (∃ prepared, (indexPeerEvidence evidence obligationId).preparedById id = some prepared) ↔
      ∃ prepared ∈ preparedEntries evidence obligationId, prepared.evidenceId = id := by
  constructor
  · rintro ⟨prepared, hfound⟩
    exact ⟨prepared, preparedById_mem hfound⟩
  · rintro ⟨prepared, hmem, hid⟩
    rw [← Option.isSome_iff_exists, EvidenceIndexes.preparedById, List.find?_isSome]
    exact ⟨prepared, List.mem_reverse.2 hmem, decide_eq_true hid⟩

theorem markerError_eq_none_iff {marker : PeerReviewSupersededEvidence} {reviewTaskId : String}
    (hsingle : ∀ entry ∈ evidence, entry.obligationId = obligationId →
      entry.reviewTaskId = reviewTaskId)
    (hmarker : marker ∈ supersededEntries evidence obligationId) :
    markerError (indexPeerEvidence evidence obligationId) marker = none ↔
      (∃ prepared ∈ preparedEntries evidence obligationId,
        prepared.evidenceId = marker.supersededPreparedEvidenceId) ∧
      ∃ prepared ∈ preparedEntries evidence obligationId,
        prepared.evidenceId = marker.replacementPreparedEvidenceId := by
  have hprepared : ∀ prepared ∈ preparedEntries evidence obligationId,
      marker.reviewTaskId = prepared.reviewTaskId := by
    intro prepared hmem
    obtain ⟨hentry, howner⟩ := mem_preparedEntries.1 hmem
    obtain ⟨hother, hother'⟩ := mem_supersededEntries.1 hmarker
    exact (hsingle _ hother hother').trans (hsingle _ hentry howner).symm
  rw [← exists_preparedById_iff, ← exists_preparedById_iff]
  unfold markerError
  split
  case h_1 hnone => simp [hnone]
  case h_2 superseded hsuperseded =>
    split
    case h_1 hnone => simp [hnone]
    case h_2 replacement hreplacement =>
      have hfirst := hprepared _ (preparedById_mem hsuperseded).1
      have hsecond := hprepared _ (preparedById_mem hreplacement).1
      rw [if_neg (by simp [← hfirst, ← hsecond])]
      simp [hsuperseded, hreplacement]

/-- With a single task, references are sound when they name prepared entries. -/
theorem validateSupersessionReferences_eq_none_iff {reviewTaskId : String}
    (hsingle : ∀ entry ∈ evidence, entry.obligationId = obligationId →
      entry.reviewTaskId = reviewTaskId) :
    validateSupersessionReferences (indexPeerEvidence evidence obligationId) = none ↔
      ∀ a b, Replaces evidence obligationId a b →
        (∃ prepared ∈ preparedEntries evidence obligationId, prepared.evidenceId = a) ∧
          ∃ prepared ∈ preparedEntries evidence obligationId, prepared.evidenceId = b := by
  rw [validateSupersessionReferences, List.findSome?_eq_none_iff]
  constructor
  · rintro hnone _ _ ⟨marker, hmarker, rfl, rfl⟩
    exact (markerError_eq_none_iff hsingle hmarker).1 (hnone marker (mem_markers.2 hmarker))
  · intro hlinked marker hmem
    have hmarker := mem_markers.1 hmem
    exact (markerError_eq_none_iff hsingle hmarker).2
      (hlinked _ _ ⟨marker, hmarker, rfl, rfl⟩)

/-- A list of replacements that says what some markers say. -/
def Collected (markers : List PeerReviewSupersededEvidence)
    (replacements : List (EvidenceId × EvidenceId)) : Prop :=
  ∀ a b, replacements.lookup a = some b ↔
    ∃ marker ∈ markers, marker.supersededPreparedEvidenceId = a ∧
      marker.replacementPreparedEvidenceId = b

theorem addReplacement_collected {markers : List PeerReviewSupersededEvidence}
    {replacements next : List (EvidenceId × EvidenceId)} {marker : PeerReviewSupersededEvidence}
    (hcollected : Collected markers replacements)
    (hadd : addReplacement replacements marker = .ok next) :
    Collected (markers ++ [marker]) next := by
  intro a b
  simp only [List.mem_append, List.mem_singleton, or_and_right, exists_or, exists_eq_left,
    ← hcollected a b]
  unfold addReplacement at hadd
  split at hadd
  case h_1 existing hexisting =>
    split_ifs at hadd with heq
    cases hadd
    rw [not_not] at heq
    rw [or_iff_left_of_imp]
    rintro ⟨rfl, rfl⟩
    rw [hexisting, heq]
  case h_2 hnone =>
    cases hadd
    by_cases ha : a = marker.supersededPreparedEvidenceId
    · subst ha
      simp [List.lookup_append, hnone]
    · simp [List.lookup_append, List.lookup_cons, beq_false_of_ne ha, Ne.symm ha]

theorem foldlM_addReplacement_collected {markers : List PeerReviewSupersededEvidence}
    {replacements : List (EvidenceId × EvidenceId)}
    (hok : markers.foldlM addReplacement [] = .ok replacements) :
    Collected markers replacements := by
  induction markers using List.reverseRecOn generalizing replacements with
  | nil =>
      cases hok
      intro a b
      simp
  | append_singleton markers marker ih =>
      rw [List.foldlM_append] at hok
      cases hprior : markers.foldlM addReplacement [] with
      | error reason =>
          rw [hprior] at hok
          cases hok
      | ok prior =>
          rw [hprior] at hok
          change (addReplacement prior marker >>= pure) = _ at hok
          rw [bind_pure] at hok
          exact addReplacement_collected (ih hprior) hok

/-- Markers that replace each entry by one other are all collected. -/
theorem exists_foldlM_addReplacement {markers : List PeerReviewSupersededEvidence}
    (hone : ∀ marker ∈ markers, ∀ other ∈ markers,
      marker.supersededPreparedEvidenceId = other.supersededPreparedEvidenceId →
      marker.replacementPreparedEvidenceId = other.replacementPreparedEvidenceId) :
    ∃ replacements, markers.foldlM addReplacement [] = .ok replacements := by
  induction markers using List.reverseRecOn with
  | nil => exact ⟨[], rfl⟩
  | append_singleton markers marker ih =>
      obtain ⟨prior, hprior⟩ := ih fun first hfirst second hsecond =>
        hone first (List.mem_append_left _ hfirst) second (List.mem_append_left _ hsecond)
      have hcollected := foldlM_addReplacement_collected hprior
      rw [List.foldlM_append, hprior]
      change ∃ replacements, (addReplacement prior marker >>= pure) = _
      rw [bind_pure, addReplacement]
      cases hlookup : prior.lookup marker.supersededPreparedEvidenceId with
      | none => exact ⟨_, rfl⟩
      | some existing =>
          obtain ⟨other, hother, hid, hreplacement⟩ := (hcollected _ _).1 hlookup
          have hsame := hone other (List.mem_append_left _ hother) marker
            (List.mem_append_right _ (List.mem_singleton_self marker)) hid
          dsimp only
          rw [if_neg (not_not.2 (hreplacement.symm.trans hsame))]
          exact ⟨_, rfl⟩

theorem follows_collected {replacements : List (EvidenceId × EvidenceId)}
    (hok : collectReplacementMap (indexPeerEvidence evidence obligationId) = .ok replacements) :
    Follows (fun id => replacements.lookup id) = Replaces evidence obligationId := by
  funext a b
  have hcollected := foldlM_addReplacement_collected hok a b
  simp only [mem_markers] at hcollected
  exact propext hcollected

theorem collectReplacementMap_ok_iff :
    (∃ replacements, collectReplacementMap (indexPeerEvidence evidence obligationId) =
      .ok replacements) ↔
      ∀ a b c, Replaces evidence obligationId a b → Replaces evidence obligationId a c →
        b = c := by
  constructor
  · rintro ⟨replacements, hok⟩ a b c hb hc
    rw [← follows_collected hok] at hb hc
    exact Option.some.inj (hb.symm.trans hc)
  · intro hfunctional
    apply exists_foldlM_addReplacement
    intro marker hmarker other hother heq
    exact hfunctional _ _ _ ⟨marker, mem_markers.1 hmarker, rfl, rfl⟩
      ⟨other, mem_markers.1 hother, heq.symm, rfl⟩

theorem findSupersessionCycle_eq_none_iff {replacements : List (EvidenceId × EvidenceId)}
    (hok : collectReplacementMap (indexPeerEvidence evidence obligationId) = .ok replacements) :
    findSupersessionCycle replacements = none ↔
      ∀ id, ¬TransGen (Replaces evidence obligationId) id id := by
  rw [findSupersessionCycle, Option.map_eq_none_iff, findRepeat_eq_none_iff, AcyclicSuccessor,
    follows_collected hok]
  intro id hne
  exact isSome_lookup_iff.1 (Option.isSome_iff_ne_none.2 hne)

theorem validateSupersessionGraph_eq_none_iff {reviewTaskId : String}
    (hsingle : ∀ entry ∈ evidence, entry.obligationId = obligationId →
      entry.reviewTaskId = reviewTaskId) :
    validateSupersessionGraph (indexPeerEvidence evidence obligationId) = none ↔
      SupersessionSound evidence obligationId := by
  have hreferences := validateSupersessionReferences_eq_none_iff hsingle
  constructor
  · intro hnone
    unfold validateSupersessionGraph at hnone
    split at hnone
    case h_1 => cases hnone
    case h_2 hlinked =>
      split at hnone
      case h_1 => cases hnone
      case h_2 replacements hok =>
        exact
          { linked := hreferences.1 hlinked
            functional := collectReplacementMap_ok_iff.1 ⟨replacements, hok⟩
            acyclic := (findSupersessionCycle_eq_none_iff hok).1 hnone }
  · intro hsound
    obtain ⟨replacements, hok⟩ := collectReplacementMap_ok_iff.2 hsound.functional
    rw [validateSupersessionGraph, hreferences.2 hsound.linked, hok]
    exact (findSupersessionCycle_eq_none_iff hok).2 hsound.acyclic

/-! #### The chain -/

theorem mem_collectSupersededPreparedIds {id : EvidenceId} :
    id ∈ collectSupersededPreparedIds (indexPeerEvidence evidence obligationId) ↔
      id ∈ (supersededEntries evidence obligationId).map (·.supersededPreparedEvidenceId) := by
  simp only [collectSupersededPreparedIds, List.mem_map, mem_markers]

theorem preparedByTask_of_single {reviewTaskId : String}
    (hsingle : ∀ entry ∈ evidence, entry.obligationId = obligationId →
      entry.reviewTaskId = reviewTaskId) :
    ((indexPeerEvidence evidence obligationId).preparedByTask.lookup reviewTaskId).getD [] =
      preparedEntries evidence obligationId := by
  rw [indexPeerEvidence, lookup_groupBy, List.filter_eq_self]
  intro prepared hmem
  obtain ⟨hentry, howner⟩ := mem_preparedEntries.1 hmem
  exact decide_eq_true (hsingle _ hentry howner).symm

theorem completedByTask_of_single {reviewTaskId : String}
    (hsingle : ∀ entry ∈ evidence, entry.obligationId = obligationId →
      entry.reviewTaskId = reviewTaskId) :
    ((indexPeerEvidence evidence obligationId).completedByTask.lookup reviewTaskId).getD [] =
      completedEntries evidence obligationId := by
  rw [indexPeerEvidence, lookup_groupBy, List.filter_eq_self]
  intro completed hmem
  obtain ⟨hentry, howner⟩ := mem_completedEntries.1 hmem
  exact decide_eq_true (hsingle _ hentry howner).symm

theorem mem_unsupersededEntries {prepared : PeerReviewPreparedEvidence Task} :
    prepared ∈ unsupersededEntries evidence obligationId ↔
      prepared ∈ preparedEntries evidence obligationId ∧
        prepared.evidenceId ∉
          collectSupersededPreparedIds (indexPeerEvidence evidence obligationId) := by
  rw [unsupersededEntries, List.mem_filter, decide_eq_true_eq, mem_collectSupersededPreparedIds]

theorem resolvePending_eq_ok_iff {reviewTaskId id : String} {task : Task}
    {pending : List (PeerReviewPreparedEvidence Task)} :
    resolvePending reviewTaskId pending = .ok task id ↔
      (∃ prepared, pending = [prepared] ∧ prepared.task = task) ∧ id = reviewTaskId := by
  unfold resolvePending
  split
  case h_1 => simp
  case h_2 authoritative => simp [eq_comm]
  case h_3 hnil hone =>
    constructor
    · exact nofun
    · rintro ⟨⟨prepared, heq, _⟩, _⟩
      exact absurd heq (hone prepared)

theorem resolveCompletion_eq_ok_iff {reviewTaskId id : String} {task : Task}
    {completion : PeerReviewCompletedEvidence} :
    resolveCompletion reviewTaskId (indexPeerEvidence evidence obligationId)
        (collectSupersededPreparedIds (indexPeerEvidence evidence obligationId)) completion =
        .ok task id ↔
      (∃ prepared, (indexPeerEvidence evidence obligationId).preparedById
          completion.preparedEvidenceId = some prepared ∧
        prepared ∈ unsupersededEntries evidence obligationId ∧ prepared.task = task) ∧
      id = reviewTaskId := by
  unfold resolveCompletion
  split
  case h_1 hnone => simp [hnone]
  case h_2 referenced hreferenced =>
    obtain ⟨hmem, hid⟩ := preparedById_mem hreferenced
    split
    case isTrue hsuperseded =>
      rw [← hid] at hsuperseded
      simp [hreferenced, mem_unsupersededEntries, hsuperseded]
    case isFalse hcurrent =>
      rw [← hid] at hcurrent
      simp [hreferenced, mem_unsupersededEntries, hcurrent, hmem, eq_comm]

theorem resolveAuthoritativeChain_eq_ok_iff {reviewTaskId id : String} {task : Task}
    (hsingle : ∀ entry ∈ evidence, entry.obligationId = obligationId →
      entry.reviewTaskId = reviewTaskId) :
    resolveAuthoritativeChain reviewTaskId (indexPeerEvidence evidence obligationId)
        (collectSupersededPreparedIds (indexPeerEvidence evidence obligationId)) = .ok task id ↔
      TaskSource evidence obligationId task ∧ id = reviewTaskId := by
  have hpending : (preparedEntries evidence obligationId).filter
      (fun prepared => decide (prepared.evidenceId ∉
        collectSupersededPreparedIds (indexPeerEvidence evidence obligationId))) =
      unsupersededEntries evidence obligationId := by
    unfold unsupersededEntries
    simp only [mem_collectSupersededPreparedIds]
  rw [resolveAuthoritativeChain, completedByTask_of_single hsingle,
    preparedByTask_of_single hsingle, hpending]
  split
  case h_1 hnone =>
    rw [resolvePending_eq_ok_iff]
    refine and_congr_left fun _ => ⟨?_, ?_⟩
    · rintro ⟨prepared, honly, htask⟩
      exact .pending prepared hnone honly htask
    · intro hsource
      cases hsource with
      | pending prepared _ honly htask => exact ⟨prepared, honly, htask⟩
      | completed completion _ honly => cases hnone.symm.trans honly
  case h_2 completion hone =>
    rw [resolveCompletion_eq_ok_iff]
    refine and_congr_left fun _ => ⟨?_, ?_⟩
    · rintro ⟨prepared, hreferenced, hcurrent, htask⟩
      exact .completed completion prepared hone hreferenced hcurrent htask
    · intro hsource
      cases hsource with
      | pending _ hnone => cases hone.symm.trans hnone
      | completed other prepared honly hreferenced hcurrent htask =>
          cases hone.symm.trans honly
          exact ⟨prepared, hreferenced, hcurrent, htask⟩
  case h_3 hnil hone =>
    constructor
    · exact nofun
    · rintro ⟨hsource, _⟩
      cases hsource with
      | pending _ hnone => exact absurd hnone hnil
      | completed completion _ honly => exact absurd honly (hone completion)

/-- A ledger resolves to a task exactly when its entries belong to one review task, its
supersession graph is sound, and either it has no completion and a single entry that is
not superseded, or it has a single completion, of an entry that is not superseded. -/
theorem resolveAuthoritativePeerReviewTask_eq_ok_iff
    (evidence : List (PeerReviewEvidence Task)) (obligationId reviewTaskId : String)
    (task : Task) :
    resolveAuthoritativePeerReviewTask evidence obligationId = .ok task reviewTaskId ↔
      Authoritative evidence obligationId task reviewTaskId := by
  constructor
  · intro hok
    unfold resolveAuthoritativePeerReviewTask at hok
    dsimp only at hok
    split at hok
    case h_1 => cases hok
    case h_2 hgraph =>
      split at hok
      case h_1 => cases hok
      case h_2 => cases hok
      case h_3 id hresolved =>
        obtain ⟨hstarted, hsingle⟩ := resolveSingleReviewTaskId_eq_resolved_iff.1 hresolved
        obtain ⟨hsource, rfl⟩ := (resolveAuthoritativeChain_eq_ok_iff hsingle).1 hok
        exact ⟨hstarted, hsingle, (validateSupersessionGraph_eq_none_iff hsingle).1 hgraph,
          hsource⟩
  · rintro ⟨hstarted, hsingle, hsound, hsource⟩
    rw [resolveAuthoritativePeerReviewTask,
      (validateSupersessionGraph_eq_none_iff hsingle).2 hsound,
      resolveSingleReviewTaskId_eq_resolved_iff.2 ⟨hstarted, hsingle⟩]
    exact (resolveAuthoritativeChain_eq_ok_iff hsingle).2 ⟨hsource, rfl⟩

/-- A task is answered only from a sound ledger, and a sound ledger with a single entry
that is not superseded is answered. -/
theorem authoritative_task_of_sound_ledger (evidence : List (PeerReviewEvidence Task))
    (obligationId reviewTaskId : String) (task : Task) :
    (resolveAuthoritativePeerReviewTask evidence obligationId = .ok task reviewTaskId →
      Authoritative evidence obligationId task reviewTaskId) ∧
    (Authoritative evidence obligationId task reviewTaskId ∧
        (∃ prepared, unsupersededEntries evidence obligationId = [prepared]) →
      resolveAuthoritativePeerReviewTask evidence obligationId = .ok task reviewTaskId) := by
  have hiff := resolveAuthoritativePeerReviewTask_eq_ok_iff evidence obligationId reviewTaskId task
  exact ⟨hiff.1, fun hsound => hiff.2 hsound.1⟩

def sampleId (text : String) (nonempty : text ≠ "") : EvidenceId := ⟨text, nonempty⟩

/-- A task that was prepared anew and completed. -/
def replacedLedger : List (PeerReviewEvidence Nat) :=
  let first := sampleId "1" (by decide)
  let second := sampleId "2" (by decide)
  [.prepared { evidenceId := first, reviewTaskId := "task", obligationId := "o", task := 0 },
    .prepared { evidenceId := second, reviewTaskId := "task", obligationId := "o", task := 1 },
    .superseded
      { evidenceId := sampleId "3" (by decide), reviewTaskId := "task", obligationId := "o",
        supersededPreparedEvidenceId := first, replacementPreparedEvidenceId := second },
    .completed
      { evidenceId := sampleId "4" (by decide), reviewTaskId := "task", obligationId := "o",
        preparedEvidenceId := second }]

theorem replaces_replacedLedger {a b : EvidenceId} :
    Replaces replacedLedger "o" a b ↔
      a = sampleId "1" (by decide) ∧ b = sampleId "2" (by decide) := by
  constructor
  · rintro ⟨marker, hmarker, rfl, rfl⟩
    obtain rfl := List.mem_singleton.1 hmarker
    exact ⟨rfl, rfl⟩
  · rintro ⟨rfl, rfl⟩
    exact ⟨_, List.mem_singleton_self _, rfl, rfl⟩

theorem authoritative_task_of_replacedLedger :
    Authoritative replacedLedger "o" 1 "task" ∧
      resolveAuthoritativePeerReviewTask replacedLedger "o" = .ok 1 "task" := by
  have hsound : SupersessionSound replacedLedger "o" := by
    refine ⟨fun a b hlink => ?_, fun a b c hb hc => ?_, fun id hcycle => ?_⟩
    · obtain ⟨rfl, rfl⟩ := replaces_replacedLedger.1 hlink
      decide
    · exact (replaces_replacedLedger.1 hb).2.trans (replaces_replacedLedger.1 hc).2.symm
    · obtain ⟨_, hfirst, -⟩ := TransGen.head'_iff.1 hcycle
      obtain ⟨_, -, hlast⟩ := TransGen.tail'_iff.1 hcycle
      exact absurd ((replaces_replacedLedger.1 hfirst).1.symm.trans
        (replaces_replacedLedger.1 hlast).2) (by decide)
  have hauthoritative : Authoritative replacedLedger "o" 1 "task" :=
    ⟨⟨_, List.mem_cons_self, rfl⟩, by decide, hsound,
      .completed _ _ rfl rfl (List.mem_singleton_self _) rfl⟩
  exact ⟨hauthoritative,
    (authoritative_task_of_sound_ledger replacedLedger "o" "task" 1).2
      ⟨hauthoritative, _, rfl⟩⟩

/-- Two entries under one id, and a completion of one of them. -/
def duplicatedLedger : List (PeerReviewEvidence Nat) :=
  let first := sampleId "1" (by decide)
  [.prepared { evidenceId := first, reviewTaskId := "task", obligationId := "o", task := 0 },
    .completed
      { evidenceId := first, reviewTaskId := "task", obligationId := "o",
        preparedEvidenceId := first }]

/-- Ids may occur twice in a ledger that resolves. -/
theorem duplicated_ids_resolve :
    ¬ ∀ (evidence : List (PeerReviewEvidence Nat)) (obligationId reviewTaskId : String)
        (task : Nat),
      resolveAuthoritativePeerReviewTask evidence obligationId = .ok task reviewTaskId →
        (∃ prepared, unsupersededEntries evidence obligationId = [prepared]) ∧
        SupersessionSound evidence obligationId ∧
        (evidence.map PeerReviewEvidence.evidenceId).Nodup := by
  intro hlaw
  have hresolved : resolveAuthoritativePeerReviewTask duplicatedLedger "o" = .ok 0 "task" := by
    decide
  exact absurd (hlaw duplicatedLedger "o" "task" 0 hresolved).2.2 (by decide)

end Authority

end GovernedRuntime.Review
