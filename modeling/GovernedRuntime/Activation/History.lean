/-
Validation of a whole history from its adjacent pairs, and the global law of
root generations that the pairs compose to.
-/
import GovernedRuntime.Activation.Lifecycle

namespace GovernedRuntime.Activation

/-- The revisions that open a decision. -/
def isOpening (item : GovernanceActivationRevision) : Bool :=
  item.status == .activating || item.status == .ending

/-- The loop of `validateHistory` with its two accumulators: the previous
revision and the decisions opened so far. -/
def validateFrom : Option GovernanceActivationRevision → List String →
    List GovernanceActivationRevision → Option AuthorityBlocked
  | _, _, [] => none
  | previous, decisions, item :: rest =>
      if !isGovernanceActivationTransition previous item then
        some (unavailable "Invalid activation lifecycle transition.")
      else if isOpening item then
        if decisions.contains item.decisionId then
          some (unavailable "Replayed activation decision.")
        else validateFrom (some item) (item.decisionId :: decisions) rest
      else validateFrom (some item) decisions rest

def validateHistory (history : List GovernanceActivationRevision) :
    Option AuthorityBlocked :=
  validateFrom none [] history

/-- The decisions opened along a history. -/
def openedDecisions (history : List GovernanceActivationRevision) : List String :=
  (history.filter isOpening).map (·.decisionId)

theorem mem_openedDecisions {history : List GovernanceActivationRevision}
    {decisionId : String} :
    decisionId ∈ openedDecisions history ↔
      ∃ item ∈ history, isOpening item = true ∧ item.decisionId = decisionId := by
  simp [openedDecisions, and_assoc]

/-- One more revision is admitted exactly when it follows the last one and
replays no decision. -/
theorem validateFrom_concat {previous : Option GovernanceActivationRevision}
    {decisions : List String} {history : List GovernanceActivationRevision}
    {item : GovernanceActivationRevision} :
    validateFrom previous decisions (history ++ [item]) = none ↔
      validateFrom previous decisions history = none ∧
        isGovernanceActivationTransition
          (history.getLast?.or previous) item = true ∧
        (isOpening item = true →
          item.decisionId ∉ decisions ∧
            item.decisionId ∉ openedDecisions history) := by
  induction history generalizing previous decisions with
  | nil =>
      cases htransition : isGovernanceActivationTransition previous item <;>
        cases hopening : isOpening item <;>
          simp [validateFrom, htransition, hopening, openedDecisions]
  | cons head tail ih =>
      have hlast : (head :: tail).getLast?.or previous =
          tail.getLast?.or (some head) := by
        cases tail with
        | nil => rfl
        | cons next rest => simp [List.getLast?_cons]
      cases htransition : isGovernanceActivationTransition previous head with
      | false => simp [validateFrom, htransition]
      | true =>
          cases hopening : isOpening head with
          | false =>
              simp only [List.cons_append, validateFrom, htransition, hopening,
                Bool.not_true, Bool.false_eq_true, ↓reduceIte, ih, hlast]
              simp [openedDecisions, hopening]
          | true =>
              by_cases hreplay : head.decisionId ∈ decisions
              · simp [validateFrom, htransition, hopening, hreplay]
              · simp only [List.cons_append, validateFrom, htransition, hopening,
                  Bool.not_true, Bool.false_eq_true, ↓reduceIte,
                  List.contains_eq_mem, hreplay, decide_false, ih, hlast]
                simp only [List.mem_cons, openedDecisions, hopening,
                  List.filter_cons_of_pos, List.map_cons]
                tauto

theorem validateHistory_concat {history : List GovernanceActivationRevision}
    {item : GovernanceActivationRevision} :
    validateHistory (history ++ [item]) = none ↔
      validateHistory history = none ∧
        isGovernanceActivationTransition history.getLast? item = true ∧
        (isOpening item = true → item.decisionId ∉ openedDecisions history) := by
  simp [validateHistory, validateFrom_concat]

/-! ### The global law of root histories -/

/-- The lifecycle cycle, read off the revision number. -/
def statusOfRevision (revision : Nat) : Status :=
  match revision % 4 with
  | 1 => .activating
  | 2 => .active
  | 3 => .ending
  | _ => .inactive

theorem statusOfRevision_eq_activating {revision : Nat} :
    statusOfRevision revision = .activating ↔ revision % 4 = 1 := by
  unfold statusOfRevision
  split <;> simp_all

theorem statusOfRevision_eq_active {revision : Nat} :
    statusOfRevision revision = .active ↔ revision % 4 = 2 := by
  unfold statusOfRevision
  split <;> simp_all

theorem statusOfRevision_eq_ending {revision : Nat} :
    statusOfRevision revision = .ending ↔ revision % 4 = 3 := by
  unfold statusOfRevision
  split <;> simp_all

theorem statusOfRevision_eq_inactive {revision : Nat} :
    statusOfRevision revision = .inactive ↔ revision % 4 = 0 := by
  unfold statusOfRevision
  split <;> simp_all
  omega

/-- Completed cycles before a revision, plus one. -/
def generationOfRevision (revision : Nat) : Nat := (revision - 1) / 4 + 1

/-- The start or end a revision belongs to: two consecutive revisions each. -/
def decisionOfRevision (revision : Nat) : Nat := (revision - 1) / 2

/-- The global law of a root history. -/
structure GenerationLaw (history : List GovernanceActivationRevision) : Prop where
  isRoot : ∀ item ∈ history, item.parentDispatch = none
  numbered : history.map (·.revision) = List.range' 1 history.length
  status : ∀ item ∈ history, item.status = statusOfRevision item.revision
  generation : ∀ item ∈ history,
    item.generation = generationOfRevision item.revision
  sameActivation : ∀ left ∈ history, ∀ right ∈ history,
    left.generation = right.generation → SameActivation left right
  sameDecision : ∀ left ∈ history, ∀ right ∈ history,
    decisionOfRevision left.revision = decisionOfRevision right.revision →
      SameDecision left right

theorem SameDecision.refl (item : GovernanceActivationRevision) :
    SameDecision item item := ⟨rfl, rfl, rfl⟩

theorem SameDecision.symm {left right : GovernanceActivationRevision}
    (h : SameDecision left right) : SameDecision right left :=
  ⟨h.decisionId.symm, h.decisionSource.symm, h.decisionActor.symm⟩

theorem SameActivation.refl (item : GovernanceActivationRevision) :
    SameActivation item item := ⟨rfl, rfl, rfl, rfl, rfl, rfl⟩

theorem SameActivation.symm {left right : GovernanceActivationRevision}
    (h : SameActivation left right) : SameActivation right left :=
  ⟨h.generation.symm, h.activationId.symm, h.rootSessionId.symm,
    h.directory.symm, h.worktreeRoot.symm, h.policyDigest.symm⟩

theorem SameActivation.trans {first second third : GovernanceActivationRevision}
    (h : SameActivation first second) (h' : SameActivation second third) :
    SameActivation first third :=
  ⟨h'.generation.trans h.generation, h'.activationId.trans h.activationId,
    h'.rootSessionId.trans h.rootSessionId, h'.directory.trans h.directory,
    h'.worktreeRoot.trans h.worktreeRoot, h'.policyDigest.trans h.policyDigest⟩

theorem GenerationLaw.nil : GenerationLaw [] := by
  constructor <;> simp

namespace GenerationLaw

variable {history : List GovernanceActivationRevision}

theorem revision_bounds (law : GenerationLaw history)
    {item : GovernanceActivationRevision} (hitem : item ∈ history) :
    1 ≤ item.revision ∧ item.revision ≤ history.length := by
  have hmem : item.revision ∈ history.map (·.revision) :=
    List.mem_map_of_mem hitem
  rw [law.numbered, List.mem_range'_1] at hmem
  omega

theorem revision_inj (law : GenerationLaw history)
    {left right : GovernanceActivationRevision} (hleft : left ∈ history)
    (hright : right ∈ history) (heq : left.revision = right.revision) :
    left = right := by
  have hnodup : (history.map (·.revision)).Nodup := by
    rw [law.numbered]
    exact List.nodup_range'
  exact List.inj_on_of_nodup_map hnodup hleft hright heq

theorem revision_getLast (law : GenerationLaw history)
    {last : GovernanceActivationRevision} (hlast : history.getLast? = some last) :
    last.revision = history.length := by
  have hmap : (history.map (·.revision)).getLast? = some last.revision := by
    rw [List.getLast?_map, hlast]
    rfl
  rw [law.numbered, List.getLast?_range'] at hmap
  have hne : history.length ≠ 0 := by
    intro hzero
    rw [List.length_eq_zero_iff] at hzero
    simp [hzero] at hlast
  simp [hne] at hmap
  omega

/-- The law's pairwise clauses only have to be checked against the new item. -/
theorem concat_of_item (law : GenerationLaw history)
    {item : GovernanceActivationRevision} (hroot : item.parentDispatch = none)
    (hrevision : item.revision = history.length + 1)
    (hstatus : item.status = statusOfRevision item.revision)
    (hgeneration : item.generation = generationOfRevision item.revision)
    (hactivation : ∀ left ∈ history, left.generation = item.generation →
      SameActivation left item)
    (hdecision : ∀ left ∈ history,
      decisionOfRevision left.revision = decisionOfRevision item.revision →
        SameDecision left item) :
    GenerationLaw (history ++ [item]) := by
  refine ⟨?_, ?_, ?_, ?_, ?_, ?_⟩
  · intro other hother
    rcases List.mem_append.mp hother with hold | hnew
    · exact law.isRoot other hold
    · rw [List.mem_singleton.mp hnew]
      exact hroot
  · rw [List.map_append, law.numbered, List.length_append, List.length_singleton,
      List.range'_concat]
    simp [hrevision, Nat.add_comm]
  · intro other hother
    rcases List.mem_append.mp hother with hold | hnew
    · exact law.status other hold
    · rw [List.mem_singleton.mp hnew]
      exact hstatus
  · intro other hother
    rcases List.mem_append.mp hother with hold | hnew
    · exact law.generation other hold
    · rw [List.mem_singleton.mp hnew]
      exact hgeneration
  · intro left hleft right hright heq
    rcases List.mem_append.mp hleft with hleft | hleft <;>
      rcases List.mem_append.mp hright with hright | hright
    · exact law.sameActivation left hleft right hright heq
    · rw [List.mem_singleton.mp hright] at heq ⊢
      exact hactivation left hleft heq
    · rw [List.mem_singleton.mp hleft] at heq ⊢
      exact (hactivation right hright heq.symm).symm
    · rw [List.mem_singleton.mp hleft, List.mem_singleton.mp hright]
      exact .refl item
  · intro left hleft right hright heq
    rcases List.mem_append.mp hleft with hleft | hleft <;>
      rcases List.mem_append.mp hright with hright | hright
    · exact law.sameDecision left hleft right hright heq
    · rw [List.mem_singleton.mp hright] at heq ⊢
      exact hdecision left hleft heq
    · rw [List.mem_singleton.mp hleft] at heq ⊢
      exact (hdecision right hright heq.symm).symm
    · rw [List.mem_singleton.mp hleft, List.mem_singleton.mp hright]
      exact .refl item

/-- A first enrollment opens the first cycle. -/
theorem singleton {item : GovernanceActivationRevision}
    (hroot : item.parentDispatch = none)
    (hinitial : isGovernanceActivationTransition none item = true) :
    GenerationLaw [item] := by
  obtain ⟨_, hrevision, _, _, hstatus, hgeneration⟩ :=
    (isGovernanceActivationTransition_initial hroot).mp hinitial
  have law : GenerationLaw ([] ++ [item]) :=
    GenerationLaw.nil.concat_of_item hroot (by simpa using hrevision)
      (by rw [hstatus, hrevision]; rfl) (by rw [hgeneration, hrevision]; rfl)
      (by simp) (by simp)
  simpa using law

/-- Two revisions share a decision only when they are the two halves of one
start or end. -/
theorem decisionOfRevision_concat {revision last : Nat} (hle : revision ≤ last)
    (heq : decisionOfRevision revision = decisionOfRevision (last + 1))
    (hpos : 1 ≤ revision) : revision = last ∧ last % 2 = 1 := by
  simp only [decisionOfRevision] at heq
  omega

/-- One admitted root step keeps the law. -/
theorem concat (law : GenerationLaw history)
    {previous item : GovernanceActivationRevision}
    (hlast : history.getLast? = some previous)
    (htransition : isGovernanceActivationTransition (some previous) item = true) :
    GenerationLaw (history ++ [item]) := by
  have hprevious : previous ∈ history := List.mem_of_getLast? hlast
  have hlength := law.revision_getLast hlast
  obtain ⟨hnext, hstep⟩ := (isGovernanceActivationTransition_root
    (law.isRoot previous hprevious)).mp htransition
  have hrevision : item.revision = history.length + 1 := by
    rw [hnext.revision, hlength]
  have hpreviousStatus := law.status previous hprevious
  have hpreviousGeneration := law.generation previous hprevious
  rw [hlength] at hpreviousStatus hpreviousGeneration
  -- Inside a cycle the item inherits the activation of its predecessor's
  -- generation; the decision pairs up only at the second half of a step.
  have inherited : SameActivation previous item → ∀ left ∈ history,
      left.generation = item.generation → SameActivation left item := by
    intro hactivation left hleft heq
    exact (law.sameActivation left hleft previous hprevious
      (heq.trans hactivation.generation)).trans hactivation
  have paired : (history.length % 2 = 1 → SameDecision previous item) →
      ∀ left ∈ history,
        decisionOfRevision left.revision = decisionOfRevision item.revision →
          SameDecision left item := by
    intro hpair left hleft heq
    have hbounds := law.revision_bounds hleft
    rw [hrevision] at heq
    obtain ⟨hsame, hodd⟩ :=
      decisionOfRevision_concat hbounds.2 heq hbounds.1
    obtain rfl := law.revision_inj hleft hprevious (hsame.trans hlength.symm)
    exact hpair hodd
  have hpos : 1 ≤ history.length := List.length_pos_of_mem hprevious
  have sameGeneration : history.length % 4 ≠ 0 →
      previous.generation = generationOfRevision item.revision := by
    intro hmod
    rw [hpreviousGeneration, hrevision]
    simp only [generationOfRevision]
    omega
  cases hstep with
  | activate hstatus hnextStatus hactivation hdecision =>
      have hmod := statusOfRevision_eq_activating.mp
        (hpreviousStatus.symm.trans hstatus)
      refine law.concat_of_item hnext.isRoot hrevision ?_ ?_
        (inherited hactivation) (paired fun _ => hdecision)
      · rw [hnextStatus, eq_comm, statusOfRevision_eq_active]
        omega
      · rw [hactivation.generation]
        exact sameGeneration (by omega)
  | beginEnd hstatus hnextStatus hactivation _ =>
      have hmod := statusOfRevision_eq_active.mp
        (hpreviousStatus.symm.trans hstatus)
      refine law.concat_of_item hnext.isRoot hrevision ?_ ?_
        (inherited hactivation) (paired fun _ => by omega)
      · rw [hnextStatus, eq_comm, statusOfRevision_eq_ending]
        omega
      · rw [hactivation.generation]
        exact sameGeneration (by omega)
  | finish hstatus hnextStatus hactivation hdecision =>
      have hmod := statusOfRevision_eq_ending.mp
        (hpreviousStatus.symm.trans hstatus)
      refine law.concat_of_item hnext.isRoot hrevision ?_ ?_
        (inherited hactivation) (paired fun _ => hdecision)
      · rw [hnextStatus, eq_comm, statusOfRevision_eq_inactive]
        omega
      · rw [hactivation.generation]
        exact sameGeneration (by omega)
  | restart hstatus hnextStatus hgeneration _ _ _ =>
      have hmod := statusOfRevision_eq_inactive.mp
        (hpreviousStatus.symm.trans hstatus)
      refine law.concat_of_item hnext.isRoot hrevision ?_ ?_ ?_
        (paired fun _ => by omega)
      · rw [hnextStatus, eq_comm, statusOfRevision_eq_activating]
        omega
      · rw [hgeneration, hpreviousGeneration, hrevision]
        simp only [generationOfRevision]
        omega
      · -- A restarted cycle opens a generation no earlier revision has.
        intro left hleft heq
        have hbounds := law.revision_bounds hleft
        rw [law.generation left hleft, hgeneration, hpreviousGeneration] at heq
        simp only [generationOfRevision] at heq
        omega

end GenerationLaw

/-- A history that starts with a root starts with one after every prefix. -/
theorem head_append_root {prior rest : List GovernanceActivationRevision}
    (hroot : ∀ first ∈ (prior ++ rest).head?, first.parentDispatch = none) :
    ∀ first ∈ prior.head?, first.parentDispatch = none := by
  intro first hfirst
  apply hroot first
  cases prior with
  | nil => simp at hfirst
  | cons head tail => exact hfirst

/-- Every accepted root history, however long, follows the generation law. -/
theorem GenerationLaw.of_validateHistory
    {history : List GovernanceActivationRevision}
    (haccepted : validateHistory history = none)
    (hroot : ∀ first ∈ history.head?, first.parentDispatch = none) :
    GenerationLaw history := by
  induction history using List.reverseRecOn with
  | nil => exact .nil
  | append_singleton prior item ih =>
      obtain ⟨hprior, htransition, _⟩ := validateHistory_concat.mp haccepted
      cases hlast : prior.getLast? with
      | none =>
          rw [List.getLast?_eq_none_iff] at hlast
          subst hlast
          exact .singleton (hroot item (by simp)) htransition
      | some previous =>
          have hpriorRoot := head_append_root hroot
          rw [hlast] at htransition
          exact (ih hprior hpriorRoot).concat hlast htransition

/-- The cycles a history has run to their end. -/
def completedCycles (history : List GovernanceActivationRevision) : Nat :=
  history.countP (·.status == .inactive)

namespace GenerationLaw

variable {history : List GovernanceActivationRevision}

theorem revision_getElem (law : GenerationLaw history) (i : Nat)
    (hi : i < history.length) : history[i].revision = i + 1 := by
  have hmap : (history.map (·.revision))[i]? = some (i + 1) := by
    rw [law.numbered, List.getElem?_range' hi, Nat.one_mul, Nat.add_comm]
  rw [List.getElem?_map, List.getElem?_eq_getElem hi, Option.map_some,
    Option.some.injEq] at hmap
  exact hmap

theorem completedCycles_take (law : GenerationLaw history) (i : Nat)
    (hi : i ≤ history.length) : completedCycles (history.take i) = i / 4 := by
  induction i with
  | zero => simp [completedCycles]
  | succ n ih =>
      have hn : n < history.length := hi
      have hstatus := law.status history[n] (List.getElem_mem hn)
      rw [law.revision_getElem n hn] at hstatus
      have hprior := ih (Nat.le_of_lt hn)
      simp only [completedCycles] at hprior ⊢
      rw [List.take_add_one, List.getElem?_eq_getElem hn, Option.toList_some,
        List.countP_append, hprior, List.countP_singleton]
      by_cases hinactive : history[n].status = .inactive
      · have hmod := statusOfRevision_eq_inactive.mp (hstatus.symm.trans hinactive)
        simp only [hinactive, beq_self_eq_true, ↓reduceIte]
        omega
      · have hmod : (n + 1) % 4 ≠ 0 := fun hzero =>
          hinactive (hstatus.trans (statusOfRevision_eq_inactive.mpr hzero))
        simp only [beq_eq_false_iff_ne.mpr hinactive, Bool.false_eq_true, ↓reduceIte]
        omega

end GenerationLaw

/-- The law of root journals in full: the position fixes revision, status and
generation; a generation keeps one activation; the two revisions of each start or
end carry one decision. -/
theorem rootHistory_lifecycle {history : List GovernanceActivationRevision}
    (haccepted : validateHistory history = none)
    (hroot : ∀ first ∈ history.head?, first.parentDispatch = none) :
    (∀ (i : Nat) (hi : i < history.length),
      history[i].revision = i + 1 ∧
        history[i].status = statusOfRevision history[i].revision ∧
        history[i].generation = completedCycles (history.take i) + 1) ∧
    (∀ left ∈ history, ∀ right ∈ history, left.generation = right.generation →
      left.activationId = right.activationId ∧
        left.directory = right.directory ∧
        left.worktreeRoot = right.worktreeRoot ∧
        left.policyDigest = right.policyDigest) ∧
    (∀ (i : Nat) (hi : 2 * i + 1 < history.length),
      history[2 * i].decisionId = history[2 * i + 1].decisionId ∧
        history[2 * i].decisionSource = history[2 * i + 1].decisionSource ∧
        history[2 * i].decisionActor = history[2 * i + 1].decisionActor) := by
  have law := GenerationLaw.of_validateHistory haccepted hroot
  refine ⟨?_, ?_, ?_⟩
  · intro i hi
    have hmem := List.getElem_mem hi
    refine ⟨law.revision_getElem i hi, law.status _ hmem, ?_⟩
    rw [law.generation _ hmem, law.revision_getElem i hi,
      law.completedCycles_take i (Nat.le_of_lt hi)]
    rfl
  · intro left hleft right hright heq
    have hsame := law.sameActivation left hleft right hright heq
    exact ⟨hsame.activationId.symm, hsame.directory.symm,
      hsame.worktreeRoot.symm, hsame.policyDigest.symm⟩
  · intro i hi
    have hsame := law.sameDecision _ (List.getElem_mem hi)
      _ (List.getElem_mem (Nat.lt_of_succ_lt hi)) (by
        rw [law.revision_getElem, law.revision_getElem]
        simp only [decisionOfRevision]
        omega)
    exact ⟨hsame.decisionId, hsame.decisionSource, hsame.decisionActor⟩

/-- A root journal that is started, ended and started again. -/
def restartedHistory : List GovernanceActivationRevision :=
  (List.range' 1 6).map fun revision =>
    { sessionId := "root"
      rootSessionId := "root"
      activationId := if revision ≤ 4 then "6f1d2c3b-4a59-4e68-8d77-0123456789ab"
        else "0b9a8f7e-6d5c-4b3a-9f2e-ba9876543210"
      generation := generationOfRevision revision
      revision
      status := statusOfRevision revision
      directory := "/project"
      worktreeRoot := "/project"
      policyDigest := "frozen"
      decisionId := String.ofList (List.replicate (decisionOfRevision revision) 'd')
      decisionSource := .hostCommand
      decisionActor := ⟨"operator", none, none, .env, .bestEffort⟩
      previousDigest := if revision = 1 then none else some "previous"
      parentDispatch := none }

theorem rootHistory_lifecycle_restarted :
    validateHistory restartedHistory = none ∧
      (∀ (i : Nat) (hi : 2 * i + 1 < restartedHistory.length),
        restartedHistory[2 * i].decisionId = restartedHistory[2 * i + 1].decisionId ∧
          restartedHistory[2 * i].decisionSource =
            restartedHistory[2 * i + 1].decisionSource ∧
          restartedHistory[2 * i].decisionActor =
            restartedHistory[2 * i + 1].decisionActor) :=
  ⟨by decide, (rootHistory_lifecycle (by decide) (by simp [restartedHistory])).2.2⟩

end GovernedRuntime.Activation
