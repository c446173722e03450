/-
Activation identities and the audit confirmation that names one
(`confirmGovernanceActivationAudit`, `isGovernanceActivationAuditConfirmed` in
`src/adapters/governance-activation.ts`).  A reactivation is compared with the
generation it follows and with no older one.
-/
import GovernedRuntime.Activation.Agreement

namespace GovernedRuntime.Activation

/-- Record that the activation's audit event is durably confirmed. -/
def confirmGovernanceActivationAudit (hash : RecordHash)
    (store : GovernanceActivationStore)
    (activation : GovernanceActivationRevision) : GovernanceActivationStore :=
  store.insert (.audit (hash.hashText activation.sessionId))
    (.auditConfirmation ⟨activation.sessionId, activation.activationId⟩)

def isGovernanceActivationAuditConfirmed (hash : RecordHash)
    (store : GovernanceActivationStore)
    (activation : GovernanceActivationRevision) : Bool :=
  match (store.lookup (.audit (hash.hashText activation.sessionId))).bind
      StoredValue.parseAuditConfirmation with
  | some value =>
      value.sessionId == activation.sessionId &&
        value.activationId == activation.activationId
  | none => false

/-- A confirmation is taken for every revision with the same activation id. -/
theorem isGovernanceActivationAuditConfirmed_confirm {hash : RecordHash}
    {store : GovernanceActivationStore}
    {activation other : GovernanceActivationRevision}
    (hvalid : activation.isValid = true)
    (hsession : other.sessionId = activation.sessionId) :
    isGovernanceActivationAuditConfirmed hash
        (confirmGovernanceActivationAudit hash store activation) other = true ↔
      other.activationId = activation.activationId := by
  simp only [GovernanceActivationRevision.isValid, Bool.and_eq_true,
    and_assoc] at hvalid
  have hstored : (StoredValue.auditConfirmation
      ⟨activation.sessionId, activation.activationId⟩).parseAuditConfirmation =
        some ⟨activation.sessionId, activation.activationId⟩ := by
    rw [StoredValue.parseAuditConfirmation, if_pos]
    simp [GovernanceActivationAuditConfirmation.isValid, hvalid.1, hvalid.2.2.1]
  rw [isGovernanceActivationAuditConfirmed, confirmGovernanceActivationAudit,
    hsession, AList.lookup_insert, Option.bind_some, hstored]
  simp only [beq_self_eq_true, Bool.true_and, beq_iff_eq]
  exact eq_comm

/-- Two generations never carry one activation id. -/
def DistinctActivations (history : List GovernanceActivationRevision) : Prop :=
  ∀ left ∈ history, ∀ right ∈ history,
    left.generation ≠ right.generation → left.activationId ≠ right.activationId

/-- What a reactivation has to avoid beyond its predecessor: the activation ids of
the generations before the one it follows. -/
def FreshReactivation (prior : List GovernanceActivationRevision)
    (item : GovernanceActivationRevision) : Prop :=
  item.status = .activating →
    ∀ earlier ∈ prior, earlier.generation + 1 < item.generation →
      earlier.activationId ≠ item.activationId

/-- Every reactivation along a history avoided the older activation ids. -/
def FreshReactivations (history : List GovernanceActivationRevision) : Prop :=
  ∀ (prior rest : List GovernanceActivationRevision)
    (item : GovernanceActivationRevision),
    history = prior ++ item :: rest → FreshReactivation prior item

section

variable {history : List GovernanceActivationRevision}
  {item : GovernanceActivationRevision}

theorem FreshReactivations.init (h : FreshReactivations (history ++ [item])) :
    FreshReactivations history := by
  intro prior rest other heq
  apply h prior (rest ++ [item]) other
  rw [heq, List.append_assoc, List.cons_append]

theorem FreshReactivations.last (h : FreshReactivations (history ++ [item])) :
    FreshReactivation history item :=
  h history [] item rfl

theorem DistinctActivations.fresh (h : DistinctActivations history) :
    FreshReactivations history := by
  intro prior rest other heq _ earlier hearlier hgap
  apply h earlier (by simp [heq, hearlier]) other (by simp [heq])
  exact Nat.ne_of_lt (Nat.lt_of_succ_lt hgap)

/-- Only the pairs with the new item have to be checked. -/
theorem DistinctActivations.concat_of_item (h : DistinctActivations history)
    (hitem : ∀ left ∈ history, left.generation ≠ item.generation →
      left.activationId ≠ item.activationId) :
    DistinctActivations (history ++ [item]) := by
  intro left hleft right hright hne
  rcases List.mem_append.mp hleft with hleft | hleft <;>
    rcases List.mem_append.mp hright with hright | hright
  · exact h left hleft right hright hne
  · rw [List.mem_singleton.mp hright] at hne ⊢
    exact hitem left hleft hne
  · rw [List.mem_singleton.mp hleft] at hne ⊢
    exact (hitem right hright hne.symm).symm
  · rw [List.mem_singleton.mp hleft, List.mem_singleton.mp hright] at hne
    exact absurd rfl hne

/-- One admitted step keeps the identities apart when a reactivation avoids the
ids the transition itself does not look at. -/
theorem DistinctActivations.concat (h : DistinctActivations history)
    (law : GenerationLaw history) {previous : GovernanceActivationRevision}
    (hlast : history.getLast? = some previous)
    (htransition : isGovernanceActivationTransition (some previous) item = true)
    (hfresh : FreshReactivation history item) :
    DistinctActivations (history ++ [item]) := by
  have hprevious : previous ∈ history := List.mem_of_getLast? hlast
  obtain ⟨_, hstep⟩ := (isGovernanceActivationTransition_root
    (law.isRoot previous hprevious)).mp htransition
  -- Inside a generation the item stands for its predecessor.
  have inside : SameActivation previous item →
      DistinctActivations (history ++ [item]) := by
    intro hactivation
    apply h.concat_of_item
    intro left hleft hne
    rw [hactivation.generation] at hne
    rw [hactivation.activationId]
    exact h left hleft previous hprevious hne
  cases hstep with
  | activate _ _ hactivation _ => exact inside hactivation
  | beginEnd _ _ hactivation _ => exact inside hactivation
  | finish _ _ hactivation _ => exact inside hactivation
  | restart _ hstatus hgeneration hactivationId _ _ =>
      apply h.concat_of_item
      intro left hleft _
      by_cases hneighbour : left.generation = previous.generation
      · have hsame := law.sameActivation left hleft previous hprevious hneighbour
        rw [← hsame.activationId]
        exact hactivationId.symm
      · apply hfresh hstatus left hleft
        have hle : left.generation ≤ previous.generation := by
          rw [law.generation left hleft, law.generation previous hprevious,
            law.revision_getLast hlast]
          have hbound := (law.revision_bounds hleft).2
          simp only [generationOfRevision]
          omega
        omega

/-- The run lemma: accepted root histories without such a replay keep all their
generations apart. -/
theorem FreshReactivations.distinct (hfresh : FreshReactivations history)
    (haccepted : validateHistory history = none)
    (hroot : ∀ first ∈ history.head?, first.parentDispatch = none) :
    DistinctActivations history := by
  induction history using List.reverseRecOn with
  | nil =>
      intro left hleft
      exact absurd hleft List.not_mem_nil
  | append_singleton prior item ih =>
      obtain ⟨hprior, htransition, _⟩ := validateHistory_concat.mp haccepted
      have hpriorRoot := head_append_root hroot
      have hdistinct := ih hfresh.init hprior hpriorRoot
      cases hlast : prior.getLast? with
      | none =>
          apply hdistinct.concat_of_item
          rw [List.getLast?_eq_none_iff] at hlast
          simp [hlast]
      | some previous =>
          rw [hlast] at htransition
          exact hdistinct.concat (.of_validateHistory hprior hpriorRoot) hlast
            htransition hfresh.last

end

/-- The activation ids of an accepted root journal are all distinct, and an audit
confirmation belongs to one generation, exactly when every reactivation avoided
the ids of the generations before the one it followed. -/
theorem activationIds_distinct_iff {hash : RecordHash}
    {store : GovernanceActivationStore} {sessionId : String} {journal : Journal}
    (hread : readJournal hash store sessionId = .ok journal)
    (hroot : ∀ first ∈ journal.history.head?, first.parentDispatch = none) :
    (DistinctActivations journal.history ∧
      ∀ confirmed ∈ journal.history, ∀ other ∈ journal.history,
        isGovernanceActivationAuditConfirmed hash
          (confirmGovernanceActivationAudit hash store confirmed) other = true →
        other.generation = confirmed.generation) ↔
    FreshReactivations journal.history := by
  have hjournal := readJournal_eq_ok.mp hread
  constructor
  · intro h
    exact h.1.fresh
  · intro hfresh
    have hdistinct := hfresh.distinct hjournal.validateHistory hroot
    refine ⟨hdistinct, ?_⟩
    intro confirmed hconfirmed other hother hlookup
    by_contra hne
    have hleft := hjournal.collected confirmed hconfirmed
    have hright := hjournal.collected other hother
    rw [isGovernanceActivationAuditConfirmed_confirm hleft.isValid
      (hright.session.trans hleft.session.symm)] at hlookup
    exact hdistinct other hother confirmed hconfirmed hne hlookup

theorem activationIds_distinct_iff_restarted :
    ∃ journal, readJournal Lifecycle.zeroHash (Lifecycle.run Lifecycle.zeroHash 5).store
        "root" = .ok journal ∧
      journal.history.length = 5 ∧
      ((DistinctActivations journal.history ∧
        ∀ confirmed ∈ journal.history, ∀ other ∈ journal.history,
          isGovernanceActivationAuditConfirmed Lifecycle.zeroHash
            (confirmGovernanceActivationAudit Lifecycle.zeroHash
              (Lifecycle.run Lifecycle.zeroHash 5).store confirmed) other = true →
          other.generation = confirmed.generation) ↔
      FreshReactivations journal.history) := by
  obtain ⟨journal, hdriven⟩ :=
    Lifecycle.driven_run Lifecycle.zeroHash 5 (by decide)
  have hread := readJournal_eq_ok.mpr hdriven.read
  exact ⟨journal, hread, hdriven.length,
    activationIds_distinct_iff hread hdriven.root⟩

/-- The reader accepts nine revisions whose third generation carries the activation
id of the first. -/
theorem activationIds_distinct_counterexample :
    ¬ ∃ hash : RecordHash, ∀ (store : GovernanceActivationStore) (sessionId : String)
      (journal : Journal), readJournal hash store sessionId = .ok journal →
      (∀ first ∈ journal.history.head?, first.parentDispatch = none) →
        DistinctActivations journal.history := by
  rintro ⟨hash, hclaim⟩
  obtain ⟨journal, hdriven⟩ := Lifecycle.driven_run hash 9 (by decide)
  have law := GenerationLaw.of_validateHistory hdriven.read.validateHistory
    hdriven.root
  have hlength := hdriven.length
  have hfirst : journal.history[0] ∈ journal.history := List.getElem_mem _
  have hninth : journal.history[8] ∈ journal.history := List.getElem_mem _
  have hone : journal.history[0].generation = 1 := by
    rw [law.generation _ hfirst, law.revision_getElem]
    rfl
  have hthree : journal.history[8].generation = 3 := by
    rw [law.generation _ hninth, law.revision_getElem]
    rfl
  apply hclaim _ _ journal (readJournal_eq_ok.mpr hdriven.read) hdriven.root
    _ hfirst _ hninth
  · rw [hone, hthree]
    decide
  · rw [hdriven.activations _ hfirst, hdriven.activations _ hninth, hone, hthree]
    rfl

end GovernedRuntime.Activation
