/-
The chain of the revisions of a plan record: which records the refinement accepts, how
a chain grows, and what its head commits to (`src/state/evidence-plan.ts`).
-/
import GovernedRuntime.Audit.CanonicalJson
import GovernedRuntime.Library.HashChain
import GovernedRuntime.State.PlanLineage

namespace GovernedRuntime.State

open GovernedRuntime.Audit GovernedRuntime.Library

/-! ### The serialized lineage -/

def nullable : Option String → Json Nat
  | some text => .string text
  | none => .null

/-- The object `computeRecordDigest` serializes. -/
def PlanLineage.fields (lineage : PlanLineage) : List (String × Json Nat) :=
  [("contentDigest", .string lineage.contentDigest),
   ("planVersion", .number lineage.planVersion),
   ("supersedesRecordDigest", nullable lineage.supersedesRecordDigest),
   ("originatingReviewObligationId", nullable lineage.originatingReviewObligationId),
   ("revisionReason", nullable lineage.revisionReason),
   ("revisionId", .string lineage.revisionId)]

def planLineageText (lineage : PlanLineage) : CanonicalText :=
  canonicalJsonStringify (.object lineage.fields)

theorem nullable_injective : Function.Injective nullable := by
  intro a b heq
  rcases a with _ | a <;> rcases b with _ | b <;> simp_all [nullable]

theorem PlanLineage.keysOf_fields (lineage : PlanLineage) :
    (keysOf lineage.fields).Nodup := by
  simp only [keysOf, fields, List.map_cons, List.map_nil]
  decide

theorem PlanLineage.prototypeKey_notMem (lineage : PlanLineage) :
    prototypeKey ∉ keysOf lineage.fields := by
  simp only [keysOf, fields, List.map_cons, List.map_nil]
  decide

/-- The fields hold texts, numbers and nulls. -/
theorem PlanLineage.leaf_of_mem_fields {lineage : PlanLineage} {field : String × Json Nat}
    (hmem : field ∈ lineage.fields) : (∃ n, field.2 = .number n) ∨ (∃ o, field.2 = nullable o) := by
  simp only [fields, List.mem_cons, List.not_mem_nil, or_false] at hmem
  rcases hmem with rfl | rfl | rfl | rfl | rfl | rfl
  · exact Or.inr ⟨some lineage.contentDigest, rfl⟩
  · exact Or.inl ⟨lineage.planVersion, rfl⟩
  · exact Or.inr ⟨_, rfl⟩
  · exact Or.inr ⟨_, rfl⟩
  · exact Or.inr ⟨_, rfl⟩
  · exact Or.inr ⟨some lineage.revisionId, rfl⟩

theorem PlanLineage.distinct_fields (lineage : PlanLineage) :
    (Json.object lineage.fields).distinct = true := by
  refine Json.distinct_object.2 ⟨lineage.keysOf_fields, fun field hmem => ?_⟩
  rcases leaf_of_mem_fields hmem with ⟨n, heq⟩ | ⟨_ | text, heq⟩ <;> rw [heq] <;> rfl

theorem PlanLineage.isPlain_fields (lineage : PlanLineage) :
    isPlain (Json.object lineage.fields) = true := by
  refine isPlain_object.2 fun field hmem => ⟨?_, ?_⟩
  · rintro hkey
    exact lineage.prototypeKey_notMem (hkey ▸ List.mem_map_of_mem hmem)
  · rcases leaf_of_mem_fields hmem with ⟨n, heq⟩ | ⟨_ | text, heq⟩ <;> rw [heq] <;> rfl

/-- The serialized text shows the whole lineage. -/
theorem planLineageText_injective : Function.Injective planLineageText := by
  intro a b heq
  rw [planLineageText, planLineageText,
    canonicalJsonStringify_eq_iff a.distinct_fields b.distinct_fields,
    canonicalForm_of_isPlain a.isPlain_fields,
    canonicalForm_of_isPlain b.isPlain_fields] at heq
  have hlookup := (Json.sameValue_object_iff a.keysOf_fields b.keysOf_fields).1 heq
  have hleaf : ∀ o : Option String, (nullable o).sortKeys = nullable o := by
    rintro (_ | text) <;> rfl
  have hcontent := hlookup "contentDigest"
  have hversion := hlookup "planVersion"
  have hsupersedes := hlookup "supersedesRecordDigest"
  have horiginating := hlookup "originatingReviewObligationId"
  have hreason := hlookup "revisionReason"
  have hrevision := hlookup "revisionId"
  simp only [PlanLineage.fields, List.lookup_cons, String.reduceBEq, Option.map_some, Option.some_inj,
    hleaf, nullable_injective.eq_iff]
    at hcontent hversion hsupersedes horiginating hreason hrevision
  obtain ⟨contentDigest, planVersion, _, _, _, revisionId⟩ := a
  cases Json.string.inj hcontent
  cases Json.number.inj hversion
  cases Json.string.inj hrevision
  subst hsupersedes horiginating hreason
  rfl

/-! ### Chains of revisions -/

section Chains

variable (hashText : String → String)

/-- What the refinement asks of the revision that follows `earlier`. -/
structure PlanLink (earlier : List PlanEvidence) (last : Option String)
    (revision : PlanEvidence) (next : Option String) : Prop where
  digest : revision.digest = hashText revision.body
  recordDigest : revision.recordDigest =
    computeRecordDigest hashText planLineageText revision.lineage
  planVersion : revision.planVersion = earlier.length + 1
  supersedes : revision.supersedesRecordDigest = last
  next : next = some revision.recordDigest

/-- The versions `1..N` of one chain, and the record digest of the last. -/
def PlanChain : List PlanEvidence → Option String → Prop :=
  HashChain none (PlanLink hashText)

theorem revisionIssue_eq_none_iff {index : Nat} {predecessor : Option PlanEvidence}
    {earlier : List PlanEvidence} {revision : PlanEvidence} (hindex : earlier.length = index) :
    revisionIssue hashText planLineageText index predecessor revision = none ↔
      PlanLink hashText earlier (predecessor.map (·.recordDigest)) revision
        (some revision.recordDigest) := by
  rw [revisionIssue]
  constructor
  · intro hnone
    split_ifs at hnone with hdigest hrecord hversion hsupersedes
    simp only [bne_iff_ne, ne_eq, Decidable.not_not] at hdigest hrecord hversion hsupersedes
    exact ⟨hdigest, hrecord, hindex ▸ hversion, hsupersedes, rfl⟩
  · rintro ⟨hdigest, hrecord, hversion, hsupersedes, -⟩
    rw [hindex] at hversion
    simp only [hdigest, bne_self_eq_false, hrecord, hversion, hsupersedes]
    rfl

theorem chainIssue_concat {index : Nat} {predecessor : Option PlanEvidence}
    {chain : List (RevisionSlot × PlanEvidence)} {slot : RevisionSlot}
    {revision : PlanEvidence} :
    chainIssue hashText planLineageText index predecessor (chain ++ [(slot, revision)]) = none ↔
      chainIssue hashText planLineageText index predecessor chain = none ∧
        revisionIssue hashText planLineageText (index + chain.length)
          ((chain.map Prod.snd).getLast?.or predecessor) revision = none := by
  induction chain generalizing index predecessor with
  | nil =>
      rw [List.nil_append, List.length_nil, Nat.add_zero, List.map_nil, List.getLast?_nil,
        Option.none_or, chainIssue]
      cases hissue : revisionIssue hashText planLineageText index predecessor revision with
      | none => simp [hissue, chainIssue]
      | some message => simp [hissue, chainIssue]
  | cons head rest ih =>
      obtain ⟨headSlot, headRevision⟩ := head
      rw [List.cons_append, chainIssue, chainIssue]
      rcases revisionIssue hashText planLineageText index predecessor headRevision with
        _ | message
      · rw [ih, List.map_cons, List.getLast?_cons, Option.or_some, List.length_cons,
          Nat.add_right_comm, ← Nat.add_assoc]
        rfl
      · simp

theorem planChain_concat_iff {revisions : List PlanEvidence} {revision : PlanEvidence}
    {last : Option String} :
    PlanChain hashText (revisions ++ [revision]) last ↔
      ∃ before, PlanChain hashText revisions before ∧
        PlanLink hashText revisions before revision last :=
  hashChain_concat_iff

/-- A chain ends in the record digest of its last revision. -/
theorem PlanChain.last_eq {revisions : List PlanEvidence} {last : Option String}
    (hchain : PlanChain hashText revisions last) :
    last = revisions.getLast?.map (·.recordDigest) := by
  cases hchain with
  | nil => rfl
  | snoc _ hlink => rw [hlink.next, List.getLast?_concat, Option.map_some]

/-- The checks, position by position, are those of a chain. -/
theorem chainIssue_eq_none_iff (chain : List (RevisionSlot × PlanEvidence)) :
    chainIssue hashText planLineageText 0 none chain = none ↔
      PlanChain hashText (chain.map Prod.snd)
        ((chain.map Prod.snd).getLast?.map (·.recordDigest)) := by
  induction chain using List.reverseRecOn with
  | nil => exact ⟨fun _ => .nil, fun _ => rfl⟩
  | append_singleton chain entry ih =>
      obtain ⟨slot, revision⟩ := entry
      rw [chainIssue_concat, ih, List.map_append, List.map_cons, List.map_nil,
        List.getLast?_concat, planChain_concat_iff, Nat.zero_add, Option.or_none,
        revisionIssue_eq_none_iff hashText (List.length_map _)]
      constructor
      · rintro ⟨hchain, hlink⟩
        exact ⟨_, hchain, hlink⟩
      · rintro ⟨before, hchain, hlink⟩
        obtain rfl := hchain.last_eq
        exact ⟨hchain, hlink⟩

theorem PlanChain.planVersions {revisions : List PlanEvidence} {last : Option String}
    (hchain : PlanChain hashText revisions last) :
    revisions.map (·.planVersion) = List.range' 1 revisions.length := by
  induction hchain with
  | nil => rfl
  | snoc _ hlink ih =>
      rw [List.map_append, ih, List.map_cons, List.map_nil, hlink.planVersion,
        List.length_append, List.length_singleton, List.range'_concat, Nat.one_mul,
        Nat.add_comm 1]

/-- The versions of a chain increase. -/
theorem PlanChain.pairwise_lt {revisions : List PlanEvidence} {last : Option String}
    (hchain : PlanChain hashText revisions last) :
    revisions.Pairwise fun left right => left.planVersion < right.planVersion := by
  have hsorted := List.pairwise_lt_range' (s := 1) (n := revisions.length)
  rw [← hchain.planVersions] at hsorted
  exact List.pairwise_map.1 hsorted

/-- A version occurs once. -/
theorem PlanChain.eq_of_planVersion {revisions : List PlanEvidence} {last : Option String}
    (hchain : PlanChain hashText revisions last) {left right : PlanEvidence}
    (hleft : left ∈ revisions) (hright : right ∈ revisions)
    (hversion : left.planVersion = right.planVersion) : left = right := by
  have hnodup : (revisions.map (·.planVersion)).Nodup :=
    List.pairwise_map.2 (hchain.pairwise_lt.imp Nat.ne_of_lt)
  exact List.inj_on_of_nodup_map hnodup hleft hright hversion

/-! ### Accepted records -/

theorem lineageChain_map_snd_perm (plan : PlanRecord) :
    ((lineageChain plan).map Prod.snd).Perm (plan.history ++ [plan.current]) := by
  refine ((List.perm_insertionSort _ _).map Prod.snd).trans ?_
  rw [List.map_append, List.map_map]
  have hzip : (plan.history.zipIdx.map (Prod.snd ∘ fun entry : PlanEvidence × Nat =>
      (RevisionSlot.history entry.2, entry.1))) = plan.history := List.zipIdx_map_fst _ _
  rw [hzip]
  rfl

theorem lineageChain_pairwise_le (plan : PlanRecord) :
    ((lineageChain plan).map Prod.snd).Pairwise
      fun left right => left.planVersion ≤ right.planVersion := by
  refine List.pairwise_map.2 ?_
  exact List.pairwise_insertionSort
    (fun left right : RevisionSlot × PlanEvidence => left.2.planVersion ≤ right.2.planVersion) _

/-- The history and the current revision are the versions `1..N` of one chain, and the
current one is version `N`. -/
def HeadsChain (plan : PlanRecord) : Prop :=
  ∃ earlier : List PlanEvidence, earlier.Perm plan.history ∧
    PlanChain hashText (earlier ++ [plan.current]) (some plan.current.recordDigest)

theorem planRecordIssue_eq_none {plan : PlanRecord} :
    planRecordIssue hashText planLineageText plan = none ↔
      chainIssue hashText planLineageText 0 none (lineageChain plan) = none ∧
        plan.current.planVersion = (lineageChain plan).length := by
  rw [planRecordIssue]
  cases hissue : chainIssue hashText planLineageText 0 none (lineageChain plan) with
  | none => simp
  | some issue => simp

/-- Sorting finds the chain again, whatever the order of the history. -/
theorem lineageChain_eq_of_chain {plan : PlanRecord} {revisions : List PlanEvidence}
    {last : Option String} (hperm : revisions.Perm (plan.history ++ [plan.current]))
    (hchain : PlanChain hashText revisions last) :
    (lineageChain plan).map Prod.snd = revisions := by
  have hsame := (lineageChain_map_snd_perm plan).trans hperm.symm
  refine List.Perm.eq_of_pairwise ?_ (lineageChain_pairwise_le plan)
    (hchain.pairwise_lt.imp Nat.le_of_lt) hsame
  intro left right hleft hright hle hge
  exact hchain.eq_of_planVersion hashText (hsame.subset hleft) hright (le_antisymm hle hge)

theorem planRecordIssue_eq_none_iff (plan : PlanRecord) :
    planRecordIssue hashText planLineageText plan = none ↔ HeadsChain hashText plan := by
  rw [planRecordIssue_eq_none, chainIssue_eq_none_iff]
  constructor
  · rintro ⟨hchain, hversion⟩
    have hperm := lineageChain_map_snd_perm plan
    have hcurrent := hperm.symm.subset
      (List.mem_append_right plan.history (List.mem_singleton_self plan.current))
    rw [← List.length_map (f := Prod.snd)] at hversion
    generalize (lineageChain plan).map Prod.snd = revisions at hchain hversion hperm hcurrent
    rcases List.eq_nil_or_concat' revisions with rfl | ⟨earlier, head, rfl⟩
    · exact absurd hcurrent List.not_mem_nil
    -- The last revision of the chain and the current one have the same version.
    have hhead : head = plan.current := by
      obtain ⟨before, -, hlink⟩ := (planChain_concat_iff hashText).1 hchain
      refine hchain.eq_of_planVersion hashText List.mem_concat_self hcurrent ?_
      rw [hlink.planVersion, hversion, List.length_append, List.length_singleton]
    rw [List.getLast?_concat] at hchain
    rw [hhead] at hchain hperm
    exact ⟨earlier, (List.perm_append_right_iff _).1 hperm, hchain⟩
  · rintro ⟨earlier, hperm, hchain⟩
    have heq := lineageChain_eq_of_chain hashText (hperm.append_right _) hchain
    obtain ⟨before, -, hlink⟩ := (planChain_concat_iff hashText).1 hchain
    rw [heq, List.getLast?_concat, ← List.length_map (f := Prod.snd), heq, List.length_append]
    exact ⟨hchain, hlink.planVersion⟩

theorem HeadsChain.planVersion {plan : PlanRecord} (hheads : HeadsChain hashText plan) :
    plan.current.planVersion = plan.history.length + 1 := by
  obtain ⟨earlier, hperm, hchain⟩ := hheads
  obtain ⟨before, -, hlink⟩ := (planChain_concat_iff hashText).1 hchain
  rw [hlink.planVersion, hperm.length_eq]

/-! ### Growth -/

/-- A first revision heads a chain. -/
theorem headsChain_of_initial {plan : PlanRecord} (hhistory : plan.history = [])
    (hlink : PlanLink hashText [] none plan.current (some plan.current.recordDigest)) :
    HeadsChain hashText plan :=
  ⟨[], hhistory ▸ .refl _, (planChain_concat_iff hashText).2 ⟨none, .nil, hlink⟩⟩

/-- A successor of the head heads the chain with one more version. -/
theorem HeadsChain.extend {plan next : PlanRecord} (hheads : HeadsChain hashText plan)
    (hhistory : next.history = plan.current :: plan.history)
    (hdigest : next.current.digest = hashText next.current.body)
    (hrecord : next.current.recordDigest =
      computeRecordDigest hashText planLineageText next.current.lineage)
    (hversion : next.current.planVersion = plan.current.planVersion + 1)
    (hsupersedes : next.current.supersedesRecordDigest = some plan.current.recordDigest) :
    HeadsChain hashText next := by
  have hlength := hheads.planVersion
  obtain ⟨earlier, hperm, hchain⟩ := hheads
  refine ⟨earlier ++ [plan.current], ?_, (planChain_concat_iff hashText).2 ⟨_, hchain, ?_⟩⟩
  · rw [hhistory]
    exact (List.perm_append_singleton _ _).trans (hperm.cons _)
  · refine ⟨hdigest, hrecord, ?_, hsupersedes, rfl⟩
    rw [hversion, hlength, List.length_append, List.length_singleton, hperm.length_eq]

/-! ### Commitment -/

variable {hashText}

theorem computeRecordDigest_injective (hinjective : Function.Injective hashText) :
    Function.Injective (computeRecordDigest hashText planLineageText) := by
  intro a b heq
  have htext := hinjective heq
  rw [String.append_right_inj] at htext
  exact planLineageText_injective htext

/-- Two chains that end in one record digest have the same lineage at every version. -/
theorem PlanChain.forall₂_lineage (hinjective : Function.Injective hashText)
    {revisions revisions' : List PlanEvidence} {last : Option String}
    (hchain : PlanChain hashText revisions last) (hchain' : PlanChain hashText revisions' last) :
    List.Forall₂ (fun left right => left.lineage = right.lineage) revisions revisions' := by
  refine HashChain.forall₂_of_same_end ?_ ?_ ?_ hchain hchain'
  · intro earlier last revision hlink
    cases hlink.next
  · intro earlier last revision hlink
    cases hlink.next
  · intro earlier earlier' last last' revision revision' next hlink hlink'
    have hrecord := Option.some_inj.1 (hlink.next.symm.trans hlink'.next)
    rw [hlink.recordDigest, hlink'.recordDigest] at hrecord
    have hlineage := computeRecordDigest_injective hinjective hrecord
    refine ⟨?_, hlineage⟩
    rw [← hlink.supersedes, ← hlink'.supersedes]
    exact congrArg PlanLineage.supersedesRecordDigest hlineage

/-- Current revisions with one record digest have one version. -/
theorem HeadsChain.planVersion_eq (hinjective : Function.Injective hashText)
    {plan plan' : PlanRecord} (hheads : HeadsChain hashText plan)
    (hheads' : HeadsChain hashText plan')
    (hsame : plan.current.recordDigest = plan'.current.recordDigest) :
    plan.current.planVersion = plan'.current.planVersion := by
  obtain ⟨earlier, -, hchain⟩ := hheads
  obtain ⟨earlier', -, hchain'⟩ := hheads'
  obtain ⟨before, -, hlink⟩ := (planChain_concat_iff hashText).1 hchain
  obtain ⟨before', -, hlink'⟩ := (planChain_concat_iff hashText).1 hchain'
  rw [hlink.recordDigest, hlink'.recordDigest] at hsame
  exact congrArg PlanLineage.planVersion (computeRecordDigest_injective hinjective hsame)

/-- Records whose current revisions have one record digest have the same lineage at
every version. -/
theorem HeadsChain.lineage_eq (hinjective : Function.Injective hashText)
    {plan plan' : PlanRecord} (hheads : HeadsChain hashText plan)
    (hheads' : HeadsChain hashText plan')
    (hsame : plan.current.recordDigest = plan'.current.recordDigest)
    {revision revision' : PlanEvidence} (hmem : revision ∈ plan.history ++ [plan.current])
    (hmem' : revision' ∈ plan'.history ++ [plan'.current])
    (hversion : revision.planVersion = revision'.planVersion) :
    revision.lineage = revision'.lineage := by
  obtain ⟨earlier, hperm, hchain⟩ := hheads
  obtain ⟨earlier', hperm', hchain'⟩ := hheads'
  rw [← hsame] at hchain'
  have hlineage := hchain.forall₂_lineage hinjective hchain'
  rw [← List.forall₂_map_right_iff, ← List.forall₂_map_left_iff, List.forall₂_eq_eq_eq]
    at hlineage
  have hmap := List.mem_map_of_mem (f := PlanEvidence.lineage)
    ((hperm.append_right _).mem_iff.2 hmem)
  rw [hlineage, List.mem_map] at hmap
  obtain ⟨found, hfound, heq⟩ := hmap
  have hfoundVersion : found.planVersion = revision'.planVersion :=
    (congrArg PlanLineage.planVersion heq).trans hversion
  rw [← heq, hchain'.eq_of_planVersion hashText hfound
    ((hperm'.append_right _).mem_iff.2 hmem') hfoundVersion]

end Chains

end GovernedRuntime.State
