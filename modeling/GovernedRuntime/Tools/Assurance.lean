/-
Review obligations as the artifact tools mint, find and consume them
(`src/integration/review/obligations/assurance.ts`).
-/
import GovernedRuntime.Machine.Guards
import GovernedRuntime.Rails.ReviewEvidence

namespace GovernedRuntime.Tools

open GovernedRuntime.State
open GovernedRuntime.Machine
open GovernedRuntime.Library (truthy)

/-- `emptyReviewAssurance`; no attempts, no dispatches, no capacity lock. -/
def emptyReviewAssurance : ReviewAssuranceState :=
  { obligations := []
    invocations := []
    other := "\x7b\"assuranceSchemaVersion\":\"review-assurance.v7\",\"attempts\":[],\"dispatches\":[]\x7d" }

def ensureReviewAssurance (assurance : Option ReviewAssuranceState) : ReviewAssuranceState :=
  assurance.getD emptyReviewAssurance

def appendReviewObligation (assurance : Option ReviewAssuranceState)
    (obligation : Option ReviewObligation) : ReviewAssuranceState :=
  let base := ensureReviewAssurance assurance
  match obligation with
  | none => base
  | some obligation => { base with obligations := base.obligations ++ [obligation] }

section Lists

variable (obligationType : ReviewObligationType)

/-- The obligations of a type, oldest first. -/
def obligationsOfType (obligations : List ReviewObligation) : List ReviewObligation :=
  obligations.filter (·.obligationType == obligationType)

/-- The last obligation of a type. -/
def lastObligation (obligations : List ReviewObligation) : Option ReviewObligation :=
  obligations.reverse.find? (·.obligationType == obligationType)

/-- The last open obligation of a type. -/
def lastOpenObligation (obligations : List ReviewObligation) : Option ReviewObligation :=
  obligations.reverse.find? fun obligation =>
    obligation.obligationType == obligationType && isOpenReviewObligation obligation

/-- The last consumed obligation of a type. -/
def lastConsumedObligation (obligations : List ReviewObligation) : Option ReviewObligation :=
  obligations.reverse.find? fun obligation =>
    obligation.obligationType == obligationType && obligation.status == .consumed

def findLatestObligation (obligations : List ReviewObligation) (iteration planVersion : Nat) :
    Option ReviewObligation :=
  obligations.reverse.find? fun obligation =>
    obligation.obligationType == obligationType &&
      (obligation.iteration == iteration && obligation.planVersion == planVersion)

/-- Only the last obligation of a type may be open. -/
def OnlyLastOpen (obligations : List ReviewObligation) : Prop :=
  ∀ obligation ∈ (obligationsOfType obligationType obligations).dropLast,
    isOpenReviewObligation obligation = false

variable {obligationType}

/-- A search for the last obligation of a type goes through those of the type. -/
theorem find?_reverse_ofType (p : ReviewObligation → Bool)
    (obligations : List ReviewObligation) :
    (obligations.reverse.find? fun obligation =>
        obligation.obligationType == obligationType && p obligation) =
      (obligationsOfType obligationType obligations).reverse.find? p := by
  rw [obligationsOfType, ← List.filter_reverse, List.find?_filter]
  simp only [Bool.decide_and, Bool.decide_eq_true]

/-- An open obligation that is found is the last of its type. -/
theorem eq_concat_of_lastOpen {obligations : List ReviewObligation}
    {obligation : ReviewObligation} (honly : OnlyLastOpen obligationType obligations)
    (hopen : lastOpenObligation obligationType obligations = some obligation) :
    ∃ earlier, obligationsOfType obligationType obligations = earlier ++ [obligation] := by
  rw [lastOpenObligation, find?_reverse_ofType] at hopen
  rw [OnlyLastOpen] at honly
  rcases List.eq_nil_or_concat' (obligationsOfType obligationType obligations) with
    heq | ⟨earlier, last, heq⟩
  · rw [heq] at hopen
    cases hopen
  · rw [heq, List.dropLast_concat] at honly
    rw [heq, List.reverse_concat, List.find?_cons] at hopen
    cases hlast : isOpenReviewObligation last with
    | true =>
        rw [hlast] at hopen
        cases hopen
        exact ⟨earlier, heq⟩
    | false =>
        rw [hlast] at hopen
        have hmem := List.mem_reverse.1 (List.mem_of_find?_eq_some hopen)
        have hfound := @List.find?_some _ isOpenReviewObligation _ _ hopen
        rw [honly obligation hmem] at hfound
        cases hfound

theorem isOpen_of_lastOpen {obligations : List ReviewObligation}
    {obligation : ReviewObligation}
    (hopen : lastOpenObligation obligationType obligations = some obligation) :
    isOpenReviewObligation obligation = true := by
  rw [lastOpenObligation, find?_reverse_ofType] at hopen
  exact @List.find?_some _ isOpenReviewObligation _ _ hopen

/-- The last obligation of a type is the latest with its iteration and version. -/
theorem findLatestObligation_of_concat {obligations earlier : List ReviewObligation}
    {obligation : ReviewObligation}
    (heq : obligationsOfType obligationType obligations = earlier ++ [obligation]) :
    findLatestObligation obligationType obligations obligation.iteration
      obligation.planVersion = some obligation := by
  rw [findLatestObligation, find?_reverse_ofType, heq, List.reverse_concat, List.find?_cons,
    beq_self_eq_true, beq_self_eq_true]
  rfl

theorem lastObligation_eq_getLast? (obligations : List ReviewObligation) :
    lastObligation obligationType obligations =
      (obligationsOfType obligationType obligations).getLast? := by
  have hfind := @find?_reverse_ofType obligationType (fun _ => true) obligations
  simp only [Bool.and_true] at hfind
  rw [lastObligation, hfind]
  rcases List.eq_nil_or_concat' (obligationsOfType obligationType obligations) with
    heq | ⟨earlier, last, heq⟩
  · rw [heq]
    rfl
  · rw [heq, List.reverse_concat, List.getLast?_concat]
    rfl

end Lists

/-- One obligation as `consumeReviewObligation` leaves it. -/
def consumedObligation (obligationId : String) (now : Timestamp)
    (obligation : ReviewObligation) : ReviewObligation :=
  if obligation.obligationId != obligationId then obligation
  else { obligation with status := .consumed, consumedAt := some now }

/-- Consume an obligation; `markConsumed` sets the consumer of an invocation. -/
def consumeReviewObligation (markConsumed : String → CanonicalText → CanonicalText)
    (assurance : ReviewAssuranceState) (obligation : Option ReviewObligation) (now : Timestamp)
    (acceptedInvocationId : Option String) : ReviewAssuranceState :=
  match obligation with
  | none => assurance
  | some obligation =>
      let invocationId := truthy (acceptedInvocationId.or obligation.invocationId)
      { assurance with
        obligations :=
          assurance.obligations.map (consumedObligation obligation.obligationId now)
        invocations := assurance.invocations.map fun invocation =>
          if some invocation.invocationId == invocationId then
            { invocation with other := markConsumed obligation.obligationId invocation.other }
          else invocation }

section Consumption

variable {obligationType : ReviewObligationType}

@[simp] theorem consumedObligation_type (obligationId : String) (now : Timestamp)
    (obligation : ReviewObligation) :
    (consumedObligation obligationId now obligation).obligationType =
      obligation.obligationType := by
  rw [consumedObligation]
  split_ifs <;> rfl

theorem consumedObligation_self (obligation : ReviewObligation) (now : Timestamp) :
    consumedObligation obligation.obligationId now obligation =
      { obligation with status := .consumed, consumedAt := some now } :=
  if_neg (bne_iff_ne.not.2 (not_not_intro rfl))

/-- A consumed obligation is closed, and the others stay as they are. -/
theorem isOpen_consumedObligation {obligationId : String} {now : Timestamp}
    {obligation : ReviewObligation} (hclosed : isOpenReviewObligation obligation = false) :
    isOpenReviewObligation (consumedObligation obligationId now obligation) = false := by
  rw [consumedObligation]
  split_ifs
  · exact hclosed
  · rfl

theorem obligationsOfType_map {f : ReviewObligation → ReviewObligation}
    (hf : ∀ obligation, (f obligation).obligationType = obligation.obligationType)
    (obligations : List ReviewObligation) :
    obligationsOfType obligationType (obligations.map f) =
      (obligationsOfType obligationType obligations).map f := by
  rw [obligationsOfType, obligationsOfType, List.filter_map]
  congr 2
  funext obligation
  rw [Function.comp_apply, hf]

theorem obligationsOfType_append (obligations : List ReviewObligation)
    (obligation : ReviewObligation) (htype : obligation.obligationType = obligationType) :
    obligationsOfType obligationType (obligations ++ [obligation]) =
      obligationsOfType obligationType obligations ++ [obligation] := by
  simp only [obligationsOfType, List.filter_append, List.filter_cons, htype, beq_self_eq_true,
    if_true, List.filter_nil]

/-- Consuming the last obligation of a type leaves none of the type open, and it is the
last of the type and the last consumed one. -/
theorem consume_last {obligations earlier : List ReviewObligation}
    {obligation : ReviewObligation} (now : Timestamp)
    (honly : OnlyLastOpen obligationType obligations)
    (heq : obligationsOfType obligationType obligations = earlier ++ [obligation]) :
    ∃ closed, obligationsOfType obligationType
        (obligations.map (consumedObligation obligation.obligationId now)) =
          closed ++ [{ obligation with status := .consumed, consumedAt := some now }] ∧
      (∀ other ∈ closed, isOpenReviewObligation other = false) ∧
      lastConsumedObligation obligationType
          (obligations.map (consumedObligation obligation.obligationId now)) =
        some { obligation with status := .consumed, consumedAt := some now } := by
  rw [OnlyLastOpen, heq, List.dropLast_concat] at honly
  have hafter : obligationsOfType obligationType
      (obligations.map (consumedObligation obligation.obligationId now)) =
        earlier.map (consumedObligation obligation.obligationId now) ++
          [{ obligation with status := .consumed, consumedAt := some now }] := by
    rw [obligationsOfType_map (consumedObligation_type _ _), heq, List.map_append,
      List.map_singleton, consumedObligation_self]
  refine ⟨_, hafter, ?_, ?_⟩
  · intro other hmem
    obtain ⟨before, hbefore, rfl⟩ := List.mem_map.1 hmem
    exact isOpen_consumedObligation (honly before hbefore)
  · rw [lastConsumedObligation, find?_reverse_ofType, hafter, List.reverse_concat]
    rfl

end Consumption

end GovernedRuntime.Tools
