/-
Graphs in which every vertex has at most one successor: a walk from each vertex
that stops at the first one it has seen before, and what it finds.
-/
import Mathlib.Data.List.Nodup
import Mathlib.Data.List.Perm.Subperm
import Mathlib.Logic.Relation

namespace GovernedRuntime.Library

open Relation

variable {α : Type}

/-- One step along the only edge of a vertex. -/
def Follows (next : α → Option α) (a b : α) : Prop := next a = some b

/-- No vertex comes back to itself. -/
def AcyclicSuccessor (next : α → Option α) : Prop := ∀ v, ¬TransGen (Follows next) v v

variable {next : α → Option α}

/-- What lies behind a vertex of a cycle is on a cycle too. -/
theorem transGen_self_of_reaches {v w : α} (hcycle : TransGen (Follows next) v v)
    (hreach : ReflTransGen (Follows next) v w) : TransGen (Follows next) w w := by
  induction hreach with
  | refl => exact hcycle
  | tail _ hstep ih =>
      obtain ⟨middle, hfirst, hrest⟩ := TransGen.head'_iff.1 ih
      obtain rfl := Option.some.inj (hfirst.symm.trans hstep)
      exact TransGen.tail'_iff.2 ⟨_, hrest, hstep⟩

variable [DecidableEq α]

/-- The first vertex of a walk that was seen before. -/
def firstRepeat (next : α → Option α) : Nat → List α → Option α → Option α
  | _, _, none => none
  | 0, _, some v => some v
  | fuel + 1, seen, some v =>
      if v ∈ seen then some v else firstRepeat next fuel (v :: seen) (next v)

/-- A repeated vertex on the walk from some start. -/
def findRepeat (next : α → Option α) (starts : List α) : Option α :=
  starts.findSome? fun start => firstRepeat next starts.length [start] (next start)

/-- A walk without a repetition comes to an end. -/
theorem exists_end_of_firstRepeat_eq_none {fuel : Nat} {seen : List α} {u : α}
    (hnone : firstRepeat next fuel seen (next u) = none) :
    ∃ last, ReflTransGen (Follows next) u last ∧ next last = none := by
  induction fuel generalizing seen u with
  | zero =>
      cases hnext : next u with
      | none => exact ⟨u, .refl, hnext⟩
      | some v =>
          rw [hnext] at hnone
          cases hnone
  | succ fuel ih =>
      cases hnext : next u with
      | none => exact ⟨u, .refl, hnext⟩
      | some v =>
          rw [hnext, firstRepeat] at hnone
          split_ifs at hnone
          obtain ⟨last, hreach, hlast⟩ := ih hnone
          exact ⟨last, hreach.head hnext, hlast⟩

/-- With no cycle a walk repeats nothing, and it has at most as many vertices as
there are vertices with a successor. -/
theorem firstRepeat_eq_none {starts : List α} (hacyclic : AcyclicSuccessor next)
    (hstarts : ∀ v, next v ≠ none → v ∈ starts) {fuel : Nat} {seen : List α} {u : α}
    (hfuel : starts.length < fuel + seen.length) (hnodup : seen.Nodup)
    (hseen : ∀ v ∈ seen, v ∈ starts) (hbehind : ∀ v ∈ seen, ReflTransGen (Follows next) v u) :
    firstRepeat next fuel seen (next u) = none := by
  induction fuel generalizing seen u with
  | zero =>
      have hlength := (List.subperm_of_subset hnodup hseen).length_le
      omega
  | succ fuel ih =>
      cases hnext : next u with
      | none => rfl
      | some v =>
          have hreach : ∀ w ∈ seen, TransGen (Follows next) w v :=
            fun w hw => TransGen.tail'_iff.2 ⟨u, hbehind w hw, hnext⟩
          have hfresh : v ∉ seen := fun hmem => hacyclic v (hreach v hmem)
          rw [firstRepeat, if_neg hfresh]
          cases hafter : next v with
          | none => cases fuel <;> rfl
          | some w =>
              rw [← hafter]
              apply ih
              · rw [List.length_cons]
                omega
              · exact List.nodup_cons.2 ⟨hfresh, hnodup⟩
              · refine List.forall_mem_cons.2 ⟨hstarts v ?_, hseen⟩
                rw [hafter]
                exact Option.some_ne_none w
              · exact List.forall_mem_cons.2 ⟨.refl, fun x hx => (hreach x hx).to_reflTransGen⟩

/-- No walk repeats a vertex exactly when there is no cycle. -/
theorem findRepeat_eq_none_iff {starts : List α} (hstarts : ∀ v, next v ≠ none → v ∈ starts) :
    findRepeat next starts = none ↔ AcyclicSuccessor next := by
  rw [findRepeat, List.findSome?_eq_none_iff]
  constructor
  · intro hnone v hcycle
    have hsome : ∀ w, TransGen (Follows next) w w → next w ≠ none := by
      intro w hw hnext
      obtain ⟨_, hfirst, _⟩ := TransGen.head'_iff.1 hw
      cases hnext.symm.trans hfirst
    obtain ⟨last, hreach, hlast⟩ :=
      exists_end_of_firstRepeat_eq_none (hnone v (hstarts v (hsome v hcycle)))
    exact hsome last (transGen_self_of_reaches hcycle hreach) hlast
  · intro hacyclic start hstart
    apply firstRepeat_eq_none hacyclic hstarts
    · exact Nat.lt_succ_self _
    · exact List.nodup_singleton start
    · exact List.forall_mem_singleton.2 hstart
    · exact List.forall_mem_singleton.2 .refl

end GovernedRuntime.Library
