/-
A loop with a step budget over an arbitrary state: each turn moves on, stops, or
fails.  What a result says about the turns that led to it.
-/

namespace GovernedRuntime.Library

universe u v

/-- What one turn of a loop does. -/
inductive LoopStep (State : Type u) (Failure : Type v) where
  | next (state : State)
  | stop
  | fail (reason : Failure)

variable {State : Type u} {Failure : Type v} {step : State → LoopStep State Failure}

/-- Take turns until one stops or fails, or the budget is used up. -/
def boundedLoop (step : State → LoopStep State Failure) :
    Nat → State → Except Failure State
  | 0, s => .ok s
  | budget + 1, s =>
      match step s with
      | .next t => boundedLoop step budget t
      | .stop => .ok s
      | .fail reason => .error reason

example : boundedLoop (fun n : Nat => if n < 3 then .next (n + 1) else .stop) 4 0 =
    (.ok 3 : Except Unit Nat) := by simp [boundedLoop]

/-- A number of turns that all moved on. -/
inductive Turns (step : State → LoopStep State Failure) : Nat → State → State → Prop
  | none (s : State) : Turns step 0 s s
  | turn {n : Nat} {s t u : State} (hstep : step s = .next t)
      (hrest : Turns step n t u) : Turns step (n + 1) s u

/-- An invariant of one turn is an invariant of all of them. -/
theorem Turns.invariant {Inv : State → Prop}
    (hstep : ∀ s t, Inv s → step s = .next t → Inv t) {n : Nat} {s t : State}
    (hturns : Turns step n s t) (hstart : Inv s) : Inv t := by
  induction hturns with
  | none s => exact hstart
  | turn hnext _ ih => exact ih (hstep _ _ hstart hnext)

/-- A property that every turn reflects holds before the turns when it holds
after them. -/
theorem Turns.reflect {Inv : State → Prop}
    (hstep : ∀ s t, step s = .next t → Inv t → Inv s) {n : Nat} {s t : State}
    (hturns : Turns step n s t) (hend : Inv t) : Inv s := by
  induction hturns with
  | none s => exact hend
  | turn hnext _ ih => exact hstep _ _ hnext (ih hend)

/-- The last of some turns. -/
theorem Turns.last {n : Nat} {s u : State} (hturns : Turns step (n + 1) s u) :
    ∃ t, Turns step n s t ∧ step t = .next u := by
  induction n generalizing s with
  | zero =>
      cases hturns with
      | turn hnext hrest =>
          cases hrest
          exact ⟨s, .none s, hnext⟩
  | succ n ih =>
      cases hturns with
      | turn hnext hrest =>
          obtain ⟨t, hbefore, hlast⟩ := ih hrest
          exact ⟨t, .turn hnext hbefore, hlast⟩

/-- Turns that keep an invariant and lower a rank go on until the rank is zero. -/
theorem Turns.of_rank {Inv : State → Prop} {rank : State → Nat}
    (hprogress : ∀ s, Inv s → 0 < rank s →
      ∃ t, step s = .next t ∧ Inv t ∧ rank t < rank s)
    {s : State} (hstart : Inv s) :
    ∃ n ≤ rank s, ∃ t, Turns step n s t ∧ Inv t ∧ rank t = 0 := by
  induction hrank : rank s using Nat.strongRecOn generalizing s with
  | ind r ih =>
      subst hrank
      by_cases hdone : rank s = 0
      · exact ⟨0, Nat.zero_le _, s, .none s, hstart, hdone⟩
      · obtain ⟨t, hnext, hinv, hlower⟩ :=
          hprogress s hstart (Nat.pos_of_ne_zero hdone)
        obtain ⟨n, hn, u, hturns, hend⟩ := ih (rank t) hlower hinv rfl
        exact ⟨n + 1, Nat.succ_le_of_lt (Nat.lt_of_le_of_lt hn hlower), u,
          .turn hnext hturns, hend⟩

/-- Turns that keep an invariant and lower a rank are at most as many as the rank
fell. -/
theorem Turns.add_rank_le {Inv : State → Prop} {rank : State → Nat}
    (hstep : ∀ s t, Inv s → step s = .next t → Inv t ∧ rank t < rank s)
    {n : Nat} {s t : State} (hturns : Turns step n s t) (hstart : Inv s) :
    n + rank t ≤ rank s := by
  induction hturns with
  | none s => exact Nat.le_of_eq (Nat.zero_add _)
  | turn hnext _ ih =>
      obtain ⟨hinv, hlower⟩ := hstep _ _ hstart hnext
      have hrest := ih hinv
      omega

/-- A result is reached by turns within the budget; with budget left the loop
stopped there. -/
theorem boundedLoop_ok {budget : Nat} {s t : State}
    (hloop : boundedLoop step budget s = .ok t) :
    ∃ n ≤ budget, Turns step n s t ∧ (n < budget → step t = .stop) := by
  induction budget generalizing s with
  | zero =>
      simp only [boundedLoop, Except.ok.injEq] at hloop
      subst hloop
      exact ⟨0, Nat.le_refl 0, .none s, fun h => absurd h (Nat.lt_irrefl 0)⟩
  | succ budget ih =>
      cases hstep : step s with
      | next u =>
          simp only [boundedLoop, hstep] at hloop
          obtain ⟨n, hn, hturns, hstop⟩ := ih hloop
          exact ⟨n + 1, Nat.succ_le_succ hn, .turn hstep hturns,
            fun h => hstop (Nat.lt_of_succ_lt_succ h)⟩
      | stop =>
          simp only [boundedLoop, hstep, Except.ok.injEq] at hloop
          subst hloop
          exact ⟨0, Nat.zero_le _, .none s, fun _ => hstep⟩
      | fail reason => simp [boundedLoop, hstep] at hloop

/-- A failure is the failure of a turn within the budget. -/
theorem boundedLoop_error {budget : Nat} {s : State} {reason : Failure}
    (hloop : boundedLoop step budget s = .error reason) :
    ∃ n < budget, ∃ t, Turns step n s t ∧ step t = .fail reason := by
  induction budget generalizing s with
  | zero => simp [boundedLoop] at hloop
  | succ budget ih =>
      cases hstep : step s with
      | next u =>
          simp only [boundedLoop, hstep] at hloop
          obtain ⟨n, hn, t, hturns, hfail⟩ := ih hloop
          exact ⟨n + 1, Nat.succ_lt_succ hn, t, .turn hstep hturns, hfail⟩
      | stop => simp [boundedLoop, hstep] at hloop
      | fail other =>
          simp only [boundedLoop, hstep, Except.error.injEq] at hloop
          subst hloop
          exact ⟨0, Nat.succ_pos budget, s, .none s, hstep⟩

/-- Turns within the budget are taken, and the loop goes on from where they
end. -/
theorem boundedLoop_of_turns {n : Nat} {s t : State} (hturns : Turns step n s t)
    (budget : Nat) :
    boundedLoop step (n + budget) s = boundedLoop step budget t := by
  induction hturns with
  | none s => rw [Nat.zero_add]
  | @turn n s t u hnext _ ih =>
      rw [Nat.add_right_comm, boundedLoop, hnext]
      exact ih

/-- The loop returns the state it stops at, when the budget suffices. -/
theorem boundedLoop_of_stop {n budget : Nat} {s t : State}
    (hturns : Turns step n s t) (hbudget : n ≤ budget) (hstop : step t = .stop) :
    boundedLoop step budget s = .ok t := by
  obtain ⟨rest, rfl⟩ := Nat.exists_eq_add_of_le hbudget
  rw [boundedLoop_of_turns hturns]
  cases rest with
  | zero => rfl
  | succ rest => rw [boundedLoop, hstop]

/-- The loop reports the failure it meets, when the budget suffices. -/
theorem boundedLoop_of_fail {n budget : Nat} {s t : State} {reason : Failure}
    (hturns : Turns step n s t) (hbudget : n < budget)
    (hfail : step t = .fail reason) :
    boundedLoop step budget s = .error reason := by
  obtain ⟨rest, rfl⟩ := Nat.exists_eq_add_of_lt hbudget
  rw [Nat.add_assoc, boundedLoop_of_turns hturns, boundedLoop, hfail]

end GovernedRuntime.Library
