/-
Runs of a system whose next step somebody else picks: a partial step function over
states and actions, the states a schedule reaches, and their invariants.
-/
import Mathlib.Logic.Basic

namespace GovernedRuntime.Library

universe u v

variable {State : Type u} {Action : Type v} {step : State → Action → Option State}

/-- The state after a whole schedule, if every step of it can be taken. -/
def runSchedule (step : State → Action → Option State) : State → List Action → Option State
  | s, [] => some s
  | s, action :: rest => (step s action).bind (runSchedule step · rest)

theorem runSchedule_append (first second : List Action) (s : State) :
    runSchedule step s (first ++ second) =
      (runSchedule step s first).bind (runSchedule step · second) := by
  induction first generalizing s with
  | nil => rfl
  | cons action rest ih =>
      rw [List.cons_append, runSchedule, runSchedule, Option.bind_assoc]
      exact congrArg _ (funext ih)

/-- The states reached by steps that are all allowed where they are taken. -/
inductive Reaches (step : State → Action → Option State)
    (allowed : State → Action → Prop) : State → State → Prop where
  | refl (s : State) : Reaches step allowed s s
  | tail {s t u : State} {action : Action} (hreaches : Reaches step allowed s t)
      (hallowed : allowed t action) (hstep : step t action = some u) :
      Reaches step allowed s u

/-- What every allowed step keeps holds in every state reached. -/
theorem Reaches.invariant {allowed : State → Action → Prop} {Inv : State → Prop}
    (hkeeps : ∀ {s t action}, Inv s → allowed s action → step s action = some t → Inv t)
    {s t : State} (hreaches : Reaches step allowed s t) (hinit : Inv s) : Inv t := by
  induction hreaches with
  | refl => exact hinit
  | tail _ hallowed hstep ih => exact hkeeps ih hallowed hstep

theorem Reaches.trans {allowed : State → Action → Prop} {s t u : State}
    (hfirst : Reaches step allowed s t) (hsecond : Reaches step allowed t u) :
    Reaches step allowed s u := by
  induction hsecond with
  | refl => exact hfirst
  | tail _ hallowed hstep ih => exact ih.tail hallowed hstep

theorem Reaches.mono {allowed weaker : State → Action → Prop}
    (hweaker : ∀ s action, allowed s action → weaker s action) {s t : State}
    (hreaches : Reaches step allowed s t) : Reaches step weaker s t := by
  induction hreaches with
  | refl => exact .refl _
  | tail _ hallowed hstep ih => exact ih.tail (hweaker _ _ hallowed) hstep

/-- A schedule whose steps all pass a test reaches its last state by allowed steps. -/
theorem reaches_of_runSchedule {allowed : State → Action → Prop}
    {test : State → Action → Bool} (htest : ∀ s action, test s action = true → allowed s action)
    {actions : List Action} {s t : State}
    (hrun : runSchedule (fun s action => if test s action then step s action else none) s
      actions = some t) : Reaches step allowed s t := by
  induction actions generalizing s with
  | nil =>
      cases hrun
      exact .refl _
  | cons action rest ih =>
      obtain ⟨next, hstep, hrest⟩ := Option.bind_eq_some_iff.1 hrun
      obtain ⟨hpassed, htaken⟩ := Option.ite_none_right_eq_some.1 hstep
      exact (Reaches.tail (.refl s) (htest _ _ hpassed) htaken).trans (ih hrest)

theorem reaches_of_schedule {actions : List Action} {s t : State}
    (hrun : runSchedule step s actions = some t) :
    Reaches step (fun _ _ => True) s t := by
  have hpasses : runSchedule (fun s action => if true then step s action else none) s
      actions = some t := hrun
  exact reaches_of_runSchedule (fun _ _ _ => trivial) hpasses

end GovernedRuntime.Library
