/-
Scripts of atomic writes under faults.  A write may go through, fail without
effect, or take effect although its writer sees a failure; the script stops at
the first failure.  Whatever happens, a prefix of the script took effect.
-/
import Mathlib.Data.List.Infix

namespace GovernedRuntime.Library

universe u v

variable {S : Type u} {W : Type v}

inductive WriteFault where
  | none
  | before
  | after
deriving DecidableEq, Repr

/-- Perform writes in order.  A script consumes one fault for each write; missing
ones are `none`.  The flag tells whether the writer saw every write succeed. -/
def runWrites (apply : S → W → S) : List W → List WriteFault → S → S × Bool
  | [], _, s => (s, true)
  | w :: ws, faults, s =>
      match faults.headD .none with
      | .none => runWrites apply ws faults.tail (apply s w)
      | .before => (s, false)
      | .after => (apply s w, false)

/-- How many writes of the script took effect. -/
def effectiveWrites : List W → List WriteFault → Nat
  | [], _ => 0
  | _ :: ws, faults =>
      match faults.headD .none with
      | .none => effectiveWrites ws faults.tail + 1
      | .before => 0
      | .after => 1

theorem effectiveWrites_le (ws : List W) (faults : List WriteFault) :
    effectiveWrites ws faults ≤ ws.length := by
  induction ws generalizing faults with
  | nil => simp [effectiveWrites]
  | cons w ws ih =>
      rw [effectiveWrites, List.length_cons]
      have hrest := ih faults.tail
      split <;> omega

/-- The state after a script is the state after the prefix that took effect. -/
theorem runWrites_fst (apply : S → W → S) (ws : List W) (faults : List WriteFault)
    (s : S) :
    (runWrites apply ws faults s).1 =
      (ws.take (effectiveWrites ws faults)).foldl apply s := by
  induction ws generalizing faults s with
  | nil => rfl
  | cons w ws ih =>
      rw [runWrites, effectiveWrites]
      split
      · rw [ih, List.take_succ_cons, List.foldl_cons]
      · rfl
      · simp

/-- A writer that saw no failure performed the whole script. -/
theorem effectiveWrites_of_runWrites (apply : S → W → S) {ws : List W}
    {faults : List WriteFault} {s : S}
    (hdone : (runWrites apply ws faults s).2 = true) :
    effectiveWrites ws faults = ws.length := by
  induction ws generalizing faults s with
  | nil => rfl
  | cons w ws ih =>
      rw [runWrites] at hdone
      rw [effectiveWrites]
      split at hdone
      · rename_i hnone
        simp only [List.length_cons]
        rw [ih hdone]
      · cases hdone
      · cases hdone

@[simp] theorem runWrites_nil_faults (apply : S → W → S) (ws : List W) (s : S) :
    runWrites apply ws [] s = (ws.foldl apply s, true) := by
  induction ws generalizing s with
  | nil => rfl
  | cons w ws ih => simpa [runWrites] using ih (apply s w)

end GovernedRuntime.Library
