/-
Computations that may fail: what a successful one is made of.
-/
import Mathlib.Data.List.Forall2

namespace GovernedRuntime.Library

variable {ε α β : Type}

theorem bind_eq_ok_iff {x : Except ε α} {f : α → Except ε β} {b : β} :
    x >>= f = .ok b ↔ ∃ a, x = .ok a ∧ f a = .ok b := by
  rcases x with error | a
  · exact ⟨fun h => (nomatch h), fun ⟨_, h, _⟩ => (nomatch h)⟩
  · constructor
    · intro h
      exact ⟨a, rfl, h⟩
    · rintro ⟨_, ⟨⟩, h⟩
      exact h

/-- Items that all succeed, each with its result. -/
theorem forall₂_of_mapM {f : α → Except ε β} {items : List α} {results : List β}
    (hmap : items.mapM f = .ok results) :
    List.Forall₂ (fun item result => f item = .ok result) items results := by
  induction items generalizing results with
  | nil =>
      cases hmap
      exact .nil
  | cons item items ih =>
      rw [List.mapM_cons] at hmap
      obtain ⟨result, hitem, hrest⟩ := bind_eq_ok_iff.1 hmap
      obtain ⟨others, hitems, hpure⟩ := bind_eq_ok_iff.1 hrest
      cases hpure
      exact .cons hitem (ih hitems)

end GovernedRuntime.Library
