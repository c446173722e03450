/-
Texts joined by a separator that none of them has: they can be read back.
-/
import Mathlib.Data.List.Basic

namespace GovernedRuntime.Library

variable {α : Type} {separator item : α} {list piece : List α}

/-- Splitting leaves no separator in a piece. -/
theorem notMem_of_mem_splitOn [DecidableEq α] (hpiece : piece ∈ list.splitOn separator) : separator ∉ piece := by
  induction list generalizing piece with
  | nil =>
      obtain rfl := List.mem_singleton.1 (List.splitOn_nil (a := separator) ▸ hpiece)
      exact List.not_mem_nil
  | cons head tail ih =>
      rw [List.splitOn_cons_eq_if_modifyHead] at hpiece
      split_ifs at hpiece with hhead
      · rcases List.mem_cons.1 hpiece with rfl | htail
        · exact List.not_mem_nil
        · exact ih htail
      · obtain ⟨first, rest, hsplit⟩ :=
          List.exists_cons_of_ne_nil (List.splitOn_ne_nil separator tail)
        rw [hsplit, List.modifyHead_cons] at hpiece
        rcases List.mem_cons.1 hpiece with rfl | hrest
        · have hfirst : separator ∉ first := ih (hsplit ▸ List.mem_cons_self)
          intro hmem
          rcases List.mem_cons.1 hmem with rfl | hmem
          · exact hhead (beq_self_eq_true _)
          · exact hfirst hmem
        · exact ih (hsplit ▸ List.mem_cons_of_mem first hrest)

theorem mem_intercalate_of_mem {pieces : List (List α)} (hpiece : piece ∈ pieces)
    (hitem : item ∈ piece) : item ∈ [separator].intercalate pieces := by
  induction pieces with
  | nil => exact absurd hpiece List.not_mem_nil
  | cons first rest ih =>
      cases rest with
      | nil =>
          obtain rfl := List.mem_singleton.1 hpiece
          rwa [List.intercalate_singleton]
      | cons second rest =>
          rw [List.intercalate_cons_cons]
          rcases List.mem_cons.1 hpiece with rfl | hrest
          · exact List.mem_append_left _ (List.mem_append_left _ hitem)
          · exact List.mem_append_right _ (ih hrest)

theorem mem_of_mem_splitOn [DecidableEq α] (hpiece : piece ∈ list.splitOn separator) (hitem : item ∈ piece) :
    item ∈ list := by
  have hjoined := @mem_intercalate_of_mem _ separator _ _ _ hpiece hitem
  rwa [List.intercalate_splitOn] at hjoined

theorem mem_of_mem_intercalate {pieces : List (List α)}
    (hitem : item ∈ [separator].intercalate pieces) :
    item = separator ∨ ∃ piece ∈ pieces, item ∈ piece := by
  induction pieces with
  | nil => exact absurd hitem List.not_mem_nil
  | cons first rest ih =>
      cases rest with
      | nil =>
          rw [List.intercalate_singleton] at hitem
          exact .inr ⟨first, List.mem_cons_self, hitem⟩
      | cons second rest =>
          rw [List.intercalate_cons_cons, List.append_assoc, List.mem_append,
            List.singleton_append, List.mem_cons] at hitem
          rcases hitem with hfirst | rfl | hrest
          · exact .inr ⟨first, List.mem_cons_self, hfirst⟩
          · exact .inl rfl
          · rcases ih hrest with heq | ⟨piece, hpiece, hmem⟩
            · exact .inl heq
            · exact .inr ⟨piece, List.mem_cons_of_mem _ hpiece, hmem⟩

/-- What comes before the last separator, and what comes after it. -/
theorem append_cons_injective [DecidableEq α] {before after before' after' : List α}
    (hafter : separator ∉ after) (hafter' : separator ∉ after')
    (heq : before ++ separator :: after = before' ++ separator :: after') :
    before = before' ∧ after = after' := by
  have hreverse : after.reverse ++ separator :: before.reverse =
      after'.reverse ++ separator :: before'.reverse := by
    simpa using congrArg List.reverse heq
  have hsplit := congrArg (List.splitOn separator) hreverse
  rw [List.splitOn_append_cons_self_of_not_mem (by simpa using hafter),
    List.splitOn_append_cons_self_of_not_mem (by simpa using hafter')] at hsplit
  have hsame : after = after' := List.reverse_injective (List.cons.inj hsplit).1
  subst hsame
  exact ⟨List.append_cancel_right heq, rfl⟩

/-- What comes before the first separator, and what comes after it. -/
theorem append_cons_injective_left {before after before' after' : List α}
    (hbefore : separator ∉ before) (hbefore' : separator ∉ before')
    (heq : before ++ separator :: after = before' ++ separator :: after') :
    before = before' ∧ after = after' := by
  induction before generalizing before' with
  | nil =>
      cases before' with
      | nil => exact ⟨rfl, (List.cons.inj heq).2⟩
      | cons head rest =>
          exact absurd ((List.cons.inj heq).1 ▸ List.mem_cons_self) hbefore'
  | cons head rest ih =>
      cases before' with
      | nil => exact absurd ((List.cons.inj heq).1 ▸ List.mem_cons_self) hbefore
      | cons head' rest' =>
          obtain ⟨rfl, htail⟩ := List.cons.inj heq
          obtain ⟨rfl, hafter⟩ := ih (fun hmem => hbefore (List.mem_cons_of_mem _ hmem))
            (fun hmem => hbefore' (List.mem_cons_of_mem _ hmem)) htail
          exact ⟨rfl, hafter⟩

end GovernedRuntime.Library
