/-
Blocks of lines between an opening and a closing line, and the lines outside them.
-/
import Mathlib.Data.List.Basic

namespace GovernedRuntime.Library

variable {Line Fence : Type} (opens : Line → Option Fence) (closes : Line → Fence → Bool)

/-- The lines outside the blocks of a text that closes every block it opens. -/
inductive Closed : List Line → List Line → Prop
  | nil : Closed [] []
  | plain {line : Line} {lines out : List Line} (hplain : opens line = none)
      (hrest : Closed lines out) : Closed (line :: lines) (line :: out)
  | block {opening closing : Line} {fence : Fence} {content lines out : List Line}
      (hopens : opens opening = some fence)
      (hcontent : ∀ line ∈ content, closes line fence = false)
      (hcloses : closes closing fence = true) (hrest : Closed lines out) :
      Closed (opening :: content ++ closing :: lines) out

/-- The lines outside the blocks of a text; the last block may stay open. -/
def Outside (lines out : List Line) : Prop :=
  Closed opens closes lines out ∨
    ∃ front opening content fence, lines = front ++ opening :: content ∧
      Closed opens closes front out ∧ opens opening = some fence ∧
      ∀ line ∈ content, closes line fence = false

/-- A scan for the lines outside blocks, from inside a block or from outside. -/
def unfenced : Option Fence → List Line → List Line
  | _, [] => []
  | none, line :: rest =>
      match opens line with
      | none => line :: unfenced none rest
      | some fence => unfenced (some fence) rest
  | some fence, line :: rest =>
      unfenced (if closes line fence then none else some fence) rest

variable {opens closes} {lines others out otherOut content : List Line} {fence : Fence}

theorem Closed.append (hclosed : Closed opens closes lines out)
    (hother : Closed opens closes others otherOut) :
    Closed opens closes (lines ++ others) (out ++ otherOut) := by
  induction hclosed with
  | nil => exact hother
  | plain hplain _ ih => exact .plain hplain ih
  | block hopens hcontent hcloses _ ih =>
      rw [List.append_assoc]
      exact .block hopens hcontent hcloses ih

theorem Outside.after (hclosed : Closed opens closes others otherOut)
    (houtside : Outside opens closes lines out) :
    Outside opens closes (others ++ lines) (otherOut ++ out) := by
  rcases houtside with hrest | ⟨front, opening, content, fence, rfl, hfront, hopen⟩
  · exact .inl (hclosed.append hrest)
  · exact .inr ⟨others ++ front, opening, content, fence, (List.append_assoc ..).symm,
      hclosed.append hfront, hopen⟩

/-- Every text has lines outside its blocks. -/
theorem exists_outside (lines : List Line) : ∃ out, Outside opens closes lines out := by
  induction hlength : lines.length using Nat.strongRecOn generalizing lines with
  | _ length ih =>
      cases lines with
      | nil => exact ⟨[], .inl .nil⟩
      | cons line rest =>
          subst hlength
          cases hopens : opens line with
          | none =>
              obtain ⟨out, hout⟩ := ih rest.length (Nat.lt_succ_self _) rest rfl
              exact ⟨line :: out, hout.after (.plain hopens .nil)⟩
          | some fence =>
              cases hcloses : rest.find? (closes · fence) with
              | some closing =>
                  obtain ⟨hclosing, content, others, rfl, hcontent⟩ :=
                    List.find?_eq_some_iff_append.1 hcloses
                  obtain ⟨out, hout⟩ := ih others.length (by simp; omega) others rfl
                  have hblock : Closed opens closes (line :: content ++ [closing]) [] :=
                    .block hopens (by simpa using hcontent) hclosing .nil
                  refine ⟨out, ?_⟩
                  simpa using hout.after hblock
              | none =>
                  refine ⟨[], .inr ⟨[], line, rest, fence, rfl, .nil, hopens, ?_⟩⟩
                  simpa using hcloses

theorem unfenced_content (hcontent : ∀ line ∈ content, closes line fence = false)
    (rest : List Line) :
    unfenced opens closes (some fence) (content ++ rest) =
      unfenced opens closes (some fence) rest := by
  induction content with
  | nil => rfl
  | cons line content ih =>
      obtain ⟨hline, hcontent⟩ := List.forall_mem_cons.1 hcontent
      rw [List.cons_append, unfenced, hline, if_neg Bool.false_ne_true]
      exact ih hcontent

theorem unfenced_of_closed (hclosed : Closed opens closes lines out) (rest : List Line) :
    unfenced opens closes none (lines ++ rest) = out ++ unfenced opens closes none rest := by
  induction hclosed with
  | nil => rfl
  | plain hplain _ ih =>
      rw [List.cons_append, unfenced, hplain]
      exact congrArg _ ih
  | block hopens hcontent hcloses _ ih =>
      rw [List.append_assoc, List.cons_append, unfenced, hopens]
      dsimp only
      rw [unfenced_content hcontent, List.cons_append, unfenced, if_pos hcloses]
      exact ih

/-- The scan finds the lines outside blocks, and there are no others. -/
theorem outside_iff : Outside opens closes lines out ↔ unfenced opens closes none lines = out := by
  have hscan : ∀ {out}, Outside opens closes lines out →
      unfenced opens closes none lines = out := by
    rintro out (hclosed | ⟨front, opening, content, fence, rfl, hfront, hopens, hcontent⟩)
    · have hrest := unfenced_of_closed hclosed []
      rwa [List.append_nil, unfenced, List.append_nil] at hrest
    · rw [unfenced_of_closed hfront, unfenced, hopens]
      have hrest := @unfenced_content _ _ opens _ _ _ hcontent []
      rw [List.append_nil, unfenced] at hrest
      dsimp only
      rw [hrest, List.append_nil]
  constructor
  · exact hscan
  · rintro rfl
    obtain ⟨out, hout⟩ := @exists_outside _ _ opens closes lines
    rwa [hscan hout]

theorem unfenced_sublist (fence : Option Fence) (lines : List Line) :
    (unfenced opens closes fence lines).Sublist lines := by
  induction lines generalizing fence with
  | nil => cases fence <;> exact .slnil
  | cons line rest ih =>
      cases fence with
      | some fence =>
          rw [unfenced]
          exact (ih _).cons line
      | none =>
          rw [unfenced]
          split
          · exact (ih none).cons_cons line
          · exact (ih _).cons line

end GovernedRuntime.Library
