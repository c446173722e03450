/-
Words searched for in a text: at its start, at the first place they stand, and in the
pieces a text is put together from.
-/
import Mathlib.Data.List.Infix

namespace GovernedRuntime.Library

variable {α : Type}

/-! ### Pieces that end in a mark -/

section Pieces

variable {mark : α} {word piece rest : List α}

/-- A word without the mark ends before the first mark of the piece. -/
theorem starts_piece (hword : mark ∉ word) (hmark : mark ∈ piece)
    (hstart : word <+: piece ++ rest) : ∃ c more, piece = word ++ c :: more := by
  obtain ⟨after, hafter⟩ := hstart
  obtain ⟨more, hmore, -⟩ | ⟨more, hmore, -⟩ := List.append_eq_append_iff.1 hafter
  · cases more with
    | nil => exact absurd (hmore ▸ hmark) (by simpa using hword)
    | cons c more => exact ⟨c, more, hmore⟩
  · exact absurd (hmore ▸ List.mem_append_left _ hmark) hword

/-- A word whose only mark is its end is part of a piece that has the mark. -/
theorem starts_piece_concat (hword : mark ∉ word) (hmark : mark ∈ piece)
    (hstart : word ++ [mark] <+: piece ++ rest) : word ++ [mark] <+: piece := by
  obtain ⟨c, more, rfl⟩ := starts_piece hword hmark ((List.prefix_append _ _).trans hstart)
  obtain ⟨after, hafter⟩ := hstart
  have hrest : mark :: after = c :: (more ++ rest) := by
    apply @List.append_cancel_left _ word
    simpa using hafter
  obtain rfl := (List.cons.inj hrest).1
  exact ⟨more, by simp⟩

end Pieces

/-! ### Words -/

variable [DecidableEq α]

/-- What follows the word at the start of the text. -/
def afterWord? (word text : List α) : Option (List α) :=
  if word <+: text then some (text.drop word.length) else none

/-- The text around the first place the word stands at. -/
def splitFirst (word : List α) : List α → Option (List α × List α)
  | [] => (afterWord? word []).map fun after => ([], after)
  | c :: rest =>
      match afterWord? word (c :: rest) with
      | some after => some ([], after)
      | none => (splitFirst word rest).map fun parts => (c :: parts.1, parts.2)

section AfterWord

variable {word text after : List α}

theorem afterWord?_eq_some_iff : afterWord? word text = some after ↔ text = word ++ after := by
  rw [afterWord?]
  constructor
  · intro hsome
    split_ifs at hsome with hstart
    obtain ⟨rest, rfl⟩ := hstart
    simpa using hsome
  · rintro rfl
    rw [if_pos (List.prefix_append _ _), List.drop_left]

@[simp]
theorem afterWord?_append (word after : List α) : afterWord? word (word ++ after) = some after :=
  afterWord?_eq_some_iff.2 rfl

theorem afterWord?_cons_cons (c : α) (word text : List α) :
    afterWord? (c :: word) (c :: text) = afterWord? word text := by
  simp [afterWord?, List.prefix_cons_iff]

theorem afterWord?_eq_none_iff : afterWord? word text = none ↔ ¬ word <+: text := by
  rw [afterWord?]
  split_ifs with hstart <;> simp [hstart]

end AfterWord

/-! ### The first place -/

section SplitFirst

variable {word front after text : List α}

/-- The word stands nowhere in the front part, not even at its end. -/
theorem splitFirst_append
    (hfirst : ∀ before rest, front = before ++ rest → rest ≠ [] →
      ¬ word <+: rest ++ (word ++ after)) :
    splitFirst word (front ++ (word ++ after)) = some (front, after) := by
  induction front with
  | nil =>
      cases hword : word ++ after with
      | nil =>
          obtain ⟨rfl, rfl⟩ := List.append_eq_nil_iff.1 hword
          rfl
      | cons c rest =>
          rw [List.nil_append, splitFirst, ← hword, afterWord?_append]
  | cons c front ih =>
      have hhere : afterWord? word (c :: (front ++ (word ++ after))) = none :=
        afterWord?_eq_none_iff.2 (hfirst [] (c :: front) rfl (List.cons_ne_nil _ _))
      rw [List.cons_append, splitFirst, hhere]
      dsimp only
      rw [ih fun before rest heq => hfirst (c :: before) rest (by rw [heq, List.cons_append])]
      rfl

theorem splitFirst_singleton {mark : α} (hclean : mark ∉ front) :
    splitFirst [mark] (front ++ mark :: after) = some (front, after) := by
  apply @splitFirst_append _ _ [mark]
  intro before rest heq hne hstart
  obtain ⟨c, rest, rfl⟩ := List.exists_cons_of_ne_nil hne
  obtain ⟨more, hmore⟩ := hstart
  obtain rfl : mark = c := by simpa using (List.cons.inj hmore).1
  exact hclean (heq ▸ by simp)

/-- The text before a single mark has none. -/
theorem splitFirst_eq_takeWhile {mark : α} (hmem : mark ∈ text) :
    ∃ after, splitFirst [mark] text = some (text.takeWhile (· != mark), after) := by
  obtain ⟨front, after, rfl, hfront⟩ := List.eq_append_cons_of_mem hmem
  refine ⟨after, ?_⟩
  have hgoes : ∀ item ∈ front, (item != mark) = true := fun item hitem =>
    bne_iff_ne.2 fun heq => hfront (heq ▸ hitem)
  rw [splitFirst_singleton hfront, List.takeWhile_append_of_pos hgoes, List.takeWhile_cons,
    bne_self_eq_false]
  simp

end SplitFirst

end GovernedRuntime.Library
