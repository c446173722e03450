/-
Wildcard matching by a rolling table.  A pattern is a list of tokens, each of which
spells a run of items: a star any run, another token one item it accepts.  The table
decides whether the runs of some choice, put together, are the text.
-/
import Mathlib.Data.List.Forall2
import Mathlib.Data.List.Infix

namespace GovernedRuntime.Library

variable {α τ : Type}

/-- The entries after the first of the next row of the matching table. -/
def fillRow (star : Bool) (accepts : α → Bool) :
    Bool → Bool → List Bool → List α → List Bool
  | before, left, above :: row, item :: items =>
      let entry := if star then above || left else before && accepts item
      entry :: fillRow star accepts above entry row items
  | _, _, _, _ => []

/-- The loop both wildcard matchers run: after some tokens, entry `i` of the row
tells whether they match the first `i` items. -/
def wildcardMatches (isStar : τ → Bool) (accepts : τ → α → Bool)
    (tokens : List τ) (items : List α) : Bool :=
  let row := tokens.foldl
    (fun previous token =>
      match previous with
      | [] => []
      | first :: row =>
          let entry := isStar token && first
          entry :: fillRow (isStar token) (accepts token) first entry row items)
    (true :: List.replicate items.length false)
  row.getLastD false

/-! ### What a pattern produces -/

/-- One run for each token, which together are the text. -/
def Produces (spells : τ → List α → Prop) (tokens : List τ) (items : List α) : Prop :=
  ∃ runs, List.Forall₂ spells tokens runs ∧ runs.flatten = items

section Produces

variable {spells : τ → List α → Prop} {tokens : List τ} {items : List α}

@[simp] theorem produces_nil : Produces spells [] items ↔ items = [] := by
  constructor
  · rintro ⟨runs, hruns, rfl⟩
    rw [List.forall₂_nil_left_iff.1 hruns, List.flatten_nil]
  · rintro rfl
    exact ⟨[], List.Forall₂.nil, rfl⟩

theorem produces_cons {token : τ} :
    Produces spells (token :: tokens) items ↔
      ∃ run rest, spells token run ∧ Produces spells tokens rest ∧ run ++ rest = items := by
  constructor
  · rintro ⟨runs, hruns, rfl⟩
    obtain ⟨run, rest, hrun, hrest, rfl⟩ := List.forall₂_cons_left_iff.1 hruns
    exact ⟨run, rest.flatten, hrun, ⟨rest, hrest, rfl⟩, rfl⟩
  · rintro ⟨run, rest, hrun, ⟨runs, hruns, rfl⟩, rfl⟩
    exact ⟨run :: runs, hruns.cons hrun, rfl⟩

theorem produces_append {more : List τ} :
    Produces spells (tokens ++ more) items ↔
      ∃ before after, Produces spells tokens before ∧ Produces spells more after ∧
        before ++ after = items := by
  induction tokens generalizing items with
  | nil => simp
  | cons token tokens ih =>
      rw [List.cons_append, produces_cons]
      constructor
      · rintro ⟨run, rest, hrun, hrest, rfl⟩
        obtain ⟨before, after, hbefore, hafter, rfl⟩ := ih.1 hrest
        refine ⟨run ++ before, after, produces_cons.2 ⟨run, before, hrun, hbefore, rfl⟩,
          hafter, ?_⟩
        rw [List.append_assoc]
      · rintro ⟨before, after, hbefore, hafter, rfl⟩
        obtain ⟨run, rest, hrun, hrest, rfl⟩ := produces_cons.1 hbefore
        refine ⟨run, rest ++ after, hrun, ih.2 ⟨rest, after, hrest, hafter, rfl⟩, ?_⟩
        rw [List.append_assoc]

theorem produces_singleton {token : τ} :
    Produces spells [token] items ↔ spells token items := by
  simp [produces_cons]

theorem Produces.mono {spells' : τ → List α → Prop}
    (hspells : ∀ token ∈ tokens, ∀ run, spells token run → spells' token run)
    (hproduces : Produces spells tokens items) : Produces spells' tokens items := by
  induction tokens generalizing items with
  | nil => exact produces_nil.2 (produces_nil.1 hproduces)
  | cons token tokens ih =>
      obtain ⟨run, rest, hrun, hrest, rfl⟩ := produces_cons.1 hproduces
      exact produces_cons.2 ⟨run, rest, hspells token List.mem_cons_self run hrun,
        ih (fun other hmem => hspells other (List.mem_cons_of_mem token hmem)) hrest, rfl⟩

/-- Items written as runs of smaller items are produced by tokens that spell them so. -/
theorem Produces.flatMap {β : Type} {spells' : τ → List β → Prop} {write : α → List β}
    (hspells : ∀ token ∈ tokens, ∀ run, spells token run → spells' token (run.flatMap write))
    (hproduces : Produces spells tokens items) :
    Produces spells' tokens (items.flatMap write) := by
  induction tokens generalizing items with
  | nil =>
      rw [produces_nil.1 hproduces]
      exact produces_nil.2 rfl
  | cons token tokens ih =>
      obtain ⟨run, rest, hrun, hrest, rfl⟩ := produces_cons.1 hproduces
      rw [List.flatMap_append]
      exact produces_cons.2 ⟨_, _, hspells token List.mem_cons_self run hrun,
        ih (fun other hmem => hspells other (List.mem_cons_of_mem token hmem)) hrest, rfl⟩

/-- A condition on the tokens alone can be asked for first. -/
theorem produces_and_left {good : τ → Prop} :
    Produces (fun token run => good token ∧ spells token run) tokens items ↔
      (∀ token ∈ tokens, good token) ∧ Produces spells tokens items := by
  constructor
  · intro hproduces
    refine ⟨?_, hproduces.mono fun _ _ _ h => h.2⟩
    obtain ⟨runs, hruns, -⟩ := hproduces
    exact fun token hmem => ((List.forall₂_and_left _ _).1 hruns).1 token hmem
  · rintro ⟨hgood, hproduces⟩
    exact hproduces.mono fun token hmem _ hspells => ⟨hgood token hmem, hspells⟩

/-- Tokens that spell one item each produce item by item. -/
theorem produces_iff_forall₂ {spellsItem : τ → α → Prop}
    (hspells : ∀ token ∈ tokens, ∀ run,
      spells token run ↔ ∃ item, run = [item] ∧ spellsItem token item) :
    Produces spells tokens items ↔ List.Forall₂ spellsItem tokens items := by
  induction tokens generalizing items with
  | nil => rw [produces_nil, List.forall₂_nil_left_iff]
  | cons token tokens ih =>
      rw [List.forall_mem_cons] at hspells
      rw [produces_cons, List.forall₂_cons_left_iff]
      constructor
      · rintro ⟨run, rest, hrun, hrest, rfl⟩
        obtain ⟨item, rfl, hitem⟩ := (hspells.1 run).1 hrun
        exact ⟨item, rest, hitem, (ih hspells.2).1 hrest, rfl⟩
      · rintro ⟨item, rest, hitem, hrest, rfl⟩
        exact ⟨[item], rest, (hspells.1 _).2 ⟨item, rfl, hitem⟩, (ih hspells.2).2 hrest, rfl⟩

end Produces

/-! ### The table decides it -/

/-- What one token of a wildcard pattern spells. -/
def TokenSpells (isStar : τ → Bool) (accepts : τ → α → Bool) (token : τ)
    (run : List α) : Prop :=
  isStar token = true ∨ ∃ item, run = [item] ∧ accepts token item = true

/-- A row of the table tells of each prefix whether the tokens so far produce it. -/
def RowDecides (prefixes : List (List α)) (row : List Bool) (produced : List α → Prop) :
    Prop :=
  List.Forall₂ (fun entry items => entry = true ↔ produced items) row prefixes

/-- The recurrence of the table: what the tokens so far and one more produce. -/
structure RowStep (star : Bool) (accepts : α → Bool)
    (produced produced' : List α → Prop) : Prop where
  nil : produced' [] ↔ star = true ∧ produced []
  snoc : ∀ items item, produced' (items ++ [item]) ↔
    if star then produced (items ++ [item]) ∨ produced' items
    else produced items ∧ accepts item = true

section Table

variable {isStar : τ → Bool} {accepts : τ → α → Bool} {token : τ} {items : List α}

theorem tokenSpells_nil : TokenSpells isStar accepts token [] ↔ isStar token = true := by
  simp [TokenSpells]

theorem rowStep_snoc (tokens : List τ) :
    RowStep (isStar token) (accepts token) (Produces (TokenSpells isStar accepts) tokens)
      (Produces (TokenSpells isStar accepts) (tokens ++ [token])) := by
  have hsnoc : ∀ items, Produces (TokenSpells isStar accepts) (tokens ++ [token]) items ↔
      ∃ before after, Produces (TokenSpells isStar accepts) tokens before ∧
        TokenSpells isStar accepts token after ∧ before ++ after = items := fun items => by
    simp only [produces_append, produces_singleton]
  constructor
  · simp only [hsnoc, List.append_eq_nil_iff]
    constructor
    · rintro ⟨before, after, hbefore, hafter, rfl, rfl⟩
      exact ⟨tokenSpells_nil.1 hafter, hbefore⟩
    · rintro ⟨hstar, hproduces⟩
      exact ⟨[], [], hproduces, tokenSpells_nil.2 hstar, rfl, rfl⟩
  · intro items item
    by_cases hstar : isStar token = true
    · rw [if_pos hstar, hsnoc, hsnoc]
      constructor
      · rintro ⟨before, after, hbefore, -, heq⟩
        rcases List.eq_nil_or_concat' after with rfl | ⟨run, last, rfl⟩
        · rw [List.append_nil] at heq
          exact .inl (heq ▸ hbefore)
        · rw [← List.append_assoc] at heq
          exact .inr ⟨before, run, hbefore, .inl hstar, (List.append_inj' heq rfl).1⟩
      · rintro (hproduces | ⟨before, after, hbefore, -, rfl⟩)
        · exact ⟨_, [], hproduces, .inl hstar, List.append_nil _⟩
        · exact ⟨before, after ++ [item], hbefore, .inl hstar,
            (List.append_assoc before after [item]).symm⟩
    · rw [if_neg hstar, hsnoc]
      constructor
      · rintro ⟨before, after, hbefore, hspells, heq⟩
        obtain ⟨only, rfl, haccepts⟩ := hspells.resolve_left hstar
        obtain ⟨rfl, hlast⟩ := List.append_inj' heq rfl
        exact ⟨hbefore, List.singleton_inj.1 hlast ▸ haccepts⟩
      · rintro ⟨hproduces, haccepts⟩
        exact ⟨items, [item], hproduces, .inr ⟨item, rfl, haccepts⟩, rfl⟩

theorem inits_eq_nil_cons (items : List α) : items.inits = [] :: items.inits.tail := by
  cases items with
  | nil => rfl
  | cons item items => rw [List.inits_cons, List.tail_cons]

/-- After the first item the recurrence goes on for what follows it. -/
theorem fillRow_decides {star : Bool} {accepts : α → Bool}
    {produced produced' : List α → Prop} {before left : Bool} {row : List Bool}
    (hsnoc : ∀ items item, produced' (items ++ [item]) ↔
      if star then produced (items ++ [item]) ∨ produced' items
      else produced items ∧ accepts item = true)
    (hbefore : before = true ↔ produced []) (hleft : left = true ↔ produced' [])
    (hrow : RowDecides items.inits.tail row produced) :
    RowDecides items.inits.tail (fillRow star accepts before left row items) produced' := by
  induction items generalizing produced produced' before left row with
  | nil =>
      have hnil : row = [] := List.forall₂_nil_right_iff.1 hrow
      subst hnil
      exact List.Forall₂.nil
  | cons item items ih =>
      rw [List.inits_cons, List.tail_cons, RowDecides, List.forall₂_map_right_iff,
        inits_eq_nil_cons] at hrow ⊢
      obtain ⟨above, rest, habove, hrest, rfl⟩ := List.forall₂_cons_right_iff.1 hrow
      have hentry : (if star then above || left else before && accepts item) = true ↔
          produced' [item] := by
        have hone := hsnoc [] item
        rw [List.nil_append] at hone
        rw [hone]
        cases star with
        | true => simp [habove, hleft]
        | false => simp [hbefore]
      exact List.Forall₂.cons hentry
        (ih (fun others last => hsnoc (item :: others) last) habove hentry hrest)

theorem rowDecides_next {star : Bool} {accepts : α → Bool}
    {produced produced' : List α → Prop} {first : Bool} {row : List Bool}
    (hstep : RowStep star accepts produced produced')
    (hrow : RowDecides items.inits (first :: row) produced) :
    RowDecides items.inits
      ((star && first) :: fillRow star accepts first (star && first) row items) produced' := by
  rw [inits_eq_nil_cons, RowDecides, List.forall₂_cons] at hrow
  have hfirst : (star && first) = true ↔ produced' [] := by
    rw [hstep.nil, ← hrow.1, Bool.and_eq_true]
  rw [inits_eq_nil_cons]
  exact List.Forall₂.cons hfirst (fillRow_decides hstep.snoc hrow.1 hfirst hrow.2)

/-- Before the first token the row says that only the empty text is produced. -/
theorem rowDecides_start (items : List α) :
    RowDecides items.inits (true :: List.replicate items.length false)
      (Produces (TokenSpells isStar accepts) []) := by
  rw [inits_eq_nil_cons]
  refine List.Forall₂.cons (by simp) ?_
  have hnonempty : ∀ pre ∈ items.inits.tail, pre ≠ [] := by
    cases items with
    | nil => simp
    | cons item items => simp
  have hlength : items.inits.tail.length = items.length := by simp
  generalize items.inits.tail = prefixes at hnonempty hlength
  rw [← hlength]
  clear hlength
  induction prefixes with
  | nil => exact List.Forall₂.nil
  | cons pre prefixes ih =>
      rw [List.forall_mem_cons] at hnonempty
      exact List.Forall₂.cons (by simp [hnonempty.1]) (ih hnonempty.2)

theorem getLastD_of_rowDecides {row : List Bool} {produced : List α → Prop}
    (hrow : RowDecides items.inits row produced) :
    row.getLastD false = true ↔ produced items := by
  induction items generalizing row produced with
  | nil =>
      obtain ⟨entry, rest, hentry, hrest, rfl⟩ := List.forall₂_cons_right_iff.1 hrow
      rw [List.forall₂_nil_right_iff.1 hrest]
      exact hentry
  | cons item items ih =>
      rw [List.inits_cons] at hrow
      obtain ⟨entry, rest, -, hrest, rfl⟩ := List.forall₂_cons_right_iff.1 hrow
      rw [List.forall₂_map_right_iff] at hrest
      have hlast := @ih _ (fun others => produced (item :: others)) hrest
      rw [inits_eq_nil_cons] at hrest
      obtain ⟨second, rest, -, -, rfl⟩ := List.forall₂_cons_right_iff.1 hrest
      exact hlast

/-- The loop computes whether the tokens produce the items. -/
theorem wildcardMatches_iff {tokens : List τ} :
    wildcardMatches isStar accepts tokens items = true ↔
      Produces (TokenSpells isStar accepts) tokens items := by
  have hloop : ∀ (done rest : List τ) (row : List Bool),
      RowDecides items.inits row (Produces (TokenSpells isStar accepts) done) →
      RowDecides items.inits
        (rest.foldl
          (fun previous token =>
            match previous with
            | [] => []
            | first :: row =>
                let entry := isStar token && first
                entry :: fillRow (isStar token) (accepts token) first entry row items) row)
        (Produces (TokenSpells isStar accepts) (done ++ rest)) := by
    intro done rest
    induction rest generalizing done with
    | nil => intro row hrow; rwa [List.append_nil]
    | cons token rest ih =>
        intro row hrow
        cases row with
        | nil =>
            rw [inits_eq_nil_cons] at hrow
            cases hrow
        | cons first row =>
            have hnext := ih (done ++ [token]) _ (rowDecides_next (rowStep_snoc done) hrow)
            rwa [List.append_assoc] at hnext
  exact getLastD_of_rowDecides (hloop [] tokens _ (rowDecides_start items))

end Table

end GovernedRuntime.Library
