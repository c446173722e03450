/-
Regular expressions as a backtracking matcher reads them: alternatives in the
order written, repetitions as long as possible first.  A match is given by what
it leaves of the text.
-/
import Mathlib.Data.List.Basic

namespace GovernedRuntime.Library

/-- A position in a text: whether it is the start, and what follows it. -/
structure Cursor where
  atStart : Bool
  rest : List Char

inductive Pattern where
  | empty
  /-- `^` -/
  | textStart
  /-- `$` -/
  | textEnd
  | char (accepts : Char → Bool)
  /-- A greedy repetition of one character class. -/
  | many (accepts : Char → Bool)
  /-- A negative look-ahead of one character. -/
  | notBefore (accepts : Char → Bool)
  | seq (first second : Pattern)
  | alt (first second : Pattern)

namespace Pattern

/-- Where a repetition may stop, the longest run first. -/
def runEnds (accepts : Char → Bool) : Bool → List Char → List Cursor
  | atStart, [] => [⟨atStart, []⟩]
  | atStart, c :: rest =>
      if accepts c then runEnds accepts false rest ++ [⟨atStart, c :: rest⟩]
      else [⟨atStart, c :: rest⟩]

/-- Where a match that begins at the cursor may end, in the order of preference. -/
def ends : Pattern → Cursor → List Cursor
  | .empty, cursor => [cursor]
  | .textStart, cursor => if cursor.atStart then [cursor] else []
  | .textEnd, cursor => if cursor.rest.isEmpty then [cursor] else []
  | .char accepts, cursor =>
      match cursor.rest with
      | [] => []
      | c :: rest => if accepts c then [⟨false, rest⟩] else []
  | .many accepts, cursor => runEnds accepts cursor.atStart cursor.rest
  | .notBefore accepts, cursor =>
      if cursor.rest.head?.any accepts then [] else [cursor]
  | .seq first second, cursor => (first.ends cursor).flatMap second.ends
  | .alt first second, cursor => first.ends cursor ++ second.ends cursor

/-- `RegExp.prototype.test`: some position of the text begins a match. -/
def test (pattern : Pattern) (text : List Char) : Bool :=
  !(pattern.ends ⟨true, text⟩).isEmpty ||
    text.tails.tail.any fun rest => !(pattern.ends ⟨false, rest⟩).isEmpty

def word (text : String) : Pattern :=
  text.toList.foldr (fun c pattern => .seq (.char (· == c)) pattern) .empty

def optional (pattern : Pattern) : Pattern := .alt pattern .empty

def concat : List Pattern → Pattern
  | [] => .empty
  | [pattern] => pattern
  | pattern :: patterns => .seq pattern (concat patterns)

/-- No alternative never matches. -/
def oneOf : List Pattern → Pattern
  | [] => .char fun _ => false
  | [pattern] => pattern
  | pattern :: patterns => .alt pattern (oneOf patterns)

def words (texts : List String) : Pattern := oneOf (texts.map word)

/-- `.` without the dot-all flag. -/
def anyChar (c : Char) : Bool :=
  !([0x0A, 0x0D, 0x2028, 0x2029].contains c.toNat)

example : (concat [textStart, word "ab", many anyChar, word "c"]).test
    "abbcbc".toList = true := by simp [concat, word, anyChar, test, ends, runEnds]

/-! ### What a match consumes -/

/-- Some class of the pattern takes the character. -/
def admits : Pattern → Char → Bool
  | .empty, _ => false
  | .textStart, _ => false
  | .textEnd, _ => false
  | .char accepts, c => accepts c
  | .many accepts, c => accepts c
  | .notBefore _, _ => false
  | .seq first second, c => first.admits c || second.admits c
  | .alt first second, c => first.admits c || second.admits c

/-- Whether a match depends on what follows it. -/
def looksAhead : Pattern → Bool
  | .textEnd => true
  | .notBefore _ => true
  | .seq first second => first.looksAhead || second.looksAhead
  | .alt first second => first.looksAhead || second.looksAhead
  | _ => false

theorem mem_runEnds {accepts : Char → Bool} {atStart : Bool} {text : List Char}
    {after : Cursor} :
    after ∈ runEnds accepts atStart text ↔
      ∃ used, text = used ++ after.rest ∧ (∀ c ∈ used, accepts c = true) ∧
        after.atStart = (atStart && used.isEmpty) := by
  induction text generalizing atStart with
  | nil =>
      rw [runEnds, List.mem_singleton]
      constructor
      · rintro rfl
        exact ⟨[], rfl, nofun, (Bool.and_true atStart).symm⟩
      · rintro ⟨used, htext, -, hstart⟩
        obtain ⟨rfl, hrest⟩ := List.append_eq_nil_iff.1 htext.symm
        rw [List.isEmpty_nil, Bool.and_true] at hstart
        rw [← hrest, ← hstart]
  | cons c rest ih =>
      have hstop : after = ⟨atStart, c :: rest⟩ ↔
          c :: rest = [] ++ after.rest ∧ after.atStart = (atStart && ([] : List Char).isEmpty) := by
        obtain ⟨start, text⟩ := after
        simp [eq_comm, and_comm]
      rw [runEnds]
      split_ifs with hc
      · rw [List.mem_append, ih, List.mem_singleton, hstop]
        constructor
        · rintro (⟨used, rfl, hused, hstart⟩ | ⟨htext, hstart⟩)
          · exact ⟨c :: used, rfl, List.forall_mem_cons.2 ⟨hc, hused⟩, by simpa using hstart⟩
          · exact ⟨[], htext, nofun, hstart⟩
        · rintro ⟨used, htext, hused, hstart⟩
          cases used with
          | nil => exact .inr ⟨htext, hstart⟩
          | cons head used =>
              obtain ⟨rfl, hrest⟩ := List.cons.inj htext
              exact .inl ⟨used, hrest, fun d hd => hused d (List.mem_cons_of_mem _ hd),
                by simpa using hstart⟩
      · rw [List.mem_singleton, hstop]
        constructor
        · rintro ⟨htext, hstart⟩
          exact ⟨[], htext, nofun, hstart⟩
        · rintro ⟨used, htext, hused, hstart⟩
          cases used with
          | nil => exact ⟨htext, hstart⟩
          | cons head used =>
              obtain ⟨rfl, -⟩ := List.cons.inj htext
              exact absurd (hused _ List.mem_cons_self) hc

theorem mem_ends_char {accepts : Char → Bool} {before after : Cursor} :
    after ∈ (Pattern.char accepts).ends before ↔
      ∃ c, accepts c = true ∧ before.rest = c :: after.rest ∧ after.atStart = false := by
  obtain ⟨start, text⟩ := after
  rw [ends]
  cases before.rest with
  | nil => simp
  | cons c rest =>
      dsimp only
      split_ifs with hc
      · rw [List.mem_singleton, Cursor.mk.injEq]
        constructor
        · rintro ⟨rfl, rfl⟩
          exact ⟨c, hc, rfl, rfl⟩
        · rintro ⟨d, -, htext, rfl⟩
          exact ⟨rfl, (List.cons.inj htext).2.symm⟩
      · constructor
        · exact nofun
        · rintro ⟨d, hd, htext, -⟩
          obtain ⟨rfl, -⟩ := List.cons.inj htext
          exact absurd hd hc

/-- A match leaves a rest of the text, and its classes take what comes before. -/
theorem exists_consumed {pattern : Pattern} {before after : Cursor}
    (hmem : after ∈ pattern.ends before) :
    ∃ used, before.rest = used ++ after.rest ∧ ∀ c ∈ used, pattern.admits c = true := by
  induction pattern generalizing before after with
  | empty =>
      obtain rfl := List.mem_singleton.1 hmem
      exact ⟨[], rfl, nofun⟩
  | textStart =>
      rw [ends] at hmem
      split_ifs at hmem
      · obtain rfl := List.mem_singleton.1 hmem
        exact ⟨[], rfl, nofun⟩
      · cases hmem
  | textEnd =>
      rw [ends] at hmem
      split_ifs at hmem
      · obtain rfl := List.mem_singleton.1 hmem
        exact ⟨[], rfl, nofun⟩
      · cases hmem
  | char accepts =>
      obtain ⟨c, hc, htext, -⟩ := mem_ends_char.1 hmem
      exact ⟨[c], htext, List.forall_mem_singleton.2 hc⟩
  | many accepts =>
      obtain ⟨used, htext, hused, -⟩ := mem_runEnds.1 hmem
      exact ⟨used, htext, hused⟩
  | notBefore accepts =>
      rw [ends] at hmem
      split_ifs at hmem
      · cases hmem
      · obtain rfl := List.mem_singleton.1 hmem
        exact ⟨[], rfl, nofun⟩
  | seq first second ihFirst ihSecond =>
      obtain ⟨middle, hmiddle, hafter⟩ := List.mem_flatMap.1 hmem
      obtain ⟨front, hfront, hfrontUsed⟩ := ihFirst hmiddle
      obtain ⟨back, hback, hbackUsed⟩ := ihSecond hafter
      refine ⟨front ++ back, by rw [hfront, hback, List.append_assoc], fun c hc => ?_⟩
      rw [admits, Bool.or_eq_true]
      exact (List.mem_append.1 hc).imp (hfrontUsed c) (hbackUsed c)
  | alt first second ihFirst ihSecond =>
      rcases List.mem_append.1 hmem with hfirst | hsecond
      · obtain ⟨used, htext, hused⟩ := ihFirst hfirst
        exact ⟨used, htext, fun c hc => Bool.or_eq_true_iff.2 (.inl (hused c hc))⟩
      · obtain ⟨used, htext, hused⟩ := ihSecond hsecond
        exact ⟨used, htext, fun c hc => Bool.or_eq_true_iff.2 (.inr (hused c hc))⟩

/-- A longer text keeps every match that does not look ahead. -/
theorem mem_ends_append {pattern : Pattern} (hblind : pattern.looksAhead = false)
    {before after : Cursor} (hmem : after ∈ pattern.ends before) (more : List Char) :
    (⟨after.atStart, after.rest ++ more⟩ : Cursor) ∈
      pattern.ends ⟨before.atStart, before.rest ++ more⟩ := by
  induction pattern generalizing before after with
  | empty =>
      obtain rfl := List.mem_singleton.1 hmem
      exact List.mem_singleton_self _
  | textStart =>
      rw [ends] at hmem ⊢
      split_ifs at hmem with hstart
      · obtain rfl := List.mem_singleton.1 hmem
        rw [if_pos hstart]
        exact List.mem_singleton_self _
      · cases hmem
  | textEnd => cases hblind
  | char accepts =>
      obtain ⟨c, hc, htext, hstart⟩ := mem_ends_char.1 hmem
      exact mem_ends_char.2 ⟨c, hc, by simp [htext], hstart⟩
  | many accepts =>
      obtain ⟨used, htext, hused, hstart⟩ := mem_runEnds.1 hmem
      exact mem_runEnds.2 ⟨used, by simp [htext], hused, hstart⟩
  | notBefore accepts => cases hblind
  | seq first second ihFirst ihSecond =>
      obtain ⟨hfirst, hsecond⟩ := Bool.or_eq_false_iff.1 hblind
      obtain ⟨middle, hmiddle, hafter⟩ := List.mem_flatMap.1 hmem
      exact List.mem_flatMap.2 ⟨_, ihFirst hfirst hmiddle, ihSecond hsecond hafter⟩
  | alt first second ihFirst ihSecond =>
      obtain ⟨hblind', hblind''⟩ := Bool.or_eq_false_iff.1 hblind
      exact List.mem_append.2 ((List.mem_append.1 hmem).imp (ihFirst hblind') (ihSecond hblind''))

theorem mem_ends_concat_append {front back : List Pattern} (hback : back ≠ [])
    {before after : Cursor} :
    after ∈ (concat (front ++ back)).ends before ↔
      ∃ middle ∈ (concat front).ends before, after ∈ (concat back).ends middle := by
  induction front generalizing before with
  | nil => simp [concat, ends]
  | cons first rest ih =>
      have hcons : ∀ others : List Pattern, others ≠ [] →
          concat (first :: others) = .seq first (concat others) := by
        intro others hothers
        cases others with
        | nil => exact absurd rfl hothers
        | cons second others => rfl
      rw [List.cons_append, hcons _ (List.append_ne_nil_of_right_ne_nil _ hback), ends,
        List.mem_flatMap]
      cases rest with
      | nil => simp [concat]
      | cons second rest =>
          rw [hcons _ (List.cons_ne_nil _ _), ends]
          simp only [ih, List.mem_flatMap]
          constructor
          · rintro ⟨start, hstart, middle, hmiddle, hafter⟩
            exact ⟨middle, ⟨start, hstart, hmiddle⟩, hafter⟩
          · rintro ⟨middle, ⟨start, hstart, hmiddle⟩, hafter⟩
            exact ⟨start, hstart, middle, hmiddle, hafter⟩

/-- A word is matched where the text begins with it. -/
theorem exists_mem_ends_word {text : String} {before : Cursor} :
    (∃ after, after ∈ (word text).ends before) ↔ text.toList <+: before.rest := by
  rw [word]
  induction text.toList generalizing before with
  | nil => simp [ends]
  | cons c rest ih =>
      rw [List.foldr_cons, ends]
      simp only [List.mem_flatMap, mem_ends_char, beq_iff_eq]
      constructor
      · rintro ⟨after, middle, ⟨d, rfl, htext, -⟩, hafter⟩
        rw [htext]
        exact List.cons_prefix_cons.2 ⟨rfl, ih.1 ⟨after, hafter⟩⟩
      · rintro ⟨more, htext⟩
        obtain ⟨after, hafter⟩ := (@ih ⟨false, rest ++ more⟩).2 (List.prefix_append rest more)
        exact ⟨after, ⟨false, rest ++ more⟩, ⟨c, rfl, htext.symm, rfl⟩, hafter⟩

/-- A pattern that begins with `^` is tried at the start only. -/
theorem test_anchored (pattern : Pattern) (text : List Char) :
    (Pattern.seq .textStart pattern).test text = true ↔
      ∃ after, after ∈ pattern.ends ⟨true, text⟩ := by
  simp [test, ends, List.eq_nil_iff_forall_not_mem]

end Pattern

end GovernedRuntime.Library
