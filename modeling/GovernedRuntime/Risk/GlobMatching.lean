/-
What repository globs match (`src/shared/repo-path.ts`): the tables of both matchers
against what the segments of a pattern produce.
-/
import GovernedRuntime.Library.Lines
import GovernedRuntime.Risk.PathClassifier

namespace GovernedRuntime.Risk

open GovernedRuntime.Library

/-! ### What patterns produce -/

/-- A star spells any run of characters, another character itself. -/
def SegmentSpells (token : Char) (run : List Char) : Prop :=
  token = '*' ∨ run = [token]

def SegmentProduces (pattern segment : String) : Prop :=
  Produces SegmentSpells pattern.toList segment.toList

/-- `**` spells any run of segments, another part one segment it produces. -/
def PartSpells (part : String) (run : List String) : Prop :=
  part = "**" ∨ ∃ segment, run = [segment] ∧ SegmentProduces part segment

def GlobProduces (pattern value : String) : Prop :=
  Produces PartSpells (pathSegments pattern) (pathSegments value)

/-- Every character is one code unit. -/
def BasicPlane (text : String) : Prop := ∀ c ∈ text.toList, c.toNat < 0x10000

instance (text : String) : Decidable (BasicPlane text) :=
  @List.decidableBAll Char (fun c => c.toNat < 0x10000) (fun _ => Nat.decLt _ _) text.toList

theorem segmentProduces_self (segment : String) : SegmentProduces segment segment := by
  refine ⟨segment.toList.map ([·]), ?_, List.flatMap_singleton' _⟩
  rw [List.forall₂_map_right_iff]
  exact List.forall₂_same.2 fun token _ => .inr rfl

theorem globProduces_self (pattern : String) : GlobProduces pattern pattern := by
  refine ⟨(pathSegments pattern).map ([·]), ?_, List.flatMap_singleton' _⟩
  rw [List.forall₂_map_right_iff]
  exact List.forall₂_same.2 fun part _ => .inr ⟨part, rfl, segmentProduces_self part⟩

/-- The characters of a pattern are those of its segments and the slashes. -/
theorem basicPlane_iff_segments {pattern : String} :
    BasicPlane pattern ↔ ∀ part ∈ pathSegments pattern, BasicPlane part := by
  constructor
  · intro hbasic part hpart c hc
    obtain ⟨piece, hpiece, rfl⟩ := List.mem_map.1 hpart
    rw [String.toList_ofList] at hc
    exact hbasic c (mem_of_mem_splitOn hpiece hc)
  · intro hparts c hc
    have hjoined : ['/'].intercalate (pattern.toList.splitOn '/') = pattern.toList :=
      List.intercalate_splitOn '/'
    rw [← hjoined] at hc
    rcases mem_of_mem_intercalate hc with rfl | ⟨piece, hpiece, hmem⟩
    · decide
    · exact hparts (String.ofList piece) (List.mem_map_of_mem hpiece) c
        (by rwa [String.toList_ofList])

theorem segmentProduces_star (segment : String) : SegmentProduces "*" segment := by
  rw [SegmentProduces, show "*".toList = ['*'] from rfl, produces_singleton]
  exact .inl rfl

/-- Without a star a pattern segment is the only segment it produces. -/
theorem segmentProduces_literal {literal segment : String} (hliteral : '*' ∉ literal.toList) :
    SegmentProduces literal segment ↔ segment = literal := by
  have hspells : ∀ token ∈ literal.toList, ∀ run,
      SegmentSpells token run ↔ ∃ c, run = [c] ∧ token = c := by
    intro token hmem run
    have hstar : token ≠ '*' := fun heq => hliteral (heq ▸ hmem)
    simp [SegmentSpells, hstar]
  rw [SegmentProduces, produces_iff_forall₂ hspells, List.forall₂_eq_eq_eq, String.toList_inj,
    eq_comm]

/-- Parts joined to a pattern are its parts. -/
theorem pathSegments_intercalate {parts : List String} (hne : parts ≠ [])
    (hparts : ∀ part ∈ parts, '/' ∉ part.toList) :
    pathSegments ("/".intercalate parts) = parts := by
  rw [pathSegments, String.toList_intercalate, show "/".toList = ['/'] from rfl,
    List.splitOn_intercalate '/' _ (by simpa using hne), List.map_map]
  · exact (List.map_congr_left fun part _ => String.ofList_toList).trans (List.map_id parts)
  · exact List.forall_mem_map.2 hparts

/-! ### The tables -/

/-- A segment pattern matches what it produces, unless a character of it is two code
units: then it matches nothing. -/
theorem matchesSegment_iff {pattern value : String} :
    matchesSegment pattern value = true ↔
      BasicPlane pattern ∧ SegmentProduces pattern value := by
  have htoken : ∀ token run,
      TokenSpells (· == '*') (fun token c => token == c && token.toNat < 0x10000) token run ↔
        token.toNat < 0x10000 ∧ SegmentSpells token run := by
    intro token run
    simp only [TokenSpells, SegmentSpells, beq_iff_eq, Bool.and_eq_true, decide_eq_true_eq]
    constructor
    · rintro (rfl | ⟨c, rfl, rfl, hbasic⟩)
      · exact ⟨by decide, .inl rfl⟩
      · exact ⟨hbasic, .inr rfl⟩
    · rintro ⟨hbasic, hstar | rfl⟩
      · exact .inl hstar
      · exact .inr ⟨token, rfl, rfl, hbasic⟩
  rw [matchesSegment, wildcardMatches_iff, SegmentProduces, BasicPlane,
    ← produces_and_left]
  exact ⟨Produces.mono fun token _ run => (htoken token run).1,
    Produces.mono fun token _ run => (htoken token run).2⟩

/-! ### Code units

The source walks the pattern by characters and the value by code units, so a character of
two units in the pattern accepts nothing.  A table over characters with that restriction
gives the same answer: a run that ends within a character can end after it. -/

def matchesSegmentUnits (pattern value : String) : Bool :=
  wildcardMatches (· == '*') (fun token unit => codeUnit token == [unit])
    pattern.toList (codeUnits value)

def UnitSpells (token : Char) (run : List Nat) : Prop :=
  token = '*' ∨ run = codeUnit token

/-- The second unit of a character that has two. -/
def LowSurrogate (unit : Nat) : Prop := 0xDC00 ≤ unit ∧ unit < 0xE000

/-- What is left of a text from some unit on: whole characters, possibly after the
second unit of one. -/
def UnitSuffix (units : List Nat) (cs : List Char) : Prop :=
  units = cs.flatMap codeUnit ∨
    ∃ low, LowSurrogate low ∧ units = low :: cs.flatMap codeUnit

theorem unitSuffix_of_append {cs : List Char} {run rest : List Nat}
    (heq : run ++ rest = cs.flatMap codeUnit) :
    ∃ before after, cs = before ++ after ∧ UnitSuffix rest after := by
  induction cs generalizing run with
  | nil =>
      obtain ⟨-, rfl⟩ := List.append_eq_nil_iff.1 heq
      exact ⟨[], [], rfl, .inl rfl⟩
  | cons c cs ih =>
      have hnone : run = [] → ∃ before after, c :: cs = before ++ after ∧
          UnitSuffix rest after := by
        rintro rfl
        exact ⟨[], c :: cs, rfl, .inl heq⟩
      have hmore : ∀ {run'}, run' ++ rest = cs.flatMap codeUnit →
          ∃ before after, c :: cs = before ++ after ∧ UnitSuffix rest after := by
        intro run' heq'
        obtain ⟨before, after, rfl, hafter⟩ := ih heq'
        exact ⟨c :: before, after, rfl, hafter⟩
      rw [List.flatMap_cons, codeUnit] at heq
      cases run with
      | nil => exact hnone rfl
      | cons unit run =>
          split_ifs at heq with hbasic
          · exact hmore (List.cons.inj heq).2
          · have hbounds := toNat_bounds c
            obtain ⟨-, heq⟩ := List.cons.inj heq
            cases run with
            | nil =>
                refine ⟨[c], cs, rfl, .inr ⟨_, ?_, heq⟩⟩
                constructor <;> omega
            | cons unit run => exact hmore (List.cons.inj heq).2

theorem UnitSuffix.drop {units run rest : List Nat} {cs : List Char}
    (hsuffix : UnitSuffix units cs) (heq : run ++ rest = units) :
    ∃ before after, cs = before ++ after ∧ UnitSuffix rest after := by
  rcases hsuffix with rfl | ⟨low, hlow, rfl⟩
  · exact unitSuffix_of_append heq
  · cases run with
    | nil => exact ⟨[], cs, rfl, .inr ⟨low, hlow, heq⟩⟩
    | cons unit run => exact unitSuffix_of_append (List.cons.inj heq).2

/-- No character begins with the second unit of one. -/
theorem UnitSuffix.codeUnit_append {units rest : List Nat} {cs : List Char} {c : Char}
    (hsuffix : UnitSuffix units cs) (heq : codeUnit c ++ rest = units) :
    ∃ after, cs = c :: after ∧ rest = after.flatMap codeUnit := by
  rcases hsuffix with rfl | ⟨low, ⟨hleast, hmost⟩, rfl⟩
  · cases cs with
    | nil => exact absurd (List.append_eq_nil_iff.1 heq).1 (codeUnit_ne_nil c)
    | cons d cs =>
        obtain ⟨rfl, rfl⟩ := codeUnit_append_injective heq
        exact ⟨cs, rfl, rfl⟩
  · have hbounds := toNat_bounds c
    rw [codeUnit] at heq
    split_ifs at heq with hbasic
    · have hhead := (List.cons.inj heq).1
      omega
    · have hhead := (List.cons.inj heq).1
      omega

theorem produces_of_units {tokens : List Char} {cs : List Char} {units : List Nat}
    (hsuffix : UnitSuffix units cs) (hproduces : Produces UnitSpells tokens units) :
    Produces SegmentSpells tokens cs := by
  induction tokens generalizing cs units with
  | nil =>
      obtain rfl := produces_nil.1 hproduces
      rcases hsuffix with heq | ⟨low, -, heq⟩
      · have hnil : cs = [] := @flatMap_codeUnit_injective cs [] heq.symm
        exact produces_nil.2 hnil
      · exact absurd heq.symm (List.cons_ne_nil _ _)
  | cons token tokens ih =>
      obtain ⟨run, rest, hrun, hrest, heq⟩ := produces_cons.1 hproduces
      rcases hrun with hstar | rfl
      · obtain ⟨before, after, rfl, hafter⟩ := hsuffix.drop heq
        exact produces_cons.2 ⟨before, after, .inl hstar, ih hafter hrest, rfl⟩
      · obtain ⟨after, rfl, rfl⟩ := hsuffix.codeUnit_append heq
        exact produces_cons.2 ⟨[token], after, .inr rfl, ih (.inl rfl) hrest, rfl⟩

theorem produces_units_iff {tokens cs : List Char} :
    Produces UnitSpells tokens (cs.flatMap codeUnit) ↔ Produces SegmentSpells tokens cs := by
  refine ⟨produces_of_units (.inl rfl), Produces.flatMap fun token _ run hspells => ?_⟩
  rcases hspells with hstar | rfl
  · exact .inl hstar
  · exact .inr (List.append_nil _)

/-- The table of the source, over the units of the value. -/
theorem matchesSegment_eq_units (pattern value : String) :
    matchesSegment pattern value = matchesSegmentUnits pattern value := by
  have htoken : ∀ token run,
      TokenSpells (· == '*') (fun token unit => codeUnit token == [unit]) token run ↔
        token.toNat < 0x10000 ∧ UnitSpells token run := by
    intro token run
    simp only [TokenSpells, UnitSpells, beq_iff_eq, codeUnit]
    by_cases hbasic : token.toNat < 0x10000
    · simp [hbasic, eq_comm]
    · have hstar : token ≠ '*' := by
        rintro rfl
        exact hbasic (by decide)
      simp [hbasic, hstar]
  rw [Bool.eq_iff_iff, matchesSegment_iff, matchesSegmentUnits, wildcardMatches_iff,
    SegmentProduces, ← produces_units_iff, BasicPlane, ← produces_and_left]
  exact ⟨Produces.mono fun token _ run => (htoken token run).2,
    Produces.mono fun token _ run => (htoken token run).1⟩

/-! ### Segments -/

theorem matchesRepositoryGlob_iff {pattern value : String} :
    matchesRepositoryGlob pattern value = true ↔
      BasicPlane pattern ∧ GlobProduces pattern value := by
  have hpart : ∀ part run, TokenSpells (· == "**") matchesSegment part run ↔
      BasicPlane part ∧ PartSpells part run := by
    intro part run
    simp only [TokenSpells, PartSpells, beq_iff_eq, matchesSegment_iff]
    constructor
    · rintro (rfl | ⟨segment, rfl, hbasic, hproduces⟩)
      · exact ⟨by decide, .inl rfl⟩
      · exact ⟨hbasic, .inr ⟨segment, rfl, hproduces⟩⟩
    · rintro ⟨hbasic, hstar | ⟨segment, rfl, hproduces⟩⟩
      · exact .inl hstar
      · exact .inr ⟨segment, rfl, hbasic, hproduces⟩
  rw [matchesRepositoryGlob, wildcardMatches_iff, GlobProduces, basicPlane_iff_segments,
    ← produces_and_left]
  exact ⟨Produces.mono fun part _ run => (hpart part run).1,
    Produces.mono fun part _ run => (hpart part run).2⟩

/-- A pattern without `**` matches segment by segment. -/
theorem matchesRepositoryGlob_parts {parts : List String} {value : String} (hne : parts ≠ [])
    (hparts : ∀ part ∈ parts, '/' ∉ part.toList ∧ BasicPlane part ∧ part ≠ "**") :
    matchesRepositoryGlob ("/".intercalate parts) value = true ↔
      List.Forall₂ SegmentProduces parts (pathSegments value) := by
  rw [matchesRepositoryGlob_iff, basicPlane_iff_segments, GlobProduces,
    pathSegments_intercalate hne fun part hmem => (hparts part hmem).1,
    and_iff_right fun part hmem => (hparts part hmem).2.1]
  refine produces_iff_forall₂ fun part hmem run => ?_
  rw [PartSpells, or_iff_right (hparts part hmem).2.2]

/-- A pattern with a character of two code units matches nothing, not even itself;
every other pattern matches exactly what it produces. -/
theorem matchesRepositoryGlob_exact_iff (pattern : String) :
    ((∀ value, matchesRepositoryGlob pattern value = true ↔ GlobProduces pattern value) ↔
      BasicPlane pattern) ∧
    ∀ value, ((matchesRepositoryGlob pattern value = true ↔ GlobProduces pattern value) ↔
      BasicPlane pattern ∨ ¬ GlobProduces pattern value) := by
  simp only [matchesRepositoryGlob_iff]
  refine ⟨⟨fun hall => ((hall pattern).2 (globProduces_self pattern)).1,
    fun hbasic value => and_iff_right hbasic⟩, fun value => ?_⟩
  by_cases hbasic : BasicPlane pattern
  · simp [hbasic]
  · simp [hbasic]

/-- The pattern of a single emoji produces its own text and does not match it. -/
theorem not_matchesRepositoryGlob_emoji :
    ¬ ∀ pattern value,
      matchesRepositoryGlob pattern value = true ↔ GlobProduces pattern value := by
  intro hall
  have hmatches := (hall "😀" "😀").2 (globProduces_self _)
  have hfails : matchesRepositoryGlob "😀" "😀" = false := by decide +kernel
  exact Bool.false_ne_true (hfails.symm.trans hmatches)

end GovernedRuntime.Risk
